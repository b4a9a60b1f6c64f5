import Bindery.Proofs.Document.Written
import Bindery.Proofs.Text.Search

/-!
# Searching written documents

Between two quotes on a line of a written document stands a text, or what separates two items of an
array. A search for a quoted text passes over lines and tables where no such stretch is equal to it.

## Main definitions

* `Value.between`, `betweenLines`: what stands between quotes in a value, and in lines

## Main results

* `passes_writtenLines`, `passes_writtenTables`: a search passes over lines and tables
-/

namespace Bindery.Document

open Text (Passes PassesToQuote passes_of_notMem passes_lineEnd)

theorem IsPlain.quote_notMem {text : String} (h : IsPlain text) : '"' ∉ text.toList :=
  fun hmem => (h '"' hmem).2.1 rfl

theorem IsPlain.newline_notMem {text : String} (h : IsPlain text) : '\n' ∉ text.toList :=
  fun hmem => absurd (h '\n' hmem).1 (by decide)

theorem IsBare.quote_notMem {key : String} (h : IsBare key) : '"' ∉ key.toList :=
  fun hmem => absurd (h.2 '"' hmem) (by decide)

/-- What stands between two quotes that follow each other in a value. -/
def Value.between : Value → List String
  | text s => [s]
  | integer _ => []
  | boolean _ => []
  | texts items => items.intersperse ", "

/-- What stands between two quotes that follow each other on one of the lines. -/
def betweenLines (lines : List (String × Value)) : List String :=
  lines.flatMap fun line => line.2.between

theorem exists_writtenItems_eq_cons (item : String) (items : List String) :
    ∃ more, (writtenItems (item :: items)).toList = '"' :: more := by
  cases items with
  | nil => exact ⟨_, toList_quoted item⟩
  | cons second items =>
    rw [writtenItems, String.append_assoc, String.toList_append, toList_quoted]
    exact ⟨_, rfl⟩

theorem quote_notMem_dotted {path : List String} (hpath : ∀ name ∈ path, IsBare name) :
    '"' ∉ (dotted path).toList := by
  induction path with
  | nil => simp [dotted]
  | cons name path ih =>
    rw [List.forall_mem_cons] at hpath
    rw [toList_dotted_cons, List.mem_append, List.mem_cons, not_or, not_or]
    exact ⟨hpath.1.quote_notMem, by decide, ih hpath.2⟩

theorem Table.IsPlain.quote_notMem_title {t : Table} (ht : t.IsPlain) : '"' ∉ t.title.toList := by
  simp [title, String.toList_append, quote_notMem_dotted ht.path, ht.key.quote_notMem]

section Passing

variable {v : String} (hv : IsPlain v)

include hv

theorem passesToQuote_of_ne {s : String} (hs : IsPlain s) (hne : s ≠ v) :
    PassesToQuote v.toList ('"' :: s.toList) :=
  Text.passesToQuote_of_ne hv.quote_notMem hs.quote_notMem fun h => hne (String.toList_inj.mp h)

/-- A search passes over the items of an array and the end of its line. -/
theorem passes_writtenItems {items : List String} (hitems : ∀ item ∈ items, IsPlain item)
    (hne : v ∉ items.intersperse ", ") :
    Passes v.toList ((writtenItems items).toList ++ [']', '\n']) := by
  induction items with
  | nil => exact passes_of_notMem (by decide)
  | cons item items ih =>
    rw [List.forall_mem_cons] at hitems
    cases items with
    | nil =>
      have hitem : item ≠ v := fun h => hne (by simp [h])
      have hend : Passes v.toList ('"' :: [']'] ++ ['\n']) :=
        passes_lineEnd hv.newline_notMem (by decide)
      rw [writtenItems, toList_quoted, List.append_assoc]
      exact (passesToQuote_of_ne hv hitems.1 hitem).append hend
    | cons second items =>
      rw [List.intersperse_cons_cons, List.mem_cons, List.mem_cons, not_or, not_or] at hne
      obtain ⟨hitem, hcomma, hne⟩ := hne
      have ih := ih hitems.2 hne
      obtain ⟨more, hmore⟩ := exists_writtenItems_eq_cons second items
      have hsplit : (writtenItems (item :: second :: items)).toList ++ [']', '\n'] =
          '"' :: item.toList ++ '"' :: (", ".toList ++ '"' :: (more ++ [']', '\n'])) := by
        rw [writtenItems, String.toList_append, String.toList_append, hmore, toList_quoted]
        simp
      have hbehind : Passes v.toList ('"' :: ", ".toList ++ '"' :: (more ++ [']', '\n'])) := by
        rw [hmore] at ih
        exact (passesToQuote_of_ne hv (by decide) (Ne.symm hcomma)).append ih
      rw [hsplit]
      exact (passesToQuote_of_ne hv hitems.1 (Ne.symm hitem)).append hbehind

/-- A search passes over a line. -/
theorem passes_line {key : String} (hkey : IsBare key) {w : Value} (hw : w.IsPlain)
    (hne : v ∉ w.between) : Passes v.toList ((assigned key w).toList ++ ['\n']) := by
  have hfront : '"' ∉ (key ++ " = ").toList := by
    simp [String.toList_append, hkey.quote_notMem]
  rw [assigned, String.toList_append, List.append_assoc]
  refine (passes_of_notMem hfront).append ?_
  cases w with
  | text s =>
    have hs : s ≠ v := fun h => hne (by simp [Value.between, h])
    have hend : Passes v.toList ('"' :: [] ++ ['\n']) :=
      passes_lineEnd hv.newline_notMem List.not_mem_nil
    rw [Value.written, toList_quoted, List.append_assoc]
    exact (passesToQuote_of_ne hv hw hs).append hend
  | integer n =>
    refine passes_of_notMem fun hmem => ?_
    rcases List.mem_append.mp hmem with hmem | hmem
    · rcases isDigit_or_minus_of_mem_toString hmem with hdigit | hminus
      · exact absurd hdigit (by decide)
      · exact absurd hminus (by decide)
    · exact absurd hmem (by decide)
  | boolean b => exact passes_of_notMem (by cases b <;> decide)
  | texts items =>
    have hitems := passes_writtenItems hv hw hne
    have hopen : Passes v.toList ['['] := passes_of_notMem (by decide)
    have hsplit : (Value.texts items).written.toList ++ ['\n'] =
        ['['] ++ ((writtenItems items).toList ++ [']', '\n']) := by
      simp [Value.written, String.toList_append]
    rw [hsplit]
    exact hopen.append hitems

/-- A search passes over lines. -/
theorem passes_writtenLines {lines : List (String × Value)}
    (hlines : ∀ line ∈ lines, IsBare line.1 ∧ line.2.IsPlain) (hne : v ∉ betweenLines lines) :
    Passes v.toList (writtenLines lines).toList := by
  induction lines with
  | nil => exact .nil
  | cons line lines ih =>
    rw [List.forall_mem_cons] at hlines
    rw [betweenLines, List.flatMap_cons, List.mem_append, not_or] at hne
    have hline := passes_line hv hlines.1.1 hlines.1.2 hne.1
    rw [toList_writtenLines_cons, ← List.singleton_append, ← List.append_assoc]
    exact hline.append (ih hlines.2 hne.2)

/-- A search passes over tables. -/
theorem passes_writtenTables {tables : List Table} (htables : ∀ t ∈ tables, t.IsPlain)
    (hne : v ∉ tables.flatMap fun t => betweenLines t.lines) :
    Passes v.toList (writtenTables tables).toList := by
  induction tables with
  | nil => exact .nil
  | cons t tables ih =>
    rw [List.forall_mem_cons] at htables
    rw [List.flatMap_cons, List.mem_append, not_or] at hne
    have htitle : Passes v.toList (t.title.toList ++ ['\n']) :=
      passes_of_notMem (by simp [htables.1.quote_notMem_title])
    have hlines := passes_writtenLines hv htables.1.lines hne.1
    rw [toList_writtenTables_cons, ← List.singleton_append, ← List.append_assoc]
    exact htitle.append (hlines.append (ih htables.2 hne.2))

end Passing

end Bindery.Document
