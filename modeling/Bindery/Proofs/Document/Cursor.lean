import Bindery.Document.Cursor
import Bindery.Proofs.Text.Dotted

/-!
# Reading at a cursor

What the steps of a reader do where the text in front of them is known, and no more than the next
character of what follows.

## Main definitions

* `Reader.Takes`: a reader takes a text that stands in front of another, and what it gives

## Main results

* `Cursor.takeWhile_append`: characters with a property are taken up to one without it
* `Cursor.expect?_append`: a given text is passed
-/

namespace Bindery.Document

open Text (byteLength)

/-- Wherever `text` stands in front of `rest`, the reader takes it and no more, and what it gives
has the property. -/
def Reader.Takes {α : Type} (read : Reader α) (text rest : List Char) (property : α → Prop) :
    Prop :=
  ∀ offset, ∃ a next, read { offset, rest := text ++ rest } = some (a, { offset := next, rest }) ∧
    property a

theorem Cursor.takeWhile_append {p : Char → Bool} {cs rest : List Char} (hcs : ∀ c ∈ cs, p c)
    (hrest : ∀ c ∈ rest.head?, p c = false) (offset : Nat) :
    Cursor.takeWhile p { offset, rest := cs ++ rest } =
      (cs, { offset := offset + byteLength cs, rest }) := by
  have htake : rest.takeWhile p = [] ∧ rest.dropWhile p = rest := by
    cases rest with
    | nil => exact ⟨rfl, rfl⟩
    | cons c rest =>
      have hc : p c = false := hrest c rfl
      simp [hc]
  simp only [Cursor.takeWhile, List.takeWhile_append_of_pos hcs, List.dropWhile_append_of_pos hcs,
    htake.1, htake.2, List.append_nil]

theorem Cursor.expect?_append (text rest : List Char) (offset : Nat) :
    Cursor.expect? text { offset, rest := text ++ rest } =
      some { offset := offset + byteLength text, rest } := by
  have hdrop : Text.dropPrefixChars? text (text ++ rest) = some rest :=
    (Text.dropPrefixChars?_eq_some_iff ..).mpr rfl
  simp [Cursor.expect?, hdrop]

theorem Cursor.expect?_of_head {c : Char} {rest : List Char} (h : ∀ d ∈ rest.head?, d ≠ c)
    (text : List Char) (offset : Nat) : Cursor.expect? (c :: text) { offset, rest } = none := by
  cases rest with
  | nil => rfl
  | cons d rest =>
    have hd : c ≠ d := (h d rfl).symm
    simp [Cursor.expect?, Text.dropPrefixChars?, hd]

theorem skipBlanks_append {blanks rest : List Char} (hblanks : ∀ c ∈ blanks, isLineBlank c)
    (hrest : ∀ c ∈ rest.head?, isLineBlank c = false) (offset : Nat) :
    skipBlanks { offset, rest := blanks ++ rest } =
      { offset := offset + byteLength blanks, rest } := by
  rw [skipBlanks, Cursor.takeWhile_append hblanks hrest]

theorem skipBlanks_of_head {rest : List Char} (h : ∀ c ∈ rest.head?, isLineBlank c = false)
    (offset : Nat) : skipBlanks { offset, rest } = { offset, rest } :=
  skipBlanks_append (List.forall_mem_nil (isLineBlank · = true)) h offset

theorem skipLayout_blank (offset : Nat) (rest : List Char) :
    skipLayout { offset, rest := ' ' :: rest } = skipLayout { offset := offset + 1, rest } := by
  simp [skipLayout, skipLayoutFrom, isLineBlank]

theorem skipLayout_of_head {c : Char} (hc : isLineBlank c = false ∧ c ∉ ['\n', '\r', '#'])
    (offset : Nat) (rest : List Char) :
    skipLayout { offset, rest := c :: rest } = some { offset, rest := c :: rest } := by
  have hne : c ≠ '\n' ∧ c ≠ '\r' ∧ c ≠ '#' := by simpa using hc.2
  simp [skipLayout, skipLayoutFrom, hc.1, hne]

/-- The end of a line is passed. -/
theorem lineEnd?_newline (offset : Nat) (rest : List Char) :
    lineEnd? { offset, rest := '\n' :: rest } = some { offset := offset + 1, rest } := by
  have hblank : ∀ c ∈ ('\n' :: rest).head?, isLineBlank c = false := by
    rintro c ⟨⟩
    decide
  simp [lineEnd?, skipBlanks_of_head hblank, skipComment, newline?]

end Bindery.Document
