import Bindery.Proofs.Document.Written

/-!
# Tables from written tables

Lines with different keys all go into the table that they stand below. The items of an array go to
its end, one after the other, and a header that goes on into an array is about its last item.

## Main definitions

* `Entries.ofAssignments`: the entries that assignments with different keys give
* `Entries.IsBehind`: the entries are all behind a name, in the order of the keys
* `Entries.HasItems`: entries with an array of tables in front, unless it has no items

## Main results

* `Entries.assignAll?_eq`: assignments with different bare keys are all made
* `Entries.addItem?_of_hasItems`: an item goes to the end of its array
-/

namespace Bindery.Document

open Text (Span)

section Forall₂

variable {α β : Type} {R : α → β → Prop}

theorem forall₂_append_left {as more : List α} {bs : List β}
    (h : List.Forall₂ R (as ++ more) bs) :
    ∃ front back, bs = front ++ back ∧ List.Forall₂ R as front ∧ List.Forall₂ R more back := by
  have hfront := List.forall₂_take as.length h
  have hback := List.forall₂_drop as.length h
  rw [List.take_left] at hfront
  rw [List.drop_left] at hback
  exact ⟨_, _, (List.take_append_drop as.length bs).symm, hfront, hback⟩

theorem exists_of_mem_forall₂ {as : List α} {bs : List β} (h : List.Forall₂ R as bs) {b : β}
    (hb : b ∈ bs) : ∃ a ∈ as, R a b := by
  induction h with
  | nil => cases hb
  | cons hab _ ih =>
    rcases List.mem_cons.mp hb with rfl | hb
    · exact ⟨_, List.mem_cons_self, hab⟩
    · obtain ⟨a, ha, hR⟩ := ih hb
      exact ⟨a, List.mem_cons_of_mem _ ha, hR⟩

end Forall₂

namespace Entries

/-! ## Assignments -/

/-- The entries that assignments give if their keys are bare and different. -/
def ofAssignments (entries : Entries) (as : List Assignment) : Entries :=
  as.foldl (fun es a => es.insert a.key a.value) entries

theorem find?_cons (e : Key × Node) (es : Entries) (name : String) :
    find? (e :: es) name = if e.1.text = name then some e.2 else find? es name := by
  by_cases h : e.1.text = name <;> simp [find?, h]

theorem find?_insert_eq_none {entries : Entries} {name : String} {key : Key}
    (h : entries.find? name = none) (hkey : key.text ≠ name) (value : Node) :
    (entries.insert key value).find? name = none := by
  induction entries with
  | nil => rw [insert, find?_cons, if_neg hkey, h]
  | cons e es ih =>
    rw [find?_cons] at h
    split at h
    · cases h
    · next he =>
      rw [insert]
      split
      · rw [find?_cons, if_neg hkey, find?_cons, if_neg he, h]
      · rw [find?_cons, if_neg he, ih h]

theorem assign?_eq {entries : Entries} {a : Assignment} (hpath : a.path = [])
    (hnew : entries.find? a.key.text = none) :
    entries.assign? .header a = some (entries.insert a.key a.value) := by
  simp [assign?, hpath, descend?, hnew]

/-- Assignments with different bare keys are all made. -/
theorem assignAll?_eq {entries : Entries} {as : List Assignment} (hpath : ∀ a ∈ as, a.path = [])
    (hdistinct : (as.map fun a => a.key.text).Nodup)
    (hnew : ∀ a ∈ as, entries.find? a.key.text = none) :
    assignAll? .header entries as = some (ofAssignments entries as) := by
  induction as generalizing entries with
  | nil => rfl
  | cons a as ih =>
    rw [List.forall_mem_cons] at hpath hnew
    rw [List.map_cons, List.nodup_cons] at hdistinct
    have hmore : ∀ b ∈ as, (entries.insert a.key a.value).find? b.key.text = none := by
      intro b hb
      refine find?_insert_eq_none (hnew.2 b hb) (fun h => hdistinct.1 ?_) a.value
      rw [h]
      exact List.mem_map_of_mem hb
    rw [assignAll?, List.foldlM_cons, assign?_eq hpath.1 hnew.1]
    exact ih hpath.2 hdistinct.2 hmore

/-- Lines with different keys all go into their table. -/
theorem assignAll?_of_isAssigned {lines : List (String × Value)} {as : List Assignment}
    (h : List.Forall₂ IsAssigned lines as) (hdistinct : (lines.map Prod.fst).Nodup) :
    assignAll? .header [] as = some (ofAssignments [] as) := by
  have hkeys : as.map (fun a => a.key.text) = lines.map Prod.fst := by
    induction h with
    | nil => rfl
    | cons hline _ ih =>
      rw [List.map_cons, List.nodup_cons] at hdistinct
      rw [List.map_cons, List.map_cons, ih hdistinct.2, hline.2.1]
  have hpath : ∀ a ∈ as, a.path = [] := by
    clear hkeys hdistinct
    induction h with
    | nil => exact List.forall_mem_nil _
    | cons hline _ ih => exact List.forall_mem_cons.mpr ⟨hline.1, ih⟩
  exact assignAll?_eq hpath (hkeys ▸ hdistinct) fun a _ => rfl

/-! ## The order of entries -/

/-- The lines with one more, which goes in front of the first greater key. -/
def insertLine (line : String × Value) : List (String × Value) → List (String × Value)
  | [] => [line]
  | l :: ls => if Text.precedes line.1 l.1 then line :: l :: ls else l :: insertLine line ls

/-- The lines in ascending order of their keys. -/
def sortLines (lines : List (String × Value)) : List (String × Value) :=
  lines.foldl (fun ls l => insertLine l ls) []

theorem mem_insertLine {line l : String × Value} {ls : List (String × Value)} :
    l ∈ insertLine line ls ↔ l = line ∨ l ∈ ls := by
  induction ls with
  | nil => simp [insertLine]
  | cons first ls ih =>
    rw [insertLine]
    split
    · rw [List.mem_cons]
    · rw [List.mem_cons, ih, List.mem_cons, or_left_comm]

theorem mem_sortLines {l : String × Value} {lines : List (String × Value)} :
    l ∈ sortLines lines ↔ l ∈ lines := by
  have hfold : ∀ ls, l ∈ lines.foldl (fun ls l => insertLine l ls) ls ↔ l ∈ lines ∨ l ∈ ls := by
    induction lines with
    | nil => simp
    | cons first lines ih =>
      intro ls
      rw [List.foldl_cons, ih, mem_insertLine, List.mem_cons, or_assoc, or_left_comm]
  simpa [sortLines] using hfold []

theorem isEntry_insert {line : String × Value} {e : Key × Node} (he : IsEntry line e)
    {lines : List (String × Value)} {entries : Entries}
    (h : List.Forall₂ IsEntry lines entries) :
    List.Forall₂ IsEntry (insertLine line lines) (entries.insert e.1 e.2) := by
  induction h with
  | nil => exact .cons he .nil
  | @cons l e' ls es hl hls ih =>
    rw [insertLine, insert, he.1, hl.1]
    split
    · exact .cons he (.cons hl hls)
    · exact .cons hl ih

/-- The entries of a table are its lines in the order of their keys. -/
theorem isEntry_ofAssignments {lines : List (String × Value)} {as : List Assignment}
    (h : List.Forall₂ IsAssigned lines as) :
    List.Forall₂ IsEntry (sortLines lines) (ofAssignments [] as) := by
  have hfold : ∀ {ls : List (String × Value)} {es : Entries}, List.Forall₂ IsEntry ls es →
      List.Forall₂ IsEntry (lines.foldl (fun ls l => insertLine l ls) ls)
        (ofAssignments es as) := by
    induction h with
    | nil => exact fun hes => hes
    | cons hline _ ih => exact fun hes => ih (isEntry_insert hline.2 hes)
  exact hfold .nil

/-! ## Items -/

/-- All entries have their places behind that of a name. -/
def IsBehind (name : String) (own : Entries) : Prop :=
  ∀ e ∈ own, Text.precedes name e.1.text = true

/-- The entries are `own` with an array of tables in front, which is only there if it has items. -/
def HasItems (name : String) (own : Entries) (items : List Node) (entries : Entries) : Prop :=
  (items = [] ∧ entries = own) ∨
    ∃ key span, key.text = name ∧ entries = (key, .array span .headers items) :: own

theorem hasItems_nil (name : String) (own : Entries) : HasItems name own [] own := .inl ⟨rfl, rfl⟩

section Items

variable {name : String} {own entries : Entries} {items : List Node}

theorem ne_of_precedes {e : Key × Node} (h : Text.precedes name e.1.text = true) :
    e.1.text ≠ name := by
  rintro rfl
  exact absurd h (by simp [Text.precedes_self])

theorem find?_of_isBehind (hown : IsBehind name own) : own.find? name = none := by
  induction own with
  | nil => rfl
  | cons e es ih =>
    rw [IsBehind, List.forall_mem_cons] at hown
    rw [find?_cons, if_neg (ne_of_precedes hown.1), ih hown.2]

theorem insert_of_isBehind {key : Key} (hown : IsBehind key.text own) (value : Node) :
    own.insert key value = (key, value) :: own := by
  cases own with
  | nil => rfl
  | cons e es => rw [insert, if_pos (hown e List.mem_cons_self)]

theorem replace_cons_of_isBehind {key : Key} (hown : IsBehind key.text own) {first : Key}
    (hfirst : first.text = key.text) (old value : Node) :
    replace ((first, old) :: own) key.text value = (first, value) :: own := by
  have hid : ∀ e ∈ own, (if e.1.text == key.text then (e.1, value) else e) = e := by
    intro e he
    rw [if_neg (by simpa using ne_of_precedes (hown e he))]
  rw [replace, List.map_cons, List.map_congr_left hid, List.map_id', if_pos (by simpa using hfirst)]

/-- An item goes to the end of its array, which the first one makes. -/
theorem addItem?_of_hasItems (hown : IsBehind name own)
    (h : HasItems name own items entries) {key : Key} (hkey : key.text = name) (span : Span)
    {body : List Assignment} {made : Entries}
    (hbody : assignAll? .header [] body = some made) :
    ∃ more, entries.addItem? span key body = some more ∧
      HasItems name own (items ++ [.table span .header made]) more := by
  obtain ⟨rfl, rfl⟩ | ⟨first, whole, hfirst, rfl⟩ := h
  · refine ⟨_, ?_, .inr ⟨key, span, hkey, rfl⟩⟩
    subst hkey
    simp [addItem?, hbody, find?_of_isBehind hown, insert_of_isBehind hown]
  · refine ⟨_, ?_, .inr ⟨first, whole, hfirst, rfl⟩⟩
    subst hkey
    simp [addItem?, hbody, find?_cons, hfirst, replace_cons_of_isBehind hown hfirst]

/-- A header that goes on into an array is about the last item. -/
theorem descend?_of_hasItems (hown : IsBehind name own) {span : Span}
    {inner : Entries}
    (h : HasItems name own (items ++ [.table span .header inner]) entries) {key : Key}
    (hkey : key.text = name) (origin : TableOrigin)
    (change : TableOrigin → Entries → Option Entries) {made : Entries}
    (hchange : change .header inner = some made) :
    ∃ more, descend? false change [key] origin entries = some more ∧
      HasItems name own (items ++ [.table span .header made]) more := by
  obtain ⟨hnil, -⟩ | ⟨first, whole, hfirst, rfl⟩ := h
  · simp at hnil
  · refine ⟨_, ?_, .inr ⟨first, whole, hfirst, rfl⟩⟩
    subst hkey
    simp [descend?, find?_cons, hfirst, hchange, replace_cons_of_isBehind hown hfirst]

end Items

end Entries

end Bindery.Document
