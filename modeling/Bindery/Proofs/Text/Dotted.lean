import Bindery.Text.Basic

/-!
# Dotted names

Joining the segments of a dotted name gives the name back, and pieces without a separator are
recovered from the text that joins them. A prefix that can be dropped is a prefix in front of the
rest.

## Main results

* `join_segments`, `splitOn_join`: cutting a text and joining its pieces undo each other
* `splitOn_append_of_notMem`, `segments_append_dot`: the pieces of a text that goes on
* `mem_sep_or_mem_piece`: where the characters of joined pieces come from
* `dropPrefix?_eq_some_iff`: what is left when a prefix is dropped
* `replaceChar_injective_of_notMem`: replacing a character loses nothing where the new one is absent
* `replaceChar_replaceChar_of_notMem`: and there the opposite replacement undoes it
-/

namespace Bindery.Text

/-! ## Cutting at a separator -/

/-- Cutting follows the standard library's split. -/
theorem splitOn_eq_splitOn (sep : Char) (cs : List Char) : splitOn sep cs = cs.splitOn sep := by
  induction cs with
  | nil => simp [splitOn]
  | cons c cs ih =>
    rw [splitOn, List.splitOn_cons_eq_if_modifyHead, ih]
    by_cases hc : c = sep
    · simp [hc]
    · have hne := List.splitOn_ne_nil sep cs
      cases hs : cs.splitOn sep with
      | nil => exact absurd hs hne
      | cons piece pieces => simp [hc]

theorem splitOn_append_cons (sep : Char) (front rest : List Char) :
    splitOn sep (front ++ sep :: rest) = splitOn sep front ++ splitOn sep rest := by
  simp only [splitOn_eq_splitOn]
  exact List.splitOn_append_cons_self front rest

/-- A text without a separator stands at the front of the first piece. -/
theorem splitOn_append_of_notMem {sep : Char} {front rest piece : List Char}
    {pieces : List (List Char)} (h : sep ∉ front) (hrest : splitOn sep rest = piece :: pieces) :
    splitOn sep (front ++ rest) = (front ++ piece) :: pieces := by
  induction front with
  | nil => exact hrest
  | cons c cs ih =>
    have hc : c ≠ sep := fun heq => h (heq ▸ List.mem_cons_self)
    rw [List.cons_append, splitOn, if_neg hc, ih (List.not_mem_of_not_mem_cons h)]
    rfl

/-- A text without a separator is one piece. -/
theorem splitOn_of_notMem {sep : Char} {cs : List Char} (h : sep ∉ cs) :
    splitOn sep cs = [cs] := by
  have hpiece := splitOn_append_of_notMem h (rfl : splitOn sep [] = [[]])
  rwa [List.append_nil] at hpiece

/-- A text up to its first separator is recovered with what follows. -/
theorem append_separator_inj {α : Type} {sep : α} {xs ys rest rest' : List α} (hxs : sep ∉ xs)
    (hys : sep ∉ ys) (h : xs ++ sep :: rest = ys ++ sep :: rest') : xs = ys ∧ rest = rest' := by
  induction xs generalizing ys with
  | nil =>
    cases ys with
    | nil => exact ⟨rfl, (List.cons.inj h).2⟩
    | cons y ys => exact absurd (List.cons.inj h).1 (List.ne_of_not_mem_cons hys)
  | cons x xs ih =>
    cases ys with
    | nil => exact absurd (List.cons.inj h).1.symm (List.ne_of_not_mem_cons hxs)
    | cons y ys =>
      obtain ⟨rfl, htail⟩ := List.cons.inj h
      obtain ⟨rfl, hrest⟩ := ih (List.not_mem_of_not_mem_cons hxs)
        (List.not_mem_of_not_mem_cons hys) htail
      exact ⟨rfl, hrest⟩

theorem segments_eq (name : String) :
    segments name = (name.toList.splitOn '.').map String.ofList := by
  rw [segments, splitOn_eq_splitOn]

theorem segments_ne_nil (name : String) : segments name ≠ [] := by
  rw [segments_eq, Ne, List.map_eq_nil_iff]
  exact List.splitOn_ne_nil '.' name.toList

@[simp] theorem segments_empty : segments "" = [""] := by
  simp [segments_eq]

theorem toList_join (sep : String) (pieces : List String) :
    (join sep pieces).toList = sep.toList.intercalate (pieces.map String.toList) :=
  String.toList_intercalate

/-- Joining the segments of a name gives the name. -/
theorem join_segments (name : String) : join "." (segments name) = name := by
  apply String.toList_inj.mp
  rw [toList_join, segments_eq, List.map_map]
  have hid : String.toList ∘ String.ofList = id := funext fun cs => String.toList_ofList
  rw [hid, List.map_id]
  exact List.intercalate_splitOn '.'

/-- Pieces without a separator are recovered from the text that joins them. -/
theorem splitOn_join (sep : Char) {pieces : List String} (hne : pieces ≠ [])
    (h : ∀ s ∈ pieces, sep ∉ s.toList) :
    (splitOn sep (join (String.singleton sep) pieces).toList).map String.ofList = pieces := by
  rw [splitOn_eq_splitOn, toList_join, String.toList_singleton]
  rw [List.splitOn_intercalate sep (by simpa using h) (by simpa using hne), List.map_map]
  have hid : String.ofList ∘ String.toList = id := funext fun s => String.ofList_toList
  rw [hid, List.map_id]

/-- The segments of a name that goes on behind a dot. -/
theorem segments_append_dot (front rest : String) :
    segments (front ++ "." ++ rest) = segments front ++ segments rest := by
  have h := List.splitOn_append_cons_self (a := '.') front.toList rest.toList
  simp only [segments_eq, String.toList_append]
  simp [h]

/-- A character of joined pieces stands in the separator or in one of the pieces. -/
theorem mem_sep_or_mem_piece {sep : String} {pieces : List String} {c : Char}
    (hc : c ∈ (join sep pieces).toList) : c ∈ sep.toList ∨ ∃ s ∈ pieces, c ∈ s.toList := by
  rw [toList_join] at hc
  induction pieces with
  | nil => simp at hc
  | cons s ss ih =>
    cases ss with
    | nil =>
      rw [List.map_singleton, List.intercalate_singleton] at hc
      exact .inr ⟨s, by simp, hc⟩
    | cons t ts =>
      rw [List.map_cons, List.intercalate_cons_of_ne_nil (by simp), List.mem_append,
        List.mem_append] at hc
      rcases hc with (hs | hsep) | hrest
      · exact .inr ⟨s, by simp, hs⟩
      · exact .inl hsep
      · rcases ih hrest with hsep | ⟨u, hu, hcu⟩
        · exact .inl hsep
        · exact .inr ⟨u, List.mem_cons_of_mem _ hu, hcu⟩

/-- A character of a name is a dot or stands in one of the segments. -/
theorem eq_dot_or_mem_segment {name : String} {c : Char} (hc : c ∈ name.toList) :
    c = '.' ∨ ∃ s ∈ segments name, c ∈ s.toList := by
  rw [← join_segments name] at hc
  rcases mem_sep_or_mem_piece hc with hdot | hsegment
  · exact .inl (by simpa using hdot)
  · exact .inr hsegment

/-! ## Dropping a prefix -/

theorem dropPrefixChars?_eq_some_iff {start s rest : List Char} :
    dropPrefixChars? start s = some rest ↔ s = start ++ rest := by
  induction start generalizing s with
  | nil => simp [dropPrefixChars?, eq_comm]
  | cons p ps ih =>
    cases s with
    | nil => simp [dropPrefixChars?]
    | cons c cs =>
      by_cases hpc : p = c
      · simp [dropPrefixChars?, hpc, ih]
      · simp [dropPrefixChars?, hpc, Ne.symm hpc]

/-- What is left when a prefix is dropped stands behind the prefix. -/
theorem dropPrefix?_eq_some_iff {start s rest : String} :
    dropPrefix? start s = some rest ↔ s = start ++ rest := by
  rw [dropPrefix?, Option.map_eq_some_iff]
  constructor
  · rintro ⟨cs, hcs, rfl⟩
    apply String.toList_inj.mp
    rw [String.toList_append, String.toList_ofList]
    exact dropPrefixChars?_eq_some_iff.mp hcs
  · rintro rfl
    refine ⟨rest.toList, ?_, String.ofList_toList⟩
    rw [dropPrefixChars?_eq_some_iff, String.toList_append]

theorem dropPrefix?_eq_none_iff {start s : String} :
    dropPrefix? start s = none ↔ ∀ rest, s ≠ start ++ rest := by
  simp only [Option.eq_none_iff_forall_ne_some, ne_eq, dropPrefix?_eq_some_iff]

/-- Nothing is dropped from a text whose first character is not that of the prefix. -/
theorem dropPrefix?_of_head? {start s : String} {p c : Char} (hstart : start.toList.head? = some p)
    (hs : s.toList.head? = some c) (hne : p ≠ c) : dropPrefix? start s = none := by
  rw [dropPrefix?_eq_none_iff]
  rintro rest rfl
  rw [String.toList_append, List.head?_append, hstart] at hs
  exact hne (Option.some.inj hs)

theorem dropPrefix?_append (start rest : String) : dropPrefix? start (start ++ rest) = some rest :=
  dropPrefix?_eq_some_iff.mpr rfl

/-- A text behind a prefix and a dot is what is left when both are dropped. -/
theorem dropPrefix?_bind_dot_eq_some_iff {front s rest : String} :
    (dropPrefix? front s).bind (dropPrefix? ".") = some rest ↔ s = front ++ "." ++ rest := by
  rw [Option.bind_eq_some_iff]
  constructor
  · rintro ⟨behind, hfront, hdot⟩
    rw [dropPrefix?_eq_some_iff] at hfront hdot
    rw [hfront, hdot, String.append_assoc]
  · rintro rfl
    refine ⟨"." ++ rest, ?_, dropPrefix?_append _ _⟩
    rw [dropPrefix?_eq_some_iff, String.append_assoc]

/-! ## Replacing a character -/

theorem toList_replaceChar (old new : Char) (s : String) :
    (replaceChar old new s).toList = s.toList.map fun c => if c = old then new else c :=
  String.toList_ofList

theorem replaceChar_append (old new : Char) (s t : String) :
    replaceChar old new (s ++ t) = replaceChar old new s ++ replaceChar old new t := by
  apply String.toList_inj.mp
  simp only [toList_replaceChar, String.toList_append, List.map_append]

/-- On texts without the new character, the replacement is injective. -/
theorem replaceChar_injective_of_notMem {old new : Char} {s t : String} (hs : new ∉ s.toList)
    (ht : new ∉ t.toList) (h : replaceChar old new s = replaceChar old new t) : s = t := by
  have hlist := congrArg String.toList h
  rw [toList_replaceChar, toList_replaceChar] at hlist
  apply String.toList_inj.mp
  generalize s.toList = cs at hs hlist
  generalize t.toList = ds at ht hlist
  induction cs generalizing ds with
  | nil => exact (List.map_eq_nil_iff.mp hlist.symm).symm
  | cons c cs ih =>
    cases ds with
    | nil => simp at hlist
    | cons d ds =>
      rw [List.map_cons, List.map_cons, List.cons.injEq] at hlist
      simp only [List.mem_cons, not_or] at hs ht
      have hcd : c = d := by grind
      rw [hcd, ih hs.2 ds ht.2 hlist.2]

/-- A character that is replaced by another one is gone. -/
theorem notMem_replaceChar {old new : Char} (h : new ≠ old) (s : String) :
    old ∉ (replaceChar old new s).toList := by
  rw [toList_replaceChar, List.mem_map]
  rintro ⟨c, -, hc⟩
  split at hc
  · exact h hc
  · exact absurd hc ‹_›

theorem replaceChar_of_notMem {old new : Char} {s : String} (h : old ∉ s.toList) :
    replaceChar old new s = s := by
  apply String.toList_inj.mp
  rw [toList_replaceChar]
  refine (List.map_congr_left fun c hc => ?_).trans (List.map_id s.toList)
  exact if_neg fun heq : c = old => h (heq ▸ hc)

/-- Where the new character is absent, the replacement is undone by the opposite one. -/
theorem replaceChar_replaceChar_of_notMem {old new : Char} {s : String} (h : new ∉ s.toList) :
    replaceChar new old (replaceChar old new s) = s := by
  apply String.toList_inj.mp
  rw [toList_replaceChar, toList_replaceChar, List.map_map]
  refine (List.map_congr_left fun c hc => ?_).trans (List.map_id s.toList)
  have hne : c ≠ new := fun heq => h (heq ▸ hc)
  by_cases hold : c = old
  · simp [hold]
  · simp [hold, hne]

/-! ## The order of texts -/

theorem charsPrecede_self (cs : List Char) : charsPrecede cs cs = false := by
  induction cs with
  | nil => rfl
  | cons c cs ih => simp [charsPrecede, ih]

theorem precedes_self (s : String) : precedes s s = false := charsPrecede_self s.toList

end Bindery.Text
