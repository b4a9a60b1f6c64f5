import Bindery.Binding.Warnings

/-!
# Insertion into a set of warnings

A token that is already in the set stays where it is, and a new one goes to the end. So a set that
is filled by a list holds the first occurrences in the list, and merging a set that was filled from
the empty one is inserting what it was filled with.

## Main results

* `mem_insertAll`, `tokens_insertAll`: the tokens after several insertions
* `insertAll_of_forall_eq`: repetitions of one token are a single insertion
* `merge_insertAll`: merging is inserting what the other set was filled with
* `merge_assoc`, `merge_self`, `prefix_merge`: the laws of merging
-/

namespace Bindery.Warnings

variable {ws : Warnings} {t : String}

theorem contains_iff_mem : ws.contains t = true ↔ t ∈ ws.tokens :=
  List.contains_iff_mem

theorem insert_of_mem (h : t ∈ ws.tokens) : ws.insert t = ws := by
  rw [insert, if_pos (contains_iff_mem.mpr h)]

theorem insert_of_notMem (h : t ∉ ws.tokens) : ws.insert t = { tokens := ws.tokens ++ [t] } := by
  rw [insert, if_neg fun hmem => h (contains_iff_mem.mp hmem)]

theorem mem_insert {u : String} : u ∈ (ws.insert t).tokens ↔ u ∈ ws.tokens ∨ u = t := by
  by_cases ht : t ∈ ws.tokens
  · rw [insert_of_mem ht]
    constructor
    · exact Or.inl
    · rintro (hu | rfl)
      · exact hu
      · exact ht
  · rw [insert_of_notMem ht, List.mem_append, List.mem_singleton]

theorem nodup_insert (h : ws.tokens.Nodup) : (ws.insert t).tokens.Nodup := by
  by_cases ht : t ∈ ws.tokens
  · rwa [insert_of_mem ht]
  · rw [insert_of_notMem ht, List.nodup_append]
    refine ⟨h, by simp, fun u hu v hv heq => ht ?_⟩
    rwa [← List.mem_singleton.mp hv, ← heq]

/-- The answer of an insertion says that the token was not there. -/
theorem insertNew_fst_eq_true_iff : (ws.insertNew t).1 = true ↔ t ∉ ws.tokens := by
  rw [← contains_iff_mem, insertNew]
  split <;> simp_all

theorem insertNew_snd (ws : Warnings) (t : String) : (ws.insertNew t).2 = ws.insert t := by
  rw [insertNew, insert]
  split <;> rfl

/-! ## Several insertions -/

@[simp] theorem insertAll_nil (ws : Warnings) : ws.insertAll [] = ws := rfl

theorem insertAll_cons (ws : Warnings) (t : String) (ts : List String) :
    ws.insertAll (t :: ts) = (ws.insert t).insertAll ts := rfl

theorem insertAll_append (ws : Warnings) (ts us : List String) :
    ws.insertAll (ts ++ us) = (ws.insertAll ts).insertAll us :=
  List.foldl_append

theorem mem_insertAll {ts : List String} {u : String} :
    u ∈ (ws.insertAll ts).tokens ↔ u ∈ ws.tokens ∨ u ∈ ts := by
  induction ts generalizing ws with
  | nil => simp
  | cons t ts ih => rw [insertAll_cons, ih, mem_insert, List.mem_cons, or_assoc]

theorem nodup_insertAll {ts : List String} (h : ws.tokens.Nodup) :
    (ws.insertAll ts).tokens.Nodup := by
  induction ts generalizing ws with
  | nil => exact h
  | cons t ts ih => exact ih (nodup_insert h)

/-- Behind the tokens that are there stand the first occurrences of the others. -/
theorem tokens_insertAll (ws : Warnings) (ts : List String) :
    (ws.insertAll ts).tokens = ws.tokens ++ (ts.removeAll ws.tokens).eraseDups := by
  induction ts generalizing ws with
  | nil => simp [List.removeAll]
  | cons t ts ih =>
    rw [insertAll_cons, ih]
    by_cases ht : t ∈ ws.tokens
    · rw [insert_of_mem ht, List.cons_removeAll, if_neg (by simpa using ht)]
    · have hrest : ts.removeAll (ws.tokens ++ [t]) =
          (ts.removeAll ws.tokens).filter fun u => !u == t := by
        rw [List.removeAll, List.removeAll, List.filter_filter]
        refine List.filter_congr fun u _ => ?_
        grind
      rw [insert_of_notMem ht, List.cons_removeAll, if_pos (by simpa using ht),
        List.eraseDups_cons, hrest, List.append_assoc, List.singleton_append]

theorem tokens_insertAll_empty (ts : List String) :
    (empty.insertAll ts).tokens = ts.eraseDups := by
  rw [tokens_insertAll]
  exact congrArg List.eraseDups List.removeAll_nil

/-- Tokens that are all there already change nothing. -/
theorem insertAll_of_subset {ts : List String} (h : ∀ t ∈ ts, t ∈ ws.tokens) :
    ws.insertAll ts = ws := by
  induction ts with
  | nil => rfl
  | cons t ts ih =>
    rw [List.forall_mem_cons] at h
    rw [insertAll_cons, insert_of_mem h.1, ih h.2]

/-- Repetitions of one token are a single insertion. -/
theorem insertAll_of_forall_eq {ts : List String} (h : ∀ u ∈ ts, u = t) :
    ws.insertAll ts = if ts = [] then ws else ws.insert t := by
  cases ts with
  | nil => rfl
  | cons u us =>
    obtain ⟨rfl, hus⟩ := List.forall_mem_cons.mp h
    rw [insertAll_cons, if_neg (List.cons_ne_nil u us)]
    -- behind its first insertion the token is there already
    refine insertAll_of_subset fun v hv => ?_
    rw [hus v hv]
    exact mem_insert.mpr (Or.inr rfl)

/-! ## Merging -/

/-- A token that goes into the other set before a merge goes in behind it. -/
theorem merge_insert (ws other : Warnings) (t : String) :
    ws.merge (other.insert t) = (ws.merge other).insert t := by
  by_cases ht : t ∈ other.tokens
  · have hmerged : t ∈ (ws.merge other).tokens := mem_insertAll.mpr (Or.inr ht)
    rw [insert_of_mem ht, insert_of_mem hmerged]
  · rw [insert_of_notMem ht]
    exact insertAll_append ws other.tokens [t]

/-- Merging a set is inserting what it was filled with. -/
theorem merge_insertAll (ws other : Warnings) (ts : List String) :
    ws.merge (other.insertAll ts) = (ws.merge other).insertAll ts := by
  induction ts generalizing other with
  | nil => rfl
  | cons t ts ih => rw [insertAll_cons, ih, merge_insert, insertAll_cons]

@[simp] theorem merge_empty (ws : Warnings) : ws.merge empty = ws := rfl

theorem merge_assoc (ws other more : Warnings) :
    (ws.merge other).merge more = ws.merge (other.merge more) :=
  (merge_insertAll ws other more.tokens).symm

theorem merge_self (ws : Warnings) : ws.merge ws = ws :=
  insertAll_of_subset fun _ h => h

/-- A merge leaves the tokens that are there in their places. -/
theorem prefix_merge (ws other : Warnings) : ws.tokens <+: (ws.merge other).tokens :=
  ⟨_, (tokens_insertAll ws other.tokens).symm⟩

end Bindery.Warnings
