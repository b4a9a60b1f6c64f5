import Bindery.Proofs.Binding.Insertion
import Bindery.Proofs.Text.Search

/-!
# What fills a set of warnings

A set of warnings is filled step by step: a token is inserted, or another set is merged in that was
filled in the same way. Whatever the steps are, all that counts of them is the list of the tokens
they bring. The set has the first occurrences in that list, and as an annotation argument it still
tells them apart: each token stands between two quotes, so only a quote in a token could be
mistaken for the end of it.

## Main definitions

* `WarningStep`: a step as a value
* `Warnings.perform`, `Warnings.run`: a set after a step, and after a sequence of steps
* `WarningStep.brought`, `WarningStep.allOffered`: the tokens that a step brings to the set, and all
  tokens that steps insert at any depth

## Main results

* `run_eq_insertAll_brought`, `run_eq_insertAll`: steps are insertions of what they bring
* `tokens_eq_of_value_eq`: the annotation argument determines the tokens
* `first_occurrences_of_run`: what a set of warnings is after any sequence of steps
-/

namespace Bindery

/-! ## Steps -/

/-- A step that fills a set of warnings. -/
inductive WarningStep where
  /-- Insert a token. -/
  | insert (token : String)
  /-- Merge in the set that some steps have filled. -/
  | merge (steps : List WarningStep)
  deriving Repr, Inhabited

namespace Warnings

mutual

/-- The set after a step. -/
def perform (ws : Warnings) : WarningStep → Warnings
  | .insert token => (ws.insertNew token).2
  | .merge steps => ws.merge (run empty steps)

/-- The set after a sequence of steps. -/
def run (ws : Warnings) : List WarningStep → Warnings
  | [] => ws
  | s :: ss => run (perform ws s) ss

end

end Warnings

namespace WarningStep

/-- The tokens that a step brings to the set: its own, or those of the set that is merged in. -/
def brought : WarningStep → List String
  | insert token => [token]
  | merge steps => (Warnings.empty.run steps).tokens

mutual

/-- The tokens that a step inserts, be it into the set or into one that is merged in. -/
def offered : WarningStep → List String
  | .insert token => [token]
  | .merge steps => allOffered steps

/-- The tokens that a sequence of steps inserts at any depth, in order. -/
def allOffered : List WarningStep → List String
  | [] => []
  | s :: ss => offered s ++ allOffered ss

end

end WarningStep

/-! ## What steps leave -/

namespace Warnings

open WarningStep (brought offered allOffered)

theorem run_append (ws : Warnings) (ss us : List WarningStep) :
    ws.run (ss ++ us) = (ws.run ss).run us := by
  induction ss generalizing ws with
  | nil => rfl
  | cons s ss ih => exact ih (ws.perform s)

theorem perform_eq_insertAll_brought (ws : Warnings) (s : WarningStep) :
    ws.perform s = ws.insertAll (brought s) := by
  cases s with
  | insert token => exact insertNew_snd ws token
  | merge steps => rfl

theorem run_eq_insertAll_brought (ws : Warnings) (steps : List WarningStep) :
    ws.run steps = ws.insertAll (steps.flatMap brought) := by
  induction steps generalizing ws with
  | nil => rfl
  | cons s ss ih =>
    rw [run, ih, perform_eq_insertAll_brought, List.flatMap_cons, insertAll_append]

mutual

theorem perform_eq_insertAll (ws : Warnings) :
    ∀ s, ws.perform s = ws.insertAll (offered s)
  | .insert token => insertNew_snd ws token
  | .merge steps => by
    rw [perform, run_eq_insertAll empty steps, merge_insertAll, merge_empty, offered]

/-- A set that is merged in counts with all that was inserted into it. -/
theorem run_eq_insertAll (ws : Warnings) :
    ∀ steps, ws.run steps = ws.insertAll (allOffered steps)
  | [] => rfl
  | s :: ss => by
    rw [run, run_eq_insertAll _ ss, perform_eq_insertAll ws s, allOffered, insertAll_append]

end

end Warnings

/-! ## What the annotation argument tells -/

namespace Text

theorem intercalate_cons_eq_flatMap {α : Type} (sep xs : List α) (xss : List (List α)) :
    sep.intercalate (xs :: xss) = xs ++ xss.flatMap (sep ++ ·) := by
  induction xss generalizing xs with
  | nil => simp
  | cons ys yss ih =>
    rw [List.intercalate_cons_cons, ih, List.flatMap_cons, List.append_assoc, List.append_assoc]

/-- Quoted texts are recovered if there is a separator in front of each. -/
theorem flatMap_quote_inj {sep : List Char} {xss yss : List (List Char)}
    (hxss : ∀ xs ∈ xss, '"' ∉ xs) (hyss : ∀ ys ∈ yss, '"' ∉ ys)
    (h : (xss.map quote).flatMap (sep ++ ·) = (yss.map quote).flatMap (sep ++ ·)) : xss = yss := by
  induction xss generalizing yss with
  | nil =>
    cases yss with
    | nil => rfl
    | cons ys yss => simp [quote] at h
  | cons xs xss ih =>
    cases yss with
    | nil => simp [quote] at h
    | cons ys yss =>
      rw [List.forall_mem_cons] at hxss hyss
      simp only [List.map_cons, List.flatMap_cons, List.append_assoc,
        List.append_cancel_left_eq] at h
      obtain ⟨rfl, hrest⟩ := quote_append_inj hxss.1 hyss.1 h
      rw [ih hxss.2 hyss.2 hrest]

/-- Quoted texts are recovered from the text that joins them, whatever the separator is. -/
theorem intercalate_quote_inj {sep : List Char} {xss yss : List (List Char)}
    (hxss : ∀ xs ∈ xss, '"' ∉ xs) (hyss : ∀ ys ∈ yss, '"' ∉ ys)
    (h : sep.intercalate (xss.map quote) = sep.intercalate (yss.map quote)) : xss = yss := by
  cases xss with
  | nil =>
    cases yss with
    | nil => rfl
    | cons ys yss => simp [intercalate_cons_eq_flatMap, quote] at h
  | cons xs xss =>
    cases yss with
    | nil => simp [intercalate_cons_eq_flatMap, quote] at h
    | cons ys yss =>
      rw [List.forall_mem_cons] at hxss hyss
      simp only [List.map_cons, intercalate_cons_eq_flatMap] at h
      obtain ⟨rfl, hrest⟩ := quote_append_inj hxss.1 hyss.1 h
      rw [flatMap_quote_inj hxss.2 hyss.2 hrest]

end Text

namespace Warnings

open WarningStep (brought allOffered)

variable {ws other : Warnings}

theorem toList_value (ws : Warnings) :
    ws.value.toList = '\x7b' ::
      ([',', ' '].intercalate ((ws.tokens.map String.toList).map Text.quote) ++ ['\x7d']) := by
  have hquote : (fun t => "\"" ++ t ++ "\"") = String.ofList ∘ Text.quote ∘ String.toList := by
    funext t
    apply String.toList_inj.mp
    simp [Text.quote]
  simp [value, Text.toList_join, hquote, Function.comp_def]

/-- Tokens without quotes are told apart by the annotation argument. -/
theorem tokens_eq_of_value_eq (hws : ∀ t ∈ ws.tokens, '"' ∉ t.toList)
    (hother : ∀ t ∈ other.tokens, '"' ∉ t.toList) (h : ws.value = other.value) :
    ws.tokens = other.tokens := by
  have hlists := congrArg String.toList h
  rw [toList_value, toList_value, List.cons.injEq, List.append_cancel_right_eq] at hlists
  have htokens := Text.intercalate_quote_inj (by simpa using hws) (by simpa using hother) hlists.2
  exact (List.map_inj_right fun _ _ => String.toList_inj.mp).mp htokens

/-- A quote in a token passes for the end of it. -/
example : value { tokens := ["a\", \"b"] } = value { tokens := ["a", "b"] } := rfl

theorem suppression?_eq_none_iff : ws.suppression? = none ↔ ws.tokens = [] := by
  rw [suppression?, ← List.isEmpty_iff]
  split <;> simp_all

/-! ## Sets of warnings -/

/-- **What a set of warnings has** after any sequence of steps: the first occurrences, in order and
without repetition, of what the steps bring. A set that is merged in counts with its tokens or,
which is the same, with all that was ever inserted into it. An insertion answers whether its token
was new. A merge leaves the tokens that are there in their places, and merging is idempotent and
associative. Two such sets without a quote in any token have equal annotation arguments only if
their tokens are equal, whatever other characters these have. There is no annotation exactly if
there is no token. -/
theorem first_occurrences_of_run (steps : List WarningStep) :
    let ws := empty.run steps
    ws.tokens = (steps.flatMap brought).eraseDups ∧
      ws.tokens = (allOffered steps).eraseDups ∧
      ws.tokens.Nodup ∧
      (∀ token, ((ws.insertNew token).1 = true ↔ token ∉ ws.tokens) ∧
        (ws.insertNew token).2 = empty.run (steps ++ [.insert token])) ∧
      ws.merge ws = ws ∧
      (∀ others, let other := empty.run others
        ws.merge other = empty.run (steps ++ [.merge others]) ∧
          ws.tokens <+: (ws.merge other).tokens ∧
          (ws.merge other).merge other = ws.merge other ∧
          (∀ further, let third := empty.run further
            (ws.merge other).merge third = ws.merge (other.merge third)) ∧
          ((∀ token ∈ ws.tokens ++ other.tokens, '"' ∉ token.toList) →
            ws.value = other.value → ws.tokens = other.tokens)) ∧
      (ws.suppression? = none ↔ ws.tokens = []) := by
  intro ws
  have hbrought : ws.tokens = (steps.flatMap brought).eraseDups := by
    rw [← tokens_insertAll_empty, ← run_eq_insertAll_brought]
  have hoffered : ws.tokens = (allOffered steps).eraseDups := by
    rw [← tokens_insertAll_empty, ← run_eq_insertAll]
  have hnodup : ws.tokens.Nodup := by
    have hinserted : (empty.insertAll (allOffered steps)).tokens.Nodup :=
      nodup_insertAll List.nodup_nil
    rwa [← run_eq_insertAll] at hinserted
  refine ⟨hbrought, hoffered, hnodup, fun token => ⟨insertNew_fst_eq_true_iff, ?_⟩,
    merge_self ws, fun others => ?_, suppression?_eq_none_iff⟩
  · rw [run_append]
    rfl
  · intro other
    refine ⟨?_, prefix_merge ws other, ?_, fun further => merge_assoc ws other _, ?_⟩
    · rw [run_append]
      rfl
    · rw [merge_assoc, merge_self]
    · intro hquote hvalue
      rw [List.forall_mem_append] at hquote
      exact tokens_eq_of_value_eq hquote.1 hquote.2 hvalue

/-- Tokens with commas, blanks and braces, which come in by steps of different depth. -/
theorem first_occurrences_of_merged_sets :
    let steps : List WarningStep :=
      [.insert "a, b", .merge [.insert "\x7d", .merge [.insert "a, b", .insert "c"]]]
    let others : List WarningStep :=
      [.merge [.merge [.insert "a, b"], .insert "\x7d"], .insert "a, b", .insert "c"]
    (empty.run steps).tokens = ["a, b", "\x7d", "c"] ∧
      (∀ token ∈ (empty.run steps).tokens ++ (empty.run others).tokens, '"' ∉ token.toList) ∧
      (empty.run steps).value = (empty.run others).value ∧
      (empty.run steps).tokens = (empty.run others).tokens := by
  intro steps others
  have htokens : (empty.run steps).tokens = ["a, b", "\x7d", "c"] := by decide
  have hquote : ∀ token ∈ (empty.run steps).tokens ++ (empty.run others).tokens,
      '"' ∉ token.toList := by decide
  have hvalue : (empty.run steps).value = (empty.run others).value := by decide
  obtain ⟨-, -, -, -, -, hothers, -⟩ := first_occurrences_of_run steps
  obtain ⟨-, -, -, -, hdetermined⟩ := hothers others
  exact ⟨htokens, hquote, hvalue, hdetermined hquote hvalue⟩

end Warnings

end Bindery
