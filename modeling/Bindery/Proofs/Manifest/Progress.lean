import Bindery.Proofs.Manifest.Faults
import Bindery.Proofs.Manifest.Validation
import Bindery.Proofs.Target.Identifier
import Bindery.Proofs.Text.Occurrence
import Mathlib.Data.List.Induction
import Mathlib.Data.List.Nodup

/-!
# Progress of the check of hosts

The check visits the hosts one after the other. It carries a cursor, which is the place of the last
name found, and the names seen, each with a place to search for it again. Every search starts from
one of these places, from the place of the name just found, or from one byte in front of such a
place, where its opening quote is. So no search starts within a character.

A name is found again where it was found first. If it was not found, the second search starts at
the quote in front of another name, and that is another text: the names visited are all different
and hold no quotes.

## Main definitions

* `Progress`, `Progress.visit`, `Progress.behind`: the state of the check, one host, and the hosts
  in front
* `Progress.lookups`, `Progress.searches`: what is searched for at a host, and from where
* `Progress.Sound`: the invariant of the check

## Main results

* `checkHosts_eq`: the check is the visits one after the other
* `sound_of_behind`: the invariant holds behind all hosts that are in order
* `Progress.Sound.locate_again`: a new name is found again where it was found first
* `places_of_visit`: a fault is placed where its searches arrive
* `Progress.Sound.isBoundary_of_mem_lookups`: no search starts within a character
-/

namespace Bindery.Validation

open Text (Span IsBoundary QuotedAt Finds)

/-- What the check of hosts carries from one host to the next. -/
structure Progress where
  /-- Where the search for the next name starts. -/
  cursor : Nat := 0
  /-- The names seen, each with the place from which a search finds it again. -/
  seen : List (String × Nat) := []
  deriving DecidableEq, Repr

namespace Progress

/-- The place at which the name of the next host is found. -/
def found (source : List Char) (p : Progress) (d : HostDecl) : Option Span :=
  locate source d.name p.cursor

/-- Where the searches for the package and the fields of the next host start. -/
def offset (source : List Char) (p : Progress) (d : HostDecl) : Nat :=
  ((p.found source d).map Span.offset).getD p.cursor

/-- The check of the next host. -/
def visit (source : List Char) (p : Progress) (d : HostDecl) : Except ManifestFault Progress :=
  match p.seen.lookup d.name with
  | some first => .error (.duplicateHost d.name (locate source d.name first) (p.found source d))
  | none => do
    checkQualifiedName source d.name .host p.cursor
    checkHost source d (p.offset source d)
    return { cursor := p.offset source d, seen := (d.name, p.offset source d - 1) :: p.seen }

/-- The progress behind some hosts, or the first fault of these. -/
def behind (source : List Char) (ds : List HostDecl) : Except ManifestFault Progress :=
  ds.foldlM (visit source) {}

/-- The texts that a fault of the next host was searched for, in the order of its places, and where
these searches started. -/
def lookups (source : List Char) (p : Progress) (d : HostDecl) :
    ManifestFault → List (String × Nat)
  | .duplicateHost name _ _ => [(name, (p.seen.lookup name).getD 0), (name, p.cursor)]
  | .reservedWord _ .host _ | .invalidIdentifier _ .host _ _ => [(d.name, p.cursor)]
  | .packageMismatch package _ _ => [(package, p.offset source d)]
  | .reservedWord name (.fieldOf _) _ | .invalidIdentifier name (.fieldOf _) _ _
  | .blankType name _ _ => [(name, p.offset source d)]
  | .unreadable _ | .notADocument | .badShape _ => []

/-- All searches at the next host, each with its start: the one for its name, and those for the
places of its fault if it has one. -/
def searches (source : List Char) (p : Progress) (d : HostDecl) : List (String × Nat) :=
  (d.name, p.cursor) ::
    match p.visit source d with
    | .ok _ => []
    | .error fault => p.lookups source d fault

end Progress

open Progress

/-! ## Visits one after the other -/

/-- The check of hosts is the visits one after the other. -/
theorem checkHosts_eq (source : List Char) (p : Progress) (ds : List HostDecl) :
    checkHosts source p.cursor p.seen ds = (ds.foldlM (visit source) p).map fun _ => () := by
  induction ds generalizing p with
  | nil => rfl
  | cons d ds ih =>
    rw [checkHosts, List.foldlM_cons, visit]
    cases p.seen.lookup d.name with
    | some first => rfl
    | none =>
      dsimp only [bind, Except.bind]
      cases checkQualifiedName source d.name .host p.cursor with
      | error fault => rfl
      | ok _ =>
        change (checkHost source d (p.offset source d)).bind _ = _
        dsimp only
        cases checkHost source d (p.offset source d) with
        | error fault => rfl
        | ok _ => exact ih ⟨p.offset source d, (d.name, p.offset source d - 1) :: p.seen⟩

theorem check_eq_behind (m : Manifest) (source : String) :
    m.check source = (behind source.toList m.hosts).map fun _ => () :=
  checkHosts_eq source.toList {} m.hosts

theorem foldlM_eq_error {ε σ α : Type} {step : σ → α → Except ε σ} {xs : List α} {s : σ} {e : ε}
    (h : xs.foldlM step s = .error e) :
    ∃ pre x post t, xs = pre ++ x :: post ∧ pre.foldlM step s = .ok t ∧ step t x = .error e := by
  induction xs generalizing s with
  | nil => cases h
  | cons x xs ih =>
    rw [List.foldlM_cons] at h
    cases hx : step s x with
    | error e' =>
      rw [hx] at h
      obtain rfl := Except.error.inj h
      exact ⟨[], x, xs, s, rfl, rfl, hx⟩
    | ok next =>
      rw [hx] at h
      obtain ⟨pre, y, post, t, rfl, hpre, hy⟩ := ih h
      refine ⟨x :: pre, y, post, t, rfl, ?_, hy⟩
      rw [List.foldlM_cons, hx]
      exact hpre

theorem bind_eq_ok {ε α β : Type} {x : Except ε α} {next : α → Except ε β} {b : β}
    (h : (x >>= next) = .ok b) : ∃ a, x = .ok a ∧ next a = .ok b := by
  cases x with
  | error e => cases h
  | ok a => exact ⟨a, rfl, h⟩

/-- A fault of the check is that of a visit, and the hosts in front are in order. -/
theorem exists_visit_of_check_eq_error {m : Manifest} {source : String} {fault : ManifestFault}
    (h : m.check source = .error fault) :
    ∃ pre d post p, m.hosts = pre ++ d :: post ∧ behind source.toList pre = .ok p ∧
      p.visit source.toList d = .error fault := by
  rw [check_eq_behind] at h
  cases hbehind : behind source.toList m.hosts with
  | ok p => simp [hbehind, Except.map] at h
  | error other =>
    rw [hbehind] at h
    obtain rfl := Except.error.inj h
    exact foldlM_eq_error hbehind

variable {source : String} {pre : List HostDecl} {d : HostDecl} {p q : Progress}

theorem behind_append_singleton {source : List Char} :
    behind source (pre ++ [d]) = behind source pre >>= fun p => p.visit source d := by
  simp only [behind, List.foldlM_append, List.foldlM_cons, List.foldlM_nil, bind_pure]

/-- All that the visit of a host in order does: the name is new, nothing is at fault, and the
progress goes on to the place of the name. -/
theorem visit_eq_ok {source : List Char} (h : p.visit source d = .ok q) :
    p.seen.lookup d.name = none ∧ checkQualifiedName source d.name .host p.cursor = .ok () ∧
      checkHost source d (p.offset source d) = .ok () ∧
      q = { cursor := p.offset source d, seen := (d.name, p.offset source d - 1) :: p.seen } := by
  rw [visit] at h
  cases hlookup : p.seen.lookup d.name with
  | some first => simp [hlookup] at h
  | none =>
    rw [hlookup] at h
    obtain ⟨⟨⟩, hname, h⟩ := bind_eq_ok h
    obtain ⟨⟨⟩, hhost, h⟩ := bind_eq_ok h
    exact ⟨rfl, hname, hhost, (Except.ok.inj h).symm⟩

/-- A name in order holds no quotes. -/
theorem quote_notMem_of_checkQualifiedName {source : List Char} {name : String} {role : NameRole}
    {start : Nat} (h : checkQualifiedName source name role start = .ok ()) :
    '"' ∉ name.toList :=
  Target.notMem_of_segments (checkQualifiedName_eq_ok_iff.mp h) (by decide)
    (Target.isIdentifierChar_eq_false (by decide) (by decide))

/-! ## The invariant -/

/-- The invariant of the check behind some hosts: the cursor is at the place of one of their names,
or at the start of the text; the names are different and hold no quotes, and they are the names
seen; the place that goes with a name is one byte in front of the cursor behind its host; and
searches from these places start between characters. -/
structure Progress.Sound (source : String) (pre : List HostDecl) (p : Progress) : Prop where
  cursor : p.cursor = 0 ∨ ∃ d ∈ pre, ∃ span, QuotedAt source d.name span ∧ p.cursor = span.offset
  plain : ∀ d ∈ pre, '"' ∉ d.name.toList
  distinct : (pre.map HostDecl.name).Nodup
  new : ∀ {name}, p.seen.lookup name = none → ∀ d ∈ pre, d.name ≠ name
  first : ∀ {name start}, p.seen.lookup name = some start → ∃ before d after q,
    pre = before ++ d :: after ∧ d.name = name ∧ behind source.toList before = .ok q ∧
      start = q.offset source.toList d - 1
  starts : ∀ entry ∈ p.seen, IsBoundary source entry.2

namespace Progress.Sound

theorem isBoundary_cursor (h : p.Sound source pre) : IsBoundary source p.cursor := by
  obtain hzero | ⟨d, -, span, hspan, hcursor⟩ := h.cursor
  · rw [hzero]
    exact Text.isBoundary_zero source
  · rw [hcursor]
    exact hspan.boundaries.2.1

/-- The name of the next host is found at its first place behind the cursor. -/
theorem finds_found (h : p.Sound source pre) (d : HostDecl) :
    Finds source d.name p.cursor (p.found source.toList d) :=
  Text.finds_findQuoted? h.isBoundary_cursor d.name

/-- The searches behind a name start at its place if it is found, and else at the cursor. -/
theorem offset_cases (h : p.Sound source pre) (d : HostDecl) :
    (∃ span, p.found source.toList d = some span ∧ p.offset source.toList d = span.offset ∧
        QuotedAt source d.name span ∧ p.cursor < span.offset) ∨
      p.found source.toList d = none ∧ p.offset source.toList d = p.cursor := by
  have hfinds := h.finds_found d
  rw [offset]
  cases hfound : p.found source.toList d with
  | none => exact .inr ⟨rfl, rfl⟩
  | some span =>
    rw [hfound] at hfinds
    exact .inl ⟨span, rfl, rfl, hfinds.1, hfinds.2.1⟩

theorem cursor_le_offset (h : p.Sound source pre) (d : HostDecl) :
    p.cursor ≤ p.offset source.toList d := by
  obtain ⟨span, -, hoffset, -, hlt⟩ | ⟨-, hoffset⟩ := h.offset_cases d
  · rw [hoffset]
    exact Nat.le_of_lt hlt
  · exact Nat.le_of_eq hoffset.symm

theorem isBoundary_offset (h : p.Sound source pre) (d : HostDecl) :
    IsBoundary source (p.offset source.toList d) := by
  obtain ⟨span, -, hoffset, hspan, -⟩ | ⟨-, hoffset⟩ := h.offset_cases d
  · rw [hoffset]
    exact hspan.boundaries.2.1
  · rw [hoffset]
    exact h.isBoundary_cursor

/-- One byte in front of the place of a name is its quote, also if it is the name of a host in
front. -/
theorem isBoundary_offset_pred (h : p.Sound source pre) (d : HostDecl) :
    IsBoundary source (p.offset source.toList d - 1) := by
  obtain ⟨span, -, hoffset, hspan, -⟩ | ⟨-, hoffset⟩ := h.offset_cases d
  · rw [hoffset]
    exact hspan.boundaries.1
  · rw [hoffset]
    obtain hzero | ⟨e, -, span, hspan, hcursor⟩ := h.cursor
    · rw [hzero]
      exact Text.isBoundary_zero source
    · rw [hcursor]
      exact hspan.boundaries.1

/-- **A name is found again.** A search for the name of a new host that starts one byte in front of
the place where its other searches start arrives where the first search for it arrived, or nowhere
if that one did. -/
theorem locate_again (h : p.Sound source pre) (hnew : ∀ e ∈ pre, e.name ≠ d.name)
    (hplain : '"' ∉ d.name.toList) :
    locate source.toList d.name (p.offset source.toList d - 1) = p.found source.toList d := by
  have hagain := Text.finds_findQuoted? (h.isBoundary_offset_pred d) d.name
  have hfinds := h.finds_found d
  refine hagain.unique ?_
  obtain ⟨span, hfound, hoffset, hspan, hlt⟩ | ⟨hfound, hoffset⟩ := h.offset_cases d
  · rw [hfound, hoffset]
    have hpos := hspan.offset_pos
    refine ⟨hspan, by omega, fun place _ hplace => by omega⟩
  · rw [hfound] at hfinds
    rw [hfound, hoffset]
    intro place hplace
    have hle := hfinds place hplace
    obtain hzero | ⟨e, he, span, hspan, hcursor⟩ := h.cursor
    · omega
    · have hne : place.offset ≠ p.cursor := by
        intro heq
        exact hnew e he
          (hspan.value_eq hplace (h.plain e he) hplain (hcursor.symm.trans heq.symm))
      omega

end Progress.Sound

theorem sound_start (source : String) : Progress.Sound source [] {} where
  cursor := .inl rfl
  plain := List.forall_mem_nil _
  distinct := List.nodup_nil
  new _ := List.forall_mem_nil _
  first h := by cases h
  starts := List.forall_mem_nil _

/-- The visit of a host in order keeps the invariant. -/
theorem Progress.Sound.visit (h : p.Sound source pre) (hbehind : behind source.toList pre = .ok p)
    (hvisit : p.visit source.toList d = .ok q) : q.Sound source (pre ++ [d]) := by
  obtain ⟨hlookup, hname, -, rfl⟩ := visit_eq_ok hvisit
  constructor
  case cursor =>
    -- the cursor stays at the place of an earlier name if the new one is not found
    obtain ⟨span, -, hoffset, hspan, -⟩ | ⟨-, hoffset⟩ := h.offset_cases d
    · exact .inr ⟨d, by simp, span, hspan, hoffset⟩
    · obtain hzero | ⟨e, he, span, hspan, hcursor⟩ := h.cursor
      · exact .inl (hoffset.trans hzero)
      · exact .inr ⟨e, List.mem_append_left _ he, span, hspan, hoffset.trans hcursor⟩
  case plain =>
    intro e he
    rcases List.mem_append.mp he with he | he
    · exact h.plain e he
    · rw [List.mem_singleton.mp he]
      exact quote_notMem_of_checkQualifiedName hname
  case distinct =>
    rw [List.map_append, List.map_singleton, List.nodup_append]
    refine ⟨h.distinct, List.nodup_singleton _, ?_⟩
    intro name hname other hother
    obtain ⟨e, he, rfl⟩ := List.mem_map.mp hname
    rw [List.mem_singleton.mp hother]
    exact h.new hlookup e he
  case new =>
    intro name hnone e he
    rw [List.lookup_cons] at hnone
    split at hnone
    · cases hnone
    · next hne =>
      rcases List.mem_append.mp he with he | he
      · exact h.new hnone e he
      · rw [List.mem_singleton.mp he]
        exact fun heq => by simp [heq] at hne
  case first =>
    intro name start hsome
    rw [List.lookup_cons] at hsome
    split at hsome
    · next heq =>
      exact ⟨pre, d, [], p, rfl, (beq_iff_eq.mp heq).symm, hbehind, (Option.some.inj hsome).symm⟩
    · obtain ⟨before, e, after, r, rfl, hname', hr, hstart⟩ := h.first hsome
      exact ⟨before, e, after ++ [d], r, by simp, hname', hr, hstart⟩
  case starts =>
    intro entry hentry
    rcases List.mem_cons.mp hentry with rfl | hentry
    · exact h.isBoundary_offset_pred d
    · exact h.starts entry hentry

/-- The invariant holds behind all hosts that are in order. -/
theorem sound_of_behind (h : behind source.toList pre = .ok p) : p.Sound source pre := by
  induction pre using List.reverseRecOn generalizing p with
  | nil =>
    obtain rfl := Except.ok.inj h
    exact sound_start source
  | append_singleton pre d ih =>
    rw [behind_append_singleton] at h
    obtain ⟨r, hr, hvisit⟩ := bind_eq_ok h
    exact (ih hr).visit hr hvisit

/-- The cursor never goes back. -/
theorem cursor_le_of_behind {mid : List HostDecl} (hp : behind source.toList pre = .ok p)
    (hq : behind source.toList (pre ++ mid) = .ok q) : p.cursor ≤ q.cursor := by
  induction mid using List.reverseRecOn generalizing q with
  | nil =>
    rw [List.append_nil, hp] at hq
    rw [Except.ok.inj hq]
  | append_singleton mid d ih =>
    rw [← List.append_assoc, behind_append_singleton] at hq
    obtain ⟨r, hr, hvisit⟩ := bind_eq_ok hq
    obtain ⟨-, -, -, rfl⟩ := visit_eq_ok hvisit
    exact (ih hr).trans ((sound_of_behind hr).cursor_le_offset d)

/-! ## Searches -/

/-- The fault of a visit: the name is not new, or the name or the rest of the host is at fault. -/
theorem visit_eq_error {source : List Char} {fault : ManifestFault}
    (h : p.visit source d = .error fault) :
    (∃ first, p.seen.lookup d.name = some first ∧
        fault = .duplicateHost d.name (locate source d.name first) (p.found source d)) ∨
      p.seen.lookup d.name = none ∧
        (checkQualifiedName source d.name .host p.cursor = .error fault ∨
          checkHost source d (p.offset source d) = .error fault) := by
  rw [visit] at h
  cases hlookup : p.seen.lookup d.name with
  | some first =>
    rw [hlookup] at h
    exact .inl ⟨first, rfl, (Except.error.inj h).symm⟩
  | none =>
    rw [hlookup] at h
    refine .inr ⟨rfl, ?_⟩
    cases hname : checkQualifiedName source d.name .host p.cursor with
    | error other =>
      rw [hname] at h
      exact .inl (congrArg _ (Except.error.inj h))
    | ok _ =>
      cases hhost : checkHost source d (p.offset source d) with
      | error other =>
        rw [hname, hhost] at h
        exact .inr (congrArg _ (Except.error.inj h))
      | ok _ =>
        rw [hname, hhost] at h
        cases h

/-- What a visit finds at fault is placed where its searches arrive; only the fault of an empty name
has no search. -/
theorem places_of_visit {source : List Char} {fault : ManifestFault}
    (h : p.visit source d = .error fault) :
    fault = .invalidIdentifier "" .host .empty none ∨
      fault.remarks.map Prod.snd =
        (p.lookups source d fault).map fun s => locate source s.1 s.2 := by
  rcases visit_eq_error h with ⟨first, hfirst, rfl⟩ | ⟨-, hname | hhost⟩
  · refine .inr ?_
    rw [lookups, hfirst]
    rfl
  · rcases checkQualifiedName_eq_error hname with ⟨hempty, rfl⟩ | ⟨segment, -, hsegment⟩
    · rw [hempty]
      exact .inl rfl
    · rcases hsegment with ⟨-, rfl⟩ | ⟨reason, -, rfl⟩
      · exact .inr rfl
      · exact .inr rfl
  · rcases checkHost_eq_error hhost with hpackage | ⟨-, f, -, -, hfield⟩
    · obtain ⟨package, -, -, rfl⟩ := checkPackage_eq_error hpackage
      exact .inr rfl
    · rcases checkField_eq_error hfield with ⟨-, rfl⟩ | ⟨reason, -, rfl⟩ | ⟨-, rfl⟩
      · exact .inr rfl
      · exact .inr rfl
      · exact .inr rfl

/-- No search starts within a character. -/
theorem Progress.Sound.isBoundary_of_mem_lookups (h : p.Sound source pre) {fault : ManifestFault}
    {s : String × Nat} (hs : s ∈ p.lookups source.toList d fault) : IsBoundary source s.2 := by
  have hcursor := h.isBoundary_cursor
  have hoffset := h.isBoundary_offset d
  have hseen : ∀ name, IsBoundary source ((p.seen.lookup name).getD 0) := by
    intro name
    cases hlookup : p.seen.lookup name with
    | none => exact Text.isBoundary_zero source
    | some start =>
      obtain ⟨front, rest, hentries, -⟩ := List.lookup_eq_some_iff.mp hlookup
      exact h.starts (name, start) (by simp [hentries])
  unfold lookups at hs
  split at hs
  all_goals simp only [List.mem_cons, List.not_mem_nil, or_false] at hs
  · rcases hs with rfl | rfl
    · exact hseen _
    · exact hcursor
  · subst hs; exact hcursor
  · subst hs; exact hcursor
  · subst hs; exact hoffset
  · subst hs; exact hoffset
  · subst hs; exact hoffset
  · subst hs; exact hoffset

end Bindery.Validation
