import Bindery.Proofs.Manifest.Progress
import Mathlib.Data.List.Forall2

/-!
# Places in any text

What the places of a fault are when the text has nothing to do with the declarations. A place covers
the value at fault, which stands between quotes there; it is the first such place behind the start
of its search; and it is missing only if there is none. The two places of a duplicate are those of
both declarations, one behind the other.

## Main definitions

* `ManifestFault.IsOf`: the fault is about a host, or about a part of it

## Main results

* `Manifest.duplicate_places`: the places of a duplicate, and how the check gets there
* `Manifest.label_covers_value`: what the labels of a fault cover
-/

namespace Bindery

open Text (Span IsBoundary QuotedAt Finds bytes quoteByte)
open Validation (Progress locate)
open Validation.Progress (behind)

/-- The fault is about a host: about its name or a segment of it, its package, or one of its
fields. -/
def ManifestFault.IsOf (d : HostDecl) : ManifestFault → Prop
  | .duplicateHost name _ _ | .invalidIdentifier name .host _ _ => name = d.name
  | .reservedWord segment .host _ => segment ∈ Text.segments d.name
  | .packageMismatch package host _ => host = d.name ∧ d.package = some package
  | .reservedWord name (.fieldOf host) _ | .invalidIdentifier name (.fieldOf host) _ _
  | .blankType name host _ => host = d.name ∧ ∃ f ∈ d.fields, f.name = name
  | .unreadable _ | .notADocument | .badShape _ => False

namespace Validation

variable {source : String} {pre : List HostDecl} {d : HostDecl} {p q : Progress}
  {fault : ManifestFault}

/-- What a visit finds at fault is about the host that it visits. -/
theorem isOf_of_visit {source : List Char} (h : p.visit source d = .error fault) :
    fault.IsOf d := by
  rcases visit_eq_error h with ⟨first, -, rfl⟩ | ⟨-, hname | hhost⟩
  · exact rfl
  · rcases checkQualifiedName_eq_error hname with ⟨-, rfl⟩ | ⟨segment, hmem, hsegment⟩
    · exact rfl
    · rcases hsegment with ⟨-, rfl⟩ | ⟨reason, -, rfl⟩
      · exact hmem
      · exact rfl
  · rcases checkHost_eq_error hhost with hpackage | ⟨fs, f, more, hfields, hfield⟩
    · obtain ⟨package, hdeclared, -, rfl⟩ := checkPackage_eq_error hpackage
      exact ⟨rfl, hdeclared⟩
    · have hf : ∃ f' ∈ d.fields, f'.name = f.name := ⟨f, by simp [hfields], rfl⟩
      rcases checkField_eq_error hfield with ⟨-, rfl⟩ | ⟨reason, -, rfl⟩ | ⟨-, rfl⟩
      · exact ⟨rfl, hf⟩
      · exact ⟨rfl, hf⟩
      · exact ⟨rfl, hf⟩

/-- A search of the check finds the first place behind its start, if there is one. -/
theorem Progress.Sound.finds_of_mem_lookups (h : p.Sound source pre) {s : String × Nat}
    (hs : s ∈ p.lookups source.toList d fault) :
    Finds source s.1 s.2 (locate source.toList s.1 s.2) :=
  Text.finds_findQuoted? (h.isBoundary_of_mem_lookups hs) s.1

/-- What is searched for at a host is found like that as well. -/
theorem Progress.Sound.finds_of_mem_searches (h : p.Sound source pre) {s : String × Nat}
    (hs : s ∈ p.searches source.toList d) :
    IsBoundary source s.2 ∧ Finds source s.1 s.2 (locate source.toList s.1 s.2) := by
  have hboundary : IsBoundary source s.2 := by
    rcases List.mem_cons.mp hs with rfl | hs
    · exact h.isBoundary_cursor
    · split at hs
      · cases hs
      · exact h.isBoundary_of_mem_lookups hs
  exact ⟨hboundary, Text.finds_findQuoted? hboundary s.1⟩

/-- The places of a fault are what its searches find; only that of an empty name has none. -/
theorem Progress.Sound.forall₂_finds (h : p.Sound source pre)
    (hvisit : p.visit source.toList d = .error fault) :
    fault = .invalidIdentifier "" .host .empty none ∨
      List.Forall₂ (fun place s => Finds source s.1 s.2 place) (fault.remarks.map Prod.snd)
        (p.lookups source.toList d fault) := by
  refine (places_of_visit hvisit).imp_right fun hplaces => ?_
  rw [hplaces, List.forall₂_map_left_iff, List.forall₂_same]
  intro s hs
  exact h.finds_of_mem_lookups hs

/-- A label is at the place that one of the searches finds. -/
theorem Progress.Sound.exists_finds_of_label (h : p.Sound source pre) {label : Label}
    (hvisit : p.visit source.toList d = .error fault) (hlabel : label ∈ fault.labels) :
    ∃ s ∈ p.lookups source.toList d fault, Finds source s.1 s.2 (some label.span) := by
  obtain ⟨remark, hremark, hspan⟩ := List.mem_filterMap.mp hlabel
  obtain ⟨span, hplace, rfl⟩ := Option.map_eq_some_iff.mp hspan
  have hmem : some span ∈ fault.remarks.map Prod.snd := List.mem_map.mpr ⟨remark, hremark, hplace⟩
  rcases places_of_visit hvisit with rfl | hplaces
  · cases hlabel
  · rw [hplaces] at hmem
    obtain ⟨s, hs, hfound⟩ := List.mem_map.mp hmem
    refine ⟨s, hs, ?_⟩
    rw [← hfound]
    exact h.finds_of_mem_lookups hs

/-- Only a name that was seen is a duplicate. -/
theorem lookup_of_visit_duplicate {source : List Char} {name : String} {first second : Option Span}
    (h : p.visit source d = .error (.duplicateHost name first second)) :
    name = d.name ∧ ∃ start, p.seen.lookup d.name = some start ∧
      first = locate source d.name start ∧ second = p.found source d := by
  rcases visit_eq_error h with ⟨start, hstart, hfault⟩ | ⟨-, hname | hhost⟩
  · cases hfault
    exact ⟨rfl, start, hstart, rfl, rfl⟩
  · rcases checkQualifiedName_eq_error hname with ⟨-, hfault⟩ | ⟨_, -, hsegment⟩
    · cases hfault
    · rcases hsegment with ⟨-, hfault⟩ | ⟨_, -, hfault⟩
      · cases hfault
      · cases hfault
  · rcases checkHost_eq_error hhost with hpackage | ⟨_, _, _, -, hfield⟩
    · obtain ⟨_, -, -, hfault⟩ := checkPackage_eq_error hpackage
      cases hfault
    · rcases checkField_eq_error hfield with ⟨-, hfault⟩ | ⟨_, -, hfault⟩ | ⟨-, hfault⟩
      · cases hfault
      · cases hfault
      · cases hfault

/-- Behind a host that is in order, the cursor stays behind the place of its name. -/
theorem offset_le_cursor {after : List HostDecl} (hp : behind source.toList pre = .ok p)
    (hq : behind source.toList (pre ++ d :: after) = .ok q) :
    p.offset source.toList d ≤ q.cursor := by
  rw [List.append_cons] at hq
  obtain ⟨r, hr, -⟩ := bind_eq_ok (List.foldlM_append.symm.trans hq)
  have hvisit : p.visit source.toList d = .ok r := by
    rw [← hr]
    exact (behind_append_singleton.trans (by rw [hp]; rfl)).symm
  obtain ⟨-, -, -, rfl⟩ := visit_eq_ok hvisit
  exact cursor_le_of_behind hr hq

/-- The places of a duplicate are those of the two hosts: the first one is found again, and the
second one is behind it or nowhere. -/
theorem places_of_visit_duplicate {name : String} {first second : Option Span}
    (hq : behind source.toList pre = .ok q)
    (hvisit : q.visit source.toList d = .error (.duplicateHost name first second)) :
    ∃ before e after p, pre = before ++ e :: after ∧ e.name = name ∧ d.name = name ∧
      (∀ g ∈ before ++ after, g.name ≠ name) ∧ behind source.toList before = .ok p ∧
      first = p.found source.toList e ∧ second = q.found source.toList d ∧
      (second.isSome = true → first.isSome = true) ∧
      ∀ a ∈ first, ∀ b ∈ second, a.offset + a.length < b.offset := by
  have hsound := sound_of_behind hq
  obtain ⟨rfl, start, hstart, rfl, rfl⟩ := lookup_of_visit_duplicate hvisit
  obtain ⟨before, e, after, p, rfl, hname, hp, rfl⟩ := hsound.first hstart
  have hplain : '"' ∉ e.name.toList := hsound.plain e (by simp)
  have hother : ∀ g ∈ before ++ after, g.name ≠ e.name := by
    have hdistinct := hsound.distinct
    rw [List.map_append, List.map_cons, List.nodup_middle, List.nodup_cons, ← List.map_append]
      at hdistinct
    intro g hg heq
    exact hdistinct.1 (List.mem_map.mpr ⟨g, hg, heq⟩)
  have hagain : locate source.toList e.name (p.offset source.toList e - 1) =
      p.found source.toList e :=
    (sound_of_behind hp).locate_again (fun g hg => hother g (List.mem_append_left _ hg)) hplain
  have hle := offset_le_cursor hp hq
  have hfirst := (sound_of_behind hp).finds_found e
  have hsecond := hsound.finds_found d
  rw [← hname] at hsecond ⊢
  rw [hagain]
  refine ⟨before, e, after, p, rfl, rfl, rfl, hother, hp, rfl, rfl, ?_⟩
  obtain ⟨span, hfound, hoffset, hspan, -⟩ | ⟨hfound, hoffset⟩ :=
    (sound_of_behind hp).offset_cases e
  · refine ⟨fun _ => by rw [hfound]; rfl, ?_⟩
    intro a ha b hb
    rw [hb] at hsecond
    obtain rfl : span = a := Option.some.inj (hfound.symm.trans ha)
    have hbehind := hsecond.2.1
    exact hspan.end_lt hsecond.1 hplain (by omega)
  · -- what was not found from the place of the first host is not found from behind it
    rw [hfound] at hfirst ⊢
    refine ⟨fun hsome => ?_, fun a ha => by cases ha⟩
    obtain ⟨b, hb⟩ := Option.isSome_iff_exists.mp hsome
    rw [hb] at hsecond
    have hback := hfirst b hsecond.1
    have hbehind := hsecond.2.1
    omega

end Validation

namespace Manifest

theorem exists_visit_of_validate {m : Manifest} {source file : String} {e : ManifestError}
    (h : m.validate source file = .error e) :
    ∃ pre d post p, m.hosts = pre ++ d :: post ∧ behind source.toList pre = .ok p ∧
      p.visit source.toList d = .error e.fault :=
  Validation.exists_visit_of_check_eq_error (validate_eq_error_iff.mp h).1

/-- **Both declarations of a duplicate are found.** The check visits the hosts one after the other.
If it reports a duplicate, then the first place is what was found when the first host of the name
was visited, a place or none; if there is a second place, there is a first one, and it ends in front
of the second one. On the way the cursor never goes back, and every search, also one from a place
that goes with a name seen, starts between characters and so finds what there is to find. -/
theorem duplicate_places (m : Manifest) (source file : String) :
    m.check source = (behind source.toList m.hosts).map (fun _ => ()) ∧
      (∀ error name first second, m.validate source file = .error error →
        error.fault = .duplicateHost name first second →
        ∃ pre d mid e post p q, m.hosts = pre ++ d :: (mid ++ e :: post) ∧
          d.name = name ∧ e.name = name ∧ (∀ g ∈ pre ++ mid, g.name ≠ name) ∧
          behind source.toList pre = .ok p ∧ behind source.toList (pre ++ d :: mid) = .ok q ∧
          first = p.found source.toList d ∧ second = q.found source.toList e ∧
          (second.isSome = true → first.isSome = true) ∧
          ∀ a ∈ first, ∀ b ∈ second, a.offset + a.length < b.offset) ∧
      ∀ pre d post p, m.hosts = pre ++ d :: post → behind source.toList pre = .ok p →
        (∀ q, p.visit source.toList d = .ok q → p.cursor ≤ q.cursor) ∧
        (∀ entry ∈ p.seen, IsBoundary source entry.2) ∧
        ∀ s ∈ p.searches source.toList d,
          IsBoundary source s.2 ∧ Finds source s.1 s.2 (locate source.toList s.1 s.2) := by
  refine ⟨Validation.check_eq_behind m source, ?_, ?_⟩
  · intro error name first second h hfault
    obtain ⟨pre, e, post, q, hhosts, hq, hvisit⟩ := exists_visit_of_validate h
    rw [hfault] at hvisit
    obtain ⟨before, d, mid, p, rfl, hd, he, hother, hp, hfirst, hsecond, hsome, hlt⟩ :=
      Validation.places_of_visit_duplicate hq hvisit
    refine ⟨before, d, mid, e, post, p, q, ?_, hd, he, hother, hp, hq, hfirst, hsecond, hsome, hlt⟩
    rw [hhosts, List.append_assoc, List.cons_append]
  · intro pre d post p _ hp
    have hsound := Validation.sound_of_behind hp
    refine ⟨?_, hsound.starts, fun s hs => hsound.finds_of_mem_searches hs⟩
    intro q hvisit
    obtain ⟨-, -, -, rfl⟩ := Validation.visit_eq_ok hvisit
    exact hsound.cursor_le_offset d

/-- The name of the host in the middle is not in the text, and the places of the duplicate are those
of the two hosts around it. -/
theorem duplicate_places_around_missing_name :
    let m : Manifest := { hosts := [{ name := "a.B" }, { name := "c.D" }, { name := "a.B" }] }
    let source := "ä \"a.B\" \"a.B\""
    m.validate source "shiv.toml" = .error
        { fault := .duplicateHost "a.B" (some { offset := 4, length := 3 })
            (some { offset := 10, length := 3 })
          file := "shiv.toml" } ∧
      ∃ pre d mid e post p q, m.hosts = pre ++ d :: (mid ++ e :: post) ∧
        behind source.toList pre = .ok p ∧ behind source.toList (pre ++ d :: mid) = .ok q ∧
        p.found source.toList d = some { offset := 4, length := 3 } ∧
        q.found source.toList e = some { offset := 10, length := 3 } := by
  intro m source
  have hvalidate : m.validate source "shiv.toml" = .error
      { fault := .duplicateHost "a.B" (some { offset := 4, length := 3 })
          (some { offset := 10, length := 3 })
        file := "shiv.toml" } := by decide
  obtain ⟨pre, d, mid, e, post, p, q, hhosts, -, -, -, hp, hq, hfirst, hsecond, -⟩ :=
    (duplicate_places m source "shiv.toml").2.1 _ _ _ _ hvalidate rfl
  exact ⟨hvalidate, pre, d, mid, e, post, p, q, hhosts, hp, hq, hfirst.symm, hsecond.symm⟩

/-- **Labels cover the value at fault.** An error is about the first host that is not in order, or
about a part of it. Each of its places is the first place behind the start of its search at which
the value stands between quotes, and it is missing only if there is none, or if the name of the host
is empty. So a label lies in the text and between its characters, its bytes are those of the value,
and a quote stands in front of it and behind it. -/
theorem label_covers_value {m : Manifest} {source file : String} {e : ManifestError}
    (h : m.validate source file = .error e) :
    ∃ pre d post p, m.hosts = pre ++ d :: post ∧ behind source.toList pre = .ok p ∧
      p.visit source.toList d = .error e.fault ∧ e.fault.IsOf d ∧
      (e.fault = .invalidIdentifier "" .host .empty none ∨
        List.Forall₂ (fun place s => Finds source s.1 s.2 place) (e.fault.remarks.map Prod.snd)
          (p.lookups source.toList d e.fault)) ∧
      ∀ label ∈ e.fault.labels, ∃ s ∈ p.lookups source.toList d e.fault,
        s.2 < label.span.offset ∧
        label.span.offset + label.span.length < source.utf8ByteSize ∧
        IsBoundary source label.span.offset ∧
        IsBoundary source (label.span.offset + label.span.length) ∧
        ((bytes source).drop label.span.offset).take label.span.length = bytes s.1 ∧
        (bytes source)[label.span.offset - 1]? = some quoteByte ∧
        (bytes source)[label.span.offset + label.span.length]? = some quoteByte := by
  obtain ⟨pre, d, post, p, hhosts, hp, hvisit⟩ := exists_visit_of_validate h
  have hsound := Validation.sound_of_behind hp
  refine ⟨pre, d, post, p, hhosts, hp, hvisit, Validation.isOf_of_visit hvisit,
    hsound.forall₂_finds hvisit, ?_⟩
  intro label hlabel
  obtain ⟨s, hs, hspan, hstart, -⟩ := hsound.exists_finds_of_label hvisit hlabel
  obtain ⟨hfront, hvalue, hback⟩ := hspan.covers
  obtain ⟨-, hbegin, hend⟩ := hspan.boundaries
  exact ⟨s, hs, hstart, hspan.end_lt_size, hbegin, hend, hvalue, hfront, hback⟩

/-- A segment that is a reserved word stands alone in front of the name, and the label covers the
name. -/
theorem label_covers_name_behind_segment :
    let m : Manifest := { hosts := [{ name := "a.class" }] }
    let source := "€ \"class\" \"a.class\""
    let span : Span := { offset := 13, length := 7 }
    m.validate source "shiv.toml" = .error
        { fault := .reservedWord "class" .host (some span), file := "shiv.toml" } ∧
      ∃ pre d post p, m.hosts = pre ++ d :: post ∧ behind source.toList pre = .ok p ∧
        Finds source d.name p.cursor (some span) := by
  intro m source span
  have hvalidate : m.validate source "shiv.toml" = .error
      { fault := .reservedWord "class" .host (some span), file := "shiv.toml" } := by decide
  obtain ⟨pre, d, post, p, hhosts, hp, -, -, hfinds, -⟩ := label_covers_value hvalidate
  refine ⟨hvalidate, pre, d, post, p, hhosts, hp, ?_⟩
  rcases hfinds with hempty | hfinds
  · cases hempty
  · exact (List.forall₂_cons.mp hfinds).1

end Manifest

end Bindery
