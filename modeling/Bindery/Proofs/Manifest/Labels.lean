import Bindery.Proofs.Document.Search
import Bindery.Proofs.Manifest.Faults
import Bindery.Proofs.Manifest.Written
import Mathlib.Data.List.Chain
import Mathlib.Data.List.Nodup

/-!
# Labels in written manifests

The places of a fault are searched for as quoted texts: the name of a host from behind the name of
the host in front, a package and the names of fields from behind the name of their host. In a
written manifest such a search finds the declaration, unless an equal text stands between quotes on
the way. Then the label goes to that text: a type or key can draw the label of a later name.

## Main definitions

* `HostDecl.namePlace`, `HostDecl.packagePlace`, `HostDecl.fieldPlace`: where declarations stand
* `Manifest.IsApart`: no search meets an equal text on its way
* `ManifestFault.IsPlaced`: the places of a fault are those of the declarations that it is about

## Main results

* `Validation.isPlaced_of_checkHosts`: the faults of a written manifest are placed
* `Manifest.isPlaced_of_read`: every label of a fault lies in the value at fault
* `Manifest.duplicate_astray`: a type that names a host draws the labels of its duplicate
-/

namespace Bindery

open Text (Span byteLength Passes passes_of_notMem passes_lineEnd)
open Document (Value betweenLines writtenLines writtenTables)

/-! ## Where declarations stand -/

/-- The place of a value behind a text that ends with its opening quote. -/
def Text.placeBehind (front value : String) : Span :=
  { offset := byteLength front.toList, length := byteLength value.toList }

/-- What stands in front of the name that a table starts with, up to its quote. -/
def Document.Table.lead (t : Document.Table) : String := t.title ++ "\nname = "

namespace HostDecl

/-- The place of the name of a host behind other hosts. -/
def namePlace (pre : List HostDecl) (d : HostDecl) : Span :=
  Text.placeBehind (Manifest.written pre ++ d.table.lead ++ "\"") d.name

/-- The lines of a host behind its name. -/
def ownLines (d : HostDecl) : List (String × Value) :=
  ("kind", .text d.kind.name) :: (d.package.map fun package => ("package", .text package)).toList

/-- The place of the package of a host behind other hosts. -/
def packagePlace (pre : List HostDecl) (d : HostDecl) (package : String) : Span :=
  Text.placeBehind (Manifest.written pre ++ d.table.lead ++ "\"" ++ d.name ++ "\"" ++ "\n"
    ++ writtenLines [("kind", .text d.kind.name)] ++ "package = " ++ "\"") package

/-- The place of the name of a field behind other fields of its host. -/
def fieldPlace (pre : List HostDecl) (d : HostDecl) (fs : List FieldDecl) (f : FieldDecl) : Span :=
  Text.placeBehind (Manifest.written pre ++ writtenTables (d.table :: fs.map FieldDecl.table)
    ++ f.table.lead ++ "\"") f.name

/-- What stands between quotes behind the name of a host, up to the end of some of its fields. -/
def stringsUpTo (d : HostDecl) (fs : List FieldDecl) : List String :=
  betweenLines d.ownLines ++ fs.flatMap fun f => betweenLines f.table.lines

end HostDecl

/-- Between the place where a search starts and the value it is for stands no other text that is
equal. -/
structure Manifest.IsApart (ds : List HostDecl) : Prop where
  name : ds.IsChain fun d next => next.name ∉ d.stringsUpTo d.fields
  package : ∀ d ∈ ds, ∀ package ∈ d.package, package ≠ d.kind.name
  field : ∀ d ∈ ds, ∀ i, ∀ h : i < d.fields.length,
    d.fields[i].name ∉ d.stringsUpTo (d.fields.take i)

instance (ds : List HostDecl) : Decidable (Manifest.IsApart ds) :=
  decidable_of_iff
    ((ds.IsChain fun d next => next.name ∉ d.stringsUpTo d.fields) ∧
      (∀ d ∈ ds, ∀ package ∈ d.package, package ≠ d.kind.name) ∧
      ∀ d ∈ ds, ∀ i, ∀ h : i < d.fields.length,
        d.fields[i].name ∉ d.stringsUpTo (d.fields.take i))
    ⟨fun ⟨hname, hpackage, hfield⟩ => ⟨hname, hpackage, hfield⟩,
      fun h => ⟨h.name, h.package, h.field⟩⟩

/-- The places of a fault are those of the declarations that break the rule it is about. -/
inductive ManifestFault.IsPlaced (ds : List HostDecl) : ManifestFault → Prop
  /-- Both places are names of hosts, the first one and the next one of that name. -/
  | duplicateHost {pre mid post first second} (hds : ds = pre ++ first :: (mid ++ second :: post))
      (hname : first.name = second.name) (hnew : ∀ d ∈ pre ++ mid, d.name ≠ second.name) :
      IsPlaced ds (.duplicateHost second.name (some (HostDecl.namePlace pre first))
        (some (HostDecl.namePlace (pre ++ first :: mid) second)))
  /-- The name of a host is a reserved word, or a segment of it is. -/
  | reservedHost {pre d post segment} (hds : ds = pre ++ d :: post)
      (hsegment : segment ∈ Text.segments d.name) (hreserved : Target.isReserved segment = true) :
      IsPlaced ds (.reservedWord segment .host (some (HostDecl.namePlace pre d)))
  /-- The name of a host has a segment that is not well formed. -/
  | invalidHost {pre d post segment reason} (hds : ds = pre ++ d :: post)
      (hsegment : segment ∈ Text.segments d.name)
      (hreason : Target.identifierFault? segment = some reason) :
      IsPlaced ds (.invalidIdentifier d.name .host reason (some (HostDecl.namePlace pre d)))
  /-- The name of a host is empty, which has no place. -/
  | emptyHost {pre d post} (hds : ds = pre ++ d :: post) (hname : d.name = "") :
      IsPlaced ds (.invalidIdentifier d.name .host .empty none)
  /-- The package of a host does not enclose it. -/
  | packageMismatch {pre d post package} (hds : ds = pre ++ d :: post)
      (hpackage : d.package = some package)
      (hencloses : Validation.encloses package d.name = false) :
      IsPlaced ds (.packageMismatch package d.name (some (d.packagePlace pre package)))
  /-- The name of a field is a reserved word. -/
  | reservedField {pre d post fs f more} (hds : ds = pre ++ d :: post)
      (hfield : d.fields = fs ++ f :: more) (hreserved : Target.isReserved f.name = true) :
      IsPlaced ds (.reservedWord f.name (.fieldOf d.name) (some (d.fieldPlace pre fs f)))
  /-- The name of a field is not well formed. -/
  | invalidField {pre d post fs f more reason} (hds : ds = pre ++ d :: post)
      (hfield : d.fields = fs ++ f :: more)
      (hreason : Target.identifierFault? f.name = some reason) :
      IsPlaced ds
        (.invalidIdentifier f.name (.fieldOf d.name) reason (some (d.fieldPlace pre fs f)))
  /-- The type of a field is blank. -/
  | blankType {pre d post fs f more} (hds : ds = pre ++ d :: post)
      (hfield : d.fields = fs ++ f :: more) (hblank : Text.isAllBlank f.type = true) :
      IsPlaced ds (.blankType f.name d.name (some (d.fieldPlace pre fs f)))

/-- The places of a duplicate are those of two hosts, one behind the other. -/
theorem ManifestFault.IsPlaced.exists_of_duplicate {ds : List HostDecl} {name : String}
    {first second : Option Span} (h : IsPlaced ds (.duplicateHost name first second)) :
    ∃ pre d mid e post, ds = pre ++ d :: (mid ++ e :: post) ∧ d.name = name ∧
      first = some (HostDecl.namePlace pre d) ∧
      second = some (HostDecl.namePlace (pre ++ d :: mid) e) := by
  cases h with
  | duplicateHost hds hname hnew => exact ⟨_, _, _, _, _, hds, hname, rfl, rfl⟩

/-! ## The text around declarations -/

/-- A table that starts with a name. -/
theorem Document.writtenTables_cons_of_name {t : Document.Table} {name : String}
    {more : List (String × Value)} (h : t.lines = ("name", .text name) :: more)
    (ts : List Document.Table) :
    writtenTables (t :: ts) =
      t.lead ++ "\"" ++ name ++ "\"" ++ "\n" ++ writtenLines more ++ writtenTables ts := by
  apply String.toList_inj.mp
  simp [Document.toList_writtenTables_cons, h, Document.toList_writtenLines_cons,
    Document.assigned, Value.written, Document.toList_quoted, String.toList_append,
    Document.Table.lead]

theorem Document.writtenTables_append (ts more : List Document.Table) :
    writtenTables (ts ++ more) = writtenTables ts ++ writtenTables more := by
  rw [writtenTables, List.map_append, String.join_append, writtenTables, writtenTables]

theorem HostDecl.writtenTables_cons (d : HostDecl) (ts : List Document.Table) :
    writtenTables (d.table :: ts) = d.table.lead ++ "\"" ++ d.name ++ "\"" ++ "\n"
      ++ writtenLines d.ownLines ++ writtenTables ts :=
  Document.writtenTables_cons_of_name rfl ts

theorem FieldDecl.writtenTables_cons (f : FieldDecl) (ts : List Document.Table) :
    writtenTables (f.table :: ts) = f.table.lead ++ "\"" ++ f.name ++ "\"" ++ "\n"
      ++ writtenLines f.table.lines.tail ++ writtenTables ts :=
  Document.writtenTables_cons_of_name rfl ts

theorem Manifest.written_nil : written [] = "" := rfl

theorem Manifest.written_cons (d : HostDecl) (ds : List HostDecl) :
    written (d :: ds) = writtenTables d.tables ++ written ds := by
  rw [written, List.flatMap_cons, Document.writtenTables_append, written]

theorem Manifest.written_append (ds es : List HostDecl) :
    written (ds ++ es) = written ds ++ written es := by
  rw [written, List.flatMap_append, Document.writtenTables_append, written, written]

/-- The text around the name of a host. -/
theorem Manifest.written_append_cons (pre : List HostDecl) (d : HostDecl) (post : List HostDecl) :
    written (pre ++ d :: post) =
      written pre ++ d.table.lead ++ "\"" ++ d.name ++ "\"" ++ "\n" ++ writtenLines d.ownLines
        ++ writtenTables (d.fields.map FieldDecl.table) ++ written post := by
  rw [written_append, written_cons, HostDecl.tables, HostDecl.writtenTables_cons]
  simp only [String.append_assoc]

namespace Validation

/-- A search from behind `front` finds a value that stands behind what it passes over. -/
theorem locate_of_passes {source front stretch value rest : String}
    (hsource : source = front ++ (stretch ++ "\"" ++ (value ++ ("\"" ++ rest))))
    (hpass : Passes value.toList stretch.toList) :
    locate source.toList value (byteLength front.toList) =
      some (Text.placeBehind (front ++ stretch ++ "\"") value) := by
  have hfound := Text.findQuoted?_of_passes hpass front.toList rest.toList
  have hsplit : source.toList =
      front.toList ++ (stretch.toList ++ (Text.quote value.toList ++ rest.toList)) := by
    simp [hsource, Text.quote, String.toList_append]
  rw [locate, hsplit, hfound, Text.placeBehind]
  have hquote : byteLength ['"'] = 1 := rfl
  simp [String.toList_append, Text.byteLength_append, hquote, Nat.add_assoc]

/-! ## What searches pass over -/

section Passing

variable {v : String} (hv : Document.IsPlain v) {d : HostDecl} (hd : d.IsPlain)

include hv hd

/-- A search from the name of a host passes over the end of the name. -/
theorem passes_nameEnd : Passes v.toList (d.name ++ "\"" ++ "\n").toList := by
  have hend : Passes v.toList ('"' :: [] ++ ['\n']) :=
    passes_lineEnd hv.newline_notMem List.not_mem_nil
  rw [String.append_assoc, String.toList_append]
  exact (passes_of_notMem hd.name.quote_notMem).append hend

/-- A search from the name of a host passes over its own lines and over fields. -/
theorem passes_upTo {fs : List FieldDecl} (hfs : ∀ f ∈ fs, f.IsPlain)
    (hne : v ∉ d.stringsUpTo fs) :
    Passes v.toList (d.name ++ "\"" ++ "\n" ++ writtenLines d.ownLines
      ++ writtenTables (fs.map FieldDecl.table)).toList := by
  rw [HostDecl.stringsUpTo, List.mem_append, not_or] at hne
  have hown : ∀ line ∈ d.ownLines, Document.IsBare line.1 ∧ line.2.IsPlain :=
    fun line hline => (hd.tables _ List.mem_cons_self).lines line (List.mem_cons_of_mem _ hline)
  have htables : ∀ t ∈ fs.map FieldDecl.table, t.IsPlain := by
    intro t ht
    obtain ⟨f, hf, rfl⟩ := List.mem_map.mp ht
    exact (hfs f hf).table
  have hfields := Document.passes_writtenTables hv htables (by simpa [List.flatMap_map] using hne.2)
  rw [String.toList_append, String.toList_append]
  exact ((passes_nameEnd hv hd).append (Document.passes_writtenLines hv hown hne.1)).append hfields

end Passing

/-- A search passes over a header and the key of a name. -/
theorem passes_lead (value : List Char) {t : Document.Table} (ht : t.IsPlain) :
    Passes value t.lead.toList := by
  rw [Document.Table.lead, String.toList_append]
  exact passes_of_notMem (by simp [ht.quote_notMem_title])

/-! ## Where searches arrive -/

/-- The search for the next host starts at the name of the host in front, if there is one. -/
def CursorAt (pre : List HostDecl) (cursor : Nat) : Prop :=
  (pre = [] ∧ cursor = 0) ∨
    ∃ before last, pre = before ++ [last] ∧ cursor = (HostDecl.namePlace before last).offset

variable {pre post : List HostDecl} {d : HostDecl}

/-- The search for the name of a host finds it. -/
theorem locate_name (hplain : ∀ e ∈ pre ++ d :: post, e.IsPlain)
    (hapart : Manifest.IsApart (pre ++ d :: post)) {cursor : Nat} (hcursor : CursorAt pre cursor) :
    locate (Manifest.written (pre ++ d :: post)).toList d.name cursor =
      some (HostDecl.namePlace pre d) := by
  have hd : d.IsPlain := hplain d (by simp)
  have hlead := passes_lead d.name.toList (hd.tables d.table List.mem_cons_self)
  let rest := "\n" ++ writtenLines d.ownLines ++ writtenTables (d.fields.map FieldDecl.table)
    ++ Manifest.written post
  obtain ⟨rfl, rfl⟩ | ⟨before, last, rfl, rfl⟩ := hcursor
  · have hsource : Manifest.written ([] ++ d :: post) =
        Manifest.written [] ++ (d.table.lead ++ "\"" ++ (d.name ++ ("\"" ++ rest))) := by
      simp only [Manifest.written_append_cons, String.append_assoc, rest]
    exact locate_of_passes hsource hlead
  · have hlast : last.IsPlain := hplain last (by simp)
    have hchain := hapart.name
    rw [List.append_assoc, List.singleton_append, List.isChain_append_cons_cons] at hchain
    have hne : d.name ∉ last.stringsUpTo last.fields := hchain.2.1
    have hpass := (passes_upTo hd.name hlast hlast.fields hne).append hlead
    rw [← String.toList_append] at hpass
    have hsource : Manifest.written (before ++ [last] ++ d :: post) =
        Manifest.written before ++ last.table.lead ++ "\"" ++
          (last.name ++ "\"" ++ "\n" ++ writtenLines last.ownLines
              ++ writtenTables (last.fields.map FieldDecl.table) ++ d.table.lead ++ "\"" ++
            (d.name ++ ("\"" ++ rest))) := by
      simp only [Manifest.written_append_cons, Manifest.written_nil, String.append_assoc,
        String.empty_append, rest]
    refine (locate_of_passes hsource hpass).trans ?_
    simp only [HostDecl.namePlace, Manifest.written_append_cons, Manifest.written_nil,
      String.append_assoc, String.empty_append]

/-- A search from the place where a name was found finds it again. -/
theorem locate_again : locate (Manifest.written (pre ++ d :: post)).toList d.name
    ((HostDecl.namePlace pre d).offset - 1) = some (HostDecl.namePlace pre d) := by
  let rest := "\n" ++ writtenLines d.ownLines ++ writtenTables (d.fields.map FieldDecl.table)
    ++ Manifest.written post
  have hsource : Manifest.written (pre ++ d :: post) =
      Manifest.written pre ++ d.table.lead ++ ("" ++ "\"" ++ (d.name ++ ("\"" ++ rest))) := by
    simp only [Manifest.written_append_cons, String.append_assoc, String.empty_append, rest]
  have hoffset : (HostDecl.namePlace pre d).offset - 1 =
      byteLength (Manifest.written pre ++ d.table.lead).toList := by
    rw [HostDecl.namePlace, Text.placeBehind, String.toList_append, Text.byteLength_append]
    exact Nat.add_sub_cancel _ 1
  rw [hoffset, locate_of_passes hsource Passes.nil, String.append_empty, HostDecl.namePlace]

/-- The search for the package of a host finds it. -/
theorem locate_package (hplain : ∀ e ∈ pre ++ d :: post, e.IsPlain)
    (hapart : Manifest.IsApart (pre ++ d :: post)) {package : String}
    (hpackage : d.package = some package) :
    locate (Manifest.written (pre ++ d :: post)).toList package
      (HostDecl.namePlace pre d).offset = some (d.packagePlace pre package) := by
  have hd : d.IsPlain := hplain d (by simp)
  have hv : Document.IsPlain package := hd.package package hpackage
  have hkind : d.kind.name ≠ package := (hapart.package d (by simp) package hpackage).symm
  let kind : List (String × Value) := [("kind", .text d.kind.name)]
  have hown : writtenLines d.ownLines =
      writtenLines kind ++ "package = " ++ "\"" ++ package ++ "\"" ++ "\n" := by
    apply String.toList_inj.mp
    simp [HostDecl.ownLines, hpackage, kind, writtenLines, Document.assigned, Value.written,
      Document.toList_quoted, String.toList_append]
  have hpass : Passes package.toList
      (d.name ++ "\"" ++ "\n" ++ writtenLines kind ++ "package = ").toList := by
    have hlines : ∀ line ∈ kind, Document.IsBare line.1 ∧ line.2.IsPlain := by
      rintro line hline
      obtain rfl := List.mem_singleton.mp hline
      exact ⟨isBare_of_mem (by simp [writtenKeys]), d.kind.isPlain_name⟩
    have hne : package ∉ betweenLines kind := by
      simpa [betweenLines, kind, Value.between] using hkind.symm
    rw [String.toList_append, String.toList_append]
    exact ((passes_nameEnd hv hd).append (Document.passes_writtenLines hv hlines hne)).append
      (passes_of_notMem (by decide))
  let rest := "\n" ++ writtenTables (d.fields.map FieldDecl.table) ++ Manifest.written post
  have hsource : Manifest.written (pre ++ d :: post) =
      Manifest.written pre ++ d.table.lead ++ "\"" ++
        (d.name ++ "\"" ++ "\n" ++ writtenLines kind ++ "package = " ++ "\"" ++
          (package ++ ("\"" ++ rest))) := by
    simp only [Manifest.written_append_cons, hown, String.append_assoc, rest]
  refine (locate_of_passes hsource hpass).trans ?_
  simp only [HostDecl.packagePlace, String.append_assoc, kind]

/-- The search for the name of a field finds it. -/
theorem locate_field (hplain : ∀ e ∈ pre ++ d :: post, e.IsPlain)
    (hapart : Manifest.IsApart (pre ++ d :: post)) {fs more : List FieldDecl} {f : FieldDecl}
    (hfield : d.fields = fs ++ f :: more) :
    locate (Manifest.written (pre ++ d :: post)).toList f.name
      (HostDecl.namePlace pre d).offset = some (d.fieldPlace pre fs f) := by
  have hd : d.IsPlain := hplain d (by simp)
  have hfs : ∀ g ∈ fs, g.IsPlain := fun g hg => hd.fields g (by simp [hfield, hg])
  have hf : f.IsPlain := hd.fields f (by simp [hfield])
  have hne : f.name ∉ d.stringsUpTo fs := by
    have hlt : fs.length < d.fields.length := by simp [hfield]
    simpa [hfield] using hapart.field d (by simp) fs.length hlt
  have hpass := (passes_upTo hf.name hd hfs hne).append (passes_lead f.name.toList hf.table)
  rw [← String.toList_append] at hpass
  let rest := "\n" ++ writtenLines f.table.lines.tail ++ writtenTables (more.map FieldDecl.table)
    ++ Manifest.written post
  have hsource : Manifest.written (pre ++ d :: post) =
      Manifest.written pre ++ d.table.lead ++ "\"" ++
        (d.name ++ "\"" ++ "\n" ++ writtenLines d.ownLines
            ++ writtenTables (fs.map FieldDecl.table) ++ f.table.lead ++ "\"" ++
          (f.name ++ ("\"" ++ rest))) := by
    simp only [Manifest.written_append_cons, hfield, List.map_append, List.map_cons,
      Document.writtenTables_append, FieldDecl.writtenTables_cons, String.append_assoc, rest]
  refine (locate_of_passes hsource hpass).trans ?_
  simp only [HostDecl.fieldPlace, HostDecl.writtenTables_cons, String.append_assoc]

/-! ## Faults and their places -/

open ManifestFault (IsPlaced)

/-- The faults of the name of a host are placed at the name. -/
theorem isPlaced_of_checkQualifiedName {source : List Char} {cursor : Nat}
    (hlocate : locate source d.name cursor = some (HostDecl.namePlace pre d))
    {fault : ManifestFault} (h : checkQualifiedName source d.name .host cursor = .error fault) :
    IsPlaced (pre ++ d :: post) fault := by
  obtain ⟨hname, rfl⟩ | ⟨segment, hsegment, ⟨hreserved, rfl⟩ | ⟨reason, hreason, rfl⟩⟩ :=
    checkQualifiedName_eq_error h
  · exact .emptyHost rfl hname
  · rw [hlocate]
    exact .reservedHost rfl hsegment hreserved
  · rw [hlocate]
    exact .invalidHost rfl hsegment hreason

/-- The faults of the package and the fields of a host are placed at these. -/
theorem isPlaced_of_checkHost (hplain : ∀ e ∈ pre ++ d :: post, e.IsPlain)
    (hapart : Manifest.IsApart (pre ++ d :: post)) {fault : ManifestFault}
    (h : checkHost (Manifest.written (pre ++ d :: post)).toList d
      (HostDecl.namePlace pre d).offset = .error fault) : IsPlaced (pre ++ d :: post) fault := by
  rcases checkHost_eq_error h with hpackage | ⟨fs, f, more, hfield, hf⟩
  · obtain ⟨package, hp, hencloses, rfl⟩ := checkPackage_eq_error hpackage
    rw [locate_package hplain hapart hp]
    exact .packageMismatch rfl hp hencloses
  · have hlocate := locate_field hplain hapart hfield
    obtain ⟨hreserved, rfl⟩ | ⟨reason, hreason, rfl⟩ | ⟨hblank, rfl⟩ := checkField_eq_error hf
    · rw [hlocate]
      exact .reservedField rfl hfield hreserved
    · rw [hlocate]
      exact .invalidField rfl hfield hreason
    · rw [hlocate]
      exact .blankType rfl hfield hblank

/-- What is known of the names seen: they are those of the hosts in front, and a search for one of
them starts right in front of the name of its host. -/
structure SeenIn (pre : List HostDecl) (seen : List (String × Nat)) : Prop where
  distinct : (pre.map HostDecl.name).Nodup
  new : ∀ {name}, seen.lookup name = none → ∀ d ∈ pre, d.name ≠ name
  first : ∀ {name start}, seen.lookup name = some start → ∃ before d after,
    pre = before ++ d :: after ∧ d.name = name ∧ start = (HostDecl.namePlace before d).offset - 1

theorem seenIn_nil : SeenIn [] [] where
  distinct := .nil
  new _ := List.forall_mem_nil _
  first h := by cases h

/-- A host with a name that is not seen yet can be seen next. -/
theorem SeenIn.push {seen : List (String × Nat)} (h : SeenIn pre seen)
    (hnew : seen.lookup d.name = none) :
    SeenIn (pre ++ [d]) ((d.name, (HostDecl.namePlace pre d).offset - 1) :: seen) where
  distinct := by
    have hname : ∀ name ∈ pre.map HostDecl.name, name ≠ d.name := by
      intro name hmem
      obtain ⟨e, he, rfl⟩ := List.mem_map.mp hmem
      exact h.new hnew e he
    rw [List.map_append, List.map_singleton, List.nodup_append]
    refine ⟨h.distinct, by simp, fun name hmem other hother => ?_⟩
    rw [List.mem_singleton.mp hother]
    exact hname name hmem
  new := by
    intro name hname e he
    rw [List.lookup_cons] at hname
    split at hname
    · cases hname
    · next hne =>
      rcases List.mem_append.mp he with he | he
      · exact h.new hname e he
      · rw [List.mem_singleton.mp he]
        exact fun heq => by simp [heq] at hne
  first := by
    intro name start hname
    rw [List.lookup_cons] at hname
    split at hname
    · next heq =>
      refine ⟨pre, d, [], rfl, (beq_iff_eq.mp heq).symm, (Option.some.inj hname).symm⟩
    · obtain ⟨before, e, after, rfl, hname, hstart⟩ := h.first hname
      exact ⟨before, e, after ++ [d], by simp, hname, hstart⟩

/-- The faults of hosts in a written manifest are placed, if those in front have none. -/
theorem isPlaced_of_checkHosts {ds : List HostDecl} (hplain : ∀ e ∈ pre ++ ds, e.IsPlain)
    (hapart : Manifest.IsApart (pre ++ ds)) {cursor : Nat} (hcursor : CursorAt pre cursor)
    {seen : List (String × Nat)} (hseen : SeenIn pre seen) {fault : ManifestFault}
    (h : checkHosts (Manifest.written (pre ++ ds)).toList cursor seen ds = .error fault) :
    IsPlaced (pre ++ ds) fault := by
  -- the hosts in front are those that the cursor and the names seen stand for
  induction ds generalizing pre cursor seen with
  | nil => cases h
  | cons d ds ih =>
    have hlocate := locate_name hplain hapart hcursor
    rw [checkHosts] at h
    simp only [hlocate, Option.map_some, Option.getD_some] at h
    split at h
    · next first hlookup =>
      obtain ⟨before, e, after, rfl, hname, rfl⟩ := hseen.first hlookup
      have hagain : locate (Manifest.written (before ++ e :: after ++ d :: ds)).toList d.name
          ((HostDecl.namePlace before e).offset - 1) = some (HostDecl.namePlace before e) := by
        rw [List.append_assoc, ← hname]
        exact locate_again
      obtain rfl := Except.error.inj h
      rw [hagain]
      refine .duplicateHost (List.append_assoc before (e :: after) (d :: ds)) hname ?_
      have hdistinct := hseen.distinct
      rw [List.map_append, List.map_cons, List.nodup_middle, List.nodup_cons, ← List.map_append]
        at hdistinct
      intro g hg hname'
      exact hdistinct.1 (List.mem_map.mpr ⟨g, hg, hname'.trans hname.symm⟩)
    · next hlookup =>
      rcases bind_eq_error h with hname | h
      · exact isPlaced_of_checkQualifiedName hlocate hname
      rcases bind_eq_error h with hhost | hrest
      · exact isPlaced_of_checkHost hplain hapart hhost
      · have hsplit : pre ++ d :: ds = pre ++ [d] ++ ds := List.append_cons pre d ds
        rw [hsplit] at hplain hapart hrest ⊢
        exact ih hplain hapart (.inr ⟨pre, d, rfl, rfl⟩) (hseen.push hlookup) hrest

end Validation

namespace Manifest

/-- A written manifest is refused with the first fault of its declarations. -/
theorem read_written_eq_error_iff {ds : List HostDecl} (hplain : ∀ d ∈ ds, d.IsPlain)
    {file : String} {e : ManifestError} :
    read (written ds) file = .error e ↔
      check { hosts := ds } (written ds) = .error e.fault ∧ e.file = file := by
  obtain ⟨fault, name⟩ := e
  rw [read, ofText_written hplain]
  cases check { hosts := ds } (written ds) with
  | ok => exact ⟨fun h => (nomatch h), fun h => (nomatch h.1)⟩
  | error other =>
    simp only [Except.map, Except.mapError, Except.error.injEq, ManifestError.mk.injEq]
    exact and_congr_right fun _ => eq_comm

/-- **Labels lie in the values at fault.** If no search meets an equal text between quotes on its
way, every label of a fault in a written manifest covers the value at fault: the names of the two
hosts of one name, the name or the package of the host, or the name of the field that breaks the
rule. -/
theorem isPlaced_of_read {ds : List HostDecl} (hplain : ∀ d ∈ ds, d.IsPlain) (hapart : IsApart ds)
    {file : String} {e : ManifestError} (h : read (written ds) file = .error e) :
    e.fault.IsPlaced ds := by
  obtain ⟨hcheck, -⟩ := (read_written_eq_error_iff hplain).mp h
  have hcursor : Validation.CursorAt [] 0 := .inl ⟨rfl, rfl⟩
  rw [← List.nil_append ds] at hplain hapart hcheck ⊢
  exact Validation.isPlaced_of_checkHosts hplain hapart hcursor Validation.seenIn_nil hcheck

/-- A type that names a later host draws the labels of a duplicate of that host: the label for the
first declaration goes to the type, and the label for the second one to the first. -/
theorem duplicate_astray :
    let a : HostDecl :=
      { name := "com.a.A", kind := .activity
        fields := [{ name := "inner", type := "com.b.B", bind := "BindExtra" }] }
    let b : HostDecl := { name := "com.b.B", kind := .fragment }
    let fault : ManifestFault := .duplicateHost "com.b.B" (some ⟨82, 7⟩) (some ⟨159, 7⟩)
    (∀ d ∈ [a, b, b], d.IsPlain) ∧
      read (written [a, b, b]) "shiv.toml" = .error { fault, file := "shiv.toml" } ∧
      HostDecl.namePlace [a] b = ⟨159, 7⟩ ∧ HostDecl.namePlace [a, b] b = ⟨203, 7⟩ ∧
      ¬ fault.IsPlaced [a, b, b] := by
  intro a b fault
  have hplain : ∀ d ∈ [a, b, b], d.IsPlain := by decide
  have hcheck : check { hosts := [a, b, b] } (written [a, b, b]) = .error fault := by
    decide +kernel
  have hread : read (written [a, b, b]) "shiv.toml" = .error { fault, file := "shiv.toml" } :=
    (read_written_eq_error_iff hplain).mpr ⟨hcheck, rfl⟩
  have hfirst : HostDecl.namePlace [a] b = ⟨159, 7⟩ := by decide +kernel
  have hsecond : HostDecl.namePlace [a, b] b = ⟨203, 7⟩ := by decide +kernel
  refine ⟨hplain, hread, hfirst, hsecond, fun hplaced => ?_⟩
  obtain ⟨pre, d, mid, e, post, hds, hname, hspan, -⟩ := hplaced.exists_of_duplicate
  match pre, hds with
  | [], hds =>
    obtain rfl : a = d := (List.cons.inj hds).1
    exact absurd hname (by decide)
  | [c], hds =>
    obtain rfl : a = c := (List.cons.inj hds).1
    obtain rfl : b = d := (List.cons.inj (List.cons.inj hds).2).1
    rw [hfirst] at hspan
    exact absurd hspan (by decide)
  | c :: c' :: pre, hds =>
    have hlength := congrArg List.length hds
    simp only [List.length_cons, List.length_append, List.length_nil] at hlength
    omega

/-- With a type that names no host, the labels of the duplicate lie in the names. -/
theorem duplicate_placed :
    let a : HostDecl :=
      { name := "com.a.A", kind := .activity
        fields := [{ name := "inner", type := "int", bind := "BindExtra" }] }
    let b : HostDecl := { name := "com.b.B", kind := .fragment }
    let fault : ManifestFault := .duplicateHost "com.b.B" (some ⟨155, 7⟩) (some ⟨199, 7⟩)
    (∀ d ∈ [a, b, b], d.IsPlain) ∧ IsApart [a, b, b] ∧
      read (written [a, b, b]) "shiv.toml" = .error { fault, file := "shiv.toml" } ∧
      fault.IsPlaced [a, b, b] := by
  intro a b fault
  have hplain : ∀ d ∈ [a, b, b], d.IsPlain := by decide
  have hapart : IsApart [a, b, b] := by decide
  have hcheck : check { hosts := [a, b, b] } (written [a, b, b]) = .error fault := by
    decide +kernel
  have hread : read (written [a, b, b]) "shiv.toml" = .error { fault, file := "shiv.toml" } :=
    (read_written_eq_error_iff hplain).mpr ⟨hcheck, rfl⟩
  exact ⟨hplain, hapart, hread, isPlaced_of_read hplain hapart hread⟩
end Manifest

end Bindery
