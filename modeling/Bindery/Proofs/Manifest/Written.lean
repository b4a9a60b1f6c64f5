import Bindery.Manifest.Reading
import Bindery.Proofs.Document.Building

/-!
# Written manifests

A manifest written as a document: each host in an item of its own, with its fields behind it, and
the names first. If no text needs an escape, reading the document gives the declarations back, and
what is left to do are the rules for manifests.

## Main definitions

* `FieldDecl.table`, `HostDecl.tables`: how declarations are written
* `Manifest.written`: the text of a manifest

## Main results

* `Schema.foldlM_step`: the entries of a record add to its draft what their lines say
* `Manifest.ofText_written`: reading a written manifest is checking its declarations
-/

namespace Bindery

open Text (Span)
open Document (Node Key Entries Table Value Section Assignment IsAssigned IsEntry)
open Document.Entries

/-! ## Writing -/

/-- A field as a document writes it. -/
def FieldDecl.table (f : FieldDecl) : Table where
  path := ["host"]
  key := "field"
  lines := [("name", .text f.name), ("type", .text f.type), ("bind", .text f.bind)]
    ++ (f.id.map fun n => ("id", .integer n)).toList
    ++ (f.key.map fun key => ("key", .text key)).toList
    ++ [("optional", .boolean f.optional),
      ("modifiers", .texts (f.modifiers.map FieldModifier.name))]

/-- A host without its fields as a document writes it. -/
def HostDecl.table (d : HostDecl) : Table where
  path := []
  key := "host"
  lines := [("name", .text d.name), ("kind", .text d.kind.name)]
    ++ (d.package.map fun package => ("package", .text package)).toList

/-- A host with its fields as a document writes it. -/
def HostDecl.tables (d : HostDecl) : List Table := d.table :: d.fields.map FieldDecl.table

/-- The text of a manifest that declares some hosts. -/
def Manifest.written (ds : List HostDecl) : String :=
  Document.writtenTables (ds.flatMap HostDecl.tables)

/-- The texts of the field need no escapes, and the id fits its word. -/
structure FieldDecl.IsPlain (f : FieldDecl) : Prop where
  name : Document.IsPlain f.name
  type : Document.IsPlain f.type
  bind : Document.IsPlain f.bind
  key : ∀ key ∈ f.key, Document.IsPlain key
  id : ∀ n ∈ f.id, Schema.fitsSigned 64 n = true

/-- The texts of the host and of its fields need no escapes. -/
structure HostDecl.IsPlain (d : HostDecl) : Prop where
  name : Document.IsPlain d.name
  package : ∀ package ∈ d.package, Document.IsPlain package
  fields : ∀ f ∈ d.fields, f.IsPlain

instance (f : FieldDecl) : Decidable f.IsPlain :=
  decidable_of_iff
    (Document.IsPlain f.name ∧ Document.IsPlain f.type ∧ Document.IsPlain f.bind ∧
      (∀ key ∈ f.key, Document.IsPlain key) ∧ ∀ n ∈ f.id, Schema.fitsSigned 64 n = true)
    ⟨fun ⟨hname, htype, hbind, hkey, hid⟩ => ⟨hname, htype, hbind, hkey, hid⟩,
      fun h => ⟨h.name, h.type, h.bind, h.key, h.id⟩⟩

instance (d : HostDecl) : Decidable d.IsPlain :=
  decidable_of_iff
    (Document.IsPlain d.name ∧ (∀ package ∈ d.package, Document.IsPlain package) ∧
      ∀ f ∈ d.fields, f.IsPlain)
    ⟨fun ⟨hname, hpackage, hfields⟩ => ⟨hname, hpackage, hfields⟩,
      fun h => ⟨h.name, h.package, h.fields⟩⟩

theorem FieldDecl.mem_lines_iff {f : FieldDecl} {line : String × Value} :
    line ∈ f.table.lines ↔
      line = ("name", .text f.name) ∨ line = ("type", .text f.type) ∨
      line = ("bind", .text f.bind) ∨ (∃ n ∈ f.id, ("id", Value.integer n) = line) ∨
      (∃ key ∈ f.key, ("key", Value.text key) = line) ∨ line = ("optional", .boolean f.optional) ∨
      line = ("modifiers", .texts (f.modifiers.map FieldModifier.name)) := by
  simp [FieldDecl.table]

theorem HostDecl.mem_lines_iff {d : HostDecl} {line : String × Value} :
    line ∈ d.table.lines ↔
      line = ("name", .text d.name) ∨ line = ("kind", .text d.kind.name) ∨
      ∃ package ∈ d.package, ("package", Value.text package) = line := by
  simp [HostDecl.table]

theorem FieldDecl.nodup_keys (f : FieldDecl) : (f.table.lines.map Prod.fst).Nodup := by
  obtain ⟨name, type, bind, id, key, optional, modifiers⟩ := f
  cases id <;> cases key <;> simp [FieldDecl.table]

theorem HostDecl.nodup_keys (d : HostDecl) : (d.table.lines.map Prod.fst).Nodup := by
  obtain ⟨name, kind, package, fields⟩ := d
  cases package <;> simp [HostDecl.table]

/-! ## Plain tables -/

theorem FieldModifier.isPlain_name (m : FieldModifier) : Document.IsPlain m.name := by
  cases m <;> decide

theorem HostKind.isPlain_name (kind : HostKind) : Document.IsPlain kind.name := by
  cases kind <;> decide

/-- The keys of written manifests. -/
def writtenKeys : List String :=
  ["host", "field", "name", "kind", "package", "type", "bind", "id", "key", "optional", "modifiers"]

theorem isBare_of_mem {name : String} (h : name ∈ writtenKeys) : Document.IsBare name := by
  have hall : ∀ name ∈ writtenKeys, Document.IsBare name := by decide
  exact hall name h

theorem FieldDecl.IsPlain.table {f : FieldDecl} (hf : f.IsPlain) : f.table.IsPlain := by
  have hhost : Document.IsBare "host" := isBare_of_mem (by decide)
  refine ⟨List.forall_mem_singleton.mpr hhost, (by decide : 1 < Document.maxDepth),
    isBare_of_mem (by decide : "field" ∈ writtenKeys), ?_⟩
  intro line hline
  rw [mem_lines_iff] at hline
  rcases hline with rfl | rfl | rfl | ⟨n, -, rfl⟩ | ⟨key, hkey, rfl⟩ | rfl | rfl
  · exact ⟨isBare_of_mem (by simp [writtenKeys]), hf.name⟩
  · exact ⟨isBare_of_mem (by simp [writtenKeys]), hf.type⟩
  · exact ⟨isBare_of_mem (by simp [writtenKeys]), hf.bind⟩
  · exact ⟨isBare_of_mem (by simp [writtenKeys]), trivial⟩
  · exact ⟨isBare_of_mem (by simp [writtenKeys]), hf.key key hkey⟩
  · exact ⟨isBare_of_mem (by simp [writtenKeys]), trivial⟩
  · refine ⟨isBare_of_mem (by simp [writtenKeys]), fun item hitem => ?_⟩
    obtain ⟨m, -, rfl⟩ := List.mem_map.mp hitem
    exact m.isPlain_name

theorem HostDecl.IsPlain.tables {d : HostDecl} (hd : d.IsPlain) : ∀ t ∈ d.tables, t.IsPlain := by
  rw [HostDecl.tables, List.forall_mem_cons]
  constructor
  · refine ⟨List.forall_mem_nil _, (by decide : 0 < Document.maxDepth),
      isBare_of_mem (by decide : "host" ∈ writtenKeys), ?_⟩
    intro line hline
    rw [mem_lines_iff] at hline
    rcases hline with rfl | rfl | ⟨package, hpackage, rfl⟩
    · exact ⟨isBare_of_mem (by simp [writtenKeys]), hd.name⟩
    · exact ⟨isBare_of_mem (by simp [writtenKeys]), d.kind.isPlain_name⟩
    · exact ⟨isBare_of_mem (by simp [writtenKeys]), hd.package package hpackage⟩
  · intro t ht
    obtain ⟨f, hf, rfl⟩ := List.mem_map.mp ht
    exact (hd.fields f hf).table

namespace Schema

/-! ## Reading values -/

theorem variant_kind (kind : HostKind) (span : Span) :
    variant HostKind.all HostKind.name (.string span kind.name) = .ok kind := by
  cases kind <;> rfl

theorem variant_modifier (m : FieldModifier) (span : Span) :
    variant FieldModifier.all FieldModifier.name (.string span m.name) = .ok m := by
  cases m <;> rfl

theorem integer64_of_fits {n : Int} (hn : fitsSigned 64 n = true) (span : Span) :
    integer64 (.integer span (some n)) = .ok n := by
  simp only [integer64, if_pos hn]
  rfl

theorem listOf_eq_ok {α : Type} {item : Node → Result α} {nodes : List Node} {as : List α}
    (h : List.Forall₂ (fun node a => item node = .ok a) nodes as) (origin : Document.ArrayOrigin)
    (span : Span) : listOf item (.array span origin nodes) = .ok as := by
  have hmap : nodes.mapM item = .ok as := by
    induction h with
    | nil => rfl
    | cons hnode _ ih =>
      rw [List.mapM_cons, hnode, ih]
      rfl
  rw [listOf, hmap]
  rfl

theorem listOf_modifiers {ms : List FieldModifier} {node : Node}
    (h : (Value.texts (ms.map FieldModifier.name)).Denotes node) :
    listOf (variant FieldModifier.all FieldModifier.name) node = .ok ms := by
  obtain ⟨span, nodes, rfl, hnodes⟩ := h
  refine listOf_eq_ok ?_ .inline span
  induction ms generalizing nodes with
  | nil =>
    cases hnodes
    exact .nil
  | cons m ms ih =>
    obtain _ | ⟨⟨span, rfl⟩, hms⟩ := hnodes
    exact .cons (variant_modifier m span) (ih _ hms)

/-! ## Reading records -/

section Record

variable {δ α : Type} {shape : RecordShape} {entry : δ → String → Node → Result δ}

/-- The draft of a record behind one of its entries. -/
def step (shape : RecordShape) (entry : δ → String → Node → Result δ) (d : δ) (e : Key × Node) :
    Result δ :=
  if (shape.fields.map Prod.fst).contains e.1.text then entry d e.1.text e.2
  else within e.1.span (fail (.unknownField e.1.text (shape.fields.map Prod.fst)))

theorem record_eq_ok {draft d : δ} {finish : δ → Result α} {entries : Entries} {a : α}
    (hentries : entries.foldlM (step shape entry) draft = .ok d) (hfinish : finish d = .ok a)
    (span : Span) (origin : Document.TableOrigin) :
    record shape draft entry finish (.table span origin entries) = .ok a := by
  change within span (entries.foldlM (step shape entry) draft >>= finish) = .ok a
  rw [hentries]
  change within span (finish d) = .ok a
  rw [hfinish]
  rfl

theorem step_of_mem {e : Key × Node} (h : e.1.text ∈ shape.fields.map Prod.fst) (d : δ) :
    step shape entry d e = entry d e.1.text e.2 := by
  rw [step, if_pos (List.contains_iff_mem.mpr h)]

/-- The entries of a record add to its draft what their lines say. -/
theorem foldlM_step {put : String × Value → δ → δ} {lines : List (String × Value)}
    {entries : Entries} (h : List.Forall₂ IsEntry lines entries)
    (hkeys : ∀ line ∈ lines, line.1 ∈ shape.fields.map Prod.fst)
    (hput : ∀ line ∈ lines, ∀ node, line.2.Denotes node →
      ∀ d, entry d line.1 node = .ok (put line d)) (d : δ) :
    entries.foldlM (step shape entry) d = .ok (lines.foldl (fun d line => put line d) d) := by
  induction h generalizing d with
  | nil => rfl
  | @cons line e _ _ he _ ih =>
    rw [List.forall_mem_cons] at hkeys hput
    have hmem : e.1.text ∈ shape.fields.map Prod.fst := he.1 ▸ hkeys.1
    rw [List.foldlM_cons, step_of_mem hmem, he.1, hput.1 e.2 he.2]
    exact ih hkeys.2 hput.2 (put line d)

end Record

/-- The modifiers of the given names. -/
def modifiersOf (names : List String) : List FieldModifier :=
  names.filterMap fun name => FieldModifier.all.find? fun m => m.name == name

theorem modifiersOf_map_name (ms : List FieldModifier) :
    modifiersOf (ms.map FieldModifier.name) = ms := by
  have hfind (m : FieldModifier) :
      FieldModifier.all.find? (fun a => a.name == m.name) = some m := by
    cases m <;> rfl
  have hid : ((fun name => FieldModifier.all.find? fun m => m.name == name) ∘
      FieldModifier.name) = some := funext hfind
  rw [modifiersOf, List.filterMap_map, hid, List.filterMap_some]

/-- The draft of a field behind one of its lines. -/
def FieldDraft.put (line : String × Value) (d : FieldDraft) : FieldDraft :=
  match line with
  | ("name", .text s) => { d with name := some s }
  | ("type", .text s) => { d with type := some s }
  | ("bind", .text s) => { d with bind := some s }
  | ("id", .integer n) => { d with id := some n }
  | ("key", .text s) => { d with key := some s }
  | ("optional", .boolean b) => { d with optional := b }
  | ("modifiers", .texts names) => { d with modifiers := modifiersOf names }
  | _ => d

/-- The draft of a host behind one of its lines. -/
def HostDraft.put (line : String × Value) (d : HostDraft) : HostDraft :=
  match line with
  | ("name", .text s) => { d with name := some s }
  | ("kind", .text s) => { d with kind := (HostKind.ofName? s).getD .other }
  | ("package", .text s) => { d with package := some s }
  | _ => d

end Schema

/-! ## Reading fields -/

namespace FieldDecl

theorem mem_keys {f : FieldDecl} :
    ∀ line ∈ f.table.lines, line.1 ∈ Schema.fieldShape.fields.map Prod.fst := by
  intro line hline
  rw [mem_lines_iff] at hline
  rcases hline with rfl | rfl | rfl | ⟨n, -, rfl⟩ | ⟨key, -, rfl⟩ | rfl | rfl <;>
    simp [Schema.fieldShape]

theorem entry_eq_put {f : FieldDecl} (hf : f.IsPlain) :
    ∀ line ∈ f.table.lines, ∀ node, line.2.Denotes node → ∀ d,
      Schema.FieldDraft.entry d line.1 node = .ok (Schema.FieldDraft.put line d) := by
  intro line hline
  rw [mem_lines_iff] at hline
  rcases hline with rfl | rfl | rfl | ⟨n, hid, rfl⟩ | ⟨key, -, rfl⟩ | rfl | rfl
  case inr.inr.inr.inl =>
    rintro node ⟨span, rfl⟩ d
    rw [Schema.FieldDraft.entry, Schema.integer64_of_fits (hf.id n hid)]
    rfl
  case inr.inr.inr.inr.inr.inr =>
    intro node hnode d
    rw [Schema.FieldDraft.entry, Schema.listOf_modifiers hnode, Schema.FieldDraft.put,
      Schema.modifiersOf_map_name]
    rfl
  all_goals
    rintro node ⟨span, rfl⟩ d
    rfl

theorem finish_put (f : FieldDecl) :
    Schema.FieldDraft.finish ((sortLines f.table.lines).foldl (fun d line =>
      Schema.FieldDraft.put line d) {}) = .ok f := by
  obtain ⟨name, type, bind, id, key, optional, modifiers⟩ := f
  cases id <;> cases key <;>
    simp +decide [FieldDecl.table, sortLines, insertLine, Schema.FieldDraft.put,
      Schema.modifiersOf_map_name] <;> rfl

/-- A field is read from the lines that it is written in. -/
theorem read_of_isAssigned {f : FieldDecl} (hf : f.IsPlain) {as : List Assignment}
    (h : List.Forall₂ IsAssigned f.table.lines as) :
    ∃ made, assignAll? .header [] as = some made ∧
      ∀ span, Schema.fieldDecl (.table span .header made) = .ok f := by
  refine ⟨_, assignAll?_of_isAssigned h f.nodup_keys, fun span => ?_⟩
  have hfold := Schema.foldlM_step (isEntry_ofAssignments h)
    (fun line hline => mem_keys line (mem_sortLines.mp hline))
    (fun line hline => entry_eq_put hf line (mem_sortLines.mp hline)) {}
  exact Schema.record_eq_ok hfold f.finish_put span .header

end FieldDecl

/-! ## Reading hosts -/

namespace HostDecl

/-- The entries are those of the host without its fields. -/
def IsOwn (d : HostDecl) (own : Entries) : Prop :=
  List.Forall₂ IsEntry (sortLines d.table.lines) own

theorem mem_keys {d : HostDecl} :
    ∀ line ∈ d.table.lines, line.1 ∈ Schema.hostShape.fields.map Prod.fst := by
  intro line hline
  rw [mem_lines_iff] at hline
  rcases hline with rfl | rfl | ⟨package, -, rfl⟩ <;> simp [Schema.hostShape]

theorem entry_eq_put {d : HostDecl} :
    ∀ line ∈ d.table.lines, ∀ node, line.2.Denotes node → ∀ draft,
      Schema.HostDraft.entry draft line.1 node = .ok (Schema.HostDraft.put line draft) := by
  intro line hline
  rw [mem_lines_iff] at hline
  rcases hline with rfl | rfl | ⟨package, -, rfl⟩
  case inr.inl =>
    rintro node ⟨span, rfl⟩ draft
    rw [Schema.HostDraft.entry, Schema.variant_kind, Schema.HostDraft.put]
    cases d.kind <;> rfl
  all_goals
    rintro node ⟨span, rfl⟩ draft
    rfl

theorem finish_put (d : HostDecl) :
    Schema.HostDraft.finish ((sortLines d.table.lines).foldl (fun draft line =>
      Schema.HostDraft.put line draft) { fields := d.fields }) = .ok d := by
  obtain ⟨name, kind, package, fields⟩ := d
  cases package <;> cases kind <;>
    simp +decide [HostDecl.table, sortLines, insertLine, Schema.HostDraft.put] <;> rfl

/-- The own entries of a host go behind those of its fields. -/
theorem IsOwn.isBehind_field {d : HostDecl} {own : Entries} (h : d.IsOwn own) :
    IsBehind "field" own := by
  have hlines : ∀ line ∈ sortLines d.table.lines, Text.precedes "field" line.1 = true := by
    intro line hline
    rw [mem_sortLines, mem_lines_iff] at hline
    rcases hline with rfl | rfl | ⟨package, -, rfl⟩
    · exact (by decide : Text.precedes "field" "name" = true)
    · exact (by decide : Text.precedes "field" "kind" = true)
    · exact (by decide : Text.precedes "field" "package" = true)
  intro e he
  obtain ⟨line, hline, hentry⟩ := Document.exists_of_mem_forall₂ h he
  rw [hentry.1]
  exact hlines line hline

/-- A host is read from its own entries with those of its fields in front. -/
theorem read_of_hasItems {d : HostDecl} {own entries : Entries} {items : List Node}
    (hown : d.IsOwn own) (hitems : List.Forall₂ (fun node f => Schema.fieldDecl node = .ok f)
      items d.fields) (h : HasItems "field" own items entries) (span : Span) :
    Schema.hostDecl (.table span .header entries) = .ok d := by
  have hfold := Schema.foldlM_step hown
    (fun line hline => mem_keys line (mem_sortLines.mp hline))
    (fun line hline => entry_eq_put line (mem_sortLines.mp hline))
  have hentries : entries.foldlM (Schema.step Schema.hostShape Schema.HostDraft.entry) {} =
      own.foldlM (Schema.step Schema.hostShape Schema.HostDraft.entry) { fields := d.fields } := by
    obtain ⟨rfl, rfl⟩ | ⟨key, whole, hkey, rfl⟩ := h
    · rw [List.forall₂_nil_left_iff.mp hitems]
    · have hmem : key.text ∈ Schema.hostShape.fields.map Prod.fst := by
        simp [hkey, Schema.hostShape]
      rw [List.foldlM_cons, Schema.step_of_mem hmem, hkey, Schema.HostDraft.entry,
        Schema.listOf_eq_ok hitems]
      rfl
  exact Schema.record_eq_ok (hentries.trans (hfold _)) d.finish_put span .header

/-- The first section of a host makes one more item of the array of hosts. -/
theorem addSection?_host {d : HostDecl} {s : Section} (hs : d.table.Denotes s)
    {items : List Node} {entries : Entries} (hentries : HasItems "host" [] items entries) :
    ∃ own more, addSection? entries s = some more ∧
      HasItems "host" [] (items ++ [.table s.header.span .header own]) more ∧ d.IsOwn own := by
  obtain ⟨⟨hitem, hpath, hkey⟩, hbody⟩ := hs
  have hpath : s.header.path = [] := List.map_eq_nil_iff.mp hpath
  have hmade := assignAll?_of_isAssigned hbody d.nodup_keys
  obtain ⟨more, hadd, hmore⟩ := addItem?_of_hasItems (List.forall_mem_nil _) hentries hkey
    s.header.span hmade
  refine ⟨_, more, ?_, hmore, isEntry_ofAssignments hbody⟩
  rw [addSection?, hpath, hitem]
  exact hadd

/-- A section of a field makes one more item of the array of fields in the last host. -/
theorem addSection?_field {f : FieldDecl} (hf : f.IsPlain) {s : Section} (hs : f.table.Denotes s)
    {own inner entries : Entries} (hown : IsBehind "field" own)
    {items fieldItems : List Node} {span : Span}
    (hentries : HasItems "host" [] (items ++ [.table span .header inner]) entries)
    (hinner : HasItems "field" own fieldItems inner) :
    ∃ node made more, addSection? entries s = some more ∧
      HasItems "host" [] (items ++ [.table span .header made]) more ∧
      HasItems "field" own (fieldItems ++ [node]) made ∧ Schema.fieldDecl node = .ok f := by
  obtain ⟨⟨hitem, hpath, hkey⟩, hbody⟩ := hs
  obtain ⟨key, hpath, hhost⟩ := List.map_eq_singleton_iff.mp hpath
  obtain ⟨field, hfield, hread⟩ := f.read_of_isAssigned hf hbody
  obtain ⟨made, hadd, hmade⟩ := addItem?_of_hasItems hown hinner hkey s.header.span hfield
  obtain ⟨more, hmore, hitems⟩ := descend?_of_hasItems (List.forall_mem_nil _) hentries hhost
    .header (fun _ inner => inner.addItem? s.header.span s.header.key s.body) hadd
  refine ⟨.table s.header.span .header field, made, more, ?_, hitems, hmade, hread _⟩
  rw [addSection?, hpath, hitem]
  exact hmore

/-- The sections of fields all go into the last host. -/
theorem addSections?_fields {fs : List FieldDecl} (hfs : ∀ f ∈ fs, f.IsPlain)
    {sections : List Section} (h : List.Forall₂ Table.Denotes (fs.map FieldDecl.table) sections)
    {own inner entries : Entries} (hown : IsBehind "field" own)
    {items fieldItems : List Node} {span : Span}
    (hentries : HasItems "host" [] (items ++ [.table span .header inner]) entries)
    (hinner : HasItems "field" own fieldItems inner) :
    ∃ nodes made more, sections.foldlM addSection? entries = some more ∧
      HasItems "host" [] (items ++ [.table span .header made]) more ∧
      HasItems "field" own (fieldItems ++ nodes) made ∧
      List.Forall₂ (fun node f => Schema.fieldDecl node = .ok f) nodes fs := by
  induction fs generalizing sections inner entries fieldItems with
  | nil =>
    cases h
    exact ⟨[], inner, entries, rfl, hentries, by simpa using hinner, .nil⟩
  | cons f fs ih =>
    rw [List.forall_mem_cons] at hfs
    obtain _ | ⟨hs, hsections⟩ := h
    obtain ⟨node, made, more, hadd, hmore, hmade, hnode⟩ :=
      addSection?_field hfs.1 hs hown hentries hinner
    obtain ⟨nodes, last, all, hrest, hall, hlast, hnodes⟩ := ih hfs.2 hsections hmore hmade
    refine ⟨node :: nodes, last, all, ?_, hall, by simpa using hlast, .cons hnode hnodes⟩
    rw [List.foldlM_cons, hadd]
    exact hrest

/-- The sections of a host make one more item of the array of hosts, which is read as the host. -/
theorem addSections? {d : HostDecl} (hd : d.IsPlain) {sections : List Section}
    (h : List.Forall₂ Table.Denotes d.tables sections) {items : List Node} {entries : Entries}
    (hentries : HasItems "host" [] items entries) :
    ∃ node more, sections.foldlM addSection? entries = some more ∧
      HasItems "host" [] (items ++ [node]) more ∧ Schema.hostDecl node = .ok d := by
  obtain _ | ⟨hs, hsections⟩ := h
  obtain ⟨own, middle, hadd, hmiddle, hown⟩ := addSection?_host hs hentries
  obtain ⟨nodes, made, more, hrest, hmore, hmade, hnodes⟩ :=
    addSections?_fields hd.fields hsections hown.isBehind_field hmiddle (hasItems_nil "field" own)
  refine ⟨_, more, ?_, hmore, read_of_hasItems hown hnodes (by simpa using hmade) _⟩
  rw [List.foldlM_cons, hadd]
  exact hrest

end HostDecl

/-! ## Reading manifests -/

namespace Manifest

/-- The sections of hosts make an array of hosts, which is read as the hosts. -/
theorem addSections?_hosts {ds : List HostDecl} (hds : ∀ d ∈ ds, d.IsPlain)
    {sections : List Section}
    (h : List.Forall₂ Table.Denotes (ds.flatMap HostDecl.tables) sections) {items : List Node}
    {entries : Entries} (hentries : HasItems "host" [] items entries) :
    ∃ nodes more, sections.foldlM addSection? entries = some more ∧
      HasItems "host" [] (items ++ nodes) more ∧
      List.Forall₂ (fun node d => Schema.hostDecl node = .ok d) nodes ds := by
  induction ds generalizing sections items entries with
  | nil =>
    cases h
    exact ⟨[], entries, rfl, by simpa using hentries, .nil⟩
  | cons d ds ih =>
    rw [List.forall_mem_cons] at hds
    rw [List.flatMap_cons] at h
    obtain ⟨own, rest, rfl, hown, hrest⟩ := Document.forall₂_append_left h
    obtain ⟨node, middle, hadd, hmiddle, hnode⟩ := HostDecl.addSections? hds.1 hown hentries
    obtain ⟨nodes, more, hmore, hitems, hnodes⟩ := ih hds.2 hrest hmiddle
    refine ⟨node :: nodes, more, ?_, by simpa using hitems, .cons hnode hnodes⟩
    rw [List.foldlM_append, hadd]
    exact hmore

theorem ofEntries_of_hasItems {ds : List HostDecl} {nodes : List Node} {entries : Entries}
    (hnodes : List.Forall₂ (fun node d => Schema.hostDecl node = .ok d) nodes ds)
    (h : HasItems "host" [] nodes entries) : ofEntries entries = .ok { hosts := ds } := by
  obtain ⟨rfl, rfl⟩ | ⟨key, span, hkey, rfl⟩ := h
  · rw [List.forall₂_nil_left_iff.mp hnodes]
    rfl
  · rw [ofEntries, List.foldlM_cons]
    simp only [Schema.manifestEntry, hkey, Schema.listOf_eq_ok hnodes]
    rfl

/-- Reading a written manifest is checking its declarations. -/
theorem ofText_written {ds : List HostDecl} (hds : ∀ d ∈ ds, d.IsPlain) :
    ofText (written ds) = (check { hosts := ds } (written ds)).map fun _ => { hosts := ds } := by
  have htables : ∀ t ∈ ds.flatMap HostDecl.tables, t.IsPlain := by
    intro t ht
    obtain ⟨d, hd, ht⟩ := List.mem_flatMap.mp ht
    exact (hds d hd).tables t ht
  obtain ⟨sections, hsections, hparse⟩ := Document.parse?_written htables
  obtain ⟨nodes, entries, hadd, hentries, hnodes⟩ :=
    addSections?_hosts hds hsections (hasItems_nil "host" [])
  have hread := ofEntries_of_hasItems hnodes hentries
  have hdocument : Document.parse? (written ds) = some entries := by
    rw [written, hparse]
    exact hadd
  rw [ofText, hdocument]
  simp only [hread]
  cases check { hosts := ds } (written ds) <;> rfl

end Manifest

end Bindery
