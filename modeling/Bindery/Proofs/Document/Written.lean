import Bindery.Proofs.Document.Values

/-!
# Written tables

A document of item headers, each with lines below it that give bare keys plain values. Reading it
gives the headers and the lines back, in order. No step of a reader takes more than one of the steps
that it is allowed, and there are more of these than characters.

## Main definitions

* `Table`, `Table.written`: a header with lines, and how a document writes them
* `Table.Denotes`: what reading gives for a table

## Main results

* `statements_tables`: tables are read one after the other
* `parse?_written`: a document of tables is read back
-/

namespace Bindery.Document

open Text (byteLength)

/-! ## Lines -/

/-- A line that gives a key a value, without its end. -/
def assigned (key : String) (v : Value) : String := key ++ " = " ++ v.written

/-- The key and the node are those of the line. -/
def IsEntry (line : String × Value) (e : Key × Node) : Prop :=
  e.1.text = line.1 ∧ line.2.Denotes e.2

/-- The assignment is the line. -/
def IsAssigned (line : String × Value) (a : Assignment) : Prop :=
  a.path = [] ∧ IsEntry line (a.key, a.value)

theorem assignment_takes {key : String} (hkey : IsBare key) {v : Value} (hv : v.IsPlain)
    {steps : Nat} (hsteps : v.steps ≤ steps) (rest : List Char) :
    Reader.Takes (assignment steps) (assigned key v).toList ('\n' :: rest)
      (IsAssigned (key, v)) := by
  intro offset
  have hpositive : ([] : List String).length < steps := by
    cases v <;> simp only [Value.steps, List.length_nil] at hsteps ⊢ <;> omega
  let value := v.written.toList ++ '\n' :: rest
  have hends : EndsKey [' '] ('=' :: ' ' :: value) := by
    refine ⟨List.forall_mem_singleton.mpr rfl, ?_⟩
    rintro _ ⟨⟩
    decide
  obtain ⟨⟨keys, last⟩, middle, hkeys, hmap, hlast⟩ :=
    dottedKey_takes (List.forall_mem_nil IsBare) (by decide) hkey hends hpositive offset
  have hkeys_eq : keys = [] := List.map_eq_nil_iff.mp hmap
  have hexpect := Cursor.expect?_append ['='] (' ' :: value) middle
  rw [List.singleton_append] at hexpect
  have hblank : skipBlanks { offset := middle + byteLength ['='], rest := ' ' :: value } =
      { offset := middle + byteLength ['='] + byteLength [' '], rest := value } :=
    skipBlanks_append (List.forall_mem_singleton.mpr rfl) (v.head?_written_append rest) _
  obtain ⟨node, next, hvalue, hdenotes⟩ := valueAt_takes hv hsteps rest
    (middle + byteLength ['='] + byteLength [' '])
  refine ⟨{ path := keys, key := last, value := node }, next, ?_, hkeys_eq, hlast, hdenotes⟩
  have hsplit : (assigned key v).toList ++ '\n' :: rest =
      (dotted []).toList ++ key.toList ++ [' '] ++ '=' :: ' ' :: value := by
    simp [assigned, dotted, String.toList_append, value]
  rw [hsplit, assignment, hkeys]
  simp only [Option.bind_eq_bind, Option.bind_some, hexpect, hblank, value, hvalue]
  rfl

/-! ## Tables -/

/-- The header of an item of an array of tables, with the lines below it. -/
structure Table where
  /-- The keys of the header but the last. -/
  path : List String
  /-- The last key of the header. -/
  key : String
  /-- The keys and values below the header. -/
  lines : List (String × Value)
  deriving DecidableEq, Repr, Inhabited

/-- The lines as a document writes them. -/
def writtenLines (lines : List (String × Value)) : String :=
  String.join (lines.map fun line => assigned line.1 line.2 ++ "\n")

namespace Table

/-- The header, without the end of its line. -/
def title (t : Table) : String := "[[" ++ dotted t.path ++ t.key ++ "]]"

/-- The table as a document writes it. -/
def written (t : Table) : String := t.title ++ "\n" ++ writtenLines t.lines

/-- Keys are bare, and texts need no escapes. -/
structure IsPlain (t : Table) : Prop where
  path : ∀ name ∈ t.path, IsBare name
  depth : t.path.length < maxDepth
  key : IsBare t.key
  lines : ∀ line ∈ t.lines, IsBare line.1 ∧ line.2.IsPlain

/-- The header is that of the table. -/
def IsTitled (t : Table) (h : Header) : Prop :=
  h.isItem = true ∧ h.path.map Key.text = t.path ∧ h.key.text = t.key

/-- The section is the table. -/
def Denotes (t : Table) (s : Section) : Prop :=
  t.IsTitled s.header ∧ List.Forall₂ IsAssigned t.lines s.body

end Table

theorem header_takes {t : Table} (ht : t.IsPlain) {steps : Nat} (hsteps : t.path.length < steps)
    (rest : List Char) :
    Reader.Takes (header steps) t.title.toList ('\n' :: rest) t.IsTitled := by
  intro offset
  let close := ']' :: ']' :: '\n' :: rest
  let name := (dotted t.path).toList ++ t.key.toList ++ [] ++ close
  have hends : EndsKey [] close := by
    refine ⟨by simp, ?_⟩
    rintro _ ⟨⟩
    decide
  have hopen := Cursor.expect?_append ['[', '['] name offset
  have hname : skipBlanks { offset := offset + byteLength ['[', '['], rest := name } =
      { offset := offset + byteLength ['[', '['], rest := name } := by
    refine skipBlanks_of_head ?_ _
    obtain ⟨c, cs, hcs, hc⟩ := exists_dotted_eq_cons ht.path ht.key ([] ++ close)
    rw [show name = c :: cs by simpa [name] using hcs]
    rintro _ ⟨⟩
    exact isLineBlank_of_isBareKeyChar hc
  obtain ⟨⟨keys, last⟩, middle, hkeys, hmap, hlast⟩ :=
    dottedKey_takes ht.path ht.depth ht.key hends hsteps (offset + byteLength ['[', '['])
  have hclose := Cursor.expect?_append [']', ']'] ('\n' :: rest) middle
  let start : Cursor := { offset, rest := ['[', '['] ++ name }
  let next : Cursor := { offset := middle + byteLength [']', ']'], rest := '\n' :: rest }
  refine ⟨{ span := start.spanTo next, isItem := true, path := keys, key := last }, next.offset, ?_,
    rfl, hmap, hlast⟩
  have hsplit : t.title.toList ++ '\n' :: rest = ['[', '['] ++ name := by
    simp [Table.title, String.toList_append, name, close]
  rw [hsplit, header, hopen]
  simp only [Option.isSome_some, if_true, hopen, Option.bind_eq_bind, Option.bind_some, hname,
    name, hkeys]
  rw [show close = [']', ']'] ++ '\n' :: rest from rfl, hclose]
  rfl

/-- The first line of a document is an assignment. -/
theorem statements_assigned {line : String × Value} (hkey : IsBare line.1) (hv : line.2.IsPlain)
    {steps : Nat} (hsteps : line.2.steps ≤ steps) (offset : Nat) (rest : List Char) :
    ∃ a next, IsAssigned line a ∧
      statements (steps + 1)
          { offset, rest := (assigned line.1 line.2).toList ++ '\n' :: rest } =
        (statements steps { offset := next, rest }).map fun r => (a :: r.1, r.2) := by
  obtain ⟨a, middle, hread, ha⟩ := assignment_takes hkey hv hsteps rest offset
  have hend := lineEnd?_newline middle rest
  obtain ⟨c, cs, hcs, hc⟩ := hkey.exists_cons
  have hbracket : c ≠ '[' := ne_of_isBareKeyChar hc (by decide)
  have hmark : c ≠ '#' ∧ c ≠ '\n' ∧ c ≠ '\r' :=
    ⟨ne_of_isBareKeyChar hc (by decide), ne_of_isBareKeyChar hc (by decide),
      ne_of_isBareKeyChar hc (by decide)⟩
  obtain ⟨ds, hds⟩ : ∃ ds, (assigned line.1 line.2).toList ++ '\n' :: rest = c :: ds := by
    simp [assigned, String.toList_append, hcs]
  have hskip : skipBlanks { offset, rest := c :: ds } = { offset, rest := c :: ds } := by
    refine skipBlanks_of_head ?_ offset
    rintro _ ⟨⟩
    exact isLineBlank_of_isBareKeyChar hc
  refine ⟨a, middle + 1, ha, ?_⟩
  rw [hds] at hread ⊢
  have hstep : statements (steps + 1) { offset, rest := c :: ds } =
      (statements steps { offset := middle + 1, rest }).bind fun r => some (a :: r.1, r.2) := by
    rw [statements, hskip]
    split
    · next h => exact absurd h (List.cons_ne_nil c ds)
    · next h => exact absurd (List.cons.inj h).1 hbracket
    · next h =>
      obtain ⟨rfl, -⟩ := List.cons.inj h
      simp [hmark, hread, hend]
  rw [hstep]
  cases statements steps { offset := middle + 1, rest } <;> rfl

/-- The first line of a document is a header. -/
theorem statements_titled {t : Table} (ht : t.IsPlain) {steps : Nat}
    (hsteps : t.path.length < steps) (offset : Nat) (rest : List Char) :
    ∃ h next, t.IsTitled h ∧
      statements (steps + 1) { offset, rest := t.title.toList ++ '\n' :: rest } =
        (statements steps { offset := next, rest }).map fun r =>
          ([], { header := h, body := r.1 } :: r.2) := by
  obtain ⟨h, middle, hread, hh⟩ := header_takes ht hsteps rest offset
  have hend := lineEnd?_newline middle rest
  obtain ⟨ds, hds⟩ : ∃ ds, t.title.toList ++ '\n' :: rest = '[' :: ds := by
    simp [Table.title, String.toList_append]
  have hskip : skipBlanks { offset, rest := '[' :: ds } = { offset, rest := '[' :: ds } := by
    refine skipBlanks_of_head ?_ offset
    rintro _ ⟨⟩
    decide
  refine ⟨h, middle + 1, hh, ?_⟩
  rw [hds] at hread ⊢
  have hstep : statements (steps + 1) { offset, rest := '[' :: ds } =
      (statements steps { offset := middle + 1, rest }).bind fun r =>
        some ([], { header := h, body := r.1 } :: r.2) := by
    rw [statements, hskip]
    simp [hread, hend]
  rw [hstep]
  cases statements steps { offset := middle + 1, rest } <;> rfl

/-! ## Documents -/

theorem length_le_length_writtenItems (items : List String) :
    items.length ≤ (writtenItems items).toList.length := by
  induction items with
  | nil => simp
  | cons item items ih =>
    cases items with
    | nil => simp [writtenItems, toList_quoted]
    | cons second items =>
      simp only [writtenItems, String.toList_append, List.length_append, toList_quoted,
        List.length_cons] at ih ⊢
      omega

/-- A value takes no more steps than it has characters. -/
theorem steps_le_length_written (v : Value) : v.steps ≤ v.written.toList.length := by
  cases v with
  | text s => simp [Value.steps, Value.written, toList_quoted]
  | integer n =>
    obtain ⟨c, cs, hcs, -⟩ := exists_toString_eq_cons n
    rw [Value.steps, Value.written, hcs]
    exact Nat.le_add_left 1 cs.length
  | boolean b => cases b <;> decide
  | texts items =>
    have hitems := length_le_length_writtenItems items
    simp [Value.steps, Value.written, String.toList_append]
    omega

theorem toList_writtenLines_cons (line : String × Value) (lines : List (String × Value)) :
    (writtenLines (line :: lines)).toList =
      (assigned line.1 line.2).toList ++ '\n' :: (writtenLines lines).toList := by
  simp [writtenLines, String.toList_append]

/-- Lines are read in front of a header or the end of the document. -/
theorem statements_lines {lines : List (String × Value)}
    (hlines : ∀ line ∈ lines, IsBare line.1 ∧ line.2.IsPlain) {rest : List Char}
    {property : List Section → Prop}
    (hrest : ∀ steps offset, rest.length < steps →
      ∃ sections, statements steps { offset, rest } = some ([], sections) ∧ property sections)
    (steps offset : Nat) (hsteps : ((writtenLines lines).toList ++ rest).length < steps) :
    ∃ body sections, statements steps { offset, rest := (writtenLines lines).toList ++ rest } =
      some (body, sections) ∧ List.Forall₂ IsAssigned lines body ∧ property sections := by
  -- every line takes one step, and has at least one character to pay for it
  induction lines generalizing steps offset with
  | nil =>
    obtain ⟨sections, hread, hsections⟩ := hrest steps offset hsteps
    exact ⟨[], sections, hread, .nil, hsections⟩
  | cons line lines ih =>
    rw [List.forall_mem_cons] at hlines
    obtain ⟨⟨hkey, hv⟩, hlines⟩ := hlines
    obtain ⟨steps, rfl⟩ := Nat.exists_eq_add_one_of_ne_zero (Nat.ne_zero_of_lt hsteps)
    rw [toList_writtenLines_cons, List.append_assoc, List.cons_append] at hsteps ⊢
    have hvalue : line.2.steps ≤ steps := by
      have hlength := steps_le_length_written line.2
      simp only [assigned, String.toList_append, List.length_append, List.length_cons] at hsteps
      omega
    have hmore : ((writtenLines lines).toList ++ rest).length < steps := by
      simp only [List.length_append, List.length_cons] at hsteps ⊢
      omega
    obtain ⟨a, next, ha, hread⟩ := statements_assigned hkey hv hvalue offset
      ((writtenLines lines).toList ++ rest)
    obtain ⟨body, sections, hbody, hassigned, hsections⟩ := ih hlines steps next hmore
    refine ⟨a :: body, sections, ?_, .cons ha hassigned, hsections⟩
    rw [hread, hbody, Option.map_some]

/-- A document of tables as it is written. -/
def writtenTables (tables : List Table) : String := String.join (tables.map Table.written)

theorem toList_writtenTables_cons (t : Table) (tables : List Table) :
    (writtenTables (t :: tables)).toList =
      t.title.toList ++ '\n' ::
        ((writtenLines t.lines).toList ++ (writtenTables tables).toList) := by
  simp [writtenTables, Table.written, String.toList_append]

theorem length_le_length_dotted (path : List String) :
    path.length ≤ (dotted path).toList.length := by
  induction path with
  | nil => simp
  | cons name path ih =>
    rw [toList_dotted_cons, List.length_append, List.length_cons, List.length_cons]
    omega

/-- Tables are read one after the other. -/
theorem statements_tables {tables : List Table} (htables : ∀ t ∈ tables, t.IsPlain)
    (steps offset : Nat) (hsteps : (writtenTables tables).toList.length < steps) :
    ∃ sections, statements steps { offset, rest := (writtenTables tables).toList } =
      some ([], sections) ∧ List.Forall₂ Table.Denotes tables sections := by
  induction tables generalizing steps offset with
  | nil =>
    obtain ⟨steps, rfl⟩ := Nat.exists_eq_add_one_of_ne_zero (Nat.ne_zero_of_lt hsteps)
    exact ⟨[], rfl, .nil⟩
  | cons t tables ih =>
    rw [List.forall_mem_cons] at htables
    obtain ⟨ht, htables⟩ := htables
    obtain ⟨steps, rfl⟩ := Nat.exists_eq_add_one_of_ne_zero (Nat.ne_zero_of_lt hsteps)
    rw [toList_writtenTables_cons] at hsteps ⊢
    have hpath : t.path.length < steps := by
      have hlength := length_le_length_dotted t.path
      simp only [Table.title, String.toList_append, List.length_append, List.length_cons] at hsteps
      omega
    have hmore : ((writtenLines t.lines).toList ++ (writtenTables tables).toList).length <
        steps := by
      simp only [List.length_append, List.length_cons] at hsteps ⊢
      omega
    obtain ⟨h, next, htitle, hread⟩ := statements_titled ht hpath offset
      ((writtenLines t.lines).toList ++ (writtenTables tables).toList)
    obtain ⟨body, sections, hbody, hassigned, hsections⟩ :=
      statements_lines ht.lines (ih htables) steps next hmore
    refine ⟨{ header := h, body } :: sections, ?_, .cons ⟨htitle, hassigned⟩ hsections⟩
    rw [hread, hbody, Option.map_some]

/-- A document of tables is read back, table by table. -/
theorem parse?_written {tables : List Table} (htables : ∀ t ∈ tables, t.IsPlain) :
    ∃ sections, List.Forall₂ Table.Denotes tables sections ∧
      parse? (writtenTables tables) = Entries.ofSections? [] sections := by
  have hstart : start (writtenTables tables).toList =
      { offset := 0, rest := (writtenTables tables).toList } := by
    cases tables with
    | nil => rfl
    | cons t tables =>
      rw [toList_writtenTables_cons]
      simp [start, Table.title, String.toList_append]
  obtain ⟨sections, hread, hsections⟩ := statements_tables htables
    (2 * (writtenTables tables).toList.length + 2) 0 (by omega)
  refine ⟨sections, hsections, ?_⟩
  simp only [parse?, hstart, hread, Option.bind_eq_bind, Option.bind_some]

end Bindery.Document
