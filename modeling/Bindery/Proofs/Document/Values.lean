import Bindery.Document.Grammar
import Bindery.Proofs.Document.Numeral
import Mathlib.Data.List.Forall2

/-!
# Plain values

Bare keys, and values that need no escapes: texts, integers, truth values and arrays of texts. Where
a document writes them, reading gives them back.

## Main definitions

* `IsPlain`, `IsBare`: what can stand between quotes, and what can be a key without quotes
* `Value`, `Value.written`: a plain value, and how a document writes it
* `Value.Denotes`: what reading gives for a value

## Main results

* `quotedText_takes`, `dottedKey_takes`: texts and keys are read back
* `valueAt_takes`: a value is read back
-/

namespace Bindery.Document

open Text (byteLength)

/-! ## Plain texts -/

/-- The text needs no escape between double quotes. -/
def IsPlain (text : String) : Prop :=
  ∀ c ∈ text.toList, isTextChar c = true ∧ c ≠ '"' ∧ c ≠ '\\'

instance (text : String) : Decidable (IsPlain text) :=
  List.decidableBAll _ text.toList

theorem untilQuote_of_plain {cs : List Char} (hcs : ∀ c ∈ cs, c ≠ '"' ∧ c ≠ '\\')
    (rest : List Char) : untilQuote '"' true (cs ++ '"' :: rest) = some (cs, rest) := by
  induction cs with
  | nil => cases rest <;> simp [untilQuote]
  | cons c cs ih =>
    rw [List.forall_mem_cons] at hcs
    obtain ⟨d, ds, hds⟩ : ∃ d ds, cs ++ '"' :: rest = d :: ds := by
      cases cs <;> simp
    have ih := ih hcs.2
    rw [hds] at ih
    rw [List.cons_append, hds, untilQuote, if_neg (by simp [hcs.1.1]), if_neg (by simp [hcs.1.2]),
      ih, Option.map_some]

theorem decodeEscapes_of_plain {cs : List Char}
    (hcs : ∀ c ∈ cs, isTextChar c = true ∧ c ≠ '\\') :
    decodeEscapes false .none cs = some cs := by
  induction cs with
  | nil => simp [decodeEscapes]
  | cons c cs ih =>
    rw [List.forall_mem_cons] at hcs
    have hreturn : c ≠ '\r' := by
      rintro rfl
      exact absurd hcs.1.1 (by decide)
    simp [decodeEscapes, hcs.1.2, hreturn, hcs.1.1, ih hcs.2]

/-- A text in double quotes, as it is. -/
def quoted (text : String) : String := "\"" ++ text ++ "\""

theorem toList_quoted (text : String) : (quoted text).toList = '"' :: text.toList ++ ['"'] := by
  simp [quoted, String.toList_append]

/-- A plain text is read back, unless a third quote follows an empty one. -/
theorem quotedText_takes {text : String} (htext : IsPlain text) {rest : List Char}
    (hrest : ∀ c ∈ rest.head?, c ≠ '"') :
    Reader.Takes quotedText (quoted text).toList rest (· = text) := by
  have hopens : opensLines ('"' :: (text.toList ++ '"' :: rest)) = false := by
    cases hcs : text.toList with
    | nil =>
      cases rest with
      | nil => rfl
      | cons c rest => simp [opensLines, hrest c rfl]
    | cons c cs =>
      have hc : c ≠ '"' := (htext c (by simp [hcs])).2.1
      simp [opensLines, hc]
  have huntil := untilQuote_of_plain (fun c hc => (htext c hc).2) rest
  have hdecode := decodeEscapes_of_plain fun c hc => ⟨(htext c hc).1, (htext c hc).2.2⟩
  intro offset
  refine ⟨text, offset + byteLength text.toList + 2, ?_, rfl⟩
  rw [toList_quoted, List.append_assoc, List.singleton_append, List.cons_append]
  simp [quotedText, hopens, quotedLine, quoteStyle?, huntil, decode, hdecode]

/-! ## Bare keys -/

/-- The text can be written as a key without quotes. -/
def IsBare (key : String) : Prop :=
  key.toList ≠ [] ∧ ∀ c ∈ key.toList, isBareKeyChar c = true

instance (key : String) : Decidable (IsBare key) :=
  have := List.decidableBAll (fun c => isBareKeyChar c = true) key.toList
  inferInstanceAs (Decidable (_ ∧ ∀ c ∈ key.toList, _))

theorem IsBare.exists_cons {key : String} (h : IsBare key) :
    ∃ c cs, key.toList = c :: cs ∧ isBareKeyChar c = true := by
  cases hcs : key.toList with
  | nil => exact absurd hcs h.1
  | cons c cs => exact ⟨c, cs, rfl, h.2 c (by simp [hcs])⟩

theorem ne_of_isBareKeyChar {c d : Char} (hc : isBareKeyChar c = true)
    (hd : isBareKeyChar d = false) : c ≠ d := by
  rintro rfl
  exact absurd (hc.symm.trans hd) (by decide)

theorem simpleKey_takes {key : String} (hkey : IsBare key) {rest : List Char}
    (hrest : ∀ c ∈ rest.head?, isBareKeyChar c = false) :
    Reader.Takes simpleKey key.toList rest fun k => k.text = key := by
  intro offset
  have htake := Cursor.takeWhile_append hkey.2 hrest offset
  have hstyle : quoteStyle? (key.toList ++ rest) = none := by
    obtain ⟨c, cs, hcs, hc⟩ := hkey.exists_cons
    have hdouble : c ≠ '"' := ne_of_isBareKeyChar hc (by decide)
    have hsingle : c ≠ '\'' := ne_of_isBareKeyChar hc (by decide)
    simp [hcs, quoteStyle?, hdouble, hsingle]
  have hne : key.toList.isEmpty = false := List.isEmpty_eq_false_iff.mpr hkey.1
  let start : Cursor := { offset, rest := key.toList ++ rest }
  let next : Cursor := { offset := offset + byteLength key.toList, rest }
  refine ⟨{ text := key, span := start.spanTo next }, next.offset, ?_, rfl⟩
  simp [simpleKey, hstyle, htake, hne, start, next]

/-- The keys in front of the last one, each with a dot behind it. -/
def dotted (path : List String) : String := String.join (path.map (· ++ "."))

theorem toList_dotted_cons (name : String) (path : List String) :
    (dotted (name :: path)).toList = name.toList ++ '.' :: (dotted path).toList := by
  simp [dotted, String.toList_append]

/-- What may follow the keys of a dotted key: blanks, and then nothing that goes on with it. -/
structure EndsKey (blanks rest : List Char) : Prop where
  blank : ∀ c ∈ blanks, isLineBlank c = true
  head : ∀ c ∈ rest.head?, isLineBlank c = false ∧ c ≠ '.' ∧ isBareKeyChar c = false

theorem EndsKey.head_append {blanks rest : List Char} (h : EndsKey blanks rest) :
    ∀ c ∈ (blanks ++ rest).head?, isBareKeyChar c = false := by
  cases blanks with
  | nil => exact fun c hc => (h.head c hc).2.2
  | cons b blanks =>
    rintro c ⟨⟩
    have hb : b = ' ' ∨ b = '\t' := by simpa [isLineBlank] using h.blank b (by simp)
    rcases hb with rfl | rfl <;> decide

/-- A dotted key of bare keys starts like a bare key. -/
theorem exists_dotted_eq_cons {path : List String} (hpath : ∀ name ∈ path, IsBare name)
    {key : String} (hkey : IsBare key) (rest : List Char) :
    ∃ c cs, (dotted path).toList ++ key.toList ++ rest = c :: cs ∧ isBareKeyChar c = true := by
  cases path with
  | nil =>
    obtain ⟨c, cs, hcs, hc⟩ := hkey.exists_cons
    exact ⟨c, cs ++ rest, by simp [dotted, hcs], hc⟩
  | cons name path =>
    obtain ⟨c, cs, hcs, hc⟩ := (hpath name (by simp)).exists_cons
    refine ⟨c, cs ++ ('.' :: (dotted path).toList ++ key.toList ++ rest), ?_, hc⟩
    simp [toList_dotted_cons, hcs]

theorem isLineBlank_of_isBareKeyChar {c : Char} (hc : isBareKeyChar c = true) :
    isLineBlank c = false := by
  have hspace : c ≠ ' ' := ne_of_isBareKeyChar hc (by decide)
  have htab : c ≠ '\t' := ne_of_isBareKeyChar hc (by decide)
  simp [isLineBlank, hspace, htab]

/-- A dotted key of bare keys is read back. -/
theorem keyParts_takes {path : List String} (hpath : ∀ name ∈ path, IsBare name) {key : String}
    (hkey : IsBare key) {blanks rest : List Char} (hends : EndsKey blanks rest) {steps : Nat}
    (hsteps : path.length < steps) :
    Reader.Takes (keyParts steps) ((dotted path).toList ++ key.toList ++ blanks) rest
      fun k => k.1.map Key.text = path ∧ k.2.text = key := by
  induction path generalizing steps with
  | nil =>
    intro offset
    obtain ⟨steps, rfl⟩ := Nat.exists_eq_add_one_of_ne_zero (Nat.ne_zero_of_lt hsteps)
    obtain ⟨k, next, hread, hk⟩ := simpleKey_takes hkey hends.head_append offset
    have hskip := skipBlanks_append hends.blank (fun c hc => (hends.head c hc).1) next
    have hdot : ∀ offset, Cursor.expect? ['.'] { offset, rest } = none :=
      Cursor.expect?_of_head (fun c hc => (hends.head c hc).2.1) []
    refine ⟨([], k), next + byteLength blanks, ?_, rfl, hk⟩
    simp [dotted, keyParts, hread, hskip, hdot]
  | cons name path ih =>
    intro offset
    obtain ⟨steps, rfl⟩ := Nat.exists_eq_add_one_of_ne_zero (Nat.ne_zero_of_lt hsteps)
    rw [List.forall_mem_cons] at hpath
    have hsteps : path.length < steps := Nat.lt_of_succ_lt_succ hsteps
    let behind := (dotted path).toList ++ key.toList ++ blanks
    have hdot : ∀ c ∈ ('.' :: (behind ++ rest)).head?,
        isLineBlank c = false ∧ isBareKeyChar c = false := by
      rintro c ⟨⟩
      decide
    have hbehind : ∀ c ∈ (behind ++ rest).head?, isLineBlank c = false := by
      obtain ⟨c, cs, hcs, hc⟩ := exists_dotted_eq_cons hpath.2 hkey (blanks ++ rest)
      rw [show behind ++ rest = c :: cs by simpa [behind] using hcs]
      rintro _ ⟨⟩
      exact isLineBlank_of_isBareKeyChar hc
    obtain ⟨k, middle, hread, hk⟩ := simpleKey_takes hpath.1 (fun c hc => (hdot c hc).2) offset
    have hskip := skipBlanks_of_head (fun c hc => (hdot c hc).1) middle
    have hexpect := Cursor.expect?_append ['.'] (behind ++ rest) middle
    obtain ⟨⟨keys, last⟩, next, hkeys, hmap, hlast⟩ := ih hpath.2 hsteps (middle + byteLength ['.'])
    refine ⟨(k :: keys, last), next, ?_, by simp [hk, hmap], hlast⟩
    have hsplit : (dotted (name :: path)).toList ++ key.toList ++ blanks ++ rest =
        name.toList ++ '.' :: (behind ++ rest) := by
      simp [toList_dotted_cons, behind]
    rw [hsplit, keyParts, hread]
    simp only [Option.bind_eq_bind, Option.bind_some, hskip]
    rw [show '.' :: (behind ++ rest) = ['.'] ++ (behind ++ rest) from rfl, hexpect]
    simp only [skipBlanks_of_head hbehind, behind, hkeys, Option.bind_some]
    rfl

theorem dottedKey_takes {path : List String} (hpath : ∀ name ∈ path, IsBare name)
    (hdepth : path.length < maxDepth) {key : String} (hkey : IsBare key) {blanks rest : List Char}
    (hends : EndsKey blanks rest) {steps : Nat} (hsteps : path.length < steps) :
    Reader.Takes (dottedKey steps) ((dotted path).toList ++ key.toList ++ blanks) rest
      fun k => k.1.map Key.text = path ∧ k.2.text = key := by
  intro offset
  obtain ⟨⟨keys, last⟩, next, hread, hmap, hlast⟩ :=
    keyParts_takes hpath hkey hends hsteps offset
  have hlength : keys.length < maxDepth := by
    rw [← List.length_map Key.text, hmap]
    exact hdepth
  refine ⟨(keys, last), next, ?_, hmap, hlast⟩
  simp only [dottedKey, hread, Option.bind_eq_bind, Option.bind_some, if_pos hlength]
  rfl

/-! ## Values -/

/-- A value that a line gives to a key. -/
inductive Value where
  /-- A text. -/
  | text (s : String)
  /-- An integer. -/
  | integer (n : Int)
  /-- A truth value. -/
  | boolean (b : Bool)
  /-- An array of texts. -/
  | texts (items : List String)
  deriving DecidableEq, Repr, Inhabited

/-- The items of an array, separated by commas. -/
def writtenItems : List String → String
  | [] => ""
  | [item] => quoted item
  | item :: second :: items => quoted item ++ ", " ++ writtenItems (second :: items)

namespace Value

/-- The value as a document writes it. -/
def written : Value → String
  | text s => quoted s
  | integer n => toString n
  | boolean b => toString b
  | texts items => "[" ++ writtenItems items ++ "]"

/-- No text in the value needs an escape. -/
def IsPlain : Value → Prop
  | text s => Document.IsPlain s
  | integer _ => True
  | boolean _ => True
  | texts items => ∀ item ∈ items, Document.IsPlain item

/-- The node is the value, wherever it is written. -/
def Denotes : Value → Node → Prop
  | text s, node => ∃ span, node = .string span s
  | integer n, node => ∃ span, node = .integer span (some n)
  | boolean b, node => ∃ span, node = .boolean span b
  | texts items, node => ∃ span nodes, node = .array span .inline nodes ∧
      List.Forall₂ (fun item n => ∃ span, n = Node.string span item) items nodes

end Value

theorem valueAt_takes_text {s : String} (hs : IsPlain s) {rest : List Char}
    (hrest : ∀ c ∈ rest.head?, c ≠ '"') (steps depth : Nat) :
    Reader.Takes (valueAt (steps + 1) depth) (quoted s).toList rest
      fun node => ∃ span, node = .string span s := by
  intro offset
  obtain ⟨text, next, hread, rfl⟩ := quotedText_takes hs hrest offset
  let start : Cursor := { offset, rest := (quoted text).toList ++ rest }
  refine ⟨.string (start.spanTo { offset := next, rest }) text, next, ?_, _, rfl⟩
  simp only [toList_quoted, List.cons_append, List.append_assoc, List.nil_append] at hread
  simp [valueAt, quoteStyle?, start, toList_quoted, hread]

theorem itemsAt_blank (steps depth offset : Nat) (rest : List Char) :
    itemsAt steps depth { offset, rest := ' ' :: rest } =
      itemsAt steps depth { offset := offset + 1, rest } := by
  cases steps with
  | zero => rfl
  | succ steps => simp only [itemsAt, skipLayout_blank]

/-- An item of an array is read back in front of what follows an item: a comma and more items, or
the closing bracket. -/
theorem itemsAt_item {item : String} (hitem : IsPlain item) {c : Char}
    (hc : isLineBlank c = false ∧ c ∉ ['\n', '\r', '#'] ∧ c ≠ '"') (steps depth offset : Nat)
    (rest : List Char) :
    ∃ span next, itemsAt (steps + 2) depth { offset, rest := (quoted item).toList ++ c :: rest } =
      match Cursor.expect? [','] { offset := next, rest := c :: rest } with
      | some more => (itemsAt (steps + 1) depth more).map fun r => (.string span item :: r.1, r.2)
      | none => (Cursor.expect? [']'] { offset := next, rest := c :: rest }).map fun behind =>
          ([.string span item], behind) := by
  have hhead : ∀ d ∈ (c :: rest).head?, d ≠ '"' := by
    rintro _ ⟨⟩
    exact hc.2.2
  obtain ⟨_, next, hread, span, rfl⟩ := valueAt_takes_text hitem hhead steps depth offset
  have hquote : isLineBlank '"' = false ∧ '"' ∉ ['\n', '\r', '#'] := by decide
  have hskip := skipLayout_of_head hquote offset (item.toList ++ '"' :: c :: rest)
  have hnext := skipLayout_of_head ⟨hc.1, hc.2.1⟩ next rest
  have hclose : Cursor.expect? [']']
      { offset, rest := '"' :: (item.toList ++ '"' :: c :: rest) } = none := by
    simp [Cursor.expect?, Text.dropPrefixChars?]
  simp only [toList_quoted, List.cons_append, List.append_assoc, List.nil_append] at hread
  refine ⟨span, next, ?_⟩
  simp only [toList_quoted, List.cons_append, List.append_assoc, List.nil_append]
  rw [itemsAt]
  simp only [hskip, hclose, hread, hnext, Option.bind_eq_bind, Option.bind_some]
  cases Cursor.expect? [','] { offset := next, rest := c :: rest } with
  | some more =>
    dsimp only
    cases itemsAt (steps + 1) depth more <;> rfl
  | none =>
    dsimp only
    cases Cursor.expect? [']'] { offset := next, rest := c :: rest } <;> rfl

/-- The items of an array are read back, closing bracket included. -/
theorem itemsAt_takes {items : List String} (hitems : ∀ item ∈ items, IsPlain item)
    (rest : List Char) {steps : Nat} (hsteps : items.length < steps) (depth : Nat) :
    Reader.Takes (itemsAt steps depth) ((writtenItems items).toList ++ [']']) rest
      (List.Forall₂ (fun item node => ∃ span, node = .string span item) items) := by
  have hbracket : isLineBlank ']' = false ∧ ']' ∉ ['\n', '\r', '#'] ∧ ']' ≠ '"' := by decide
  have hcomma : isLineBlank ',' = false ∧ ',' ∉ ['\n', '\r', '#'] ∧ ',' ≠ '"' := by decide
  induction items generalizing steps with
  | nil =>
    intro offset
    obtain ⟨steps, rfl⟩ := Nat.exists_eq_add_one_of_ne_zero (Nat.ne_zero_of_lt hsteps)
    have hskip := skipLayout_of_head ⟨hbracket.1, hbracket.2.1⟩ offset rest
    have hclose := Cursor.expect?_append [']'] rest offset
    refine ⟨[], offset + byteLength [']'], ?_, .nil⟩
    rw [List.singleton_append] at hclose
    simp [writtenItems, itemsAt, hskip, hclose]
  | cons item items ih =>
    intro offset
    rw [List.forall_mem_cons] at hitems
    obtain ⟨steps, rfl⟩ : ∃ n, steps = n + 2 :=
      Nat.exists_eq_add_of_le' (Nat.lt_of_le_of_lt (Nat.le_add_left 1 items.length) hsteps)
    cases items with
    | nil =>
      obtain ⟨span, next, hitem⟩ := itemsAt_item hitems.1 hbracket steps depth offset rest
      have hclose := Cursor.expect?_append [']'] rest next
      have hcomma : Cursor.expect? [','] { offset := next, rest := ']' :: rest } = none := by
        simp [Cursor.expect?, Text.dropPrefixChars?]
      refine ⟨[.string span item], next + byteLength [']'], ?_, .cons ⟨span, rfl⟩ .nil⟩
      rw [List.singleton_append] at hclose
      rw [writtenItems, List.append_assoc, List.singleton_append, hitem, hcomma, hclose]
      rfl
    | cons second items =>
      let behind := (writtenItems (second :: items)).toList ++ [']'] ++ rest
      obtain ⟨span, next, hitem⟩ :=
        itemsAt_item hitems.1 hcomma steps depth offset (' ' :: behind)
      have hsteps : (second :: items).length < steps + 1 := Nat.lt_of_succ_lt_succ hsteps
      have hclose := Cursor.expect?_append [','] (' ' :: behind) next
      obtain ⟨nodes, last, hread, hnodes⟩ := ih hitems.2 hsteps (next + byteLength [','] + 1)
      refine ⟨.string span item :: nodes, last, ?_, .cons ⟨span, rfl⟩ hnodes⟩
      have hsplit : (writtenItems (item :: second :: items)).toList ++ [']'] ++ rest =
          (quoted item).toList ++ ',' :: ' ' :: behind := by
        simp [writtenItems, String.toList_append, behind]
      rw [List.singleton_append] at hclose
      rw [hsplit, hitem, hclose]
      simp only [itemsAt_blank, behind, hread, Option.map_some]

/-- How many steps reading the value takes at most. -/
def Value.steps : Value → Nat
  | text _ => 1
  | integer _ => 1
  | boolean _ => 1
  | texts items => items.length + 2

/-- What opens neither an array nor a table nor a text is read as a scalar. -/
theorem valueAt_eq_scalar {cur : Cursor}
    (h : ∀ c ∈ cur.rest.head?, c ∉ ['[', '\x7b', '"', '\'']) (steps depth : Nat) :
    valueAt (steps + 1) depth cur = scalar cur := by
  obtain ⟨offset, rest⟩ := cur
  cases rest with
  | nil => simp [valueAt, quoteStyle?]
  | cons c rest =>
    have hc : c ≠ '[' ∧ c ≠ '\x7b' ∧ c ≠ '"' ∧ c ≠ '\'' := by simpa using h c rfl
    simp [valueAt, quoteStyle?, hc]

/-- A value that is written starts without a blank. -/
theorem Value.head?_written_append (v : Value) (rest : List Char) :
    ∀ c ∈ (v.written.toList ++ '\n' :: rest).head?, isLineBlank c = false := by
  cases v with
  | text s =>
    rw [written, toList_quoted]
    rintro _ ⟨⟩
    decide
  | integer n =>
    obtain ⟨c, cs, hcs, hc⟩ := exists_toString_eq_cons n
    rw [written, hcs]
    rintro _ ⟨⟩
    rw [Bool.eq_false_iff]
    intro hblank
    have hmem : c = ' ' ∨ c = '\t' := by simpa [isLineBlank] using hblank
    rcases hmem with rfl | rfl <;> exact absurd hc (by decide)
  | boolean b => cases b <;> rintro _ ⟨⟩ <;> decide
  | texts items =>
    rw [written, String.append_assoc, String.toList_append]
    rintro _ ⟨⟩
    decide

/-- A value at the end of a line is read back. -/
theorem valueAt_takes {v : Value} (hv : v.IsPlain) {steps : Nat} (hsteps : v.steps ≤ steps)
    (rest : List Char) :
    Reader.Takes (valueAt steps 0) v.written.toList ('\n' :: rest) v.Denotes := by
  cases v with
  | text s =>
    obtain ⟨steps, rfl⟩ := Nat.exists_eq_add_of_le' hsteps
    have hhead : ∀ c ∈ ('\n' :: rest).head?, c ≠ '"' := by
      rintro _ ⟨⟩
      decide
    exact valueAt_takes_text hv hhead steps 0
  | integer n =>
    obtain ⟨steps, rfl⟩ := Nat.exists_eq_add_of_le' hsteps
    intro offset
    have hhead : ∀ c ∈ ((toString n).toList ++ '\n' :: rest).head?,
        c ∉ ['[', '\x7b', '"', '\''] := by
      obtain ⟨c, cs, hcs, hc⟩ := exists_toString_eq_cons n
      rw [hcs]
      rintro _ ⟨⟩ hmem
      simp only [List.mem_cons, List.not_mem_nil, or_false] at hmem
      rcases hmem with rfl | rfl | rfl | rfl <;> exact absurd hc (by decide)
    rw [Value.steps, valueAt_eq_scalar hhead]
    exact scalar_takes_integer n rest offset
  | boolean b =>
    obtain ⟨steps, rfl⟩ := Nat.exists_eq_add_of_le' hsteps
    intro offset
    have hhead : ∀ c ∈ ((toString b).toList ++ '\n' :: rest).head?,
        c ∉ ['[', '\x7b', '"', '\''] := by
      cases b <;> rintro _ ⟨⟩ <;> decide
    rw [Value.steps, valueAt_eq_scalar hhead]
    exact scalar_takes_boolean b rest offset
  | texts items =>
    obtain ⟨steps, rfl⟩ := Nat.exists_eq_add_of_le' hsteps
    intro offset
    have hitems : items.length < steps + items.length + 1 := by omega
    obtain ⟨nodes, next, hread, hnodes⟩ :=
      itemsAt_takes hv ('\n' :: rest) hitems (0 + 1) (offset + 1)
    let start : Cursor := { offset, rest := (Value.texts items).written.toList ++ '\n' :: rest }
    refine ⟨.array (start.spanTo { offset := next, rest := '\n' :: rest }) .inline nodes, next, ?_,
      _, _, rfl, hnodes⟩
    have hsplit : (Value.texts items).written.toList ++ '\n' :: rest =
        '[' :: ((writtenItems items).toList ++ [']'] ++ '\n' :: rest) := by
      simp [Value.written, String.toList_append]
    have hdepth : 0 < maxDepth := by decide
    simp only [start, hsplit]
    rw [Value.steps, ← Nat.add_assoc, valueAt]
    simp only [if_pos hdepth, hread, Option.bind_eq_bind, Option.bind_some]
    rfl

end Bindery.Document
