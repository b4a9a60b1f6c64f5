import Bindery.Proofs.Text.Search

/-!
# Quoted occurrences

A place that a search answers is a place of bytes: a value between two bytes that are quotes. A
quote is one byte, and that byte is part of no other character, so the quotes and the value are made
of whole characters wherever such bytes stand. A search that starts between two characters therefore
finds the first of these places, and misses one only if there is none.

Two occurrences of values without quotes do not overlap: behind the opening quote of one, the next
quote is its closing quote.

## Main definitions

* `Text.bytes`: the bytes of a text
* `Text.IsBoundary`: an offset between two characters, or at an end of the text
* `Text.QuotedAt`: a place that covers a value between quotes
* `Text.Finds`: what the answer of a search for a quoted value is

## Main results

* `Text.quotedAt_iff`: where the bytes of a quoted value stand, its characters stand
* `Text.finds_findQuoted?`: a search from a boundary finds the first place, if there is one
* `Text.QuotedAt.end_lt`: places of values without quotes do not overlap
-/

namespace Bindery.Text

/-! ## Bytes -/

/-- The bytes of a text in UTF-8. -/
def bytes (s : String) : List UInt8 := s.toUTF8.data.toList

/-- The byte of a quote. -/
def quoteByte : UInt8 := 34

theorem bytes_eq_flatMap (s : String) : bytes s = s.toList.flatMap String.utf8EncodeChar := by
  have hencode : s.toByteArray = s.toList.utf8Encode := by
    rw [← String.toByteArray_ofList, String.ofList_toList]
  rw [bytes, String.toUTF8_eq_toByteArray, hencode, List.utf8Encode, List.data_toByteArray]

theorem bytes_injective {s t : String} (h : bytes s = bytes t) : s = t :=
  String.toByteArray_inj.mp (ByteArray.ext (Array.toList_inj.mp h))

theorem length_flatMap_utf8EncodeChar (cs : List Char) :
    (cs.flatMap String.utf8EncodeChar).length = byteLength cs := by
  induction cs with
  | nil => rfl
  | cons c cs ih =>
    rw [List.flatMap_cons, List.length_append, String.length_utf8EncodeChar, ih, byteLength]

theorem length_bytes (s : String) : (bytes s).length = byteLength s.toList := by
  rw [bytes_eq_flatMap, length_flatMap_utf8EncodeChar]

theorem byteLength_toList (s : String) : byteLength s.toList = s.utf8ByteSize := by
  rw [← length_bytes, bytes, Array.length_toList, ByteArray.size_data, String.toUTF8_eq_toByteArray,
    String.size_toByteArray]

/-- The byte of a quote is part of no other character: the bytes of longer characters are all
greater. -/
theorem eq_quote_of_mem_utf8EncodeChar {c : Char} (h : quoteByte ∈ String.utf8EncodeChar c) :
    c = '"' := by
  have hbyte : ∀ n : Nat, quoteByte = UInt8.ofNat n → n % 256 = 34 := by
    intro n hn
    have hvalue := congrArg UInt8.toNat hn
    rw [UInt8.toNat_ofNat'] at hvalue
    exact hvalue.symm
  simp only [String.utf8EncodeChar] at h
  split at h
  · next hone =>
    have hcode := hbyte _ (List.mem_singleton.mp h)
    apply Char.ext
    apply UInt32.toNat_inj.mp
    change c.val.toNat = 34
    omega
  · exfalso
    split at h
    · simp only [List.mem_cons, List.not_mem_nil, or_false] at h
      rcases h with h | h
      all_goals
        have hcode := hbyte _ h
        omega
    · split at h
      · simp only [List.mem_cons, List.not_mem_nil, or_false] at h
        rcases h with h | h | h
        all_goals
          have hcode := hbyte _ h
          omega
      · simp only [List.mem_cons, List.not_mem_nil, or_false] at h
        rcases h with h | h | h | h
        all_goals
          have hcode := hbyte _ h
          omega

theorem utf8EncodeChar_quote : String.utf8EncodeChar '"' = [quoteByte] := rfl

/-- Where the byte of a quote stands among the bytes of a text, a quote stands among its
characters. -/
theorem exists_of_flatMap_eq_append {cs : List Char} {before behind : List UInt8}
    (h : cs.flatMap String.utf8EncodeChar = before ++ quoteByte :: behind) :
    ∃ front rest, cs = front ++ '"' :: rest ∧
      front.flatMap String.utf8EncodeChar = before ∧
      rest.flatMap String.utf8EncodeChar = behind := by
  induction cs generalizing before with
  | nil => simp at h
  | cons c cs ih =>
    rw [List.flatMap_cons] at h
    rcases List.append_eq_append_iff.mp h with ⟨more, rfl, hmore⟩ | ⟨inside, hinside, hmore⟩
    · obtain ⟨front, rest, rfl, rfl, rfl⟩ := ih hmore
      exact ⟨c :: front, rest, rfl, List.flatMap_cons, rfl⟩
    · cases inside with
      | nil =>
        have hcs : cs.flatMap String.utf8EncodeChar = [] ++ quoteByte :: behind := by
          simpa using hmore.symm
        obtain ⟨front, rest, rfl, hfront, rfl⟩ := ih hcs
        refine ⟨c :: front, rest, rfl, ?_, rfl⟩
        rw [List.flatMap_cons, hfront, hinside, List.append_nil, List.append_nil]
      | cons b inside =>
        obtain ⟨rfl, rfl⟩ := List.cons.inj hmore
        have hmem : quoteByte ∈ String.utf8EncodeChar c := by
          rw [hinside]
          exact List.mem_append_right _ List.mem_cons_self
        obtain rfl := eq_quote_of_mem_utf8EncodeChar hmem
        rw [utf8EncodeChar_quote] at hinside
        cases before with
        | nil =>
          obtain rfl : inside = [] := (List.cons.inj hinside).2.symm
          exact ⟨[], cs, rfl, rfl, rfl⟩
        | cons b' before => simp at hinside

/-! ## Boundaries -/

/-- An offset of bytes between two characters of a text, or at one of its ends. -/
def IsBoundary (text : String) (offset : Nat) : Prop := String.Pos.Raw.IsValid text ⟨offset⟩

theorem isBoundary_iff {text : String} {offset : Nat} :
    IsBoundary text offset ↔
      ∃ front rest, text.toList = front ++ rest ∧ byteLength front = offset := by
  rw [IsBoundary, String.Pos.Raw.isValid_iff_exists_append]
  constructor
  · rintro ⟨front, rest, rfl, hoffset⟩
    refine ⟨front.toList, rest.toList, String.toList_append, ?_⟩
    rw [byteLength_toList]
    exact (String.Pos.Raw.ext_iff.mp hoffset).symm
  · rintro ⟨front, rest, htext, rfl⟩
    refine ⟨String.ofList front, String.ofList rest, ?_, ?_⟩
    · rw [← String.ofList_append, ← htext, String.ofList_toList]
    · apply String.Pos.Raw.ext
      change byteLength front = (String.ofList front).utf8ByteSize
      rw [← byteLength_toList, String.toList_ofList]

theorem isBoundary_zero (text : String) : IsBoundary text 0 :=
  isBoundary_iff.mpr ⟨[], text.toList, rfl, rfl⟩

/-- Of two parts in front of one text, the one with fewer bytes is in front of the other. -/
theorem exists_append_of_byteLength_le {as bs cs ds : List Char} (h : as ++ bs = cs ++ ds)
    (hle : byteLength as ≤ byteLength cs) : ∃ es, cs = as ++ es ∧ bs = es ++ ds := by
  rcases List.append_eq_append_iff.mp h with ⟨es, hcs, hbs⟩ | ⟨es, has, hds⟩
  · exact ⟨es, hcs, hbs⟩
  · have hes : es = [] := by
      cases es with
      | nil => rfl
      | cons c es =>
        have hpos := c.utf8Size_pos
        rw [has, byteLength_append, byteLength] at hle
        omega
    subst hes
    exact ⟨[], by simpa using has.symm, by simpa using hds.symm⟩

/-! ## Places of quoted values -/

/-- A place covers a value that stands between quotes in a text, byte by byte. -/
def QuotedAt (text value : String) (span : Span) : Prop :=
  ∃ before behind,
    bytes text = before ++ quoteByte :: (bytes value ++ quoteByte :: behind) ∧
      span = { offset := before.length + 1, length := (bytes value).length }

/-- Where the bytes of a quoted value stand, its characters stand. -/
theorem quotedAt_iff {text value : String} {span : Span} :
    QuotedAt text value span ↔
      ∃ front rest, text.toList = front ++ (quote value.toList ++ rest) ∧
        span = { offset := byteLength front + 1, length := byteLength value.toList } := by
  constructor
  · rintro ⟨before, behind, hbytes, rfl⟩
    rw [bytes_eq_flatMap] at hbytes
    obtain ⟨front, rest, htext, rfl, hrest⟩ := exists_of_flatMap_eq_append hbytes
    obtain ⟨middle, rest, rfl, hmiddle, -⟩ := exists_of_flatMap_eq_append hrest
    have hvalue : String.ofList middle = value :=
      bytes_injective (by rw [bytes_eq_flatMap, String.toList_ofList, hmiddle])
    refine ⟨front, rest, ?_, ?_⟩
    · rw [htext, ← hvalue, String.toList_ofList, quote]
      simp
    · rw [length_flatMap_utf8EncodeChar, length_bytes]
  · rintro ⟨front, rest, htext, rfl⟩
    refine ⟨front.flatMap String.utf8EncodeChar, rest.flatMap String.utf8EncodeChar, ?_, ?_⟩
    · rw [bytes_eq_flatMap, htext, bytes_eq_flatMap]
      simp [quote, List.flatMap_append, utf8EncodeChar_quote]
    · rw [length_flatMap_utf8EncodeChar, length_bytes]

namespace QuotedAt

variable {text value other : String} {span place : Span}

theorem offset_pos (h : QuotedAt text value span) : 0 < span.offset := by
  obtain ⟨before, behind, -, rfl⟩ := h
  exact Nat.succ_pos _

/-- The byte in front of the value is a quote, the bytes of the place are those of the value, and
the byte behind them is a quote. -/
theorem covers (h : QuotedAt text value span) :
    (bytes text)[span.offset - 1]? = some quoteByte ∧
      ((bytes text).drop span.offset).take span.length = bytes value ∧
      (bytes text)[span.offset + span.length]? = some quoteByte := by
  obtain ⟨before, behind, hbytes, rfl⟩ := h
  refine ⟨?_, ?_, ?_⟩
  · rw [hbytes, Nat.add_sub_cancel, List.getElem?_append_right (Nat.le_refl _), Nat.sub_self]
    rfl
  · rw [hbytes, ← List.drop_drop, List.drop_left, List.drop_one, List.tail_cons, List.take_left]
  · have hle : before.length ≤ before.length + 1 + (bytes value).length := by omega
    have hskip : before.length + 1 + (bytes value).length - before.length =
        (bytes value).length + 1 := by omega
    rw [hbytes, List.getElem?_append_right hle, hskip, List.getElem?_cons_succ,
      List.getElem?_append_right (Nat.le_refl _), Nat.sub_self]
    rfl

/-- The place ends in front of the last byte of the text. -/
theorem end_lt_size (h : QuotedAt text value span) :
    span.offset + span.length < text.utf8ByteSize := by
  obtain ⟨before, behind, hbytes, rfl⟩ := h
  rw [← byteLength_toList, ← length_bytes, hbytes]
  simp only [List.length_append, List.length_cons]
  omega

/-- The place lies between characters of the text, and so does its opening quote. -/
theorem boundaries (h : QuotedAt text value span) :
    IsBoundary text (span.offset - 1) ∧ IsBoundary text span.offset ∧
      IsBoundary text (span.offset + span.length) := by
  obtain ⟨front, rest, htext, rfl⟩ := quotedAt_iff.mp h
  simp only [isBoundary_iff]
  refine ⟨⟨front, _, htext, rfl⟩, ⟨front ++ ['"'], value.toList ++ '"' :: rest, ?_, ?_⟩,
    ⟨front ++ '"' :: value.toList, '"' :: rest, ?_, ?_⟩⟩
  · simp [htext, quote]
  · rw [byteLength_append]
    rfl
  · simp [htext, quote]
  · have hquote : Char.utf8Size '"' = 1 := rfl
    rw [byteLength_append, byteLength, hquote, Nat.add_assoc]

/-- Two values without quotes that are quoted at one offset are equal. -/
theorem value_eq (h : QuotedAt text value span) (h' : QuotedAt text other place)
    (hvalue : '"' ∉ value.toList) (hother : '"' ∉ other.toList)
    (hoffset : span.offset = place.offset) : value = other := by
  obtain ⟨front, rest, htext, rfl⟩ := quotedAt_iff.mp h
  obtain ⟨front', rest', htext', rfl⟩ := quotedAt_iff.mp h'
  have heq : front ++ (quote value.toList ++ rest) = front' ++ (quote other.toList ++ rest') :=
    htext.symm.trans htext'
  have hle : byteLength front ≤ byteLength front' := Nat.le_of_eq (Nat.succ.inj hoffset)
  obtain ⟨es, rfl, hrest⟩ := exists_append_of_byteLength_le heq hle
  have hes : es = [] := by
    cases es with
    | nil => rfl
    | cons c es =>
      have hpos := c.utf8Size_pos
      have hsame := Nat.succ.inj hoffset
      rw [byteLength_append, byteLength] at hsame
      omega
  subst hes
  exact String.toList_inj.mp (quote_append_inj hvalue hother hrest).1

/-- Behind the opening quote of a value without quotes, the next place begins only behind the
closing quote, or with it. -/
theorem end_lt (h : QuotedAt text value span) (h' : QuotedAt text other place)
    (hvalue : '"' ∉ value.toList) (hlt : span.offset < place.offset) :
    span.offset + span.length < place.offset := by
  obtain ⟨front, rest, htext, rfl⟩ := quotedAt_iff.mp h
  obtain ⟨front', rest', htext', rfl⟩ := quotedAt_iff.mp h'
  have heq : front ++ (quote value.toList ++ rest) = front' ++ (quote other.toList ++ rest') :=
    htext.symm.trans htext'
  have hlt' : byteLength front < byteLength front' := Nat.lt_of_succ_lt_succ hlt
  obtain ⟨es, rfl, hrest⟩ := exists_append_of_byteLength_le heq (Nat.le_of_lt hlt')
  cases es with
  | nil => simp at hlt'
  | cons c es =>
    have hbody : value.toList ++ '"' :: rest = es ++ '"' :: (other.toList ++ '"' :: rest') := by
      have hcons := (List.cons.inj (by simpa [quote] using hrest)).2
      exact hcons
    have hle : byteLength value.toList ≤ byteLength es := by
      rcases List.append_eq_append_iff.mp hbody with ⟨more, rfl, -⟩ | ⟨more, hmore, hquote⟩
      · rw [byteLength_append]
        exact Nat.le_add_right _ _
      · -- otherwise the value would hold the quote that opens the later place
        cases more with
        | nil => simp [hmore]
        | cons d more =>
          obtain ⟨rfl, -⟩ := List.cons.inj hquote
          exact absurd (by simp [hmore]) hvalue
    have hpos := c.utf8Size_pos
    simp only [byteLength_append, byteLength]
    omega

end QuotedAt

/-! ## Searches -/

theorem findAt?_eq_some {pattern cs : List Char} {start found : Nat}
    (h : findAt? pattern start cs = some found) :
    ∃ front rest, cs = front ++ (pattern ++ rest) ∧ found = start + byteLength front ∧
      ∀ front' rest', cs = front' ++ (pattern ++ rest') →
        byteLength front ≤ byteLength front' := by
  induction cs generalizing start with
  | nil =>
    rw [findAt?] at h
    split at h
    · next hempty =>
      obtain rfl := List.isEmpty_iff.mp hempty
      exact ⟨[], [], rfl, (Option.some.inj h).symm, fun _ _ _ => Nat.zero_le _⟩
    · cases h
  | cons c cs ih =>
    rw [findAt?] at h
    split at h
    · next hprefix =>
      obtain ⟨rest, hrest⟩ := List.isPrefixOf_iff_prefix.mp hprefix
      exact ⟨[], rest, hrest.symm, (Option.some.inj h).symm, fun _ _ _ => Nat.zero_le _⟩
    · next hprefix =>
      obtain ⟨front, rest, hcs, hfound, hfirst⟩ := ih h
      refine ⟨c :: front, rest, by rw [hcs]; rfl, by rw [hfound, byteLength, Nat.add_assoc], ?_⟩
      intro front' rest' heq
      cases front' with
      | nil => exact absurd (List.isPrefixOf_iff_prefix.mpr ⟨rest', heq.symm⟩) hprefix
      | cons d front' =>
        obtain ⟨rfl, htail⟩ := List.cons.inj heq
        exact Nat.add_le_add_left (hfirst front' rest' htail) _

theorem findAt?_eq_none {pattern cs : List Char} {start : Nat}
    (h : findAt? pattern start cs = none) (front rest : List Char) :
    cs ≠ front ++ (pattern ++ rest) := by
  induction cs generalizing start front with
  | nil =>
    rw [findAt?] at h
    intro heq
    simp_all
  | cons c cs ih =>
    rw [findAt?] at h
    split at h
    · cases h
    · next hprefix =>
      intro heq
      cases front with
      | nil => exact hprefix (List.isPrefixOf_iff_prefix.mpr ⟨rest, heq.symm⟩)
      | cons d front => exact ih h front (List.cons.inj heq).2

/-- What the answer of a search for a quoted value from an offset is: the first place behind the
offset, or none if there is no such place. -/
def Finds (text value : String) (start : Nat) : Option Span → Prop
  | some span =>
    QuotedAt text value span ∧ start < span.offset ∧
      ∀ place, QuotedAt text value place → start < place.offset → span.offset ≤ place.offset
  | none => ∀ place, QuotedAt text value place → place.offset ≤ start

/-- A search from a boundary finds the first place, if there is one. -/
theorem finds_findQuoted? {text : String} {start : Nat} (hstart : IsBoundary text start)
    (value : String) :
    Finds text value start (findQuoted? text.toList value.toList start) := by
  obtain ⟨pre, suf, htext, rfl⟩ := isBoundary_iff.mp hstart
  have hbehind : ∀ place, QuotedAt text value place → byteLength pre < place.offset →
      ∃ front rest, suf = front ++ (quote value.toList ++ rest) ∧
        place.offset = byteLength pre + byteLength front + 1 := by
    intro place hplace hlt
    obtain ⟨front, rest, htext', rfl⟩ := quotedAt_iff.mp hplace
    have heq : pre ++ suf = front ++ (quote value.toList ++ rest) := htext.symm.trans htext'
    obtain ⟨es, rfl, hsuf⟩ := exists_append_of_byteLength_le heq (Nat.le_of_lt_succ hlt)
    exact ⟨es, rest, hsuf, by rw [byteLength_append]⟩
  rw [findQuoted?, findFrom?, htext, dropBytes?_byteLength, Option.bind_some]
  change Finds text value _ ((findAt? (quote value.toList) _ suf).map _)
  cases hfound : findAt? (quote value.toList) (byteLength pre) suf with
  | none =>
    intro place hplace
    rcases Nat.lt_or_ge (byteLength pre) place.offset with hlt | hle
    · obtain ⟨front, rest, hsuf, -⟩ := hbehind place hplace hlt
      exact absurd hsuf (findAt?_eq_none hfound front rest)
    · exact hle
  | some found =>
    obtain ⟨front, rest, hsuf, rfl, hfirst⟩ := findAt?_eq_some hfound
    refine ⟨quotedAt_iff.mpr ⟨pre ++ front, rest, ?_, ?_⟩, ?_, ?_⟩
    · rw [htext, hsuf, List.append_assoc]
    · rw [byteLength_append]
    · exact Nat.lt_succ_of_le (Nat.le_add_right _ _)
    · intro place hplace hlt
      obtain ⟨front', rest', hsuf', hoffset⟩ := hbehind place hplace hlt
      have hle := hfirst front' rest' hsuf'
      change byteLength pre + byteLength front + 1 ≤ place.offset
      omega

/-- There is one answer to a search. -/
theorem Finds.unique {text value : String} {start : Nat} {a b : Option Span}
    (ha : Finds text value start a) (hb : Finds text value start b) : a = b := by
  cases a with
  | none =>
    cases b with
    | none => rfl
    | some place => exact absurd hb.2.1 (Nat.not_lt.mpr (ha place hb.1))
  | some span =>
    cases b with
    | none => exact absurd ha.2.1 (Nat.not_lt.mpr (hb span ha.1))
    | some place =>
      have hoffset := Nat.le_antisymm (ha.2.2 place hb.1 hb.2.1) (hb.2.2 span ha.1 ha.2.1)
      obtain ⟨before, behind, -, rfl⟩ := ha.1
      obtain ⟨before', behind', -, rfl⟩ := hb.1
      simp_all

end Bindery.Text
