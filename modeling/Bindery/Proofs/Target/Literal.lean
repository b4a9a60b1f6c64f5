import Bindery.Proofs.Text.CodeUnits
import Bindery.Target.Literal

/-!
# Reading string literals

How the target language reads a text as a string literal, apart from how the literal is written.
The text is a sequence of code units. First each Unicode escape is replaced: it begins at a
backslash that an even number of backslashes stands in front of, and goes on with one `u` or more
and four hexadecimal digits. Then the literal starts at a quote and ends at the first quote that is
not escaped, escape sequences stand for other units, and no line may end inside.

A literal that is written here is read back as a whole, and as the text it was written for, as long
as this text has no carriage return, which is left as it is although it ends a line.

## Main definitions

* `Reading.unescaped?`: the code units of a text without its Unicode escapes
* `Reading.literalBody?`: the value of a literal behind its opening quote
* `literalValue?`: the value of a text that is one string literal

## Main results

* `literalValue?_literal`: what a written literal is read as
* `literal_denotes_iff`: the literal of a text denotes this text alone, and does so exactly if the
  text has no carriage return
* `literal_append_inj`: a literal in front of other code tells its text and where it ends
-/

namespace Bindery.Target

open Text (codeUnits unitsOf codeUnits_nil codeUnits_cons codeUnits_append)

namespace Reading

/-! ## Unicode escapes -/

/-- The value of a hexadecimal digit. -/
def hexDigit? (u : Nat) : Option Nat :=
  if '0'.toNat ≤ u ∧ u ≤ '9'.toNat then some (u - '0'.toNat)
  else if 'A'.toNat ≤ u ∧ u ≤ 'F'.toNat then some (u - 'A'.toNat + 10)
  else if 'a'.toNat ≤ u ∧ u ≤ 'f'.toNat then some (u - 'a'.toNat + 10)
  else none

/-- The value of four hexadecimal digits, and what follows them. -/
def hexDigits? : List Nat → Option (Nat × List Nat)
  | a :: b :: c :: d :: rest => do
    let a ← hexDigit? a
    let b ← hexDigit? b
    let c ← hexDigit? c
    let d ← hexDigit? d
    return (((a * 16 + b) * 16 + c) * 16 + d, rest)
  | _ => none

/-- The unit of a Unicode escape behind its first `u`, and what follows the escape. -/
def unicodeEscape? (us : List Nat) : Option (Nat × List Nat) :=
  hexDigits? (us.dropWhile (· == 'u'.toNat))

theorem length_of_unicodeEscape? {us rest : List Nat} {u : Nat}
    (h : unicodeEscape? us = some (u, rest)) : rest.length < us.length := by
  have hlength := (List.dropWhile_sublist (· == 'u'.toNat) (l := us)).length_le
  rw [unicodeEscape?, hexDigits?.eq_def] at h
  split at h
  · next a b c d more heq =>
      simp only [Option.bind_eq_bind, Option.bind_eq_some_iff, Option.pure_def,
        Option.some.injEq, Prod.mk.injEq] at h
      obtain ⟨-, -, -, -, -, -, -, -, -, rfl⟩ := h
      rw [heq] at hlength
      simp only [List.length_cons] at hlength
      omega
  · cases h

/-- The units of a text with its Unicode escapes replaced; none if an escape is not complete. Two
backslashes go together, so that the second one begins no escape. -/
def unescaped? (us : List Nat) : Option (List Nat) :=
  match us with
  | [] => some []
  | [u] => some [u]
  | u :: v :: rest =>
    if u = '\\'.toNat ∧ v = '\\'.toNat then (unescaped? rest).map (u :: v :: ·)
    else if u = '\\'.toNat ∧ v = 'u'.toNat then
      match _h : unicodeEscape? rest with
      | some (unit, more) => (unescaped? more).map (unit :: ·)
      | none => none
    else (unescaped? (v :: rest)).map (u :: ·)
termination_by us.length
decreasing_by
  all_goals simp only [List.length_cons]
  · omega
  · have hlength := length_of_unicodeEscape? _h
    omega
  · omega

/-! ## Escape sequences -/

/-- The escapes of one character, each with the unit it stands for. -/
def characterEscapes : List (Nat × Nat) :=
  [('b'.toNat, 8), ('t'.toNat, 9), ('n'.toNat, 10), ('f'.toNat, 12), ('r'.toNat, 13),
   ('s'.toNat, 32), ('"'.toNat, 34), ('\x27'.toNat, 39), ('\\'.toNat, 92)]

/-- Whether a unit is an octal digit. -/
def isOctalDigit (u : Nat) : Bool :=
  '0'.toNat ≤ u && u ≤ '7'.toNat

/-- The digits of the octal escape that a text starts with: three at most, or two if the first one
is greater than three. -/
def octalDigits (us : List Nat) : List Nat :=
  (us.takeWhile isOctalDigit).take (if us.head?.any (· ≤ '3'.toNat) then 3 else 2)

/-- The unit of an octal escape and what follows it. -/
def octalEscape? (us : List Nat) : Option (Nat × List Nat) :=
  if octalDigits us = [] then none
  else some ((octalDigits us).foldl (fun n d => 8 * n + (d - '0'.toNat)) 0,
    us.drop (octalDigits us).length)

/-- The unit of an escape sequence behind its backslash, and what follows the sequence. -/
def escape? : List Nat → Option (Nat × List Nat)
  | [] => none
  | u :: rest =>
    match characterEscapes.lookup u with
    | some unit => some (unit, rest)
    | none => octalEscape? (u :: rest)

theorem length_of_octalEscape? {us rest : List Nat} {u : Nat}
    (h : octalEscape? us = some (u, rest)) : rest.length < us.length := by
  rw [octalEscape?] at h
  split at h
  · cases h
  · next hdigits =>
      obtain ⟨-, rfl⟩ := Prod.mk.inj (Option.some.inj h)
      have hpos := List.length_pos_iff.mpr hdigits
      have hsome : us ≠ [] := by
        rintro rfl
        exact hdigits rfl
      have hlength := List.length_pos_iff.mpr hsome
      rw [List.length_drop]
      omega

theorem length_of_escape? {us rest : List Nat} {u : Nat} (h : escape? us = some (u, rest)) :
    rest.length < us.length := by
  cases us with
  | nil => cases h
  | cons v vs =>
    rw [escape?] at h
    split at h
    · obtain ⟨-, rfl⟩ := Prod.mk.inj (Option.some.inj h)
      exact Nat.lt_succ_self _
    · exact length_of_octalEscape? h

/-! ## Literals -/

/-- The value of a literal behind its opening quote, and what follows its closing quote. There is
none if a line ends before the literal does. -/
def literalBody? (us : List Nat) : Option (List Nat × List Nat) :=
  match us with
  | [] => none
  | u :: rest =>
    if u = '"'.toNat then some ([], rest)
    else if u = '\n'.toNat ∨ u = '\r'.toNat then none
    else if u = '\\'.toNat then
      match _h : escape? rest with
      | some (unit, more) => (literalBody? more).map fun r => (unit :: r.1, r.2)
      | none => none
    else (literalBody? rest).map fun r => (u :: r.1, r.2)
termination_by us.length
decreasing_by
  all_goals simp only [List.length_cons]
  · have hlength := length_of_escape? _h
    omega
  · omega

/-! ## What the reader passes over -/

/-- A unit that is no backslash begins no Unicode escape. -/
theorem unescaped?_cons {u : Nat} (hback : u ≠ '\\'.toNat) (us : List Nat) :
    unescaped? (u :: us) = (unescaped? us).map (u :: ·) := by
  cases us with
  | nil =>
    rw [unescaped?, unescaped?]
    rfl
  | cons v vs =>
    rw [unescaped?, if_neg fun hpair => hback hpair.1, if_neg fun hpair => hback hpair.1]

/-- A backslash and the unit behind it stay as they are, unless this unit is a `u`. -/
theorem unescaped?_backslash {u : Nat} (hletter : u ≠ 'u'.toNat) (us : List Nat) :
    unescaped? ('\\'.toNat :: u :: us) = (unescaped? us).map (['\\'.toNat, u] ++ ·) := by
  by_cases hback : u = '\\'.toNat
  · rw [unescaped?, if_pos ⟨rfl, hback⟩]
    rfl
  · rw [unescaped?, if_neg fun hpair => hback hpair.2, if_neg fun hpair => hletter hpair.2,
      unescaped?_cons hback, Option.map_map]
    rfl

theorem unescaped?_append {us : List Nat} (hback : '\\'.toNat ∉ us) (rest : List Nat) :
    unescaped? (us ++ rest) = (unescaped? rest).map (us ++ ·) := by
  induction us with
  | nil => simp
  | cons u us ih =>
    rw [List.mem_cons, not_or] at hback
    rw [List.cons_append, unescaped?_cons (Ne.symm hback.1), ih hback.2, Option.map_map]
    rfl

/-- The units that a literal does not simply hold: its end, the ends of lines and the backslash. -/
def specialUnits : List Nat := ['"'.toNat, '\n'.toNat, '\r'.toNat, '\\'.toNat]

theorem literalBody?_cons {u : Nat} (hplain : u ∉ specialUnits) (us : List Nat) :
    literalBody? (u :: us) = (literalBody? us).map fun r => (u :: r.1, r.2) := by
  simp only [specialUnits, List.mem_cons, List.not_mem_nil, or_false, not_or] at hplain
  obtain ⟨hquote, hfeed, hreturn, hback⟩ := hplain
  rw [literalBody?, if_neg hquote, if_neg (not_or.mpr ⟨hfeed, hreturn⟩), if_neg hback]

theorem literalBody?_append {us : List Nat} (hplain : ∀ u ∈ us, u ∉ specialUnits)
    (rest : List Nat) :
    literalBody? (us ++ rest) = (literalBody? rest).map fun r => (us ++ r.1, r.2) := by
  induction us with
  | nil => simp
  | cons u us ih =>
    rw [List.forall_mem_cons] at hplain
    rw [List.cons_append, literalBody?_cons hplain.1, ih hplain.2, Option.map_map]
    rfl

theorem literalBody?_escape {u unit : Nat} (h : characterEscapes.lookup u = some unit)
    (us : List Nat) :
    literalBody? ('\\'.toNat :: u :: us) =
      (literalBody? us).map fun r => (unit :: r.1, r.2) := by
  have hescape : escape? (u :: us) = some (unit, us) := by rw [escape?, h]
  rw [literalBody?, if_neg (by decide), if_neg (by decide), if_pos rfl]
  -- the match keeps its equation for the termination, so it cannot be rewritten with `hescape`
  split
  · next heq =>
      obtain ⟨rfl, rfl⟩ := Prod.mk.inj (Option.some.inj (hescape.symm.trans heq))
      rfl
  · next heq =>
      rw [hescape] at heq
      cases heq

theorem literalBody?_quote (us : List Nat) : literalBody? ('"'.toNat :: us) = some ([], us) := by
  rw [literalBody?, if_pos rfl]

theorem literalBody?_return (us : List Nat) : literalBody? ('\r'.toNat :: us) = none := by
  rw [literalBody?, if_neg (by decide), if_pos (Or.inr rfl)]

end Reading

open Reading

/-- The value of a text that is one string literal from its first to its last character. -/
def literalValue? (text : String) : Option (List Nat) :=
  match unescaped? (codeUnits text.toList) with
  | some (u :: rest) =>
    if u = '"'.toNat then
      match literalBody? rest with
      | some (value, []) => some value
      | _ => none
    else none
  | _ => none

/-- The text is a string literal whose value is the text `s`. -/
def Denotes (text s : String) : Prop := literalValue? text = some (codeUnits s.toList)

/-! ## Literals as they are written -/

/-- Three characters are written as a pair with a backslash, every other one as itself. -/
theorem literalChar_cases (c : Char) :
    c = '"' ∨ c = '\\' ∨ c = '\n' ∨
      (c ≠ '"' ∧ c ≠ '\\' ∧ c ≠ '\n' ∧ literalChar c = [c]) := by
  unfold literalChar
  split <;> simp_all

theorem unescaped?_literalChar (c : Char) (rest : List Nat) :
    unescaped? (codeUnits (literalChar c) ++ rest) =
      (unescaped? rest).map (codeUnits (literalChar c) ++ ·) := by
  obtain rfl | rfl | rfl | ⟨-, hback, -, heq⟩ := literalChar_cases c
  · exact unescaped?_backslash (by decide) rest
  · exact unescaped?_backslash (by decide) rest
  · exact unescaped?_backslash (by decide) rest
  · rw [heq, codeUnits_cons, codeUnits_nil, List.append_nil]
    exact unescaped?_append (Text.notMem_unitsOf (by decide) hback) rest

/-- A literal holds no Unicode escape. -/
theorem unescaped?_flatMap_literalChar (cs : List Char) (rest : List Nat) :
    unescaped? (codeUnits (cs.flatMap literalChar) ++ rest) =
      (unescaped? rest).map (codeUnits (cs.flatMap literalChar) ++ ·) := by
  induction cs with
  | nil => simp [codeUnits_nil]
  | cons c cs ih =>
    rw [List.flatMap_cons, codeUnits_append, List.append_assoc, unescaped?_literalChar, ih,
      Option.map_map]
    simp only [Function.comp_def, List.append_assoc]

theorem literalBody?_literalChar {c : Char} (hreturn : c ≠ '\r') (rest : List Nat) :
    literalBody? (codeUnits (literalChar c) ++ rest) =
      (literalBody? rest).map fun r => (unitsOf c ++ r.1, r.2) := by
  obtain rfl | rfl | rfl | ⟨hquote, hback, hfeed, heq⟩ := literalChar_cases c
  · exact literalBody?_escape (by decide) rest
  · exact literalBody?_escape (by decide) rest
  · exact literalBody?_escape (by decide) rest
  · rw [heq, codeUnits_cons, codeUnits_nil, List.append_nil]
    refine literalBody?_append (fun u hu hspecial => ?_) rest
    simp only [specialUnits, List.mem_cons, List.not_mem_nil, or_false] at hspecial
    obtain rfl | rfl | rfl | rfl := hspecial
    · exact Text.notMem_unitsOf (by decide) hquote hu
    · exact Text.notMem_unitsOf (by decide) hfeed hu
    · exact Text.notMem_unitsOf (by decide) hreturn hu
    · exact Text.notMem_unitsOf (by decide) hback hu

theorem literalBody?_flatMap_literalChar (cs : List Char) (rest : List Nat) :
    literalBody? (codeUnits (cs.flatMap literalChar) ++ '"'.toNat :: rest) =
      if '\r' ∈ cs then none else some (codeUnits cs, rest) := by
  induction cs with
  | nil => exact literalBody?_quote rest
  | cons c cs ih =>
    rw [List.flatMap_cons, codeUnits_append, List.append_assoc]
    by_cases hreturn : c = '\r'
    · subst hreturn
      rw [if_pos List.mem_cons_self]
      exact literalBody?_return _
    · rw [literalBody?_literalChar hreturn, ih]
      by_cases hmem : '\r' ∈ cs
      · rw [if_pos hmem, if_pos (List.mem_cons_of_mem c hmem)]
        rfl
      · rw [if_neg hmem, if_neg (List.not_mem_cons_of_ne_of_not_mem (Ne.symm hreturn) hmem)]
        rfl

/-- A written literal is read to its end, unless its text has a carriage return. -/
theorem literalValue?_literal (s : String) :
    literalValue? (literal s) = if '\r' ∈ s.toList then none else some (codeUnits s.toList) := by
  have hunits : codeUnits (literal s).toList =
      '"'.toNat :: (codeUnits (s.toList.flatMap literalChar) ++ ['"'.toNat]) := by
    rw [literal, String.toList_ofList, literalChars, List.cons_append, codeUnits_cons,
      codeUnits_append]
    rfl
  have hunescaped : unescaped? ['"'.toNat] = some ['"'.toNat] := by rw [unescaped?]
  rw [literalValue?, hunits, unescaped?_cons (by decide), unescaped?_flatMap_literalChar,
    hunescaped]
  simp only [Option.map_some, if_pos, literalBody?_flatMap_literalChar]
  by_cases hreturn : '\r' ∈ s.toList
  · rw [if_pos hreturn, if_pos hreturn]
  · rw [if_neg hreturn, if_neg hreturn]

/-- **The literal of a text denotes this text and no other, as long as the text has no carriage
return.** A carriage return is written as it is and ends the line inside the literal: what is
written for a text with one is no literal. -/
theorem literal_denotes_iff (s t : String) :
    Denotes (literal s) t ↔ t = s ∧ '\r' ∉ s.toList := by
  rw [Denotes, literalValue?_literal]
  by_cases hreturn : '\r' ∈ s.toList
  · rw [if_pos hreturn]
    exact ⟨fun h => (nomatch h), fun h => absurd hreturn h.2⟩
  · rw [if_neg hreturn, Option.some.injEq, Text.codeUnits_injective.eq_iff, String.toList_inj]
    exact ⟨fun heq => ⟨heq.symm, hreturn⟩, fun h => h.1.symm⟩

/-- The text of one carriage return is written as a literal that the line end breaks. -/
theorem literal_of_return_broken : ¬ ∀ s : String, Denotes (literal s) s := by
  intro h
  have hvalue := h "\r"
  rw [Denotes, literalValue?_literal, if_pos (by decide)] at hvalue
  cases hvalue

/-! ## Where a literal ends -/

/-- The end of a literal is not written for any character. -/
theorem quote_cons_ne_literalChar_append (c : Char) (rest rest' : List Char) :
    '"' :: rest ≠ literalChar c ++ rest' := by
  intro h
  obtain rfl | rfl | rfl | ⟨hquote, -, -, heq⟩ := literalChar_cases c
  · exact absurd (List.cons.inj h).1 (by decide)
  · exact absurd (List.cons.inj h).1 (by decide)
  · exact absurd (List.cons.inj h).1 (by decide)
  · rw [heq] at h
    exact hquote (List.cons.inj h).1.symm

/-- The characters that are written as a pair, each with the one behind the backslash. -/
def pairedChars : List (Char × Char) := [('"', '"'), ('\\', '\\'), ('\n', 'n')]

theorem literalChar_single_or_pair (c : Char) :
    (c ≠ '\\' ∧ literalChar c = [c]) ∨
      ∃ x, (c, x) ∈ pairedChars ∧ literalChar c = ['\\', x] := by
  obtain rfl | rfl | rfl | ⟨-, hback, -, heq⟩ := literalChar_cases c
  · exact .inr ⟨'"', by decide, rfl⟩
  · exact .inr ⟨'\\', by decide, rfl⟩
  · exact .inr ⟨'n', by decide, rfl⟩
  · exact .inl ⟨hback, heq⟩

/-- What is written for a character tells the character and where it ends. -/
theorem literalChar_append_inj {c d : Char} {rest rest' : List Char}
    (h : literalChar c ++ rest = literalChar d ++ rest') : c = d ∧ rest = rest' := by
  have hpairs : ∀ p ∈ pairedChars, ∀ q ∈ pairedChars, p.2 = q.2 → p.1 = q.1 := by decide
  rcases literalChar_single_or_pair c with ⟨hc, hceq⟩ | ⟨x, hx, hceq⟩
  · rcases literalChar_single_or_pair d with ⟨-, hdeq⟩ | ⟨y, -, hdeq⟩
    · rw [hceq, hdeq] at h
      exact List.cons.inj h
    · rw [hceq, hdeq] at h
      exact absurd (List.cons.inj h).1 hc
  · rcases literalChar_single_or_pair d with ⟨hd, hdeq⟩ | ⟨y, hy, hdeq⟩
    · rw [hceq, hdeq] at h
      exact absurd (List.cons.inj h).1.symm hd
    · rw [hceq, hdeq] at h
      obtain ⟨hxy, hrest⟩ := List.cons.inj (List.cons.inj h).2
      exact ⟨hpairs (c, x) hx (d, y) hy hxy, hrest⟩

/-- The characters of a literal tell its text and where the literal ends. -/
theorem flatMap_literalChar_append_inj {cs ds rest rest' : List Char}
    (h : cs.flatMap literalChar ++ '"' :: rest = ds.flatMap literalChar ++ '"' :: rest') :
    cs = ds ∧ rest = rest' := by
  induction cs generalizing ds with
  | nil =>
    cases ds with
    | nil => exact ⟨rfl, (List.cons.inj h).2⟩
    | cons d ds =>
      rw [List.flatMap_cons, List.append_assoc] at h
      exact absurd h (quote_cons_ne_literalChar_append d rest _)
  | cons c cs ih =>
    rw [List.flatMap_cons, List.append_assoc] at h
    cases ds with
    | nil => exact absurd h.symm (quote_cons_ne_literalChar_append c rest' _)
    | cons d ds =>
      rw [List.flatMap_cons, List.append_assoc] at h
      obtain ⟨rfl, htail⟩ := literalChar_append_inj h
      obtain ⟨rfl, rfl⟩ := ih htail
      exact ⟨rfl, rfl⟩

/-- A literal in front of other code tells its text and where it ends, for any text. -/
theorem literal_append_inj {s t rest rest' : String}
    (h : literal s ++ rest = literal t ++ rest') : s = t ∧ rest = rest' := by
  have hchars := congrArg String.toList h
  simp only [String.toList_append, literal, String.toList_ofList, literalChars, List.cons_append,
    List.append_assoc, List.nil_append] at hchars
  obtain ⟨htext, hrest⟩ := flatMap_literalChar_append_inj (List.cons.inj hchars).2
  exact ⟨String.toList_inj.mp htext, String.toList_inj.mp hrest⟩

theorem literal_injective : Function.Injective literal := by
  intro s t h
  exact (literal_append_inj (congrArg (· ++ "") h)).1

end Bindery.Target
