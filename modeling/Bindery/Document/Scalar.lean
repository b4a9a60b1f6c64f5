import Bindery.Document.Cursor
import Bindery.Document.Node

/-!
# Bare scalars

Truth values, integers, floating point numbers, dates and times: the values written without quotes
or brackets. Such a value is a run of characters, read as a whole.

## Main definitions

* `digitGroups?`: digits with single underscores between them
* `integer?`, `float?`, `isDatetime`: the readings of a run
* `scalar`: a value with its place
-/

namespace Bindery.Document

open Text (Span)

/-! ## Integers -/

/-- The digits of a numeral, whose neighbours may be set apart by single underscores. -/
def digitGroups? (isDigit : Char → Bool) : List Char → Option (List Char)
  | [] => none
  | [c] => if isDigit c then some [c] else none
  | c :: '_' :: cs => if isDigit c then (digitGroups? isDigit cs).map (c :: ·) else none
  | c :: cs => if isDigit c then (digitGroups? isDigit cs).map (c :: ·) else none

/-- The digits of a decimal numeral without its sign: no zero stands in front of other digits.
Behind a sign an underscore may come first, and then zeros may follow it. -/
def decimalDigits? (signed : Bool) (cs : List Char) : Option (List Char) :=
  match cs with
  | '_' :: ds => if signed then digitGroups? Char.isDigit ds else none
  | cs =>
    match digitGroups? Char.isDigit cs with
    | some ('0' :: _ :: _) => none
    | ds => ds

/-- The sign of a numeral, if it has one, and the numeral without it. A sign is given by whether it
is a minus. -/
def splitSign : List Char → Option Bool × List Char
  | '-' :: cs => (some true, cs)
  | '+' :: cs => (some false, cs)
  | cs => (none, cs)

/-- A number with its sign. -/
def withSign (sign : Option Bool) (n : Nat) : Int :=
  if sign = some true then -(n : Int) else n

/-- The value of the digits of an integer in a base that is named in front of them; none inside if
there are no digits. -/
def based? (base : Nat) (isDigit : Char → Bool) (cs : List Char) : Option (Option Int) :=
  if cs.isEmpty then some none
  else (digitGroups? isDigit cs).map fun ds => some (Decimal.ofDigits base ds : Int)

/-- Whether `c` tells a floating point number from an integer. -/
def isFloatMark (c : Char) : Bool := c == '.' || c == 'e' || c == 'E'

/-- Whether the parts of an integer between underscores are set apart as they should be: each begins
with a digit, and each but the last ends with one. A digit of any base will do, and nothing else is
asked of the parts. -/
def areSetApart : List (List Char) → Bool
  | [] => true
  | part :: parts =>
    part.head?.any Decimal.isHexDigit
      && (parts.isEmpty || part.getLast?.any Decimal.isHexDigit) && areSetApart parts

/-- The value of a decimal integer whose leading digits `lead` are followed by parts that are set
apart by underscores; none inside if not all of it is digits. -/
def groupedInteger? (sign : Option Bool) (lead rest : List Char) : Option (Option Int) :=
  let parts := Text.splitOn '_' rest
  let digits := lead ++ parts.flatten
  if (lead.isEmpty && sign.isNone) || lead.head? == some '0' || rest.any isFloatMark
      || !areSetApart parts then none
  else if digits.all Char.isDigit then some (some (withSign sign (Decimal.ofDigits 10 digits)))
  else some none

/-- What a run of characters denotes if it is written as an integer: the number, or none inside if
it turns out to be none. Only decimal integers have a sign. -/
def integer? (cs : List Char) : Option (Option Int) :=
  match cs with
  | '0' :: 'x' :: ds => based? 16 Decimal.isHexDigit ds
  | '0' :: 'o' :: ds => based? 8 (fun c => '0' ≤ c && c ≤ '7') ds
  | '0' :: 'b' :: ds => based? 2 (fun c => c == '0' || c == '1') ds
  | _ =>
    let (sign, body) := splitSign cs
    let lead := body.takeWhile Char.isDigit
    match body.dropWhile Char.isDigit with
    | [] => (decimalDigits? false lead).map fun ds => some (withSign sign (Decimal.ofDigits 10 ds))
    | '_' :: rest => groupedInteger? sign lead rest
    | _ => none

/-! ## Floating point numbers -/

/-- The value of an exponent, sign included. -/
def exponent? (cs : List Char) : Option Int :=
  let (sign, ds) := splitSign cs
  (digitGroups? Char.isDigit ds).map fun ds => withSign sign (Decimal.ofDigits 10 ds)

/-- Whether `c` sets off an exponent. -/
def isExponentMark (c : Char) : Bool := c == 'e' || c == 'E'

/-- The number that a run of characters denotes: a fraction or an exponent is there, or it is one of
the words for infinity and for no number. -/
def float? (cs : List Char) : Option Decimal.Literal :=
  let (sign, body) := splitSign cs
  let negative := sign == some true
  if body == ['i', 'n', 'f'] then some (.infinity negative)
  else if body == ['n', 'a', 'n'] then some .nan
  else do
    let mantissa := body.takeWhile fun c => !isExponentMark c
    let tail := body.dropWhile fun c => !isExponentMark c
    let whole := mantissa.takeWhile (· != '.')
    let fraction := mantissa.dropWhile (· != '.')
    let wholeDigits ← decimalDigits? sign.isSome whole
    let fractionDigits ←
      match fraction with
      | [] => some []
      | _ :: ds => digitGroups? Char.isDigit ds
    let exponent ←
      match tail with
      | [] => if fraction.isEmpty then none else some 0
      | _ :: ds => exponent? ds
    return .finite negative (Decimal.ofDigits 10 (wholeDigits ++ fractionDigits))
      (exponent - fractionDigits.length)

/-! ## Dates and times -/

/-- The value of exactly `count` digits in front, and what follows them. -/
def fixedDigits? (count : Nat) (cs : List Char) : Option (Nat × List Char) :=
  let ds := cs.take count
  if ds.length = count && ds.all Char.isDigit then some (Decimal.ofDigits 10 ds, cs.drop count)
  else none

/-- What follows a given character. -/
def afterChar? (c : Char) : List Char → Option (List Char)
  | d :: cs => if c = d then some cs else none
  | [] => none

/-- The number of days of a month. -/
def daysIn (year month : Nat) : Nat :=
  if month = 2 then
    if (year % 4 = 0 ∧ year % 100 ≠ 0) ∨ year % 400 = 0 then 29 else 28
  else if month = 4 ∨ month = 6 ∨ month = 9 ∨ month = 11 then 30
  else 31

/-- What follows a date of the calendar. -/
def afterDate? (cs : List Char) : Option (List Char) := do
  let (year, cs) ← fixedDigits? 4 cs
  let (month, cs) ← fixedDigits? 2 (← afterChar? '-' cs)
  let (day, cs) ← fixedDigits? 2 (← afterChar? '-' cs)
  guard (1 ≤ month ∧ month ≤ 12 ∧ 1 ≤ day ∧ day ≤ daysIn year month)
  return cs

/-- What follows the digits of a fraction of a second, if there is one. -/
def afterFraction? : List Char → Option (List Char)
  | '.' :: cs =>
    if (cs.takeWhile Char.isDigit).isEmpty then none else some (cs.dropWhile Char.isDigit)
  | cs => some cs

/-- What follows a time of day. Seconds may be left out; a leap second is allowed. -/
def afterTime? (cs : List Char) : Option (List Char) := do
  let (hour, cs) ← fixedDigits? 2 cs
  let (minute, cs) ← fixedDigits? 2 (← afterChar? ':' cs)
  guard (hour ≤ 23 ∧ minute ≤ 59)
  match cs with
  | ':' :: cs =>
    let (second, cs) ← fixedDigits? 2 cs
    guard (second ≤ 60)
    afterFraction? cs
  | cs => return cs

/-- What follows an offset from universal time, if there is one. -/
def afterOffset? : List Char → Option (List Char)
  | 'Z' :: cs => some cs
  | 'z' :: cs => some cs
  | c :: cs =>
    if c = '+' ∨ c = '-' then do
      let (hour, cs) ← fixedDigits? 2 cs
      let (minute, cs) ← fixedDigits? 2 (← afterChar? ':' cs)
      guard (hour ≤ 23 ∧ minute ≤ 59)
      return cs
    else some (c :: cs)
  | [] => some []

/-- Whether `c` stands between a date and a time. -/
def isTimeMark (c : Char) : Bool := c == 'T' || c == 't' || c == ' '

/-- What follows a time behind a date. -/
def afterDateTime? : List Char → Option (List Char)
  | [] => some []
  | c :: cs => if isTimeMark c then afterTime? cs >>= afterOffset? else none

/-- Whether a run of characters is a time, a date, or a date with a time. -/
def isDatetime (cs : List Char) : Bool :=
  afterTime? cs == some [] || (afterDate? cs >>= afterDateTime?) == some []

/-! ## Runs of characters -/

/-- The characters that end a bare scalar: blanks, ends of lines, and what sets off the parts of a
document. -/
def scalarEnds : List Char :=
  [' ', '\t', '\r', '\n', '#', '=', ',', '[', ']', '\x7b', '\x7d']

/-- Whether `c` may stand in a bare scalar. -/
def isScalarChar (c : Char) : Bool := !scalarEnds.contains c

/-- The run of characters of a scalar. A single blank between a date and a time belongs to it. -/
def scalarRun (cur : Cursor) : List Char × Cursor :=
  let (run, next) := cur.takeWhile isScalarChar
  match next.rest with
  | ' ' :: c :: _ =>
    if c.isDigit && afterDate? run == some [] then
      let (time, last) :=
        Cursor.takeWhile isScalarChar { offset := next.offset + 1, rest := next.rest.drop 1 }
      (run ++ ' ' :: time, last)
    else (run, next)
  | _ => (run, next)

/-- The value that a run of characters denotes. -/
def scalarNode? (span : Span) (run : List Char) : Option Node :=
  if run == ['t', 'r', 'u', 'e'] then some (.boolean span true)
  else if run == ['f', 'a', 'l', 's', 'e'] then some (.boolean span false)
  else match integer? run with
    | some value => some (.integer span value)
    | none =>
      match float? run with
      | some x => some (.float span x)
      | none => if isDatetime run then some (.datetime span) else none

/-- A bare scalar. -/
def scalar : Reader Node := fun cur => do
  let (run, next) := scalarRun cur
  let node ← scalarNode? (cur.spanTo next) run
  return (node, next)

end Bindery.Document
