import Bindery.Text.Unicode.Alphabetic
import Bindery.Text.Unicode.GraphemeExtend
import Bindery.Text.Unicode.Numeric
import Bindery.Text.Unicode.Unprintable

/-!
# Character classes

The classes of characters that names and messages depend on, over all of Unicode.

## Main definitions

* `Text.isAlphabetic`, `Text.isNumeric`: letters and numbers of any script
* `Text.isBlank`: white space, and `Text.isAllBlank` for texts of it
* `Text.isVisible`: characters that can be seen on their own
-/

namespace Bindery.Text

/-- Whether `c` has the property Alphabetic. -/
def isAlphabetic (c : Char) : Bool :=
  Unicode.inRanges Unicode.alphabeticRanges c.toNat

/-- Whether `c` is a decimal digit, a letter number or another number. -/
def isNumeric (c : Char) : Bool :=
  Unicode.inRanges Unicode.numericRanges c.toNat

/-- Whether `c` is a letter or a number of any script. -/
def isAlphanumeric (c : Char) : Bool :=
  isAlphabetic c || isNumeric c

/-- The characters with the property White_Space. -/
def blankRanges : List Unicode.Range :=
  [⟨0x0009, 0x000D⟩, ⟨0x0020, 0x0020⟩, ⟨0x0085, 0x0085⟩, ⟨0x00A0, 0x00A0⟩, ⟨0x1680, 0x1680⟩,
   ⟨0x2000, 0x200A⟩, ⟨0x2028, 0x2029⟩, ⟨0x202F, 0x202F⟩, ⟨0x205F, 0x205F⟩, ⟨0x3000, 0x3000⟩]

/-- Whether `c` is white space. -/
def isBlank (c : Char) : Bool :=
  Unicode.inRanges blankRanges c.toNat

/-- Whether a text holds white space only. -/
def isAllBlank (s : String) : Bool :=
  s.toList.all isBlank

/-- Whether `c` extends the character before it. -/
def isGraphemeExtend (c : Char) : Bool :=
  Unicode.inRanges Unicode.graphemeExtendRanges c.toNat

/-- Whether `c` is a halfwidth sound mark: it extends the letter before it, but takes a place of its
own. -/
def isHalfwidthMark (c : Char) : Bool :=
  c == '\uFF9E' || c == '\uFF9F'

/-- Whether `c` is a filler: a letter without a form, which holds the place of another one. -/
def isFiller (c : Char) : Bool :=
  c == '\u115F' || c == '\u1160' || c == '\u3164' || c == '\uFFA0'

/-- Whether `c` is a separator other than the plain space, a control, a format, or unassigned. -/
def isUnprintable (c : Char) : Bool :=
  Unicode.inRanges Unicode.unprintableRanges c.toNat

/-- Whether `c` can be seen on its own. -/
def isVisible (c : Char) : Bool :=
  (!isGraphemeExtend c || isHalfwidthMark c) && !isFiller c && !isUnprintable c

end Bindery.Text
