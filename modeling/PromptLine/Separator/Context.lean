/-
The separators in use, by how much of the context of a character they look at.

* `Separator.blank`: the usual choice, blank characters, wherever they stand.
* `Separator.oneOf`, `Separator.semicolonOrBlank`, `Separator.digit`,
  `Separator.beyondAscii`, `Separator.always`, `Separator.never`: further
  classes of characters.
* `Separator.bracketed`: blank characters outside square brackets, which is for
  all that stands before them to say.
* `Separator.doubleBar`: the vertical bar, where two stand side by side.
-/
import PromptLine.Separator.Basic
import PromptLine.Text.Class

namespace PromptLine

namespace Separator

/-! ### The character alone -/

/-- Blank characters separate words. -/
def blank : Separator := ofChar isBlank

/-- The characters of a list separate words, as commas do in a record. -/
def oneOf (chars : List Char) : Separator :=
  ofChar fun c => chars.contains c

/-- Semicolons and blank characters separate words. -/
def semicolonOrBlank : Separator := ofChar fun c => c == ';' || isBlank c

/-- The digits of ASCII separate words. -/
def digit : Separator := ofChar Char.isDigit

/-- Every character beyond ASCII separates words. -/
def beyondAscii : Separator := ofChar fun c => 0x7f < c.toNat

/-- Every character separates words. -/
def always : Separator := ofChar fun _ => true

/-- No character separates words. -/
def never : Separator := ofChar fun _ => false

/-! ### What stands around it -/

/-- Blank characters separate words, save where more square brackets have been
opened than closed so far. -/
def bracketed : Separator where
  separates := blank.separates
  shields line pos :=
    (line.take pos).count ']' < (line.take pos).count '['

/-- A vertical bar separates words where another stands before or behind it. -/
def doubleBar : Separator where
  separates line pos :=
    let isBar := fun c => c == '|'
    line.holdsAt pos isBar &&
      (line.holdsBefore pos isBar || line.holdsAt (pos + 1) isBar)

end Separator

end PromptLine
