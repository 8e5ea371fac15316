/-
What separates words.

* `Separator`: a rule that says, of every position of a line, whether the
  character there separates words, and whether it is shielded from doing so by
  something other than quotes and escapes.  Both answers may depend on the
  whole line.
* `Separator.cuts`: the two answers taken together.
* `Separator.ofChar`: the rule that looks at the character alone.  Its answer
  about a character does not depend on what stands around it
  (`Separator.cuts_ofChar_append_left`, `Separator.cuts_ofChar_append_right`).
-/
import PromptLine.Text.Basic

namespace PromptLine

/-- A rule about the characters of a line: whether the one at a position
separates words, and whether it is shielded by a construct that keeps its words
together. -/
structure Separator where
  separates : Text → Nat → Bool
  shields : Text → Nat → Bool := fun _ _ => false

namespace Separator

/-- The character at `pos` separates words and is not shielded. -/
def cuts (separator : Separator) (line : Text) (pos : Nat) : Bool :=
  !separator.shields line pos && separator.separates line pos

/-- The rule that every character of a class separates words. -/
def ofChar (p : Char → Bool) : Separator where
  separates line pos := line.holdsAt pos p

theorem cuts_ofChar (p : Char → Bool) (line : Text) (pos : Nat) :
    (ofChar p).cuts line pos = line.holdsAt pos p := by
  simp [cuts, ofChar]

/-- Under a rule that looks at the character alone, what is typed behind a
character leaves the verdict on it as it was. -/
theorem cuts_ofChar_append_left (p : Char → Bool) {a : Text} (b : Text)
    {pos : Nat} (h : pos < a.length) :
    (ofChar p).cuts (a ++ b) pos = (ofChar p).cuts a pos := by
  simp only [cuts_ofChar, Text.holdsAt_append_left b p h]

theorem cuts_ofChar_append_right (p : Char → Bool) (a b : Text) (k : Nat) :
    (ofChar p).cuts (a ++ b) (a.length + k) = (ofChar p).cuts b k := by
  simp only [cuts_ofChar, Text.holdsAt_append_right]

end Separator

end PromptLine
