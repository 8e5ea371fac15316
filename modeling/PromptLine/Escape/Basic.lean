/-
Escaping, decided by looking back from a position.

A character is escaped when the character before it is an active escape, and
an escape character is active when it is not itself escaped.  So the escape
characters of a run are active and inert by turns, the first one active: the
last of them is active exactly when their number is odd.

* `Escape.run`: the number of escape characters in the run that ends at a
  position.
* `Escape.isActive`: the character at a position is an active escape.
* `Escape.isEscaped`: the character at a position is escaped; the position
  just past the end counts too, for the character that is typed next.
-/
import PromptLine.Text.Basic

namespace PromptLine

namespace Escape

/-- The length of the run of characters of `escapes` that ends at `pos`. -/
def run (escapes : List Char) (line : Text) (pos : Nat) : Nat :=
  ((line.take (pos + 1)).reverse.takeWhile fun c => escapes.contains c).length

/-- The character at `pos` is an escape character that is not escaped. -/
def isActive (escapes : List Char) (line : Text) (pos : Nat) : Bool :=
  pos < line.length && run escapes line pos % 2 == 1

/-- The character at `pos` comes right after an active escape. -/
def isEscaped (escapes : List Char) (line : Text) : Nat → Bool
  | 0 => false
  | pos + 1 => isActive escapes line pos

/-- No position past the end holds an active escape. -/
theorem isActive_of_length_le (escapes : List Char) {line : Text} {pos : Nat}
    (h : line.length ≤ pos) : isActive escapes line pos = false := by
  simp [isActive, Nat.not_lt.mpr h]

theorem isEscaped_succ (escapes : List Char) (line : Text) (pos : Nat) :
    isEscaped escapes line (pos + 1) = isActive escapes line pos := rfl

end Escape

end PromptLine
