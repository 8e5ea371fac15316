/-
Escaping, carried forward from character to character.

* `Parity`: whether the character to be read next is escaped.
* `Parity.activates`: the character read next is an active escape.
* `Parity.next`: the parity behind that character.
* `Parity.after`: the parity behind a whole text.
* `Parity.trail`: the two answers for every character of a text in turn.
-/
import PromptLine.Text.Basic

namespace PromptLine

/-- All that has to be known of the text read so far to tell an active escape
from an escaped one: whether the character read next is escaped. -/
structure Parity where
  escaped : Bool := false
deriving DecidableEq

namespace Parity

/-- The character `c`, read now, is an active escape. -/
def activates (parity : Parity) (escapes : List Char) (c : Char) : Bool :=
  !parity.escaped && escapes.contains c

/-- Behind `c` the next character is escaped when `c` is an active escape. -/
def next (escapes : List Char) (parity : Parity) (c : Char) : Parity :=
  ⟨parity.activates escapes c⟩

/-- The parity behind a whole text. -/
def after (escapes : List Char) (parity : Parity) (text : Text) : Parity :=
  text.foldl (next escapes) parity

/-- For every character in turn: it is escaped, and it is an active escape. -/
def trail (escapes : List Char) : Parity → Text → List (Bool × Bool)
  | _, [] => []
  | parity, c :: rest =>
    (parity.escaped, parity.activates escapes c) ::
      trail escapes (parity.next escapes c) rest

theorem after_append (escapes : List Char) (parity : Parity) (a b : Text) :
    parity.after escapes (a ++ b) =
      (parity.after escapes a).after escapes b := by
  simp [after]

theorem length_trail (escapes : List Char) (parity : Parity) (text : Text) :
    (parity.trail escapes text).length = text.length := by
  induction text generalizing parity with
  | nil => rfl
  | cons c rest ih => simp [trail, ih]

end Parity

end PromptLine
