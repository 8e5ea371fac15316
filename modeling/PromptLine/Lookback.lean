/-
Splitting a line by looking back from each of its positions.

The split of `Policy.split` carries the escape parity forward.  The one here
carries nothing but words: whether a character is escaped, an active escape,
an active quote or a separator is asked of the whole line at its position.

* `Sketch`: the complete words, the pending one and the quote that is open.
* `Policy.sketchNext`: the sketch behind the character at a position.
* `Policy.sketch`: the sketch behind the first so many characters.
* `Policy.splitByLookback`: the words, and the caret read off the sketch at
  its position.
-/
import PromptLine.Policy
import PromptLine.WordList

namespace PromptLine

/-- Words under construction, complete and pending, and the quote of the block
that is open. -/
structure Sketch where
  words : List Text := []
  pending : Text := []
  openQuote : Option Char := none

namespace Sketch

/-- Makes the pending word complete and leaves no block open. -/
def close (sketch : Sketch) : Sketch where
  words := sketch.words ++ [sketch.pending]

/-- The words, when nothing comes any more. -/
def finish (sketch : Sketch) : List Text :=
  if sketch.pending = [] then sketch.words
  else sketch.words ++ [sketch.pending]

/-- Where a caret behind the last character stands. -/
def caret (sketch : Sketch) : Caret :=
  ⟨sketch.words.length, sketch.pending.length⟩

end Sketch

namespace Policy

/-- Puts the character `c` at `pos` at the end of the pending word, unless it
is an active escape. -/
def sketchText (policy : Policy) (line : Text) (pos : Nat) (c : Char)
    (sketch : Sketch) : Sketch :=
  if policy.isActiveEscape line pos then sketch
  else { sketch with pending := sketch.pending ++ [c] }

/-- The sketch behind the character at `pos`. -/
def sketchNext (policy : Policy) (line : Text) (pos : Nat) (sketch : Sketch) :
    Sketch :=
  match line.char? pos, sketch.openQuote with
  | none, _ => sketch
  | some c, none =>
    if policy.isActiveQuote line pos then { sketch with openQuote := some c }
    else if policy.isSeparator line pos then
      if sketch.pending = [] then sketch else sketch.close
    else policy.sketchText line pos c sketch
  | some c, some quote =>
    if c = quote ∧ ¬ policy.isEscaped line pos then sketch.close
    else policy.sketchText line pos c sketch

/-- The sketch behind the first `pos` characters of `line`. -/
def sketch (policy : Policy) (line : Text) : Nat → Sketch
  | 0 => {}
  | pos + 1 => policy.sketchNext line pos (policy.sketch line pos)

/-- The words of `line` and the caret at `position` among them. -/
def splitByLookback (policy : Policy) (line : Text) (position : Nat) :
    WordList where
  words := (policy.sketch line line.length).finish
  caret :=
    if position ≤ line.length then some (policy.sketch line position).caret
    else none
  position := position

end Policy

end PromptLine
