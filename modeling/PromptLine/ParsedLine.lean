/-
A line together with its words, as completion wants it.

* `ParsedLine`: the words of a line, with the line that they come from.
* `ParsedLine.word`, `ParsedLine.wordIndex`, `ParsedLine.wordOffset`: the word
  at the caret, its number, and how far into it the caret stands.
* `Policy.parse`: splits a line and keeps it beside its words.
-/
import PromptLine.Split

namespace PromptLine

/-- The words of a line and the caret among them, with the line as it was
typed. -/
structure ParsedLine where
  list : WordList
  line : Text
deriving DecidableEq

namespace ParsedLine

/-- The words in the order of the line. -/
def words (parsed : ParsedLine) : List Text := parsed.list.words

/-- The word at the caret, unless it has not begun. -/
def word (parsed : ParsedLine) : Option Text := parsed.list.wordAtCaret

/-- The number of the word at the caret. -/
def wordIndex (parsed : ParsedLine) : Option Nat := parsed.list.caretWord

/-- How far into its word the caret stands. -/
def wordOffset (parsed : ParsedLine) : Option Nat := parsed.list.caretOffset

/-- The position of the caret in the line, as it was asked for. -/
def position (parsed : ParsedLine) : Nat := parsed.list.position

end ParsedLine

/-- Splits `line` with the caret at `position` and keeps it beside its
words. -/
def Policy.parse (policy : Policy) (line : Text) (position : Nat) :
    ParsedLine where
  list := policy.split line position
  line := line

end PromptLine
