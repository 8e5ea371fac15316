/-
The words of a line and the caret among them.

* `Caret`: where the caret stands, counted in words: the number of the word
  and how many of its characters are behind the caret.  It may name the word
  that would come next, after the last one.
* `WordList`: the words in the order of the line, the caret, and the position
  in the line that was asked for.  There is no caret when that position is
  past the end of the line.
* `WordList.wordAtCaret`: the word that the caret stands in, if it has begun.
-/
import PromptLine.Text.Basic

namespace PromptLine

/-- A place among the words of a line: how many words lie wholly behind the
caret, and how many characters of the word that it stands in. -/
structure Caret where
  word : Nat
  offset : Nat
deriving DecidableEq

/-- The words of a line in order, the caret among them when its position lies
in the line or at its end, and that position. -/
structure WordList where
  words : List Text := []
  caret : Option Caret := none
  position : Nat := 0
deriving DecidableEq

namespace WordList

/-- The number of words. -/
def size (list : WordList) : Nat := list.words.length

/-- Whether the list has no words. -/
def isEmpty (list : WordList) : Bool := list.words.isEmpty

/-- The number of the word that the caret stands in. -/
def caretWord (list : WordList) : Option Nat := list.caret.map Caret.word

/-- How far into its word the caret stands. -/
def caretOffset (list : WordList) : Option Nat := list.caret.map Caret.offset

/-- The word that the caret stands in, unless it has not begun. -/
def wordAtCaret (list : WordList) : Option Text :=
  list.caretWord.bind fun index => list.words[index]?

end WordList

end PromptLine
