/-
Splitting a line into words.

* `Policy.scan`: the words of a line and the caret among them; the split is
  reported, with the quote left open at the end of the line.
* `Policy.split`: the same without the report.
* `Policy.places`: for every word, the positions of the line that its
  characters come from.

A block between quotes becomes a word, or ends the word before it, even when
there is nothing in it.  Elsewhere a word ends at a separator, and separators
in a row do not make empty words.  A block that is not closed lasts to the end
of the line.  The caret is found at every position up to the end of the line,
and nowhere beyond.
-/
import PromptLine.Draft.Assembly
import PromptLine.Role.Survey

namespace PromptLine

namespace Policy

/-- Splits `line` into words, looks for the caret at `position` and reports
what was found. -/
def scan (policy : Policy) (line : Text) (position : Nat) :
    Logged WordList := do
  let survey := policy.survey line
  let assembly := assemble position (survey.roles.toList.zip line)
  let words := assembly.draft.finish
  Logged.report (.lineSplit words.length position assembly.caret
    survey.reading.openQuote)
  return { words, caret := assembly.caret, position }

/-- The words of `line` and the caret at `position` among them. -/
def split (policy : Policy) (line : Text) (position : Nat) : WordList :=
  (policy.scan line position).value

/-- For every word of `line`, the positions that its characters come from. -/
def places (policy : Policy) (line : Text) : List (List Nat) :=
  let items := (policy.roles line).zip (List.range line.length)
  (assemble 0 items).draft.finish

/-- The caret stands between the letters of the block, the second word; the
blank of the third word is escaped. -/
example : split {} "a \"bc\" d\\ e".toList 4 =
    ⟨["a".toList, "bc".toList, "d e".toList], some ⟨1, 1⟩, 4⟩ := by
  decide

/-- An empty block is a word, unless text goes before it. -/
example : (split {} "\"\" a\"\"".toList 0).words = [[], ['a']] := by decide

end Policy

end PromptLine
