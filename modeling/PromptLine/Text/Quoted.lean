/-
A character shown between single quotes, as messages and log entries show it.

* `hexCode`: the code point in lower-case hexadecimal, without padding.
* `isUnseen`: a character that would not be seen between quotes, because it
  combines with the quote before it, is left out by the display or leaves no
  mark.
* `spelled`: what stands between the quotes.  The null character, tab, line
  feed, carriage return, the single quote and the backslash have backslash
  forms of their own; any other unseen character is spelled by its number;
  every other character stands for itself.
* `quoted`: the whole, quotes included.
-/
import PromptLine.Text.Combining
import PromptLine.Text.Unprintable

namespace PromptLine

/-- The code point of `c` in lower-case hexadecimal, without padding. -/
def hexCode (c : Char) : String := String.ofList (Nat.toDigits 16 c.toNat)

/-- A character that cannot be read off the screen when it stands between
quotes. -/
def isUnseen (c : Char) : Bool :=
  isCombining c || isIgnorable c || isUnprintable c

/-- What stands between the quotes for `c`. -/
def spelled (c : Char) : String :=
  if c = '\x00' then "\\0"
  else if c = '\t' then "\\t"
  else if c = '\r' then "\\r"
  else if c = '\n' then "\\n"
  else if c = '\x27' then "\\\x27"
  else if c = '\\' then "\\\\"
  else if isUnseen c then "\\u\x7b" ++ hexCode c ++ "\x7d"
  else String.singleton c

/-- The character `c` between single quotes. -/
def quoted (c : Char) : String := "\x27" ++ spelled c ++ "\x27"

/-- A letter stands for itself, and so does the double quote. -/
example : quoted 'a' = "\x27a\x27" ∧ quoted '"' = "\x27\"\x27" := by
  decide +kernel

/-- A line feed has a form of its own, an escape code has none. -/
example : quoted '\n' = "\x27\\n\x27" ∧
    quoted '\x1b' = "\x27\\u\x7b1b\x7d\x27" := by
  decide +kernel

/-- A filler is spelled by its number although it is a letter, and a letter
that marks the sound before it stands for itself. -/
example : quoted '\u3164' = "\x27\\u\x7b3164\x7d\x27" ∧
    quoted '\uff9e' = "\x27\uff9e\x27" := by
  decide +kernel

end PromptLine
