/-
What the library reports to a log while it works.

* `Event`: a line was split, or a configuration was rejected.
* `Event.level`, `Event.message`, `Event.fields`: the event as a log entry,
  with its weight, its text and its named values.
* `shownCaret`, `shownOption`: how an entry spells a caret, and a value that
  may be missing.
-/
import PromptLine.Text.Quoted
import PromptLine.WordList

namespace PromptLine

/-- One thing worth reporting.  A line was split, with the number of its words,
the position asked for, the caret found there and the quote left open; or a
configuration was rejected, for a character in both of its sets. -/
inductive Event where
  | lineSplit (words position : Nat) (caret : Option Caret)
      (openQuote : Option Char)
  | configRejected (overlap : Char)
deriving DecidableEq

/-- The weight of a log entry, which is there for following the work step by
step or for finding out what went wrong. -/
inductive Level where
  | trace
  | debug
deriving DecidableEq

/-- The value of a field of a log entry. -/
inductive FieldValue where
  | count (n : Nat)
  | text (s : String)
deriving DecidableEq

/-- The name of a level in a log. -/
def Level.label : Level → String
  | .trace => "TRACE"
  | .debug => "DEBUG"

/-- A value that may be missing, given the spelling of one that is there. -/
def shownOption {α : Type} (shown : α → String) : Option α → String
  | none => "None"
  | some a => "Some(" ++ shown a ++ ")"

/-- A caret, spelled out with the names of its two numbers. -/
def shownCaret (caret : Caret) : String :=
  "CaretPosition \x7b argument_index: " ++ toString caret.word ++
    ", offset: " ++ toString caret.offset ++ " \x7d"

namespace Event

/-- Splitting is routine, a rejection is not. -/
def level : Event → Level
  | lineSplit .. => .trace
  | configRejected .. => .debug

/-- The text of the log entry. -/
def message : Event → String
  | lineSplit .. => "delimited buffer"
  | configRejected .. => "rejected delimiter configuration"

/-- The named values of the log entry. -/
def fields : Event → List (String × FieldValue)
  | lineSplit words position caret openQuote =>
    [("arguments", .count words), ("cursor", .count position),
     ("captured", .text (shownOption shownCaret caret)),
     ("unterminated_quote", .text (shownOption quoted openQuote))]
  | configRejected overlap => [("overlap", .text (quoted overlap))]

end Event

end PromptLine
