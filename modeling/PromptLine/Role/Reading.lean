/-
The part that each character of a line plays when the line is split, found while
reading from left to right.

* `Role`: a character opens or closes a block, separates words, is dropped
  because it escapes the next one, or is text of a word.
* `Reading`: what has to be known of the characters read so far, which is the
  quote still open and whether the next character is escaped.
* `Reading.role`: the role of the next character.  An escaped character never
  opens, closes or separates; inside a block nothing separates.
* `Reading.next`: the reading behind that character.
-/
import PromptLine.Config.Basic
import PromptLine.Escape.Parity

namespace PromptLine

/-- The part that a character plays when its line is split.  A closer ends a
word even if the word is empty, a separator ends one that has begun, and a
character is dropped when it is an escape that has done its work. -/
inductive Role where
  | opener
  | closer
  | separator
  | dropped
  | text
deriving DecidableEq

/-- What has to be known of the characters read so far: the quote of the block
that is open, and whether the next character is escaped. -/
structure Reading where
  openQuote : Option Char := none
  parity : Parity := {}
deriving DecidableEq

namespace Reading

/-- The role of a character that is neither quoting nor separating. -/
def plainRole (reading : Reading) (config : Config) (c : Char) : Role :=
  if reading.parity.activates config.escapes c then .dropped else .text

/-- The role of the next character `c`, where `cuts` says whether `c` would
separate words if it were neither quoted nor escaped. -/
def role (reading : Reading) (config : Config) (cuts : Bool) (c : Char) :
    Role :=
  match reading.openQuote with
  | none =>
    if config.isQuote c && !reading.parity.escaped then .opener
    else if cuts && !reading.parity.escaped then .separator
    else reading.plainRole config c
  | some quote =>
    if c == quote && !reading.parity.escaped then .closer
    else reading.plainRole config c

/-- The reading behind the character `c`, which has played the role `role`. -/
def next (reading : Reading) (config : Config) (role : Role) (c : Char) :
    Reading where
  openQuote :=
    match role with
    | .opener => some c
    | .closer => none
    | _ => reading.openQuote
  parity := reading.parity.next config.escapes c

end Reading

end PromptLine
