/-
How a line is split, and what may be asked of its characters.

* `Policy`: a configuration of quotes and escapes with a separator; the
  standard one splits at blank characters.
* `Policy.isEscaped`, `Policy.isActiveEscape`, `Policy.isActiveQuote`,
  `Policy.isSeparator`: the standing of the character at a position.  Each
  answer looks back from the position and needs no split; past the end of the
  line each is `false`, save that the position just past the end is escaped
  when the line ends in an active escape.
-/
import PromptLine.Config.Basic
import PromptLine.Escape.Basic
import PromptLine.Separator.Context

namespace PromptLine

/-- A way of splitting lines into words. -/
structure Policy where
  config : Config := .standard
  separator : Separator := .blank

namespace Policy

/-- The character at `pos` is escaped by the one before it. -/
def isEscaped (policy : Policy) (line : Text) (pos : Nat) : Bool :=
  Escape.isEscaped policy.config.escapes line pos

/-- The character at `pos` escapes the one behind it. -/
def isActiveEscape (policy : Policy) (line : Text) (pos : Nat) : Bool :=
  Escape.isActive policy.config.escapes line pos

/-- The character at `pos` is a quote character that is not escaped. -/
def isActiveQuote (policy : Policy) (line : Text) (pos : Nat) : Bool :=
  line.holdsAt pos policy.config.isQuote && !policy.isEscaped line pos

/-- The character at `pos` separates words wherever no quote is open. -/
def isSeparator (policy : Policy) (line : Text) (pos : Nat) : Bool :=
  pos < line.length && !policy.isEscaped line pos &&
    policy.separator.cuts line pos

end Policy

end PromptLine
