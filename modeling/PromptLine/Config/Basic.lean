/-
Which characters quote and which escape.

* `Config`: the two sets, each without repetitions and without a character in
  common.  Either may be empty, which turns quoting or escaping off.  Their
  order is kept, so that two configurations are equal when their sets are
  listed alike.
* `ConfigError`: a character was asked to do both, and its message.
* `Config.build`: a configuration from two lists of characters, of which
  repetitions are dropped; it is rejected for the first quote character that
  is an escape character too, and the rejection is reported.
* `Config.standard`: both quotes of ASCII, and the backslash.
-/
import PromptLine.Logged

namespace PromptLine

theorem nodup_eraseDups (chars : List Char) : chars.eraseDups.Nodup := by
  match chars with
  | [] => simp
  | c :: rest =>
    rw [List.eraseDups_cons, List.nodup_cons]
    exact ⟨by simp [List.mem_eraseDups], nodup_eraseDups _⟩
termination_by chars.length
decreasing_by
  exact Nat.lt_succ_of_le (List.length_filter_le _ _)

/-- The characters with a meaning of their own in a line: those that open and
close a block, and those that take the meaning from the next character.  None
is listed twice, and none has both meanings. -/
structure Config where
  quotes : List Char
  escapes : List Char
  quotes_nodup : quotes.Nodup
  escapes_nodup : escapes.Nodup
  disjoint : ∀ c ∈ quotes, c ∉ escapes
deriving DecidableEq

/-- Why two sets of characters make no configuration: a character is in both.
-/
inductive ConfigError where
  | overlap (c : Char)
deriving DecidableEq

/-- The error in words. -/
def ConfigError.message : ConfigError → String
  | overlap c =>
    "character " ++ quoted c ++
      " is configured as both a quote and an escape character"

namespace Config

/-- The standard configuration: both quotes of ASCII, and the backslash. -/
def standard : Config where
  quotes := ['\x27', '"']
  escapes := ['\\']
  quotes_nodup := by simp
  escapes_nodup := by simp
  disjoint := by simp

/-- A configuration from two lists of characters.  Repetitions are dropped
and the first quote character that escapes too is reported and rejected. -/
def build (quotes escapes : List Char) :
    Logged (Except ConfigError Config) :=
  match h : quotes.eraseDups.find? (fun c => escapes.eraseDups.contains c) with
  | some c => do
    Logged.report (.configRejected c)
    return .error (.overlap c)
  | none =>
    return .ok {
      quotes := quotes.eraseDups
      escapes := escapes.eraseDups
      quotes_nodup := nodup_eraseDups quotes
      escapes_nodup := nodup_eraseDups escapes
      disjoint := by simpa using h }

/-- The configuration with other quote characters. -/
def withQuotes (config : Config) (quotes : List Char) :
    Logged (Except ConfigError Config) :=
  build quotes config.escapes

/-- The configuration with other escape characters. -/
def withEscapes (config : Config) (escapes : List Char) :
    Logged (Except ConfigError Config) :=
  build config.quotes escapes

/-- The character `c` opens and closes blocks. -/
def isQuote (config : Config) (c : Char) : Bool := config.quotes.contains c

/-- The character `c` takes the meaning from the next one. -/
def isEscape (config : Config) (c : Char) : Bool := config.escapes.contains c

/-- A quote character does not escape. -/
theorem isEscape_eq_false_of_isQuote (config : Config) {c : Char}
    (h : config.isQuote c = true) : config.isEscape c = false := by
  have hc : c ∈ config.quotes := by simpa [isQuote] using h
  simpa [isEscape] using config.disjoint c hc

theorem isQuote_eq_false_of_isEscape (config : Config) {c : Char}
    (h : config.isEscape c = true) : config.isQuote c = false := by
  refine Bool.eq_false_iff.mpr fun hquote => ?_
  rw [config.isEscape_eq_false_of_isQuote hquote] at h
  exact Bool.false_ne_true h

end Config

end PromptLine
