/-
Changing a configuration step by step.

* `Change`: one step, which starts afresh or replaces one of the two sets.
* `Change.apply`: what the step makes of the configuration in force, which may
  be an error.
* `Config.after`: the configuration in force behind the step; a rejected step
  leaves it as it was.
* `Config.replay`: the same for a whole run of steps.
-/
import PromptLine.Config.Basic

namespace PromptLine

/-- One step of configuring: back to the standard characters, or other
characters in both sets or in one. -/
inductive Change where
  | standard
  | sets (quotes escapes : List Char)
  | quotes (chars : List Char)
  | escapes (chars : List Char)
deriving DecidableEq

/-- What a step makes of the configuration in force. -/
def Change.apply (config : Config) :
    Change → Logged (Except ConfigError Config)
  | standard => return .ok .standard
  | sets quoting escaping => Config.build quoting escaping
  | quotes chars => config.withQuotes chars
  | escapes chars => config.withEscapes chars

namespace Config

/-- The configuration in force behind a step. -/
def after (config : Config) (change : Change) : Config :=
  (change.apply config).value.toOption.getD config

/-- The configuration in force behind a run of steps. -/
def replay (config : Config) (changes : List Change) : Config :=
  changes.foldl after config

theorem after_of_ok {config made : Config} {change : Change}
    (h : (change.apply config).value = .ok made) :
    config.after change = made := by
  simp [after, h, Except.toOption]

/-- A step that is rejected leaves the configuration as it was. -/
theorem after_of_error {config : Config} {change : Change} {e : ConfigError}
    (h : (change.apply config).value = .error e) :
    config.after change = config := by
  simp [after, h, Except.toOption]

end Config

end PromptLine
