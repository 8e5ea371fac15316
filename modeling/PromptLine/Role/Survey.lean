/-
The roles of all characters of a line.

* `Survey`: the roles found so far, with the reading behind them.
* `Policy.survey`: the survey of a whole line.
* `Policy.roles`: the roles alone, one for each character
  (`Policy.length_roles`).
* `Policy.openAtEnd`: the quote that is open when the line ends.
-/
import PromptLine.Policy
import PromptLine.Role.Reading

namespace PromptLine

/-- The roles of the characters read so far, in the order of the line, and what
is known behind the last of them. -/
structure Survey where
  reading : Reading := {}
  roles : Array Role := #[]

namespace Policy

/-- Adds the character `c` at `pos` to the survey of `line`. -/
def surveyNext (policy : Policy) (line : Text) (survey : Survey) :
    Char × Nat → Survey
  | (c, pos) =>
    let role := survey.reading.role policy.config
      (policy.separator.cuts line pos) c
    { reading := survey.reading.next policy.config role c
      roles := survey.roles.push role }

/-- The survey of a whole line. -/
def survey (policy : Policy) (line : Text) : Survey :=
  line.zipIdx.foldl (policy.surveyNext line) {}

/-- The roles of the characters of a line. -/
def roles (policy : Policy) (line : Text) : List Role :=
  (policy.survey line).roles.toList

/-- The quote that is open when the line ends. -/
def openAtEnd (policy : Policy) (line : Text) : Option Char :=
  (policy.survey line).reading.openQuote

theorem size_roles_foldl_surveyNext (policy : Policy) (line : Text)
    (survey : Survey) (items : List (Char × Nat)) :
    (items.foldl (policy.surveyNext line) survey).roles.size =
      survey.roles.size + items.length := by
  induction items generalizing survey with
  | nil => rfl
  | cons item rest ih =>
    simp only [List.foldl_cons, ih, surveyNext, Array.size_push,
      List.length_cons]
    omega

/-- Every character has one role. -/
theorem length_roles (policy : Policy) (line : Text) :
    (policy.roles line).length = line.length := by
  simp [roles, survey, size_roles_foldl_surveyNext]

end Policy

end PromptLine
