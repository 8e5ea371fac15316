/-
Reading a text in parts, and the roles found on the way.

* `Reading.pass`, `Reading.after`: the reading behind a character and behind a
  whole text.  What separates words has no say in either
  (`Reading.next_role`), so quotes and escapes can be followed without it;
* `Reading.role_of_escaped`: an escaped character has no meaning of its own;
* `Reading.pass_of_role_dropped`, `Reading.pass_of_role_text`: the reading
  behind a character that neither quotes nor separates, and
  `Reading.pass_of_isEscape_eq_false`: that behind a character that is no
  escape;
* `Reading.roles`: the roles of a text read from any reading on, where the
  verdicts on its characters are given by their distance from its start;
* `Reading.roles_append`, `Reading.roles_take`, `Reading.roles_congr`: the
  roles of two texts in a row, of the first part of a text, and of a text
  under verdicts that agree on it;
* `Policy.survey_eq`: the survey of a line is the reading behind it together
  with its roles, both from the empty reading on.
-/
import Mathlib.Data.List.TakeDrop
import PromptLine.Role.Survey

namespace PromptLine

namespace Reading

/-! ### The reading behind a text -/

/-- The reading behind the character `c`. -/
def pass (reading : Reading) (config : Config) (c : Char) : Reading :=
  reading.next config (reading.role config false c) c

/-- The reading behind a whole text. -/
def after (reading : Reading) (config : Config) (text : Text) : Reading :=
  text.foldl (fun reading c => reading.pass config c) reading

/-- Where nothing is escaped a character of no other meaning is dropped if it
is an escape, and is text if not. -/
lemma plainRole_rested (config : Config) (openQuote : Option Char)
    (c : Char) :
    Reading.plainRole { openQuote } config c =
      if config.isEscape c then .dropped else .text := by
  rw [plainRole, Parity.activates, Bool.not_false, Bool.true_and]
  rfl

variable (reading : Reading) (config : Config)

lemma openQuote_next_plainRole (c : Char) :
    (reading.next config (reading.plainRole config c) c).openQuote =
      reading.openQuote := by
  unfold plainRole
  split <;> rfl

/-- The quote that is open behind a character, told apart by the quote that
is open before it. -/
lemma openQuote_next_role (cuts : Bool) (c : Char) :
    (reading.next config (reading.role config cuts c) c).openQuote =
      match reading.openQuote with
      | none =>
        if config.isQuote c && !reading.parity.escaped then some c else none
      | some quote =>
        if c == quote && !reading.parity.escaped then none
        else some quote := by
  cases h : reading.openQuote with
  | none =>
      simp only [role, h]
      split_ifs
      · rfl
      · exact h
      · rw [openQuote_next_plainRole, h]
  | some quote =>
      simp only [role, h]
      split_ifs
      · rfl
      · rw [openQuote_next_plainRole, h]

/-- Whether a character would separate words makes no difference behind it. -/
lemma next_role (cuts : Bool) (c : Char) :
    reading.next config (reading.role config cuts c) c =
      reading.pass config c := by
  have hquote := openQuote_next_role reading config cuts c
  rw [← openQuote_next_role reading config false c] at hquote
  simp only [pass, next] at hquote ⊢
  rw [hquote]

lemma openQuote_pass (c : Char) :
    (reading.pass config c).openQuote =
      match reading.openQuote with
      | none =>
        if config.isQuote c && !reading.parity.escaped then some c else none
      | some quote =>
        if c == quote && !reading.parity.escaped then none
        else some quote :=
  openQuote_next_role reading config false c

lemma parity_pass (c : Char) :
    (reading.pass config c).parity =
      reading.parity.next config.escapes c := rfl

/-- An escaped character is text, whatever it is. -/
lemma role_of_escaped {reading : Reading}
    (h : reading.parity.escaped = true) (cuts : Bool) (c : Char) :
    reading.role config cuts c = .text := by
  have hplain : reading.plainRole config c = .text := by
    simp [plainRole, Parity.activates, h]
  cases hopen : reading.openQuote <;> simp [role, hopen, h, hplain]

/-- A character is dropped or is text only when it neither quotes nor
separates. -/
lemma plainRole_eq_role {reading : Reading} {cuts : Bool} {c : Char}
    {found : Role} (hfound : found = .dropped ∨ found = .text)
    (h : reading.role config cuts c = found) :
    reading.plainRole config c = found := by
  unfold role at h
  cases hopen : reading.openQuote with
  | none =>
      rw [hopen] at h
      simp only at h
      split_ifs at h
      · rcases hfound with rfl | rfl <;> cases h
      · rcases hfound with rfl | rfl <;> cases h
      · exact h
  | some quote =>
      rw [hopen] at h
      simp only at h
      split_ifs at h
      · rcases hfound with rfl | rfl <;> cases h
      · exact h

lemma plainRole_eq_dropped_iff (c : Char) :
    reading.plainRole config c = .dropped ↔
      reading.parity.activates config.escapes c = true := by
  unfold plainRole
  split_ifs with h <;> simp [h]

lemma plainRole_eq_text_iff (c : Char) :
    reading.plainRole config c = .text ↔
      reading.parity.activates config.escapes c = false := by
  unfold plainRole
  split_ifs with h <;> simp [h]

/-- Behind a dropped character the next one is escaped. -/
lemma pass_of_role_dropped {reading : Reading} {cuts : Bool} {c : Char}
    (h : reading.role config cuts c = .dropped) :
    reading.pass config c =
      { openQuote := reading.openQuote, parity := ⟨true⟩ } := by
  rw [← next_role reading config cuts, h]
  exact congrArg (fun active => Reading.mk reading.openQuote ⟨active⟩)
    ((plainRole_eq_dropped_iff reading config c).mp
      (plainRole_eq_role config (.inl rfl) h))

/-- Behind text nothing has changed, and nothing is escaped. -/
lemma pass_of_role_text {reading : Reading} {cuts : Bool} {c : Char}
    (h : reading.role config cuts c = .text) :
    reading.pass config c = { openQuote := reading.openQuote } := by
  rw [← next_role reading config cuts, h]
  exact congrArg (fun active => Reading.mk reading.openQuote ⟨active⟩)
    ((plainRole_eq_text_iff reading config c).mp
      (plainRole_eq_role config (.inr rfl) h))

/-- Behind a character that is no escape nothing is escaped, and its role says
which quote is open. -/
lemma pass_of_isEscape_eq_false {reading : Reading} {cuts : Bool} {c : Char}
    {found : Role} (hrole : reading.role config cuts c = found)
    (hescape : config.isEscape c = false) :
    reading.pass config c =
      { openQuote := (reading.next config found c).openQuote } := by
  have hactive : reading.parity.activates config.escapes c = false := by
    rw [Parity.activates, ← Config.isEscape, hescape, Bool.and_false]
  rw [← next_role reading config cuts, hrole]
  exact congrArg (fun active => Reading.mk _ ⟨active⟩) hactive

@[simp] lemma after_nil : reading.after config [] = reading := rfl

@[simp] lemma after_cons (c : Char) (rest : Text) :
    reading.after config (c :: rest) =
      (reading.pass config c).after config rest := rfl

lemma after_append (a b : Text) :
    reading.after config (a ++ b) =
      (reading.after config a).after config b := by
  simp [after]

lemma parity_after (text : Text) :
    (reading.after config text).parity =
      reading.parity.after config.escapes text := by
  induction text generalizing reading with
  | nil => rfl
  | cons c rest ih =>
      rw [after_cons, ih, parity_pass]
      rfl

/-! ### The roles of a text -/

/-- The roles of the characters of a text, where `cuts k` says whether the
character at `k` would separate words if it were neither quoted nor
escaped. -/
def roles (config : Config) : Reading → (Nat → Bool) → Text → List Role
  | _, _, [] => []
  | reading, cuts, c :: rest =>
    reading.role config (cuts 0) c ::
      roles config (reading.pass config c) (fun k => cuts (k + 1)) rest

@[simp] lemma length_roles (cuts : Nat → Bool) (text : Text) :
    (reading.roles config cuts text).length = text.length := by
  induction text generalizing reading cuts with
  | nil => rfl
  | cons c rest ih => simp [roles, ih]

/-- A text behind another finds the reading that the first one leaves, and
its own verdicts further on. -/
lemma roles_append (cuts : Nat → Bool) (a b : Text) :
    reading.roles config cuts (a ++ b) =
      reading.roles config cuts a ++
        (reading.after config a).roles config (fun k => cuts (a.length + k))
          b := by
  induction a generalizing reading cuts with
  | nil => simp [roles]
  | cons c rest ih =>
      have hshift : (fun k => cuts (rest.length + k + 1)) =
          fun k => cuts ((c :: rest).length + k) := by
        funext k
        rw [List.length_cons, Nat.add_right_comm]
      rw [List.cons_append, roles, ih, hshift, roles, List.cons_append,
        after_cons]

lemma roles_take (cuts : Nat → Bool) (text : Text) (k : Nat) :
    reading.roles config cuts (text.take k) =
      (reading.roles config cuts text).take k := by
  induction text generalizing reading cuts k with
  | nil => simp [roles]
  | cons c rest ih =>
      cases k with
      | zero => rfl
      | succ k =>
          rw [List.take_succ_cons, roles, roles, List.take_succ_cons, ih]

lemma roles_congr {cuts cuts' : Nat → Bool} (text : Text)
    (h : ∀ k < text.length, cuts k = cuts' k) :
    reading.roles config cuts text = reading.roles config cuts' text := by
  induction text generalizing reading cuts cuts' with
  | nil => rfl
  | cons c rest ih =>
      have hrest : ∀ k < rest.length, cuts (k + 1) = cuts' (k + 1) :=
        fun k hk => h (k + 1) (Nat.succ_lt_succ hk)
      rw [roles, roles, h 0 (Nat.succ_pos _), ih _ hrest]

/-- The role at a position is found from the reading behind the characters
before it. -/
lemma getElem?_roles (cuts : Nat → Bool) (text : Text) (k : Nat) :
    (reading.roles config cuts text)[k]? =
      text[k]?.map fun c =>
        (reading.after config (text.take k)).role config (cuts k) c := by
  induction text generalizing reading cuts k with
  | nil => rfl
  | cons c rest ih =>
      cases k with
      | zero => rfl
      | succ k => exact ih (reading.pass config c) (fun k => cuts (k + 1)) k

end Reading

namespace Policy

/-! ### The survey of a line -/

variable (policy : Policy) (line : Text)

/-- Surveying a text that starts at position `start` of the line reads on and
adds its roles. -/
lemma foldl_surveyNext (survey : Survey) (text : Text) (start : Nat) :
    (text.zipIdx start).foldl (policy.surveyNext line) survey =
      { reading := survey.reading.after policy.config text
        roles := survey.roles ++ survey.reading.roles policy.config
          (fun k => policy.separator.cuts line (start + k)) text } := by
  induction text generalizing survey start with
  | nil => simp [Reading.roles]
  | cons c rest ih =>
      have hshift : (fun k => policy.separator.cuts line (start + 1 + k)) =
          fun k => policy.separator.cuts line (start + (k + 1)) := by
        funext k
        rw [Nat.add_right_comm, Nat.add_assoc]
      rw [List.zipIdx_cons, List.foldl_cons, ih, surveyNext, hshift]
      simp [Reading.next_role, Reading.roles]

/-- The survey of a line is the reading behind it, with its roles. -/
lemma survey_eq :
    policy.survey line =
      { reading := Reading.after {} policy.config line
        roles := (Reading.roles policy.config {}
          (policy.separator.cuts line) line).toArray } := by
  rw [survey, foldl_surveyNext]
  simp

lemma roles_eq :
    policy.roles line =
      Reading.roles policy.config {} (policy.separator.cuts line) line := by
  rw [roles, survey_eq]

lemma openAtEnd_eq :
    policy.openAtEnd line =
      (Reading.after {} policy.config line).openQuote := by
  rw [openAtEnd, survey_eq]

end Policy

end PromptLine
