/-
The role of every character, told by looking back from it.

* `Policy.openBefore`: the quote that is open before a position;
* `Policy.Opens`, `Policy.Closes`, `Policy.Separates`, `Policy.Drops`: what a
  character does, said of the queries alone, and `Policy.Plays`, which calls
  every other character text;
* `Policy.roleAt`: the role itself.  A character plays that role and no other
  (`Policy.plays_iff`), because a quote character is never an escape;
* `Policy.after_take`: the reading behind the first characters of a line is
  what looking back from the next one says, and hence
  `Policy.roles_eq_map_roleAt`: the roles found while reading are these.
-/
import PromptLine.Proofs.Escaping
import PromptLine.Proofs.Positions
import PromptLine.Proofs.Reading

namespace PromptLine

namespace Policy

variable (policy : Policy) (text : Text) (pos : Nat)

/-! ### Roles by looking back -/

/-- The quote that is open before the character at a position. -/
def openBefore (policy : Policy) (line : Text) : Nat → Option Char
  | 0 => none
  | pos + 1 =>
    match policy.openBefore line pos with
    | none => if policy.isActiveQuote line pos then line.char? pos else none
    | some quote =>
      if line.char? pos = some quote ∧ policy.isEscaped line pos = false then
        none
      else some quote

/-- The character opens a block. -/
def Opens (policy : Policy) (line : Text) (pos : Nat) : Prop :=
  policy.openBefore line pos = none ∧ policy.isActiveQuote line pos = true

/-- The character closes the block that is open. -/
def Closes (policy : Policy) (line : Text) (pos : Nat) : Prop :=
  ∃ quote, policy.openBefore line pos = some quote ∧
    line.char? pos = some quote ∧ policy.isEscaped line pos = false

/-- The character separates words. -/
def Separates (policy : Policy) (line : Text) (pos : Nat) : Prop :=
  policy.openBefore line pos = none ∧
    policy.isActiveQuote line pos = false ∧
    policy.isSeparator line pos = true

/-- The character is an escape that has done its work. -/
def Drops (policy : Policy) (line : Text) (pos : Nat) : Prop :=
  policy.isActiveEscape line pos = true ∧ ¬ policy.Separates line pos

/-- The character at `pos` plays a role; what does nothing else is text. -/
def Plays (policy : Policy) (line : Text) (pos : Nat) : Role → Prop
  | .opener => policy.Opens line pos
  | .closer => policy.Closes line pos
  | .separator => policy.Separates line pos
  | .dropped => policy.Drops line pos
  | .text => pos < line.length ∧ ¬ policy.Opens line pos ∧
      ¬ policy.Closes line pos ∧ ¬ policy.Separates line pos ∧
      ¬ policy.Drops line pos

/-- The role of a character that neither quotes nor separates. -/
def plainRoleAt (policy : Policy) (line : Text) (pos : Nat) : Role :=
  if policy.isActiveEscape line pos then .dropped else .text

/-- The role of the character at `pos`. -/
def roleAt (policy : Policy) (line : Text) (pos : Nat) : Role :=
  match policy.openBefore line pos with
  | none =>
    if policy.isActiveQuote line pos then .opener
    else if policy.isSeparator line pos then .separator
    else policy.plainRoleAt line pos
  | some quote =>
    if line.char? pos = some quote ∧ policy.isEscaped line pos = false then
      .closer
    else policy.plainRoleAt line pos

/-! ### The queries inside a line -/

variable {policy text pos}

lemma isActiveQuote_of_lt (h : pos < text.length) :
    policy.isActiveQuote text pos =
      (policy.config.isQuote text[pos] && !policy.isEscaped text pos) := by
  rw [isActiveQuote, Text.holdsAt_of_lt _ h]

lemma isActiveEscape_of_lt (h : pos < text.length) :
    policy.isActiveEscape text pos =
      (policy.config.isEscape text[pos] && !policy.isEscaped text pos) := by
  rw [isActiveEscape, Escape.isActive_eq, Text.holdsAt_of_lt _ h]
  rfl

lemma isSeparator_of_lt (h : pos < text.length) :
    policy.isSeparator text pos =
      (!policy.isEscaped text pos && policy.separator.cuts text pos) := by
  rw [isSeparator, decide_eq_true h, Bool.true_and]

/-- A quote character is not an active escape. -/
lemma isActiveEscape_eq_false {c : Char} (hchar : text.char? pos = some c)
    (hc : policy.config.isQuote c = true) :
    policy.isActiveEscape text pos = false := by
  obtain ⟨h, rfl⟩ := List.getElem?_eq_some_iff.mp hchar
  rw [isActiveEscape_of_lt h,
    policy.config.isEscape_eq_false_of_isQuote hc, Bool.false_and]

lemma exists_of_isActiveQuote (h : policy.isActiveQuote text pos = true) :
    ∃ c, text.char? pos = some c ∧ policy.config.isQuote c = true := by
  have hquote : (text.char? pos).any policy.config.isQuote = true :=
    (Bool.and_eq_true_iff.mp h).1
  cases hchar : text.char? pos with
  | none => simp [hchar] at hquote
  | some c => exact ⟨c, rfl, by simpa [hchar] using hquote⟩

/-- Only a quote character is ever open. -/
lemma isQuote_of_openBefore {quote : Char}
    (h : policy.openBefore text pos = some quote) :
    policy.config.isQuote quote = true := by
  induction pos with
  | zero => exact absurd h (by simp [openBefore])
  | succ pos ih =>
      rw [openBefore] at h
      cases hopen : policy.openBefore text pos with
      | none =>
          simp only [hopen] at h
          split_ifs at h with hactive
          obtain ⟨c, hchar, hc⟩ := exists_of_isActiveQuote hactive
          have heq : c = quote := Option.some.inj (hchar.symm.trans h)
          rwa [heq] at hc
      | some other =>
          simp only [hopen] at h
          split_ifs at h
          exact ih (hopen.trans h)

/-! ### Every character plays one role -/

/-- A character that opens a block does not escape. -/
lemma Opens.isActiveEscape (h : policy.Opens text pos) :
    policy.isActiveEscape text pos = false := by
  obtain ⟨c, hchar, hc⟩ := exists_of_isActiveQuote h.2
  exact isActiveEscape_eq_false hchar hc

lemma Closes.isActiveEscape (h : policy.Closes text pos) :
    policy.isActiveEscape text pos = false := by
  obtain ⟨quote, hopen, hchar, _⟩ := h
  exact isActiveEscape_eq_false hchar (isQuote_of_openBefore hopen)

/-- A character plays the role found by looking back from it. -/
lemma plays_roleAt (h : pos < text.length) :
    policy.Plays text pos (policy.roleAt text pos) := by
  have hplain : ¬ policy.Opens text pos → ¬ policy.Closes text pos →
      ¬ policy.Separates text pos →
      policy.Plays text pos (policy.plainRoleAt text pos) := by
    intro hopens hcloses hseparates
    unfold plainRoleAt
    split_ifs with hescape
    · exact ⟨hescape, hseparates⟩
    · exact ⟨h, hopens, hcloses, hseparates, fun hdrops => hescape hdrops.1⟩
  unfold roleAt
  cases hopen : policy.openBefore text pos with
  | none =>
      have hcloses : ¬ policy.Closes text pos := by
        rintro ⟨quote, hquote, -⟩
        exact absurd (hopen.symm.trans hquote) (by simp)
      simp only
      split_ifs with hactive hsep
      · exact ⟨hopen, hactive⟩
      · exact ⟨hopen, by simpa using hactive, hsep⟩
      · exact hplain (fun hopens => hactive hopens.2) hcloses
          (fun hseparates => hsep hseparates.2.2)
  | some quote =>
      have hopens : ¬ policy.Opens text pos := fun hopens =>
        absurd (hopen.symm.trans hopens.1) (by simp)
      have hseparates : ¬ policy.Separates text pos := fun hseparates =>
        absurd (hopen.symm.trans hseparates.1) (by simp)
      simp only
      split_ifs with hclose
      · exact ⟨quote, hopen, hclose⟩
      · refine hplain hopens ?_ hseparates
        rintro ⟨other, hother, hchar, hescaped⟩
        have heq : quote = other := Option.some.inj (hopen.symm.trans hother)
        exact hclose ⟨heq ▸ hchar, hescaped⟩

lemma roleAt_of_plays (h : pos < text.length) {role : Role}
    (hplays : policy.Plays text pos role) :
    policy.roleAt text pos = role := by
  have hroleAt : policy.Plays text pos (policy.roleAt text pos) :=
    plays_roleAt h
  cases role with
  | opener => simp [roleAt, hplays.1, hplays.2]
  | closer =>
      obtain ⟨quote, hopen, hclose⟩ := hplays
      simp [roleAt, hopen, hclose]
  | separator => simp [roleAt, hplays.1, hplays.2.1, hplays.2.2]
  | dropped =>
      obtain ⟨hescape, hseparates⟩ := hplays
      generalize policy.roleAt text pos = found at hroleAt ⊢
      cases found with
      | opener =>
          rw [Opens.isActiveEscape hroleAt] at hescape
          exact absurd hescape (by simp)
      | closer =>
          rw [Closes.isActiveEscape hroleAt] at hescape
          exact absurd hescape (by simp)
      | separator => exact absurd hroleAt hseparates
      | dropped => rfl
      | text => exact absurd ⟨hescape, hseparates⟩ hroleAt.2.2.2.2
  | text =>
      obtain ⟨-, hopens, hcloses, hseparates, hdrops⟩ := hplays
      generalize policy.roleAt text pos = found at hroleAt ⊢
      cases found with
      | opener => exact absurd hroleAt hopens
      | closer => exact absurd hroleAt hcloses
      | separator => exact absurd hroleAt hseparates
      | dropped => exact absurd hroleAt hdrops
      | text => rfl

lemma Plays.lt_length {role : Role} (h : policy.Plays text pos role) :
    pos < text.length := by
  have hchar : ∀ {c}, text.char? pos = some c → pos < text.length :=
    fun hc => (List.getElem?_eq_some_iff.mp hc).1
  cases role with
  | opener =>
      obtain ⟨c, hc, -⟩ := exists_of_isActiveQuote h.2
      exact hchar hc
  | closer =>
      obtain ⟨quote, -, hc, -⟩ := h
      exact hchar hc
  | separator =>
      have hsep := h.2.2
      rw [isSeparator, Bool.and_assoc, Bool.and_eq_true] at hsep
      exact of_decide_eq_true hsep.1
  | dropped =>
      have hescape := h.1
      rw [isActiveEscape, Escape.isActive, Bool.and_eq_true] at hescape
      exact of_decide_eq_true hescape.1
  | text => exact h.1

/-- A character plays a role when that is the role found by looking back. -/
lemma plays_iff {role : Role} :
    policy.Plays text pos role ↔
      pos < text.length ∧ policy.roleAt text pos = role := by
  constructor
  · exact fun h => ⟨h.lt_length, roleAt_of_plays h.lt_length h⟩
  · rintro ⟨h, rfl⟩
    exact plays_roleAt h

instance (role : Role) : Decidable (policy.Plays text pos role) :=
  decidable_of_iff _ plays_iff.symm

lemma opens_iff :
    policy.Opens text pos ↔
      pos < text.length ∧ policy.roleAt text pos = .opener :=
  @plays_iff policy text pos .opener

lemma closes_iff :
    policy.Closes text pos ↔
      pos < text.length ∧ policy.roleAt text pos = .closer :=
  @plays_iff policy text pos .closer

instance : Decidable (policy.Opens text pos) :=
  decidable_of_iff _ opens_iff.symm

instance : Decidable (policy.Closes text pos) :=
  decidable_of_iff _ closes_iff.symm

/-- Every character plays exactly one role. -/
lemma existsUnique_plays (h : pos < text.length) :
    ∃! role, policy.Plays text pos role :=
  ⟨policy.roleAt text pos, plays_roleAt h,
    fun _ hplays => (roleAt_of_plays h hplays).symm⟩

/-! ### Looking back and reading forward -/

/-- The parity behind the first `pos` characters, as a query.  It does not
depend on the quote that is open. -/
lemma parity_after_take (openQuote : Option Char) (h : pos ≤ text.length) :
    (Reading.after { openQuote } policy.config (text.take pos)).parity =
      ⟨policy.isEscaped text pos⟩ := by
  rw [Reading.parity_after]
  exact congrArg Parity.mk
    (Escape.escaped_after_take policy.config.escapes h)

/-- The quote open behind the first `pos` characters is the one open before
`pos`. -/
lemma openQuote_after_take (h : pos ≤ text.length) :
    (Reading.after {} policy.config (text.take pos)).openQuote =
      policy.openBefore text pos := by
  induction pos with
  | zero => rfl
  | succ pos ih =>
      have hpos : pos < text.length := h
      have hle : pos ≤ text.length := Nat.le_of_lt hpos
      have hchar : text.char? pos = some text[pos] :=
        List.getElem?_eq_getElem hpos
      rw [List.take_add_one, List.getElem?_eq_getElem hpos,
        Option.toList_some, Reading.after_append, Reading.after_cons,
        Reading.after_nil, Reading.openQuote_pass, ih hle,
        parity_after_take none hle, openBefore, isActiveQuote_of_lt hpos, hchar]
      cases policy.openBefore text pos with
      | none => rfl
      | some quote => simp

/-- The reading behind the first `pos` characters is what looking back from
`pos` says. -/
lemma after_take (h : pos ≤ text.length) :
    Reading.after {} policy.config (text.take pos) =
      { openQuote := policy.openBefore text pos
        parity := ⟨policy.isEscaped text pos⟩ } := by
  rw [← openQuote_after_take h, ← parity_after_take none h]

/-- With the parity that looking back gives, a character of no other meaning
plays the role that looking back gives. -/
lemma plainRole_eq_plainRoleAt (openQuote : Option Char)
    (h : pos < text.length) :
    Reading.plainRole { openQuote, parity := ⟨policy.isEscaped text pos⟩ }
      policy.config text[pos] = policy.plainRoleAt text pos := by
  rw [Reading.plainRole, plainRoleAt, isActiveEscape_of_lt h, Bool.and_comm]
  rfl

/-- The role found while reading is the one found by looking back. -/
lemma role_after_take (h : pos < text.length) :
    (Reading.after {} policy.config (text.take pos)).role policy.config
        (policy.separator.cuts text pos) text[pos] =
      policy.roleAt text pos := by
  have hchar : text.char? pos = some text[pos] :=
    List.getElem?_eq_getElem h
  rw [after_take (Nat.le_of_lt h), Reading.role, roleAt,
    plainRole_eq_plainRoleAt _ h,
    isActiveQuote_of_lt h, isSeparator_of_lt h, hchar,
    Bool.and_comm (!policy.isEscaped text pos)]
  cases policy.openBefore text pos with
  | none => rfl
  | some quote => simp

variable (policy text)

lemma openAtEnd_eq_openBefore :
    policy.openAtEnd text = policy.openBefore text text.length := by
  rw [openAtEnd_eq, ← openQuote_after_take (Nat.le_refl _), List.take_length]

lemma getElem?_roles (k : Nat) :
    (policy.roles text)[k]? =
      text[k]?.map fun _ => policy.roleAt text k := by
  rw [roles_eq, Reading.getElem?_roles]
  by_cases h : k < text.length
  · rw [List.getElem?_eq_getElem h, Option.map_some, Option.map_some,
      role_after_take h]
  · rw [List.getElem?_eq_none (by omega), Option.map_none, Option.map_none]

/-- The role found at a position while reading is the one that the character
there plays. -/
lemma getElem?_roles_eq_some_iff {k : Nat} {role : Role} :
    (policy.roles text)[k]? = some role ↔ policy.Plays text k role := by
  rw [getElem?_roles, plays_iff]
  by_cases h : k < text.length
  · rw [List.getElem?_eq_getElem h, Option.map_some, Option.some_inj]
    exact (and_iff_right h).symm
  · rw [List.getElem?_eq_none (by omega), Option.map_none]
    exact ⟨fun hnone => absurd hnone (by simp), fun hplays =>
      absurd hplays.1 h⟩

lemma roles_eq_map_roleAt :
    policy.roles text =
      (List.range text.length).map (policy.roleAt text) := by
  refine eq_map_range (length_roles policy text) fun k hk => ?_
  rw [getElem?_roles, List.getElem?_eq_getElem hk, Option.map_some]

end Policy

end PromptLine
