/-
What a run of configuration steps leaves in force, and what a split has from
it.

* `Wanted`: two lists of characters as they were asked for, repetitions and
  all, and `Wanted.replay`, the lists that a run of steps leaves standing.  A
  step that asks for a character in both lists is ignored;
* `Config.Serves`: the configuration holds the characters asked for, each once
  and in the order in which they were first listed, and none in both sets;
* `Config.build_serves`: a configuration is built of two lists exactly when
  they are apart, and serves them;
* `Config.Serves.after`, `Config.Serves.replay`: one step, and a run of steps,
  leave a configuration in force that serves what was asked for last;
* `Policy.replay_apart`: **behind every run of steps no character is listed
  twice or in both sets, so that no character is an active quote and an active
  escape, and none that opens or closes a block escapes the next one.**
-/
import PromptLine.Config.Change
import PromptLine.Proofs.Standing

namespace PromptLine

lemma eraseDups_of_nodup {chars : List Char} (h : chars.Nodup) :
    chars.eraseDups = chars := by
  induction chars with
  | nil => simp
  | cons c rest ih =>
      obtain ⟨hc, hrest⟩ := List.nodup_cons.mp h
      have hall : rest.filter (fun b => !b == c) = rest := by
        refine List.filter_eq_self.mpr fun b hb => ?_
        simpa using fun heq : b = c => hc (heq ▸ hb)
      rw [List.eraseDups_cons, hall, ih hrest]

/-! ### What is asked for -/

/-- The characters that should quote and those that should escape, as they were
listed. -/
structure Wanted where
  quotes : List Char
  escapes : List Char

namespace Wanted

/-- The standard characters. -/
def standard : Wanted where
  quotes := Config.standard.quotes
  escapes := Config.standard.escapes

/-- No character is in both lists. -/
def Apart (wanted : Wanted) : Prop := ∀ c ∈ wanted.quotes, c ∉ wanted.escapes

instance (wanted : Wanted) : Decidable wanted.Apart :=
  decidable_of_iff
    (wanted.quotes.all fun c => !wanted.escapes.contains c)
    (by simp [Apart])

/-- The lists that a step asks for. -/
def ask (wanted : Wanted) : Change → Wanted
  | .standard => standard
  | .sets quotes escapes => { quotes, escapes }
  | .quotes chars => { wanted with quotes := chars }
  | .escapes chars => { wanted with escapes := chars }

/-- The lists that stand behind a step. -/
def after (wanted : Wanted) (change : Change) : Wanted :=
  if (wanted.ask change).Apart then wanted.ask change else wanted

/-- The lists that stand behind a run of steps. -/
def replay (wanted : Wanted) (changes : List Change) : Wanted :=
  changes.foldl after wanted

lemma replay_cons (wanted : Wanted) (change : Change) (rest : List Change) :
    wanted.replay (change :: rest) = (wanted.after change).replay rest := rfl

end Wanted

namespace Config

lemma replay_cons (config : Config) (change : Change) (rest : List Change) :
    config.replay (change :: rest) = (config.after change).replay rest := rfl

/-- The configuration holds the characters of two lists that are apart, each
once and in the order of the list. -/
structure Serves (config : Config) (wanted : Wanted) : Prop where
  quotes : config.quotes = wanted.quotes.eraseDups
  escapes : config.escapes = wanted.escapes.eraseDups
  apart : wanted.Apart

lemma serves_standard : standard.Serves .standard where
  quotes := (eraseDups_of_nodup standard.quotes_nodup).symm
  escapes := (eraseDups_of_nodup standard.escapes_nodup).symm
  apart := standard.disjoint

/-- A configuration is built exactly when its lists are apart.  Repetitions
do not matter. -/
lemma build_serves {quotes escapes : List Char} {wanted : Wanted}
    (hquotes : quotes.eraseDups = wanted.quotes.eraseDups)
    (hescapes : escapes.eraseDups = wanted.escapes.eraseDups) :
    (wanted.Apart → ∃ made, (build quotes escapes).value = .ok made ∧
      made.Serves wanted) ∧
    (¬ wanted.Apart → ∃ e, (build quotes escapes).value = .error e) := by
  have hmem : wanted.Apart ↔
      ∀ c ∈ quotes.eraseDups, c ∉ escapes.eraseDups := by
    simp [Wanted.Apart, hquotes, hescapes, List.mem_eraseDups]
  unfold build
  split
  next c hfind =>
    refine ⟨fun hapart => ?_, fun _ => ⟨.overlap c, rfl⟩⟩
    have hquote := List.mem_of_find?_eq_some hfind
    have hescape := List.find?_some hfind
    exact absurd (by simpa using hescape) (hmem.mp hapart c hquote)
  next hfind =>
    refine ⟨fun hapart => ⟨_, rfl, hquotes, hescapes, hapart⟩, fun hnot => ?_⟩
    refine absurd (hmem.mpr fun c hc => ?_) hnot
    simpa using List.find?_eq_none.mp hfind c hc

namespace Serves

variable {config : Config} {wanted : Wanted}

/-! ### Steps and runs -/

/-- **One step** makes a configuration that serves what it asks for, if that
is possible, and none otherwise. -/
lemma value_apply (h : config.Serves wanted) (change : Change) :
    ((wanted.ask change).Apart → ∃ made,
      (change.apply config).value = .ok made ∧
        made.Serves (wanted.ask change)) ∧
    (¬ (wanted.ask change).Apart → ∃ e,
      (change.apply config).value = .error e) := by
  have hquotes : config.quotes.eraseDups = wanted.quotes.eraseDups := by
    rw [h.quotes, eraseDups_of_nodup (nodup_eraseDups _)]
  have hescapes : config.escapes.eraseDups = wanted.escapes.eraseDups := by
    rw [h.escapes, eraseDups_of_nodup (nodup_eraseDups _)]
  cases change with
  | standard =>
      exact ⟨fun _ => ⟨standard, rfl, serves_standard⟩,
        fun hnot => absurd serves_standard.apart hnot⟩
  | sets => exact build_serves rfl rfl
  | quotes => exact build_serves rfl hescapes
  | escapes => exact build_serves hquotes rfl

/-- What is in force behind a step serves what stands behind it. -/
lemma after (h : config.Serves wanted) (change : Change) :
    (config.after change).Serves (wanted.after change) := by
  obtain ⟨haccept, hreject⟩ := h.value_apply change
  by_cases hapart : (wanted.ask change).Apart
  · obtain ⟨made, hmade, hserves⟩ := haccept hapart
    rw [after_of_ok hmade, Wanted.after, if_pos hapart]
    exact hserves
  · obtain ⟨e, herror⟩ := hreject hapart
    rw [after_of_error herror, Wanted.after, if_neg hapart]
    exact h

/-- **What is in force behind a run of steps serves what stands behind it.** -/
lemma replay (h : config.Serves wanted) (changes : List Change) :
    (config.replay changes).Serves (wanted.replay changes) := by
  induction changes generalizing config wanted with
  | nil => exact h
  | cons change rest ih =>
      rw [replay_cons, Wanted.replay_cons]
      exact ih (h.after change)

lemma nodup_and_disjoint (h : config.Serves wanted) :
    config.quotes.Nodup ∧ config.escapes.Nodup ∧
      ∀ c ∈ config.quotes, c ∉ config.escapes := by
  rw [h.quotes, h.escapes]
  refine ⟨nodup_eraseDups _, nodup_eraseDups _, fun c hc => ?_⟩
  rw [List.mem_eraseDups] at hc ⊢
  exact h.apart c hc

end Serves

end Config

namespace Policy

variable {policy : Policy} {text : Text} {pos : Nat}

/-! ### What a split has from it -/

lemma isActiveEscape_eq_false_of_isActiveQuote
    (h : policy.isActiveQuote text pos = true) :
    policy.isActiveEscape text pos = false := by
  obtain ⟨c, hchar, hc⟩ := exists_of_isActiveQuote h
  exact isActiveEscape_eq_false hchar hc

/-- A character that opens or closes a block in the split of a line leaves the
next one unescaped. -/
lemma isEscaped_succ_eq_false {role : Role}
    (hrole : (policy.roles text)[pos]? = some role)
    (h : role = .opener ∨ role = .closer) :
    policy.isEscaped text (pos + 1) = false := by
  have hpos : pos < text.length := by
    rw [← length_roles policy text]
    exact (List.getElem?_eq_some_iff.mp hrole).1
  rw [getElem?_roles, List.getElem?_eq_getElem hpos] at hrole
  have hplays : policy.Plays text pos role :=
    plays_iff.mpr ⟨hpos, Option.some.inj hrole⟩
  rcases h with rfl | rfl
  · exact Opens.isActiveEscape hplays
  · exact Closes.isActiveEscape hplays

/-- **Quoting and escaping stay apart, however the configuration came about.**
Behind every run of steps from the standard configuration, rejected ones
included, the characters in force are those of the lists that stand, each once
and in order; a configuration that a further step makes is in force behind that
step; and no character is in both sets.  Hence in every line no character is an
active quote and an active escape at once, and none that opens or closes a
block escapes the character behind it. -/
theorem replay_apart (changes : List Change) (policy : Policy)
    (hrun : policy.config = Config.replay .standard changes) :
    (policy.config.quotes =
        (Wanted.replay .standard changes).quotes.eraseDups ∧
      policy.config.escapes =
        (Wanted.replay .standard changes).escapes.eraseDups) ∧
    (∀ change made, (change.apply policy.config).value = .ok made →
      made = Config.replay .standard (changes ++ [change])) ∧
    (policy.config.quotes.Nodup ∧ policy.config.escapes.Nodup ∧
      ∀ c ∈ policy.config.quotes, c ∉ policy.config.escapes) ∧
    ∀ line pos,
      ¬ (policy.isActiveQuote line pos = true ∧
        policy.isActiveEscape line pos = true) ∧
      ((policy.roles line)[pos]? = some .opener ∨
          (policy.roles line)[pos]? = some .closer →
        policy.isEscaped line (pos + 1) = false) := by
  have hserves : policy.config.Serves (Wanted.replay .standard changes) := by
    rw [hrun]
    exact Config.serves_standard.replay changes
  refine ⟨⟨hserves.quotes, hserves.escapes⟩, fun change made hmade => ?_,
    hserves.nodup_and_disjoint, fun line pos => ⟨?_, ?_⟩⟩
  · rw [Config.replay, List.foldl_append, List.foldl_cons, List.foldl_nil,
      ← Config.replay, ← hrun, Config.after_of_ok hmade]
  · rintro ⟨hquote, hescape⟩
    rw [isActiveEscape_eq_false_of_isActiveQuote hquote] at hescape
    cases hescape
  · rintro (hopener | hcloser)
    · exact isEscaped_succ_eq_false hopener (.inl rfl)
    · exact isEscaped_succ_eq_false hcloser (.inr rfl)

/-- Three steps with repetitions, the second one asking that the escape quote
too. -/
def someChanges : List Change :=
  [.sets ['"', '"'] ['\\'], .quotes ['\\'], .escapes ['^', '^']]

/-- The policy with the configuration that these steps leave in force. -/
def someChanged : Policy where
  config := Config.replay .standard someChanges

/-- The repetitions are dropped and the second step is ignored; the quote that
opens a block does not escape the one behind it. -/
theorem replay_apart_rejected :
    someChanged.config = Config.replay .standard someChanges ∧
      someChanged.config.quotes = ['"'] ∧
      someChanged.config.escapes = ['^'] ∧
      (someChanged.roles "^\"\"\"".toList)[2]? = some .opener ∧
      someChanged.isEscaped "^\"\"\"".toList 3 = false := by
  obtain ⟨⟨hquotes, hescapes⟩, -, -, hline⟩ :=
    replay_apart someChanges someChanged rfl
  have hopener : (someChanged.roles "^\"\"\"".toList)[2]? = some .opener := by
    decide
  exact ⟨rfl, hquotes.trans (by decide), hescapes.trans (by decide), hopener,
    (hline _ 2).2 (.inl hopener)⟩

end Policy

end PromptLine
