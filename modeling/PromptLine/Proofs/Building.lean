/-
How a configuration is built of two lists of characters, at once or one list
after the other.

* `firstOccurrences`: the characters of a list, each where it stands first.
  These are what is left when repetitions are dropped
  (`eraseDups_eq_firstOccurrences`), and they hold the same first character of
  any kind (`find?_eraseDups`);
* `Config.value_build_eq_error_iff`, `Config.value_build_eq_ok_iff`: for which
  character two lists are rejected, and which configuration they make;
* `Config.quotesThenEscapes`, `Config.escapesThenQuotes`: the two sets of a
  configuration replaced one after the other.  A new set is held against the
  old one of the other kind, which is then replaced itself; so the order
  decides whether there is a configuration, and never which
  (`Config.quotesThenEscapes_eq_ok_iff`, `Config.escapesThenQuotes_eq_ok_iff`);
* `Config.build_exact`: **what is accepted, what is reported and what is made,
  for all lists, and the same in either order**.
-/
import Mathlib.Data.List.Induction
import PromptLine.Proofs.Configuring

namespace PromptLine

attribute [ext] Config

/-! ### Repetitions -/

/-- The characters of a list that do not stand in it before, in order. -/
def firstOccurrences (listed : List Char) : List Char :=
  (listed.zipIdx.filter fun place => place.1 ∉ listed.take place.2).map
    Prod.fst

lemma eraseDups_concat (listed : List Char) (c : Char) :
    (listed ++ [c]).eraseDups =
      listed.eraseDups ++ if c ∈ listed then [] else [c] := by
  rw [List.eraseDups_append, List.removeAll]
  by_cases h : c ∈ listed <;> simp [h, List.eraseDups_cons]

lemma firstOccurrences_concat (listed : List Char) (c : Char) :
    firstOccurrences (listed ++ [c]) =
      firstOccurrences listed ++ if c ∈ listed then [] else [c] := by
  have hbefore : ∀ place ∈ listed.zipIdx,
      decide (place.1 ∉ (listed ++ [c]).take place.2) =
        decide (place.1 ∉ listed.take place.2) := by
    intro place hplace
    have hlt : place.2 < listed.length := (List.mem_zipIdx' hplace).1
    rw [List.take_append_of_le_length (Nat.le_of_lt hlt)]
  rw [firstOccurrences, List.zipIdx_append, List.filter_append,
    List.filter_congr hbefore, List.map_append, Nat.zero_add]
  congr 1
  by_cases h : c ∈ listed <;> simp [h]

/-- Dropping repetitions leaves every character where it stands first. -/
lemma eraseDups_eq_firstOccurrences (listed : List Char) :
    listed.eraseDups = firstOccurrences listed := by
  induction listed using List.reverseRecOn with
  | nil => rfl
  | append_singleton listed c ih =>
      rw [eraseDups_concat, firstOccurrences_concat, ih]

/-- The first character of a kind is never a repetition. -/
lemma find?_eraseDups (p : Char → Bool) (listed : List Char) :
    listed.eraseDups.find? p = listed.find? p := by
  induction listed using List.reverseRecOn with
  | nil => rfl
  | append_singleton listed c ih =>
      rw [eraseDups_concat, List.find?_append, List.find?_append, ih]
      by_cases h : c ∈ listed
      · cases hfind : listed.find? p with
        | some found => rfl
        | none =>
            -- a repetition is of no kind that is not there before it
            have hc := List.find?_eq_none.mp hfind c h
            simp [h, hc]
      · rw [if_neg h]

namespace Config

variable {config made : Config} {quotes escapes : List Char}

/-! ### One step -/

/-- The first character of a list, repetitions dropped, that is in another. -/
lemma find?_overlap_eq_some_iff {c : Char} :
    quotes.eraseDups.find? (fun c => escapes.eraseDups.contains c) = some c ↔
      ∃ before behind, quotes = before ++ c :: behind ∧ c ∈ escapes ∧
        ∀ b ∈ before, b ∉ escapes := by
  have hmem : ∀ c, escapes.eraseDups.contains c = true ↔ c ∈ escapes :=
    fun c => by rw [List.contains_iff_mem, List.mem_eraseDups]
  rw [find?_eraseDups, List.find?_eq_some_iff_append]
  simp only [hmem, Bool.not_eq_true', ← Bool.not_eq_true]
  exact ⟨fun ⟨hc, before, behind, hquotes, hbefore⟩ =>
      ⟨before, behind, hquotes, hc, hbefore⟩,
    fun ⟨before, behind, hquotes, hc, hbefore⟩ =>
      ⟨hc, before, behind, hquotes, hbefore⟩⟩

/-- Two lists are rejected for the first character of the one that is in the
other. -/
lemma value_build_eq_error_iff {c : Char} :
    (build quotes escapes).value = .error (.overlap c) ↔
      ∃ before behind, quotes = before ++ c :: behind ∧ c ∈ escapes ∧
        ∀ b ∈ before, b ∉ escapes := by
  rw [← find?_overlap_eq_some_iff]
  unfold build
  split
  next found h =>
    rw [h]
    simp
  next h =>
    refine iff_of_false (by simp) fun hsome => ?_
    rw [h] at hsome
    cases hsome

/-- Two lists with no character in common make a configuration of their
characters, without repetitions. -/
lemma exists_value_build (h : Wanted.Apart { quotes, escapes }) :
    ∃ made, (build quotes escapes).value = .ok made ∧
      made.quotes = quotes.eraseDups ∧ made.escapes = escapes.eraseDups := by
  obtain ⟨made, hmade, hserves⟩ :=
    (@build_serves quotes escapes ⟨quotes, escapes⟩ rfl rfl).1 h
  exact ⟨made, hmade, hserves.quotes, hserves.escapes⟩

/-- Only lists with no character in common make a configuration. -/
lemma apart_of_value_build (h : (build quotes escapes).value = .ok made) :
    Wanted.Apart { quotes, escapes } := by
  by_contra hnot
  obtain ⟨e, he⟩ :=
    (@build_serves quotes escapes ⟨quotes, escapes⟩ rfl rfl).2 hnot
  cases he.symm.trans h

lemma exists_value_build_iff :
    (∃ made, (build quotes escapes).value = .ok made) ↔
      Wanted.Apart { quotes, escapes } := by
  constructor
  · rintro ⟨made, hmade⟩
    exact apart_of_value_build hmade
  · intro hapart
    obtain ⟨made, hmade, -⟩ := exists_value_build hapart
    exact ⟨made, hmade⟩

/-- A configuration is made of two lists when its sets are their characters,
without repetitions. -/
lemma value_build_eq_ok_iff :
    (build quotes escapes).value = .ok made ↔
      made.quotes = quotes.eraseDups ∧ made.escapes = escapes.eraseDups := by
  constructor
  · intro h
    obtain ⟨other, hother, hsets⟩ :=
      exists_value_build (apart_of_value_build h)
    cases hother.symm.trans h
    exact hsets
  · rintro ⟨hquotes, hescapes⟩
    -- the lists are apart because the sets of a configuration always are
    have hapart : Wanted.Apart { quotes, escapes } := by
      intro c hquote hescape
      rw [← List.mem_eraseDups] at hquote hescape
      exact made.disjoint c (hquotes ▸ hquote) (hescapes ▸ hescape)
    obtain ⟨other, hother, hquotes', hescapes'⟩ := exists_value_build hapart
    have heq : other = made :=
      Config.ext (hquotes'.trans hquotes.symm) (hescapes'.trans hescapes.symm)
    rw [hother, heq]

lemma exists_value_build_eq_error_iff :
    (∃ e, (build quotes escapes).value = .error e) ↔
      ∃ c ∈ quotes, c ∈ escapes := by
  constructor
  · rintro ⟨⟨c⟩, he⟩
    obtain ⟨before, behind, rfl, hescape, -⟩ := value_build_eq_error_iff.mp he
    exact ⟨c, by simp, hescape⟩
  · rintro ⟨c, hquote, hescape⟩
    cases hvalue : (build quotes escapes).value with
    | error e => exact ⟨e, rfl⟩
    | ok made => exact absurd hescape (apart_of_value_build hvalue c hquote)

/-- The sets of a configuration make that configuration again. -/
lemma value_build_self (config : Config) :
    (build config.quotes config.escapes).value = .ok config :=
  value_build_eq_ok_iff.mpr
    ⟨(eraseDups_of_nodup config.quotes_nodup).symm,
      (eraseDups_of_nodup config.escapes_nodup).symm⟩

/-! ### Two steps -/

/-- The configuration with other quote characters, and then with other escape
characters. -/
def quotesThenEscapes (config : Config) (quotes escapes : List Char) :
    Except ConfigError Config := do
  let midway ← (config.withQuotes quotes).value
  (midway.withEscapes escapes).value

/-- The configuration with other escape characters, and then with other quote
characters. -/
def escapesThenQuotes (config : Config) (quotes escapes : List Char) :
    Except ConfigError Config := do
  let midway ← (config.withEscapes escapes).value
  (midway.withQuotes quotes).value

lemma bind_eq_ok_iff {first : Except ConfigError Config}
    {second : Config → Except ConfigError Config} :
    (first >>= second) = .ok made ↔
      ∃ midway, first = .ok midway ∧ second midway = .ok made := by
  cases first with
  | error e => simp [bind, Except.bind]
  | ok midway => simp [bind, Except.bind]

/-- Lists that differ in repetitions alone make the same configuration. -/
lemma value_build_congr {quoting escaping : List Char}
    (hquotes : quoting.eraseDups = quotes.eraseDups)
    (hescapes : escaping.eraseDups = escapes.eraseDups) :
    (build quoting escaping).value = .ok made ↔
      (build quotes escapes).value = .ok made := by
  rw [value_build_eq_ok_iff, value_build_eq_ok_iff, hquotes, hescapes]

/-- With the quote characters first, these are held against the old escape
characters.  The new ones then find them in place. -/
lemma quotesThenEscapes_eq_ok_iff :
    config.quotesThenEscapes quotes escapes = .ok made ↔
      Wanted.Apart { quotes, escapes := config.escapes } ∧
        (build quotes escapes).value = .ok made := by
  have hplace : ∀ midway, (config.withQuotes quotes).value = .ok midway →
      midway.quotes.eraseDups = quotes.eraseDups := fun midway hmidway =>
    (eraseDups_of_nodup midway.quotes_nodup).trans
      (value_build_eq_ok_iff.mp hmidway).1
  rw [quotesThenEscapes, bind_eq_ok_iff]
  constructor
  · rintro ⟨midway, hmidway, hmade⟩
    exact ⟨apart_of_value_build hmidway,
      (value_build_congr (hplace midway hmidway) rfl).mp hmade⟩
  · rintro ⟨hapart, hmade⟩
    obtain ⟨midway, hmidway, -⟩ := exists_value_build hapart
    exact ⟨midway, hmidway,
      (value_build_congr (hplace midway hmidway) rfl).mpr hmade⟩

/-- With the escape characters first, these are held against the old quote
characters.  The new ones then find them in place. -/
lemma escapesThenQuotes_eq_ok_iff :
    config.escapesThenQuotes quotes escapes = .ok made ↔
      Wanted.Apart { quotes := config.quotes, escapes } ∧
        (build quotes escapes).value = .ok made := by
  have hplace : ∀ midway, (config.withEscapes escapes).value = .ok midway →
      midway.escapes.eraseDups = escapes.eraseDups := fun midway hmidway =>
    (eraseDups_of_nodup midway.escapes_nodup).trans
      (value_build_eq_ok_iff.mp hmidway).2
  rw [escapesThenQuotes, bind_eq_ok_iff]
  constructor
  · rintro ⟨midway, hmidway, hmade⟩
    exact ⟨apart_of_value_build hmidway,
      (value_build_congr rfl (hplace midway hmidway)).mp hmade⟩
  · rintro ⟨hapart, hmade⟩
    obtain ⟨midway, hmidway, -⟩ := exists_value_build hapart
    exact ⟨midway, hmidway,
      (value_build_congr rfl (hplace midway hmidway)).mpr hmade⟩

/-- **What a configuration is built of, and in which order.**  Two lists are
rejected exactly when a character is in both, for the first quote character
that is an escape character too.  Otherwise the sets are the characters of the
lists, each where it stands first; what quotes and what escapes are the members
of the lists; and of these sets the same configuration is built again.  From
any configuration, replacing both sets one after the other succeeds exactly
when the set that comes first is apart from the other new one and from the old
one of the other kind; and whichever order succeeds, the configuration is the
one built of the two new lists at once. -/
theorem build_exact :
    (∀ quotes escapes : List Char,
      ((∃ e, (build quotes escapes).value = .error e) ↔
        ∃ c ∈ quotes, c ∈ escapes) ∧
      (∀ c, (build quotes escapes).value = .error (.overlap c) ↔
        ∃ before behind, quotes = before ++ c :: behind ∧ c ∈ escapes ∧
          ∀ b ∈ before, b ∉ escapes) ∧
      ∀ made, (build quotes escapes).value = .ok made →
        made.quotes = firstOccurrences quotes ∧
        made.escapes = firstOccurrences escapes ∧
        (∀ c, (made.isQuote c = true ↔ c ∈ quotes) ∧
          (made.isEscape c = true ↔ c ∈ escapes)) ∧
        (build made.quotes made.escapes).value = .ok made) ∧
    ∀ (config : Config) (quotes escapes : List Char),
      ((∃ made, config.quotesThenEscapes quotes escapes = .ok made) ↔
        Wanted.Apart { quotes, escapes := config.escapes } ∧
          Wanted.Apart { quotes, escapes }) ∧
      ((∃ made, config.escapesThenQuotes quotes escapes = .ok made) ↔
        Wanted.Apart { quotes := config.quotes, escapes } ∧
          Wanted.Apart { quotes, escapes }) ∧
      ∀ made, config.quotesThenEscapes quotes escapes = .ok made ∨
          config.escapesThenQuotes quotes escapes = .ok made →
        (build quotes escapes).value = .ok made := by
  refine ⟨fun quotes escapes => ⟨exists_value_build_eq_error_iff,
    fun _ => value_build_eq_error_iff, fun made hmade => ?_⟩,
    fun config quotes escapes => ⟨?_, ?_, ?_⟩⟩
  · obtain ⟨hquotes, hescapes⟩ := value_build_eq_ok_iff.mp hmade
    refine ⟨hquotes.trans (eraseDups_eq_firstOccurrences quotes),
      hescapes.trans (eraseDups_eq_firstOccurrences escapes),
      fun c => ⟨?_, ?_⟩, value_build_self made⟩
    · rw [isQuote, List.contains_iff_mem, hquotes, List.mem_eraseDups]
    · rw [isEscape, List.contains_iff_mem, hescapes, List.mem_eraseDups]
  · simp only [quotesThenEscapes_eq_ok_iff, exists_and_left,
      exists_value_build_iff]
  · simp only [escapesThenQuotes_eq_ok_iff, exists_and_left,
      exists_value_build_iff]
  · rintro made (h | h)
    · exact (quotesThenEscapes_eq_ok_iff.mp h).2
    · exact (escapesThenQuotes_eq_ok_iff.mp h).2

/-- The backslash cannot quote while it still escapes: with the quotes first
there is no configuration, and with the escapes first there is the one that the
two lists make at once. -/
theorem build_exact_backslash_quotes :
    (¬ ∃ made,
      standard.quotesThenEscapes ['\\', '"', '\\'] ['^'] = .ok made) ∧
    ∃ made, standard.escapesThenQuotes ['\\', '"', '\\'] ['^'] = .ok made ∧
      (build ['\\', '"', '\\'] ['^']).value = .ok made ∧
      made.quotes = ['\\', '"'] ∧ made.isEscape '\\' = false := by
  obtain ⟨hbuild, horder⟩ := build_exact
  obtain ⟨hquotes, hescapes, hsame⟩ :=
    horder standard ['\\', '"', '\\'] ['^']
  obtain ⟨made, hmade⟩ := hescapes.mpr (by decide)
  have hat_once := hsame made (.inr hmade)
  obtain ⟨hfirst, -, hmem, -⟩ := (hbuild _ _).2.2 made hat_once
  refine ⟨fun hmade => ?_, made, hmade, hat_once, hfirst.trans (by decide), ?_⟩
  · exact absurd (hquotes.mp hmade).1 (by decide)
  · rw [← Bool.not_eq_true, (hmem '\\').2]
    decide

end Config

end PromptLine
