/-
What is reported, and that it is true.

* `Policy.openBefore_succ_eq_some_iff`: a quote is open behind a character when
  the character opens its block, or when it was open before and the character
  does not close it;
* `Policy.LeavesOpen`: a character opens a block that no later character
  closes.  These are the characters that leave a quote open at the end of the
  line (`Policy.openAtEnd_eq_some_iff`);
* `Config.events_build`: two lists that make no configuration are reported
  once, with the character that is in both, and no other lists are;
* `Policy.reported_once`: **a split is reported once, with its words and its
  caret and with the quote that the line leaves open**, which neither the
  separator nor the caret has a say in.
-/
import PromptLine.Proofs.Progress

namespace PromptLine

namespace Policy

variable {policy : Policy} {text : Text} {quote : Char}

/-! ### Blocks that stay open -/

/-- A quote is open behind a character when the character opens its block, or
when it was open before and is not met there unescaped. -/
lemma openBefore_succ_eq_some_iff {pos : Nat} :
    policy.openBefore text (pos + 1) = some quote ↔
      (policy.Opens text pos ∧ text.char? pos = some quote) ∨
      (policy.openBefore text pos = some quote ∧
        (text.char? pos = some quote → policy.isEscaped text pos = true)) := by
  cases hopen : policy.openBefore text pos with
  | none =>
      simp only [openBefore, hopen, Opens, true_and]
      split_ifs with hactive <;> simp [hactive]
  | some other =>
      have hopens : ¬ policy.Opens text pos := fun hopens =>
        absurd (hopen.symm.trans hopens.1) (by simp)
      simp only [openBefore, hopen, hopens, false_and, false_or,
        Option.some.injEq]
      split_ifs with hclose
      · obtain ⟨hchar, hescaped⟩ := hclose
        refine iff_of_false (by simp) ?_
        rintro ⟨hquote, hkept⟩
        rw [hkept (hquote ▸ hchar)] at hescaped
        cases hescaped
      · refine ⟨fun hquote => ⟨Option.some.inj hquote, fun hchar => ?_⟩,
          fun h => congrArg some h.1⟩
        rw [← Option.some.inj hquote] at hchar
        simpa [hchar] using hclose

/-- A quote is open before a position when a character before it has opened its
block, and none since has closed it. -/
lemma openBefore_eq_some_iff {stop : Nat} :
    policy.openBefore text stop = some quote ↔
      ∃ pos < stop, policy.Opens text pos ∧ text.char? pos = some quote ∧
        ∀ later < stop, pos < later → text.char? later = some quote →
          policy.isEscaped text later = true := by
  induction stop with
  | zero => simp [openBefore]
  | succ stop ih =>
      rw [openBefore_succ_eq_some_iff, ih]
      constructor
      · rintro (⟨hopens, hchar⟩ | ⟨⟨pos, hpos, hopens, hchar, hlater⟩, hstop⟩)
        · -- nothing stands between the opening quote and what comes behind it
          exact ⟨stop, Nat.lt_succ_self _, hopens, hchar,
            fun later hlt hgt => by omega⟩
        · refine ⟨pos, by omega, hopens, hchar, fun later hlt hgt hquote => ?_⟩
          rcases Nat.lt_succ_iff_lt_or_eq.mp hlt with hbefore | rfl
          · exact hlater later hbefore hgt hquote
          · exact hstop hquote
      · rintro ⟨pos, hpos, hopens, hchar, hlater⟩
        rcases Nat.lt_succ_iff_lt_or_eq.mp hpos with hbefore | rfl
        · exact .inr ⟨⟨pos, hbefore, hopens, hchar, fun later hlt =>
            hlater later (by omega)⟩, hlater stop (by omega) hbefore⟩
        · exact .inl ⟨hopens, hchar⟩

/-- The character at `pos` opens a block with `quote`, and no later character
closes that block, because the same quote stands behind it only where it is
escaped. -/
structure LeavesOpen (policy : Policy) (line : Text) (pos : Nat)
    (quote : Char) : Prop where
  opens : policy.Opens line pos
  char_eq : line.char? pos = some quote
  unclosed : ∀ later, pos < later → line.char? later = some quote →
    policy.isEscaped line later = true

instance (policy : Policy) (line : Text) (pos : Nat) (quote : Char) :
    Decidable (policy.LeavesOpen line pos quote) :=
  decidable_of_iff
    (policy.Opens line pos ∧ line.char? pos = some quote ∧
      ∀ later < line.length, pos < later → line.char? later = some quote →
        policy.isEscaped line later = true)
    ⟨fun ⟨hopens, hchar, hlater⟩ => ⟨hopens, hchar, fun later hgt hquote =>
        hlater later (List.getElem?_eq_some_iff.mp hquote).1 hgt hquote⟩,
      fun h => ⟨h.opens, h.char_eq, fun later _ => h.unclosed later⟩⟩

/-- The quote that is open at the end of a line is that of a block that is left
open. -/
lemma openAtEnd_eq_some_iff :
    policy.openAtEnd text = some quote ↔
      ∃ pos, policy.LeavesOpen text pos quote := by
  have hlt : ∀ {pos}, text.char? pos = some quote → pos < text.length :=
    fun hchar => (List.getElem?_eq_some_iff.mp hchar).1
  rw [openAtEnd_eq_openBefore, openBefore_eq_some_iff]
  constructor
  · rintro ⟨pos, -, hopens, hchar, hlater⟩
    exact ⟨pos, hopens, hchar, fun later hgt hquote =>
      hlater later (hlt hquote) hgt hquote⟩
  · rintro ⟨pos, hopens, hchar, hlater⟩
    exact ⟨pos, hlt hchar, hopens, hchar, fun later _ => hlater later⟩

lemma isQuote_of_openAtEnd (h : policy.openAtEnd text = some quote) :
    policy.config.isQuote quote = true := by
  rw [openAtEnd_eq_openBefore] at h
  exact isQuote_of_openBefore h

end Policy

/-! ### Log entries -/

/-- An event as the log shows it: its weight, its text and its named values. -/
def Event.entry (event : Event) : Level × String × List (String × FieldValue) :=
  (event.level, event.message, event.fields)

/-- Two lists that make no configuration are reported once, with the character
that is in both; no other lists are reported. -/
lemma Config.events_build (quotes escapes : List Char) :
    (build quotes escapes).events =
      match (build quotes escapes).value with
      | .ok _ => []
      | .error (.overlap c) => [.configRejected c] := by
  unfold build
  split <;> rfl

namespace Policy

/-- **Every report is made once, and is true.**  Splitting a line makes one
entry of the trace.  It tells the number of words, the position asked for, the
caret found there and the quote left open: that is the quote character of a
block that is opened somewhere in the line and that no later character closes,
and there is none if there is no such block.  No separator and no position of
the caret changes it.  Two lists of characters that make no configuration are
reported in one entry for debugging, with the character that the error names;
a configuration that is built is not reported. -/
theorem reported_once (policy : Policy) (line : Text) (position : Nat) :
    ((policy.scan line position).events =
        [.lineSplit (policy.split line position).words.length position
          (policy.split line position).caret (policy.openAtEnd line)] ∧
      (policy.scan line position).events.map Event.entry =
        [(.trace, "delimited buffer",
          [("arguments", .count (policy.split line position).words.length),
            ("cursor", .count position),
            ("captured", .text
              (shownOption shownCaret (policy.split line position).caret)),
            ("unterminated_quote", .text
              (shownOption quoted (policy.openAtEnd line)))])]) ∧
    (∀ quote, policy.openAtEnd line = some quote ↔
      ∃ pos, policy.LeavesOpen line pos quote) ∧
    (∀ quote, policy.openAtEnd line = some quote →
      policy.config.isQuote quote = true) ∧
    (∀ separator elsewhere,
      ({ policy with separator }.scan line elsewhere).events.map
        Event.quoteLeftOpen = [policy.openAtEnd line]) ∧
    ∀ quotes escapes,
      ((Config.build quotes escapes).events =
        match (Config.build quotes escapes).value with
        | .ok _ => []
        | .error (.overlap c) => [.configRejected c]) ∧
      (Config.build quotes escapes).events.map Event.entry =
        match (Config.build quotes escapes).value with
        | .ok _ => []
        | .error (.overlap c) =>
          [(.debug, "rejected delimiter configuration",
            [("overlap", .text (quoted c))])] := by
  have hevents := events_scan policy line position
  refine ⟨⟨hevents, ?_⟩, fun _ => openAtEnd_eq_some_iff,
    fun _ => isQuote_of_openAtEnd, fun separator elsewhere => ?_,
    fun quotes escapes => ?_⟩
  · rw [hevents]
    rfl
  · rw [quoteLeftOpen_scan, openAtEnd_eq]
  · refine ⟨Config.events_build quotes escapes, ?_⟩
    rw [Config.events_build]
    cases (Config.build quotes escapes).value with
    | ok => rfl
    | error e => rfl

/-- The first block is closed, and the quote of the other kind in it opens
nothing; the last quote is open at the end of the line, because the one behind
the escape does not close it.  A configuration in which the backslash would
quote as well is reported for the backslash. -/
theorem reported_once_left_open :
    LeavesOpen {} "a'b\"' \"c\\\"'".toList 6 '"' ∧
      openAtEnd {} "a'b\"' \"c\\\"'".toList = some '"' ∧
      (∀ separator elsewhere,
        (scan { separator } "a'b\"' \"c\\\"'".toList elsewhere).events.map
          Event.quoteLeftOpen = [some '"']) ∧
      ¬ (∃ pos, LeavesOpen {} "a'b\"' \"c\\\"'".toList pos '\x27') ∧
      (Config.build ['"', '\\'] ['\\']).value = .error (.overlap '\\') ∧
      (Config.build ['"', '\\'] ['\\']).events = [.configRejected '\\'] := by
  have hopen : LeavesOpen {} "a'b\"' \"c\\\"'".toList 6 '"' := by decide
  have hvalue : (Config.build ['"', '\\'] ['\\']).value =
      .error (.overlap '\\') := by decide
  obtain ⟨-, hquote, -, hscan, hbuild⟩ :=
    reported_once {} "a'b\"' \"c\\\"'".toList 0
  have hdouble := (hquote '"').mpr ⟨6, hopen⟩
  have hevents := (hbuild ['"', '\\'] ['\\']).1
  rw [hvalue] at hevents
  refine ⟨hopen, hdouble, fun separator elsewhere => ?_, fun hsingle => ?_,
    hvalue, hevents⟩
  · rw [hscan, hdouble]
  · rw [← hquote, hdouble] at hsingle
    exact absurd hsingle (by decide)

end Policy

end PromptLine
