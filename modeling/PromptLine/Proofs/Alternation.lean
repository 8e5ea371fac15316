/-
Three ways of telling an active escape, and how they agree.

* `Escape.escapedByStep`, `Escape.activeByStep`: the rule as it is said.  An
  escape character is active unless it is escaped, and a character is escaped
  when the one before it is an active escape;
* `Parity.getElem?_trail`: the answers of a parity that is carried forward are
  those of the parity behind the characters before;
* `Escape.activates_after_take`: such a parity finds the active escapes that
  looking back finds;
* `Escape.isActive_agrees`: **the length of the run, the rule applied step by
  step and the parity carried forward answer alike at every position**, at the
  end of the line and beyond it.
-/
import PromptLine.Proofs.Escaping
import PromptLine.Proofs.Positions

namespace PromptLine

namespace Escape

/-! ### The rule, step by step -/

/-- The character at `pos` is escaped: the one before it is an escape character
that is not itself escaped. -/
def escapedByStep (escapes : List Char) (line : Text) : Nat → Bool
  | 0 => false
  | pos + 1 =>
    line.holdsAt pos escapes.contains && !escapedByStep escapes line pos

/-- The character at `pos` is an escape character that is not escaped. -/
def activeByStep (escapes : List Char) (line : Text) (pos : Nat) : Bool :=
  line.holdsAt pos escapes.contains && !escapedByStep escapes line pos

variable (escapes : List Char) (text : Text)

/-- Looking back over the whole run finds what the rule finds step by step. -/
lemma isEscaped_eq_escapedByStep (pos : Nat) :
    isEscaped escapes text pos = escapedByStep escapes text pos := by
  induction pos with
  | zero => rfl
  | succ pos ih => rw [isEscaped_succ, isActive_eq, ih, escapedByStep]

lemma isActive_eq_activeByStep (pos : Nat) :
    isActive escapes text pos = activeByStep escapes text pos := by
  rw [isActive_eq, isEscaped_eq_escapedByStep, activeByStep]

/-- Past the position just behind the end nothing is escaped. -/
lemma isEscaped_of_length_lt {text : Text} {pos : Nat}
    (h : text.length < pos) : isEscaped escapes text pos = false := by
  cases pos with
  | zero => rfl
  | succ pos => exact isActive_of_length_le escapes (Nat.le_of_lt_succ h)

end Escape

/-! ### The parity carried forward -/

/-- The answers at a position are those of the parity behind the characters
before it. -/
lemma Parity.getElem?_trail (escapes : List Char) (parity : Parity)
    (text : Text) (k : Nat) :
    (parity.trail escapes text)[k]? = text[k]?.map fun c =>
      ((parity.after escapes (text.take k)).escaped,
        (parity.after escapes (text.take k)).activates escapes c) := by
  induction text generalizing parity k with
  | nil => rfl
  | cons c rest ih =>
      cases k with
      | zero => rfl
      | succ k => exact ih (parity.next escapes c) k

namespace Escape

variable (escapes : List Char) (text : Text)

lemma activates_after_take {text : Text} {pos : Nat} (h : pos < text.length) :
    (Parity.after escapes {} (text.take pos)).activates escapes text[pos] =
      isActive escapes text pos := by
  rw [Parity.activates, escaped_after_take escapes (Nat.le_of_lt h),
    isActive_eq, Text.holdsAt_of_lt _ h, Bool.and_comm]

/-- The parity carried over a line answers as looking back does. -/
lemma trail_eq_map :
    Parity.trail escapes {} text = (List.range text.length).map fun pos =>
      (isEscaped escapes text pos, isActive escapes text pos) := by
  refine eq_map_range (Parity.length_trail escapes {} text) fun k hk => ?_
  rw [Parity.getElem?_trail, List.getElem?_eq_getElem hk, Option.map_some,
    escaped_after_take escapes (Nat.le_of_lt hk),
    activates_after_take escapes hk]

/-- **Three ways of telling an active escape agree**: by the length of the run
that ends at the position, by the rule applied from character to character,
and by a parity carried over the line.  Behind the last character the parity
says whether the next one would be escaped; beyond that nothing escapes and
nothing is escaped. -/
theorem isActive_agrees (escapes : List Char) (line : Text) :
    (∀ pos, isActive escapes line pos = activeByStep escapes line pos ∧
      isEscaped escapes line pos = escapedByStep escapes line pos) ∧
    Parity.trail escapes {} line = (List.range line.length).map (fun pos =>
      (isEscaped escapes line pos, isActive escapes line pos)) ∧
    (Parity.after escapes {} line).escaped =
      isEscaped escapes line line.length ∧
    (∀ pos, line.length ≤ pos → isActive escapes line pos = false) ∧
    ∀ pos, line.length < pos → isEscaped escapes line pos = false := by
  refine ⟨fun pos => ⟨isActive_eq_activeByStep escapes line pos,
    isEscaped_eq_escapedByStep escapes line pos⟩, trail_eq_map escapes line,
    ?_, fun pos h => isActive_of_length_le escapes h,
    fun pos h => isEscaped_of_length_lt escapes h⟩
  rw [← escaped_after_take escapes (Nat.le_refl line.length), List.take_length]

/-- In a run of two kinds of escapes the second is escaped and the third is
active; the character typed behind them would be escaped, and none far beyond
the end of the line is. -/
theorem isActive_agrees_mixed_run :
    Parity.trail ['\\', '^'] {} "\\^\\".toList =
        [(false, true), (true, false), (false, true)] ∧
      (Parity.after ['\\', '^'] {} "\\^\\".toList).escaped = true ∧
      "\\^\\".toList.length < 18446744073709551615 ∧
      isActive ['\\', '^'] "\\^\\".toList 18446744073709551615 = false ∧
      isEscaped ['\\', '^'] "\\^\\".toList 18446744073709551615 = false := by
  have hlength : "\\^\\".toList.length < 18446744073709551615 := by decide
  obtain ⟨-, htrail, hend, hactive, hescaped⟩ :=
    isActive_agrees ['\\', '^'] "\\^\\".toList
  exact ⟨htrail.trans (by decide), hend.trans (by decide), hlength,
    hactive _ (Nat.le_of_lt hlength), hescaped _ hlength⟩

end Escape

end PromptLine
