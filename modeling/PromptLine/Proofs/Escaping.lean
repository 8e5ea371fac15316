/-
Looking back and reading forward agree on what is escaped.

* `Escape.run_eq`: the run of escape characters that ends at a position is one
  longer than the run before it, or there is none;
* `Escape.isActive_eq`: a character is an active escape when it is an escape
  character and is not escaped, which is the rule that the length of the run
  stands for;
* `Escape.escaped_after_take`: the parity behind the first `pos` characters
  says whether the character at `pos` is escaped.
-/
import Mathlib.Data.List.TakeDrop
import PromptLine.Escape.Basic
import PromptLine.Escape.Parity

namespace PromptLine

namespace Escape

variable (escapes : List Char) {text : Text} {pos : Nat}

/-! ### Runs -/

/-- The run that ends at an escape character is one longer than the run before
it; no run ends at another character. -/
lemma run_eq (h : pos < text.length) :
    run escapes text pos =
      if text.holdsAt pos escapes.contains then
        ((text.take pos).reverse.takeWhile escapes.contains).length + 1
      else 0 := by
  rw [run, List.take_add_one, List.getElem?_eq_getElem h, Option.toList_some,
    List.reverse_append, List.reverse_singleton, List.singleton_append,
    Text.holdsAt_of_lt _ h]
  by_cases hc : escapes.contains text[pos] = true
  · rw [List.takeWhile_cons_of_pos hc, List.length_cons, if_pos hc]
  · rw [List.takeWhile_cons_of_neg hc, List.length_nil, if_neg hc]

/-- A character is an active escape when it is an escape character and is not
escaped. -/
lemma isActive_eq (text : Text) (pos : Nat) :
    isActive escapes text pos =
      (text.holdsAt pos escapes.contains && !isEscaped escapes text pos) := by
  by_cases h : pos < text.length
  · rw [isActive, decide_eq_true h, Bool.true_and, run_eq escapes h]
    by_cases hc : text.holdsAt pos escapes.contains = true
    · rw [if_pos hc, hc, Bool.true_and]
      cases pos with
      | zero => simp [isEscaped]
      | succ before =>
          -- the run before `before + 1` is the run that ends at `before`
          have hb : before < text.length := by omega
          have hrun : ((text.take (before + 1)).reverse.takeWhile
              escapes.contains).length = run escapes text before := rfl
          rw [hrun, isEscaped_succ, isActive, decide_eq_true hb,
            Bool.true_and]
          by_cases hodd : run escapes text before % 2 = 1
          · have heven : (run escapes text before + 1) % 2 = 0 := by omega
            simp [hodd, heven]
          · have heven : (run escapes text before + 1) % 2 = 1 := by omega
            simp [hodd, heven]
    · simp [hc]
  · rw [isActive_of_length_le escapes (by omega),
      Text.holdsAt_of_length_le _ (by omega), Bool.false_and]

/-! ### Parity -/

/-- The parity behind the first `pos` characters says whether the character at
`pos` is escaped. -/
lemma escaped_after_take (h : pos ≤ text.length) :
    (Parity.after escapes {} (text.take pos)).escaped =
      isEscaped escapes text pos := by
  induction pos with
  | zero => rfl
  | succ pos ih =>
      have hpos : pos < text.length := h
      rw [List.take_add_one, List.getElem?_eq_getElem hpos,
        Option.toList_some, Parity.after_append, isEscaped_succ, isActive_eq,
        Text.holdsAt_of_lt _ hpos, ← ih (Nat.le_of_lt hpos)]
      exact Bool.and_comm _ _

end Escape

end PromptLine
