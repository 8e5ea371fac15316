/-
The two ways of splitting a line give the same words and the same caret.

* `Draft.toSketch`: a draft of characters and an open quote, as a sketch;
* `Policy.sketchNext_toSketch`: the next sketch takes the next character into
  the draft, in the role told by looking back;
* `Policy.sketch_eq`: hence the sketch behind the first characters is the
  draft behind them, with the quote that is open there;
* `Policy.split_eq_splitByLookback`: **the split that carries escaping and
  quoting forward agrees with the one that looks back at every position**,
  whatever the configuration, the separator, the line and the position.
-/
import PromptLine.Lookback
import PromptLine.Proofs.Progress

namespace PromptLine

/-- A draft of characters beside the quote that is open. -/
def Draft.toSketch (draft : Draft Char) (openQuote : Option Char) :
    Sketch where
  words := draft.words.toList
  pending := draft.pending.toList
  openQuote := openQuote

namespace Draft

variable (draft : Draft Char) (openQuote : Option Char)

lemma finish_toSketch : (draft.toSketch openQuote).finish = draft.finish := by
  rw [finish_eq_append, Sketch.finish]
  by_cases h : draft.pending.toList = [] <;> simp [toSketch, h]

lemma caret_toSketch : (draft.toSketch openQuote).caret = draft.caret := by
  simp [Sketch.caret, caret, toSketch]

lemma close_toSketch :
    (draft.toSketch openQuote).close = draft.close.toSketch none := by
  simp [Sketch.close, toSketch]

lemma cut_toSketch :
    (if (draft.toSketch none).pending = [] then draft.toSketch none
      else (draft.toSketch none).close) = draft.cut.toSketch none := by
  by_cases h : draft.pending.toList = []
  · rw [cut_of_pending_eq_nil h]
    exact if_pos h
  · rw [cut_of_pending_ne_nil h, ← close_toSketch]
    exact if_neg h

end Draft

namespace Policy

variable (policy : Policy) (text : Text)

/-- A character that neither quotes nor separates is put at the end of the
pending word, or dropped, in the sketch as in the draft. -/
lemma sketchText_toSketch (pos : Nat) (c : Char) (draft : Draft Char)
    (openQuote : Option Char) :
    policy.sketchText text pos c (draft.toSketch openQuote) =
      (draft.add (policy.plainRoleAt text pos) c).toSketch openQuote := by
  unfold sketchText plainRoleAt
  split_ifs
  · rfl
  · simp [Draft.add, Draft.keep, Draft.toSketch]

/-- The next sketch is the draft that has taken in the next character. -/
lemma sketchNext_toSketch {pos : Nat} (h : pos < text.length)
    (draft : Draft Char) :
    policy.sketchNext text pos
        (draft.toSketch (policy.openBefore text pos)) =
      (draft.add (policy.roleAt text pos) text[pos]).toSketch
        (policy.openBefore text (pos + 1)) := by
  have hchar : text.char? pos = some text[pos] :=
    List.getElem?_eq_getElem h
  cases hopen : policy.openBefore text pos with
  | none =>
      have hsketch : (draft.toSketch none).openQuote = none := rfl
      simp only [sketchNext, roleAt, openBefore, hopen, hchar, hsketch]
      split_ifs with hactive hsep hpending
      · rfl
      · rw [Draft.add, ← Draft.cut_toSketch, if_pos hpending]
      · rw [Draft.add, ← Draft.cut_toSketch, if_neg hpending]
      · exact sketchText_toSketch policy text pos _ draft none
  | some quote =>
      have hsketch : (draft.toSketch (some quote)).openQuote = some quote :=
        rfl
      simp only [sketchNext, roleAt, openBefore, hopen, hchar, hsketch,
        Option.some.injEq, Bool.not_eq_true]
      split_ifs
      · exact Draft.close_toSketch draft (some quote)
      · exact sketchText_toSketch policy text pos _ draft (some quote)

/-- The sketch behind the first characters is the draft behind them. -/
lemma sketch_eq {pos : Nat} (h : pos ≤ text.length) :
    policy.sketch text pos =
      (policy.draftOf text text pos).toSketch
        (policy.openBefore text pos) := by
  induction pos with
  | zero =>
      rw [draftOf_zero]
      rfl
  | succ pos ih =>
      have hpos : pos < text.length := h
      rw [sketch, ih (Nat.le_of_lt hpos), sketchNext_toSketch policy text hpos,
        draftOf_succ policy text hpos (List.getElem?_eq_getElem hpos)]

/-- **Looking back at every position gives the same split**: words, caret and
position. -/
theorem split_eq_splitByLookback (policy : Policy) (line : Text)
    (position : Nat) :
    policy.split line position = policy.splitByLookback line position := by
  have hwords : (policy.split line position).words =
      (policy.splitByLookback line position).words := by
    rw [words_split, splitByLookback, sketch_eq policy line (Nat.le_refl _),
      Draft.finish_toSketch]
  have hcaret : (policy.split line position).caret =
      (policy.splitByLookback line position).caret := by
    rw [caret_split, splitByLookback]
    by_cases h : position ≤ line.length
    · simp only [if_pos h]
      rw [sketch_eq policy line h, Draft.caret_toSketch]
    · simp only [if_neg h]
  have hposition : (policy.split line position).position =
      (policy.splitByLookback line position).position := rfl
  exact WordList.ext hwords hcaret hposition

end Policy

end PromptLine
