/-
The way of the caret through the words, from the start of a line to its end.

* `Caret.Step`: a move among given words.  The caret stays, goes on by one
  character, or goes across from the end of a word to the start of the next;
* `Caret.InWord`, `Caret.Passed`: the caret stands in one of the words; a
  caret on its way has come past a place, or has just reached it;
* `Caret.exists_eq_of_passed`: a walk from the first place by such moves has
  been at every place that it has passed, because no move jumps;
* `Draft.step_caret_add`: taking in a character is one move;
* `Draft.Begins.inWord_caret`: a caret among the words is in one of them or
  behind the last;
* `Policy.caret_walk`: **position by position the caret walks through all
  places in the words, and is nowhere else** but behind the last word, and
  there only if it ends there.
-/
import Mathlib.Data.Nat.Init
import PromptLine.Proofs.Growth

namespace PromptLine

namespace Caret

variable {words : List Text} {here next caret : Caret}

/-! ### Moves -/

/-- A move of the caret when the position moves on by one.  The character
passed is in no word and ends none, or it is the next one of the word at the
caret, or it ends that word, which is then all behind the caret. -/
inductive Step (words : List Text) : Caret → Caret → Prop
  | stay (caret : Caret) : Step words caret caret
  | along (index offset : Nat) :
      Step words ⟨index, offset⟩ ⟨index, offset + 1⟩
  | across {index : Nat} {word : Text} (h : words[index]? = some word) :
      Step words ⟨index, word.length⟩ ⟨index + 1, 0⟩

/-- The caret stands in one of the words, at its end at the latest. -/
def InWord (words : List Text) (caret : Caret) : Prop :=
  ∃ word, words[caret.word]? = some word ∧ caret.offset ≤ word.length

/-- On the way to `here` the caret has passed `caret`, or has reached it. -/
def Passed (words : List Text) (here caret : Caret) : Prop :=
  (caret.word < here.word ∧ caret.InWord words) ∨
    (caret.word = here.word ∧ caret.offset ≤ here.offset)

lemma Step.word_le (h : Step words here next) : here.word ≤ next.word := by
  cases h with
  | stay | along => exact Nat.le_refl _
  | across _ => exact Nat.le_succ _

/-- No move jumps: what is passed after it was passed before, or is where it
leads. -/
lemma Step.passed (h : Step words here next)
    (hpassed : Passed words next caret) :
    Passed words here caret ∨ caret = next := by
  cases h with
  | stay => exact .inl hpassed
  | along index offset =>
      obtain hbefore | ⟨hindex, hoffset⟩ := hpassed
      · exact .inl (.inl hbefore)
      · rcases Nat.le_succ_iff.mp hoffset with hle | heq
        · exact .inl (.inr ⟨hindex, hle⟩)
        · obtain ⟨_, _⟩ := caret
          exact .inr (congrArg₂ Caret.mk hindex heq)
  | @across index word hword =>
      obtain ⟨hlt, hin⟩ | ⟨hindex, hoffset⟩ := hpassed
      · rcases Nat.lt_succ_iff_lt_or_eq.mp hlt with hbefore | heq
        · exact .inl (.inl ⟨hbefore, hin⟩)
        · -- the word is left at its end, so all of it was passed before
          obtain ⟨other, hother, hle⟩ := hin
          rw [heq, hword] at hother
          cases hother
          exact .inl (.inr ⟨heq, hle⟩)
      · obtain ⟨_, _⟩ := caret
        exact .inr (congrArg₂ Caret.mk hindex (Nat.le_zero.mp hoffset))

variable (walk : Nat → Caret) {n : Nat}

lemma word_le_of_walk (hstep : ∀ c < n, Step words (walk c) (walk (c + 1)))
    {c d : Nat} (hcd : c ≤ d) (hd : d ≤ n) : (walk c).word ≤ (walk d).word := by
  induction d, hcd using Nat.le_induction with
  | base => exact Nat.le_refl _
  | succ d _ ih => exact Nat.le_trans (ih (by omega)) (hstep d hd).word_le

/-- **A walk from the first place has been wherever it has passed.** -/
lemma exists_eq_of_passed (hstart : walk 0 = ⟨0, 0⟩)
    (hstep : ∀ c < n, Step words (walk c) (walk (c + 1))) {c : Nat}
    (hc : c ≤ n) (h : Passed words (walk c) caret) :
    ∃ d ≤ c, walk d = caret := by
  induction c with
  | zero =>
      rw [hstart] at h
      obtain ⟨hlt, -⟩ | ⟨hindex, hoffset⟩ := h
      · exact absurd hlt (Nat.not_lt_zero _)
      · obtain ⟨_, _⟩ := caret
        refine ⟨0, Nat.le_refl _, hstart.trans ?_⟩
        exact congrArg₂ Caret.mk hindex.symm (Nat.le_zero.mp hoffset).symm
  | succ c ih =>
      rcases (hstep c hc).passed h with hbefore | rfl
      · obtain ⟨d, hd, hwalk⟩ := ih (Nat.le_of_succ_le hc) hbefore
        exact ⟨d, Nat.le_succ_of_le hd, hwalk⟩
      · exact ⟨c + 1, Nat.le_refl _, rfl⟩

end Caret

namespace Draft

variable {draft : Draft Char} {words : List Text}

/-! ### The caret of a draft -/

lemma offset_caret (draft : Draft Char) :
    draft.caret.offset = draft.pending.toList.length :=
  (Array.length_toList).symm

lemma step_caret_close (h : draft.close.Begins words) :
    Caret.Step words draft.caret draft.close.caret := by
  have hstep := Caret.Step.across h.getElem?_of_close
  rw [Array.length_toList] at hstep
  simpa [caret, close] using hstep

/-- **Taking in a character is one move of the caret** among the words that the
line has in the end. -/
lemma step_caret_add {role : Role} {c : Char}
    (h : (draft.add role c).Begins words) :
    Caret.Step words draft.caret (draft.add role c).caret := by
  cases role with
  | opener | dropped => exact .stay _
  | closer => exact step_caret_close h
  | separator =>
      rw [add] at h ⊢
      by_cases hpending : draft.pending.toList = []
      · rw [cut_of_pending_eq_nil hpending]
        exact .stay _
      · rw [cut_of_pending_ne_nil hpending] at h ⊢
        exact step_caret_close h
  | text =>
      have hkeep : (draft.keep c).caret =
          ⟨draft.words.size, draft.pending.size + 1⟩ := by
        simp [caret, keep]
      rw [add, hkeep]
      exact .along _ _

/-- The caret of a draft stands in a word, or behind the last one. -/
lemma Begins.inWord_caret (h : draft.Begins words) :
    draft.caret.InWord words ∨ draft.caret = ⟨words.length, 0⟩ := by
  rcases Nat.lt_or_ge draft.words.size words.length with hlt | hge
  · left
    by_cases hpending : draft.pending.toList = []
    · refine ⟨_, List.getElem?_eq_getElem hlt, ?_⟩
      rw [offset_caret, hpending]
      exact Nat.zero_le _
    · obtain ⟨word, hword, hstart⟩ := h.pending hpending
      refine ⟨word, hword, ?_⟩
      rw [offset_caret]
      exact hstart.length_le
  · right
    have hsize := Nat.le_antisymm h.size_le hge
    rw [caret, hsize, ← Array.length_toList, h.pending_eq_nil hge]
    rfl

/-- At the end of a line the caret has passed every place in its words. -/
lemma passed_caret_of_inWord {caret : Caret}
    (h : caret.InWord draft.finish) :
    Caret.Passed draft.finish draft.caret caret := by
  obtain ⟨word, hword, hle⟩ := h
  have hlt : caret.word < draft.finish.length :=
    (List.getElem?_eq_some_iff.mp hword).1
  rcases Nat.lt_or_ge caret.word draft.words.size with hbefore | hge
  · exact .inl ⟨hbefore, word, hword, hle⟩
  · -- the only word that is not complete is the pending one
    by_cases hpending : draft.pending.toList = []
    · rw [finish_eq_append, if_pos hpending, List.append_nil,
        Array.length_toList] at hlt
      omega
    · rw [finish_eq_append, if_neg hpending, List.length_append,
        List.length_singleton, Array.length_toList] at hlt
      have hlast : caret.word = draft.words.size := by omega
      rw [finish_eq_append, if_neg hpending, hlast, ← Array.length_toList,
        List.getElem?_concat_length] at hword
      cases hword
      exact .inr ⟨hlast, hle⟩

end Draft

namespace Policy

variable (policy : Policy) (text : Text)

/-! ### The carets of a line -/

lemma step_caret_draftOf (position : Nat) {pos : Nat} (h : pos < text.length) :
    Caret.Step (policy.split text position).words
      (policy.draftOf text text pos).caret
      (policy.draftOf text text (pos + 1)).caret := by
  have hbegins := begins_words_split policy text position h
  rw [draftOf_succ policy text h (List.getElem?_eq_getElem h)] at hbegins ⊢
  exact Draft.step_caret_add hbegins

/-- Behind the last word the caret stands only if it ends there. -/
lemma caret_draftOf_length_eq (position : Nat) {pos : Nat}
    (h : pos ≤ text.length)
    (hlast : (policy.draftOf text text pos).caret.word =
      (policy.split text position).words.length) :
    (policy.draftOf text text text.length).caret =
      ⟨(policy.split text position).words.length, 0⟩ := by
  have hle := Caret.word_le_of_walk
    (fun c => (policy.draftOf text text c).caret)
    (fun c hc => step_caret_draftOf policy text position hc) h
    (Nat.le_refl _)
  rw [hlast] at hle
  rcases (begins_words_split policy text position
    (Nat.le_refl _)).inWord_caret with ⟨word, hword, -⟩ | hend
  · rw [List.getElem?_eq_none hle] at hword
    cases hword
  · exact hend

/-- A place is where the caret is at some position when it lies in a word, or
when it is behind the last word and the caret ends there. -/
lemma exists_caret_draftOf_iff (position : Nat) (caret : Caret) :
    (∃ c ≤ text.length, (policy.draftOf text text c).caret = caret) ↔
      caret.InWord (policy.split text position).words ∨
        (caret = ⟨(policy.split text position).words.length, 0⟩ ∧
          (policy.draftOf text text text.length).caret = caret) := by
  constructor
  · rintro ⟨c, hc, rfl⟩
    rcases (begins_words_split policy text position hc).inWord_caret with
      hin | hend
    · exact .inl hin
    · refine .inr ⟨hend, ?_⟩
      rw [hend]
      exact caret_draftOf_length_eq policy text position hc (by rw [hend])
  · rintro (hin | ⟨-, hend⟩)
    · refine Caret.exists_eq_of_passed
        (fun c => (policy.draftOf text text c).caret) ?_
        (fun c hc => step_caret_draftOf policy text position hc)
        (Nat.le_refl _) ?_
      · rw [draftOf_zero]
        rfl
      · rw [words_split] at hin ⊢
        exact Draft.passed_caret_of_inWord hin
    · exact ⟨_, Nat.le_refl _, hend⟩

/-- **Position by position the caret walks through the words.**  It starts at
the first place; from each position to the next it makes one move; over all
positions it is at exactly the places in the words, and behind the last word
if it ends there.  So where no word is at the caret, the caret is behind the
last one, and otherwise it is no further than the end of its word. -/
theorem caret_walk (policy : Policy) (line : Text) (position : Nat) :
    (policy.split line 0).caret = some ⟨0, 0⟩ ∧
    (∀ c < line.length, ∃ here next, (policy.split line c).caret = some here ∧
      (policy.split line (c + 1)).caret = some next ∧
      Caret.Step (policy.split line position).words here next) ∧
    (∀ caret, (∃ c ≤ line.length, (policy.split line c).caret = some caret) ↔
      caret.InWord (policy.split line position).words ∨
        (caret = ⟨(policy.split line position).words.length, 0⟩ ∧
          (policy.split line line.length).caret = some caret)) ∧
    ∀ c ≤ line.length, ∃ caret, (policy.split line c).caret = some caret ∧
      ((policy.split line c).wordAtCaret = none →
        caret = ⟨(policy.split line position).words.length, 0⟩) ∧
      ∀ word, (policy.split line c).wordAtCaret = some word →
        caret.offset ≤ word.length := by
  have hcaret : ∀ c ≤ line.length, (policy.split line c).caret =
      some (policy.draftOf line line c).caret :=
    fun c hc => caret_split_of_le policy line hc
  have hwords : ∀ c, (policy.split line c).words =
      (policy.split line position).words := fun c => by
    rw [words_split, words_split]
  refine ⟨?_, fun c hc => ?_, fun caret => ?_, fun c hc => ?_⟩
  · rw [hcaret 0 (Nat.zero_le _), draftOf_zero]
    rfl
  · exact ⟨_, _, hcaret c (Nat.le_of_lt hc), hcaret (c + 1) hc,
      step_caret_draftOf policy line position hc⟩
  · rw [hcaret _ (Nat.le_refl _), Option.some.injEq,
      ← exists_caret_draftOf_iff policy line position caret]
    refine exists_congr fun c => and_congr_right fun hc => ?_
    rw [hcaret c hc, Option.some.injEq]
  · have hat : (policy.split line c).wordAtCaret =
        (policy.split line position).words[
          (policy.draftOf line line c).caret.word]? := by
      rw [WordList.wordAtCaret, WordList.caretWord, hcaret c hc, hwords c]
      rfl
    refine ⟨_, hcaret c hc, ?_⟩
    rw [hat]
    rcases (begins_words_split policy line position hc).inWord_caret with
      ⟨other, hother, hle⟩ | hend
    · rw [hother]
      refine ⟨fun hnone => ?_, fun word hword => ?_⟩
      · cases hnone
      · rw [← Option.some.inj hword]
        exact hle
    · refine ⟨fun _ => hend, fun word _ => ?_⟩
      rw [hend]
      exact Nat.zero_le _

/-- The closing quote of an empty block takes the caret across that word, from
its only place to the first one of the next word; the last word is not closed, so
the caret is never behind it. -/
theorem caret_walk_empty_block :
    1 < "\"\" a".toList.length ∧
      (split {} "\"\" a".toList 1).caret = some ⟨0, 0⟩ ∧
      (split {} "\"\" a".toList 2).caret = some ⟨1, 0⟩ ∧
      Caret.Step [[], ['a']] ⟨0, 0⟩ ⟨1, 0⟩ ∧
      ¬ ∃ c ≤ "\"\" a".toList.length,
        (split {} "\"\" a".toList c).caret = some ⟨2, 0⟩ := by
  have hlength : 1 < "\"\" a".toList.length := by decide
  have hwords : (split {} "\"\" a".toList 0).words = [[], ['a']] := by decide
  have hbefore : (split {} "\"\" a".toList 1).caret = some ⟨0, 0⟩ := by decide
  have hbehind : (split {} "\"\" a".toList 2).caret = some ⟨1, 0⟩ := by decide
  obtain ⟨-, hstep, hplaces, -⟩ := caret_walk {} "\"\" a".toList 0
  rw [hwords] at hstep hplaces
  refine ⟨hlength, hbefore, hbehind, ?_, fun hlast => ?_⟩
  · obtain ⟨here, next, hhere, hnext, hmove⟩ := hstep 1 hlength
    obtain rfl := Option.some.inj (hhere.symm.trans hbefore)
    obtain rfl := Option.some.inj (hnext.symm.trans hbehind)
    exact hmove
  · rcases (hplaces ⟨2, 0⟩).mp hlast with ⟨word, hword, -⟩ | ⟨-, hend⟩
    · exact absurd hword (by simp)
    · exact absurd hend (by decide)

end Policy

end PromptLine
