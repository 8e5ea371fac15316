/-
What later characters leave of the words so far.

* `Draft.Begins`: words that begin as a draft does.  They have its complete
  words in front, and the next of them starts with its pending word, once that
  has begun;
* `Draft.Begins.of_addAll`: an item never takes anything back, so words that
  begin as a later draft does begin as every earlier one;
* `Policy.begins_words_split`: hence the words of a line begin as the draft
  behind any of its first characters.
-/
import PromptLine.Proofs.Progress

namespace PromptLine

namespace Draft

variable {α : Type}

/-- The words begin as the draft does: its complete words come first, and its
pending word, once it has begun, is the start of the next. -/
structure Begins (draft : Draft α) (words : List (List α)) : Prop where
  done : draft.words.toList <+: words
  pending : draft.pending.toList ≠ [] → ∃ word,
    words[draft.words.size]? = some word ∧ draft.pending.toList <+: word

namespace Begins

variable {draft : Draft α} {words : List (List α)}

lemma take_words (h : draft.Begins words) :
    words.take draft.words.size = draft.words.toList := by
  rw [← Array.length_toList]
  exact (List.prefix_iff_eq_take.mp h.done).symm

lemma size_le (h : draft.Begins words) : draft.words.size ≤ words.length := by
  rw [← Array.length_toList]
  exact h.done.length_le

/-- When the words are the complete ones and no more, none has begun. -/
lemma pending_eq_nil (h : draft.Begins words)
    (hall : words.length ≤ draft.words.size) :
    draft.pending.toList = [] := by
  by_contra hpending
  obtain ⟨word, hword, -⟩ := h.pending hpending
  rw [List.getElem?_eq_none hall] at hword
  cases hword

lemma getElem?_of_close (h : draft.close.Begins words) :
    words[draft.words.size]? = some draft.pending.toList := by
  obtain ⟨rest, rfl⟩ := h.done
  simp

/-! ### Items never take anything back -/

/-- Words that begin with a word just completed began with it pending. -/
lemma of_close (h : draft.close.Begins words) : draft.Begins words where
  done := by
    refine List.IsPrefix.trans ?_ h.done
    rw [words_close]
    exact List.prefix_append _ _
  pending := fun _ => ⟨_, h.getElem?_of_close, List.prefix_refl _⟩

lemma of_cut (h : draft.cut.Begins words) : draft.Begins words := by
  by_cases hpending : draft.pending.toList = []
  · rwa [cut_of_pending_eq_nil hpending] at h
  · rw [cut_of_pending_ne_nil hpending] at h
    exact h.of_close

lemma of_keep {item : α} (h : (draft.keep item).Begins words) :
    draft.Begins words where
  done := h.done
  pending := by
    intro _
    have hkeep : (draft.keep item).pending.toList =
        draft.pending.toList ++ [item] := by simp [keep]
    obtain ⟨word, hword, hstart⟩ := h.pending (by simp [hkeep])
    rw [hkeep] at hstart
    exact ⟨word, hword, (List.prefix_append _ _).trans hstart⟩

/-- **One step takes nothing back**: words that begin as the draft behind an
item begin as the draft before it. -/
lemma of_add {role : Role} {item : α} (h : (draft.add role item).Begins words) :
    draft.Begins words := by
  cases role with
  | opener | dropped => exact h
  | closer => exact h.of_close
  | separator => exact h.of_cut
  | text => exact h.of_keep

/-- Words that begin as the draft behind several items begin as the draft
before them. -/
lemma of_addAll {items : List (Role × α)}
    (h : (draft.addAll items).Begins words) : draft.Begins words := by
  induction items generalizing draft with
  | nil => exact h
  | cons item rest ih => exact of_add (ih h)

end Begins

/-- When nothing comes any more the words begin as the draft does. -/
lemma begins_finish (draft : Draft α) : draft.Begins draft.finish where
  done := by
    rw [finish_eq_append]
    exact List.prefix_append _ _
  pending := by
    intro hpending
    refine ⟨draft.pending.toList, ?_, List.prefix_refl _⟩
    rw [finish_eq_append, if_neg hpending, ← Array.length_toList,
      List.getElem?_concat_length]

end Draft

namespace Policy

variable {α : Type} (policy : Policy) (text : Text)

/-- The draft behind the line goes on from that behind its first
characters. -/
lemma draftOf_length_eq_addAll (items : List α) {pos : Nat}
    (h : pos ≤ text.length) :
    policy.draftOf text items text.length =
      (policy.draftOf text items pos).addAll
        ((((policy.roles text).zip items).take text.length).drop pos) := by
  have hcut : ((policy.roles text).zip items).take pos =
      (((policy.roles text).zip items).take text.length).take pos := by
    rw [List.take_take, Nat.min_eq_left h]
  rw [draftOf, draftOf, hcut, ← Draft.addAll_append, List.take_append_drop]

/-- The words of a line begin as the draft behind its first characters. -/
lemma begins_words_split (position : Nat) {pos : Nat}
    (h : pos ≤ text.length) :
    (policy.draftOf text text pos).Begins
      (policy.split text position).words := by
  have hlast := (policy.draftOf text text text.length).begins_finish
  rw [← words_split policy text position] at hlast
  rw [draftOf_length_eq_addAll policy text text h] at hlast
  exact hlast.of_addAll

end Policy

end PromptLine
