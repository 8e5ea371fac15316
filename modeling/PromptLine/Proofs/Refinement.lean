/-
More separators cut a line more finely, and do nothing else.

* `Role.Finer`: the roles that a character can play under a finer and under a
  coarser policy.  They are the same, or the character separates words under
  the finer one and neither quotes nor separates under the other;
* `Draft.Finer`: the invariant of the two splits side by side.  The drafts do
  not agree, but what is pending in the finer one is the end of what is pending
  in the coarser one, and each of its words is a part of a word there.  One step
  keeps this (`Draft.Finer.add`), and so does a whole line
  (`Policy.Refines.finer_draftOf`);
* `Policy.Refines`: wherever the coarser policy would separate words in a line,
  so would the finer;
* `Policy.split_refined`: **the finer policy has the same blocks in the same
  places, keeps no character that the coarser one does not keep, joins none
  that the coarser one keeps apart, and has at least as many empty words**.
-/
import Mathlib.Data.List.Infix
import PromptLine.Proofs.EmptyWords
import PromptLine.Proofs.Exposure
import PromptLine.Proofs.Segmentation

namespace PromptLine

/-- The first role is one that a character can play under a finer policy when
it plays the second under a coarser one: the same, or it separates where it
would be dropped or be text. -/
inductive Role.Finer : Role → Role → Prop
  | same (role : Role) : Finer role role
  | cutDropped : Finer .separator .dropped
  | cutText : Finer .separator .text

namespace Draft

variable {α : Type} {fine coarse : Draft α}

/-- Drafts of the same items, the first under a finer policy.  The word pending
in it has begun later than that in the other, and a complete word of it is part
of a word of the other, which is complete too or pending.  A pending word may
come to nothing, so that an empty word needs a complete one. -/
structure Finer (fine coarse : Draft α) : Prop where
  pending : fine.pending.toList <:+ coarse.pending.toList
  words : ∀ word ∈ fine.words.toList,
    (∃ whole ∈ coarse.words.toList, word <:+: whole) ∨
      (word ≠ [] ∧ word <:+: coarse.pending.toList)

namespace Finer

lemma empty : Finer ({} : Draft α) {} := by
  constructor <;> simp

lemma close (h : fine.Finer coarse) : fine.close.Finer coarse.close where
  pending := List.suffix_refl _
  words := by
    intro word hword
    left
    rw [words_close, List.mem_append, List.mem_singleton] at hword
    rw [words_close]
    rcases hword with hword | rfl
    · rcases h.words word hword with ⟨whole, hwhole, hpart⟩ | ⟨-, hpart⟩
      · exact ⟨whole, List.mem_append_left _ hwhole, hpart⟩
      · exact ⟨_, List.mem_concat_self, hpart⟩
    · exact ⟨_, List.mem_concat_self, h.pending.isInfix⟩

/-- A separator for the finer draft alone completes a part of the word that is
pending in the other. -/
lemma cut_left (h : fine.Finer coarse) : fine.cut.Finer coarse := by
  by_cases hpending : fine.pending.toList = []
  · rwa [cut_of_pending_eq_nil hpending]
  · rw [cut_of_pending_ne_nil hpending]
    refine ⟨List.nil_suffix, fun word hword => ?_⟩
    rw [words_close, List.mem_append, List.mem_singleton] at hword
    rcases hword with hword | rfl
    · exact h.words word hword
    · exact .inr ⟨hpending, h.pending.isInfix⟩

/-- Where nothing is pending in the finer draft, a separator for the other makes
no difference. -/
lemma cut_right (h : fine.Finer coarse) (hnone : fine.pending.toList = []) :
    fine.Finer coarse.cut := by
  by_cases hpending : coarse.pending.toList = []
  · rwa [cut_of_pending_eq_nil hpending]
  · rw [cut_of_pending_ne_nil hpending]
    refine ⟨by rw [hnone]; exact List.nil_suffix, fun word hword => .inl ?_⟩
    rw [words_close]
    rcases h.words word hword with ⟨whole, hwhole, hpart⟩ | ⟨-, hpart⟩
    · exact ⟨whole, List.mem_append_left _ hwhole, hpart⟩
    · exact ⟨_, List.mem_concat_self, hpart⟩

lemma cut (h : fine.Finer coarse) : fine.cut.Finer coarse.cut :=
  h.cut_left.cut_right (pending_cut fine)

/-- A word that goes on in the coarser draft has the same parts and more. -/
lemma words_keep (h : fine.Finer coarse) (item : α) :
    ∀ word ∈ fine.words.toList,
      (∃ whole ∈ (coarse.keep item).words.toList, word <:+: whole) ∨
        (word ≠ [] ∧ word <:+: (coarse.keep item).pending.toList) := by
  intro word hword
  refine (h.words word hword).imp_right fun ⟨hne, hpart⟩ => ⟨hne, ?_⟩
  rw [keep, Array.toList_push]
  exact hpart.trans (List.prefix_append _ _).isInfix

lemma keep (h : fine.Finer coarse) (item : α) :
    (fine.keep item).Finer (coarse.keep item) where
  pending := by
    obtain ⟨front, hfront⟩ := h.pending
    rw [Draft.keep, Draft.keep, Array.toList_push, Array.toList_push, ← hfront,
      List.append_assoc]
    exact List.suffix_append _ _
  words := h.words_keep item

/-- Where nothing is pending in the finer draft, text may go to the other
alone. -/
lemma keep_right (h : fine.Finer coarse) (hnone : fine.pending.toList = [])
    (item : α) : fine.Finer (coarse.keep item) where
  pending := by
    rw [hnone]
    exact List.nil_suffix
  words := h.words_keep item

/-- **One step keeps a draft the finer one**, if the item plays a finer role in
it. -/
lemma add (h : fine.Finer coarse) {role role' : Role}
    (hrole : role.Finer role') (item : α) :
    (fine.add role item).Finer (coarse.add role' item) := by
  cases hrole with
  | same =>
      cases role with
      | opener | dropped => exact h
      | closer => exact h.close
      | separator => exact h.cut
      | text => exact h.keep item
  | cutDropped => exact h.cut_left
  | cutText => exact h.cut_left.keep_right (pending_cut fine) item

/-- In the end every word of the finer draft is part of a word of the other. -/
lemma exists_infix_of_mem_finish (h : fine.Finer coarse) {word : List α}
    (hword : word ∈ fine.finish) :
    ∃ whole ∈ coarse.finish, word <:+: whole := by
  rcases h.cut.words word hword with hpart | ⟨hne, hpart⟩
  · exact hpart
  · rw [pending_cut, List.infix_nil] at hpart
    exact absurd hpart hne

end Finer

end Draft

namespace Policy

variable {fine coarse : Policy} {text : Text} {pos : Nat}

/-- With the same configuration, the first policy would separate words in the
line wherever the second would. -/
structure Refines (fine coarse : Policy) (line : Text) : Prop where
  config : coarse.config = fine.config
  separator : ∀ pos, coarse.isSeparator line pos = true →
    fine.isSeparator line pos = true

namespace Refines

/-! ### The two splits side by side -/

/-- Every character plays a finer role under the finer policy. -/
lemma finer_roleAt (h : fine.Refines coarse text) (pos : Nat) :
    (fine.roleAt text pos).Finer (coarse.roleAt text pos) := by
  have hsame : coarse.config.Renames id fine.config := .of_eq h.config
  rw [roleAt, roleAt, openBefore_congr hsame, isActiveQuote_congr hsame,
    isEscaped_congr hsame, plainRoleAt_congr hsame]
  cases fine.openBefore text pos with
  | some quote => exact .same _
  | none =>
      simp only
      split_ifs with hquote hfine hcoarse hcoarse
      · exact .same _
      · exact .same _
      · unfold plainRoleAt
        split_ifs
        · exact .cutDropped
        · exact .cutText
      · exact absurd (h.separator pos hcoarse) hfine
      · exact .same _

/-- **The finer policy keeps the finer draft**, from the start of the line to
its end. -/
lemma finer_draftOf {α : Type} (h : fine.Refines coarse text) {items : List α}
    (hitems : items.length = text.length) (hpos : pos ≤ text.length) :
    (fine.draftOf text items pos).Finer (coarse.draftOf text items pos) := by
  induction pos with
  | zero =>
      rw [draftOf_zero, draftOf_zero]
      exact Draft.Finer.empty
  | succ pos ih =>
      have hlt : pos < text.length := hpos
      have hitem := List.getElem?_eq_getElem (hitems.symm ▸ hlt)
      rw [draftOf_succ fine text hlt hitem, draftOf_succ coarse text hlt hitem]
      exact (ih (Nat.le_of_lt hlt)).add (h.finer_roleAt pos) _

lemma exists_infix_places (h : fine.Refines coarse text) {place : List Nat}
    (hplace : place ∈ fine.places text) :
    ∃ whole ∈ coarse.places text, place <:+: whole := by
  rw [places_eq] at hplace ⊢
  exact (h.finer_draftOf List.length_range
    (Nat.le_refl _)).exists_infix_of_mem_finish hplace

/-- A character that ends an empty word under the coarser policy does under the
finer. -/
lemma endsEmpty (h : fine.Refines coarse text)
    (hends : coarse.EndsEmpty text pos) : fine.EndsEmpty text pos := by
  obtain ⟨hcloses, hpending⟩ := hends
  have hsuffix :=
    (h.finer_draftOf rfl (Nat.le_of_lt (closes_iff.mp hcloses).1)).pending
  rw [hpending] at hsuffix
  exact ⟨(closes_congr (.of_eq h.config) text pos).mp hcloses,
    List.suffix_nil.mp hsuffix⟩

end Refines

/-- **More separators refine the split and do nothing else.**  When all that
separates words in the line under the coarser policy does under the finer, both
open and close their blocks at the same positions; a position kept in a word by
the finer is kept by the coarser; the positions of a word of the finer stand in
a row in one word of the coarser, so that no two of them are in different words
there; and the coarser has no more empty words than the finer.  The words are
the characters at these positions (`map_words_eq_map_places`). -/
theorem split_refined {fine coarse : Policy} {line : Text}
    (h : fine.Refines coarse line) :
    (∀ pos : Nat,
      ((coarse.roles line)[pos]? = some .opener ↔
        (fine.roles line)[pos]? = some .opener) ∧
      ((coarse.roles line)[pos]? = some .closer ↔
        (fine.roles line)[pos]? = some .closer)) ∧
    (∀ pos ∈ (fine.places line).flatten,
      pos ∈ (coarse.places line).flatten) ∧
    (∀ place ∈ fine.places line,
      ∃ whole ∈ coarse.places line, place <:+: whole) ∧
    ∀ position,
      (coarse.split line position).words.count [] ≤
        (fine.split line position).words.count [] := by
  refine ⟨fun pos => ?_, fun pos hpos => ?_,
    fun place hplace => h.exists_infix_places hplace, fun position => ?_⟩
  · simp only [getElem?_roles_eq_some_iff]
    have hsame : coarse.config.Renames id fine.config := .of_eq h.config
    exact ⟨opens_congr hsame line pos, closes_congr hsame line pos⟩
  · obtain ⟨place, hplace, hmem⟩ := List.mem_flatten.mp hpos
    obtain ⟨whole, hwhole, hpart⟩ := h.exists_infix_places hplace
    exact List.mem_flatten.mpr ⟨whole, hwhole, hpart.subset hmem⟩
  · rw [count_nil_eq_length, count_nil_eq_length]
    refine (List.monotone_filter_right _ fun pos => ?_).length_le
    simpa using h.endsEmpty

/-- With the semicolon as a separator too, the empty block behind it is a word
of its own; with blanks alone it ends the word before it. -/
theorem split_refined_semicolon :
    Refines { separator := .semicolonOrBlank } {} "a;'' b".toList ∧
      places {} "a;'' b".toList = [[0, 1], [5]] ∧
      places { separator := .semicolonOrBlank } "a;'' b".toList =
        [[0], [], [5]] ∧
      (split {} "a;'' b".toList 0).words = ["a;".toList, ['b']] ∧
      (split { separator := .semicolonOrBlank } "a;'' b".toList 0).words =
        [['a'], [], ['b']] ∧
      (split {} "a;'' b".toList 0).words.count [] ≤
        (split { separator := .semicolonOrBlank } "a;'' b".toList 0).words.count
          [] := by
  have hrefines :
      Refines { separator := .semicolonOrBlank } {} "a;'' b".toList := by
    refine ⟨rfl, fun pos hpos => ?_⟩
    have hlt : pos < 6 := by
      rw [isSeparator, Bool.and_assoc, Bool.and_eq_true] at hpos
      exact of_decide_eq_true hpos.1
    exact (by decide : ∀ pos < 6, isSeparator {} "a;'' b".toList pos = true →
      isSeparator { separator := .semicolonOrBlank } "a;'' b".toList pos =
        true) pos hlt hpos
  obtain ⟨-, -, -, hcount⟩ := split_refined hrefines
  exact ⟨hrefines, by decide, by decide, by decide, by decide, hcount 0⟩

end Policy

end PromptLine
