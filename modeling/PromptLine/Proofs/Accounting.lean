/-
What the words of a line take up of it.

* `Draft.weight`: the items that a draft holds, and one more for each complete
  word.  Every item that is taken in adds one at most, because an item that
  completes a word is not kept itself (`Draft.weight_add_le`);
* `Policy.weight_draftOf_le`: so the draft behind the first characters weighs
  no more than these;
* `Tally`: the number of complete words and that of the pending characters, in
  numbers of fixed width, which start again at zero when they are too great.  In
  a line whose length is a number of that width they never are
  (`Policy.tally_eq`);
* `Policy.split_size`: **words and the gaps behind them fit into the line, up to
  its end and up to every caret; so nothing that is counted on the way is
  greater than the length of the line, and no counter overflows**.
-/
import Mathlib.Algebra.Ring.Nat
import PromptLine.Proofs.Growth

namespace PromptLine

namespace Draft

variable {α : Type} (draft : Draft α)

/-! ### The weight of a draft -/

/-- The number of items held, and of complete words. -/
def weight (draft : Draft α) : Nat := draft.held.length + draft.words.size

lemma weight_close : draft.close.weight = draft.weight + 1 := by
  rw [weight, weight, held_close, close, Array.size_push, Nat.add_assoc]

lemma weight_cut_le : draft.cut.weight ≤ draft.weight + 1 := by
  by_cases h : draft.pending.toList = []
  · rw [cut_of_pending_eq_nil h]
    exact Nat.le_succ _
  · rw [cut_of_pending_ne_nil h]
    exact Nat.le_of_eq (weight_close draft)

/-- **One item adds one at most**: it is kept, or it completes a word, or does
neither. -/
lemma weight_add_le (role : Role) (item : α) :
    (draft.add role item).weight ≤ draft.weight + 1 := by
  cases role with
  | opener | dropped => exact Nat.le_succ _
  | closer => exact Nat.le_of_eq (weight_close draft)
  | separator => exact weight_cut_le draft
  | text =>
      have hheld : (draft.add .text item).held = draft.held ++ [item] := by
        rw [held_add, if_pos rfl]
      have hwords : (draft.add .text item).words = draft.words := rfl
      rw [weight, weight, hheld, hwords, List.length_append,
        List.length_singleton]
      omega

/-- The weight is that of the complete words, and the characters pending. -/
lemma weight_eq :
    draft.weight = (draft.words.toList.map List.length).sum +
      draft.words.size + draft.pending.size := by
  rw [weight, held, List.length_append, List.length_flatten,
    Array.length_toList]
  omega

lemma size_words_le : draft.words.size ≤ draft.weight := by
  rw [weight_eq]
  omega

lemma size_pending_le : draft.pending.size ≤ draft.weight := by
  rw [weight_eq]
  omega

/-- The finished words weigh at most one more than the draft: behind the last of
them nothing has to stand. -/
lemma sum_length_finish_le :
    (draft.finish.map List.length).sum + draft.finish.length ≤
      draft.weight + 1 := by
  have hcut : draft.cut.weight =
      (draft.finish.map List.length).sum + draft.finish.length := by
    rw [weight, held_cut, ← flatten_finish, List.length_flatten, finish,
      Array.length_toList]
  rw [← hcut]
  exact weight_cut_le draft

/-- The words in the end are no more than the draft weighs, because a pending
word is one of them only if it holds something. -/
lemma length_finish_le : draft.finish.length ≤ draft.weight := by
  rw [weight_eq, finish_eq_append, List.length_append, Array.length_toList]
  by_cases h : draft.pending.toList = []
  · rw [if_pos h, List.length_nil]
    omega
  · have hpending : 0 < draft.pending.size := (pending_ne_nil_iff draft).mp h
    rw [if_neg h, List.length_singleton]
    omega

lemma length_le_of_mem_finish {word : List α} (h : word ∈ draft.finish) :
    word.length ≤ draft.weight := by
  have hheld : word.length ≤ draft.held.length := by
    rw [← flatten_finish]
    exact (List.sublist_flatten_of_mem h).length_le
  exact Nat.le_trans hheld (Nat.le_add_right _ _)

end Draft

/-! ### Counters of fixed width -/

/-- The number of complete words and that of the pending characters, in numbers
of `width` bits.  These start again at zero when they are too great. -/
structure Tally (width : Nat) where
  words : BitVec width := 0
  pending : BitVec width := 0

namespace Tally

variable {width : Nat}

/-- Counts one more word, and nothing pending. -/
def close (tally : Tally width) : Tally width where
  words := tally.words + 1

/-- Counts one more word, unless nothing is pending. -/
def cut (tally : Tally width) : Tally width :=
  if tally.pending = 0 then tally else tally.close

/-- Counts the next character, as its role demands. -/
def add (tally : Tally width) : Role → Tally width
  | .opener => tally
  | .closer => tally.close
  | .separator => tally.cut
  | .dropped => tally
  | .text => { tally with pending := tally.pending + 1 }

/-- The caret that stands behind so many words and characters. -/
def caret (tally : Tally width) : Caret :=
  ⟨tally.words.toNat, tally.pending.toNat⟩

end Tally

namespace Draft

variable {α : Type} (draft : Draft α)

/-- What there is to count in a draft. -/
def tally (width : Nat) (draft : Draft α) : Tally width where
  words := BitVec.ofNat width draft.words.size
  pending := BitVec.ofNat width draft.pending.size

lemma tally_close (width : Nat) :
    (draft.tally width).close = draft.close.tally width := by
  simp [Tally.close, tally, close, BitVec.ofNat_add]

/-- A counter tells whether something is pending as long as it is not too small
for what is pending. -/
lemma tally_cut {width : Nat} (h : draft.pending.size < 2 ^ width) :
    (draft.tally width).cut = draft.cut.tally width := by
  have hzero : (draft.tally width).pending = 0 ↔ draft.pending.toList = [] := by
    rw [pending_eq_nil_iff, ← BitVec.toNat_inj]
    simp [tally, Nat.mod_eq_of_lt h]
  by_cases hpending : draft.pending.toList = []
  · rw [Tally.cut, if_pos (hzero.mpr hpending), cut_of_pending_eq_nil hpending]
  · rw [Tally.cut, if_neg (hzero.not.mpr hpending),
      cut_of_pending_ne_nil hpending, tally_close]

/-- **Counting one item more** counts what the draft then is. -/
lemma tally_add {width : Nat} (h : draft.pending.size < 2 ^ width)
    (role : Role) (item : α) :
    (draft.tally width).add role = (draft.add role item).tally width := by
  cases role with
  | opener | dropped => rfl
  | closer => exact tally_close draft width
  | separator => exact tally_cut draft h
  | text => simp [Tally.add, tally, add, keep, BitVec.ofNat_add]

/-- Counters that are great enough tell the caret. -/
lemma caret_tally {width : Nat} (h : draft.weight < 2 ^ width) :
    (draft.tally width).caret = draft.caret := by
  have hwords : draft.words.size % 2 ^ width = draft.words.size :=
    Nat.mod_eq_of_lt (Nat.lt_of_le_of_lt (size_words_le draft) h)
  have hpending : draft.pending.size % 2 ^ width = draft.pending.size :=
    Nat.mod_eq_of_lt (Nat.lt_of_le_of_lt (size_pending_le draft) h)
  rw [Tally.caret, tally, BitVec.toNat_ofNat, BitVec.toNat_ofNat, hwords,
    hpending, caret]

/-- Counters that are great enough tell the number of words at the end of a
line. -/
lemma toNat_words_cut_tally {width : Nat} (h : draft.weight < 2 ^ width) :
    (draft.tally width).cut.words.toNat = draft.finish.length := by
  have hpending : draft.pending.size < 2 ^ width :=
    Nat.lt_of_le_of_lt (size_pending_le draft) h
  have hwords : draft.cut.words.size < 2 ^ width := by
    have hle := length_finish_le draft
    rw [finish, Array.length_toList] at hle
    exact Nat.lt_of_le_of_lt hle h
  rw [tally_cut draft hpending, tally, BitVec.toNat_ofNat,
    Nat.mod_eq_of_lt hwords, finish, Array.length_toList]

end Draft

namespace Policy

variable (policy : Policy) (text : Text)

/-! ### The size of a split -/

/-- The draft behind the first characters weighs no more than these. -/
lemma weight_draftOf_le {pos : Nat} (h : pos ≤ text.length) :
    (policy.draftOf text text pos).weight ≤ pos := by
  induction pos with
  | zero =>
      rw [draftOf_zero]
      exact Nat.le_refl _
  | succ pos ih =>
      have hpos : pos < text.length := h
      rw [draftOf_succ policy text hpos (List.getElem?_eq_getElem hpos)]
      calc ((policy.draftOf text text pos).add (policy.roleAt text pos)
              text[pos]).weight
          ≤ (policy.draftOf text text pos).weight + 1 :=
            Draft.weight_add_le _ _ _
        _ ≤ pos + 1 := Nat.succ_le_succ (ih (Nat.le_of_lt hpos))

/-- The counters behind the first `pos` characters of `line`. -/
def tally (policy : Policy) (width : Nat) (line : Text) (pos : Nat) :
    Tally width :=
  ((policy.roles line).take pos).foldl Tally.add {}

/-- **Counters that are great enough for the line count right at every
position.** -/
lemma tally_eq {width pos : Nat} (hwidth : text.length < 2 ^ width)
    (h : pos ≤ text.length) :
    policy.tally width text pos =
      (policy.draftOf text text pos).tally width := by
  induction pos with
  | zero =>
      rw [draftOf_zero]
      rfl
  | succ pos ih =>
      have hpos : pos < text.length := h
      have hrole : (policy.roles text)[pos]? =
          some (policy.roleAt text pos) := by
        rw [getElem?_roles, List.getElem?_eq_getElem hpos, Option.map_some]
      have hpending : (policy.draftOf text text pos).pending.size <
          2 ^ width := by
        have hweight := weight_draftOf_le policy text (Nat.le_of_lt hpos)
        have hsize := (policy.draftOf text text pos).size_pending_le
        omega
      rw [tally, List.take_add_one, hrole, Option.toList_some,
        List.foldl_append, ← tally, ih (Nat.le_of_lt hpos), List.foldl_cons,
        List.foldl_nil, Draft.tally_add _ hpending,
        draftOf_succ policy text hpos (List.getElem?_eq_getElem hpos)]

/-- **Words and the gaps behind them fit into the line.**  The characters of
all words and the number of words are together no more than one more than the
characters of the line; and up to a caret the complete words, their number and
the offset in the next one are together no more than the characters before it.
Hence no number of words, no length of a word and nothing in a caret is greater
than the length of the line.  If that length is a number of `width` bits, then
counters of that width tell the caret at every position, and the number of
words in the end: they never start again at zero. -/
theorem split_size (policy : Policy) (line : Text) :
    (∀ position,
      ((policy.split line position).words.map List.length).sum +
        (policy.split line position).words.length ≤ line.length + 1) ∧
    (∀ position ≤ line.length, ∃ caret,
      (policy.split line position).caret = some caret ∧
      (((policy.split line position).words.take caret.word).map
        List.length).sum + caret.word + caret.offset ≤ position) ∧
    (∀ position,
      (policy.split line position).words.length ≤ line.length ∧
      (∀ word ∈ (policy.split line position).words,
        word.length ≤ line.length) ∧
      ∀ caret, (policy.split line position).caret = some caret →
        caret.word ≤ line.length ∧ caret.offset ≤ line.length) ∧
    ∀ width, line.length < 2 ^ width →
      (∀ position ≤ line.length, (policy.split line position).caret =
        some (policy.tally width line position).caret) ∧
      ∀ position,
        (policy.tally width line line.length).cut.words.toNat =
          (policy.split line position).words.length := by
  have hweight : ∀ {pos}, pos ≤ line.length →
      (policy.draftOf line line pos).weight ≤ pos :=
    fun h => weight_draftOf_le policy line h
  have hend := hweight (Nat.le_refl line.length)
  refine ⟨fun position => ?_, fun position h => ?_, fun position => ?_,
    fun width hwidth => ⟨fun position h => ?_, fun position => ?_⟩⟩
  · rw [words_split]
    exact Nat.le_trans (Draft.sum_length_finish_le _) (Nat.succ_le_succ hend)
  · refine ⟨_, caret_split_of_le policy line h, ?_⟩
    have hbegins := begins_words_split policy line position h
    have hle := hweight h
    rw [Draft.weight_eq, ← hbegins.take_words] at hle
    exact hle
  · refine ⟨?_, fun word hword => ?_, fun caret hcaret => ?_⟩
    · rw [words_split]
      exact Nat.le_trans (Draft.length_finish_le _) hend
    · rw [words_split] at hword
      exact Nat.le_trans (Draft.length_le_of_mem_finish _ hword) hend
    · rw [caret_split] at hcaret
      split_ifs at hcaret with h
      cases hcaret
      exact ⟨Nat.le_trans (Draft.size_words_le _)
          (Nat.le_trans (hweight h) h),
        Nat.le_trans (Draft.size_pending_le _)
          (Nat.le_trans (hweight h) h)⟩
  · rw [caret_split_of_le policy line h, tally_eq policy line hwidth h,
      Draft.caret_tally _ (Nat.lt_of_le_of_lt (hweight h) (by omega))]
  · rw [words_split, tally_eq policy line hwidth (Nat.le_refl _),
      Draft.toNat_words_cut_tally _ (Nat.lt_of_le_of_lt hend hwidth)]

/-- The bounds on words and caret are met by three words with one blank behind
each of the first two, the second bound with the caret at the end of the second
word.  Numbers of three bits are great enough to count the words.  A single bit is not: with two
characters pending it is back at zero, as if no word had begun. -/
theorem split_size_met :
    (split {} "a bc d".toList 4).words = [['a'], ['b', 'c'], ['d']] ∧
      4 + 3 ≤ "a bc d".toList.length + 1 ∧
      (split {} "a bc d".toList 4).caret = some ⟨1, 2⟩ ∧
      1 + 1 + 2 ≤ 4 ∧
      "a bc d".toList.length < 2 ^ 3 ∧
      (tally {} 3 "a bc d".toList 6).cut.words.toNat = 3 ∧
      (tally {} 1 "a bc d".toList 6).cut.words.toNat = 0 := by
  have hwords : (split {} "a bc d".toList 4).words =
      [['a'], ['b', 'c'], ['d']] := by decide
  have hcaret : (split {} "a bc d".toList 4).caret = some ⟨1, 2⟩ := by decide
  have hwidth : "a bc d".toList.length < 2 ^ 3 := by decide
  obtain ⟨htotal, hleft, -, hcount⟩ := split_size {} "a bc d".toList
  have hsum := htotal 4
  obtain ⟨caret, hsome, hupto⟩ := hleft 4 (by decide)
  have hnumber := (hcount 3 hwidth).2 4
  rw [hcaret, Option.some.injEq] at hsome
  rw [hwords] at hsum hupto hnumber
  rw [← hsome] at hupto
  exact ⟨hwords, hsum, hcaret, hupto, hwidth, hnumber, by decide⟩

end Policy

end PromptLine
