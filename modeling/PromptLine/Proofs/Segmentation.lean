/-
Which characters of a line make up its words, and where the words end.

* `Role.ends`, `Policy.endsBefore`: a closer or a separator ends a word, and
  the number of those before a position tells the words apart;
* `Draft.Tidy`: the invariant of a split.  The pending word holds only what
  came behind the last end, and every complete word only what came between two
  ends (`Draft.Tidy.add`);
* `Policy.endsBefore_eq_iff`: two positions have as many ends before them when
  no end lies between them;
* `Policy.words_segmentation`: **the words are the text characters of the line
  in order, each once, and two of them share a word exactly when no separator
  and no closer stands between them**.
-/
import Mathlib.Data.Nat.Init
import PromptLine.Proofs.Progress

namespace PromptLine

/-- The role ends a word that has begun. -/
def Role.ends : Role → Bool
  | .closer | .separator => true
  | .opener | .dropped | .text => false

/-! ### Drafts between ends -/

/-- With `tag` counting the ends before an item, of which there are `now` so
far: the pending word has begun behind the last end, a complete word lies
before it, no end lies within a complete word, and one lies between any two. -/
structure Draft.Tidy {α : Type} (draft : Draft α) (tag : α → Nat)
    (now : Nat) : Prop where
  pending : ∀ i ∈ draft.pending.toList, tag i = now
  behind : ∀ word ∈ draft.words.toList, ∀ i ∈ word, tag i < now
  alike : ∀ word ∈ draft.words.toList, ∀ i ∈ word, ∀ j ∈ word, tag i = tag j
  apart : draft.words.toList.Pairwise fun u v =>
    ∀ i ∈ u, ∀ j ∈ v, tag i < tag j

namespace Draft.Tidy

variable {α : Type} {draft : Draft α} {tag : α → Nat} {now : Nat}

lemma empty (tag : α → Nat) (now : Nat) : Tidy {} tag now := by
  constructor <;> simp

lemma close (h : Tidy draft tag now) : Tidy draft.close tag (now + 1) where
  pending := by simp
  behind := by
    intro word hword i hi
    rw [words_close, List.mem_append, List.mem_singleton] at hword
    rcases hword with hword | rfl
    · exact Nat.lt_succ_of_lt (h.behind word hword i hi)
    · exact Nat.lt_succ_of_le (Nat.le_of_eq (h.pending i hi))
  alike := by
    intro word hword i hi j hj
    rw [words_close, List.mem_append, List.mem_singleton] at hword
    rcases hword with hword | rfl
    · exact h.alike word hword i hi j hj
    · rw [h.pending i hi, h.pending j hj]
  apart := by
    rw [words_close, List.pairwise_append]
    refine ⟨h.apart, List.pairwise_singleton _ _, ?_⟩
    intro u hu v hv i hi j hj
    rw [List.mem_singleton.mp hv] at hj
    rw [h.pending j hj]
    exact h.behind u hu i hi

lemma cut (h : Tidy draft tag now) : Tidy draft.cut tag (now + 1) := by
  by_cases hempty : draft.pending.toList = []
  · rw [cut_of_pending_eq_nil hempty]
    refine ⟨by simp [hempty], ?_, h.alike, h.apart⟩
    exact fun word hword i hi => Nat.lt_succ_of_lt (h.behind word hword i hi)
  · rw [cut_of_pending_ne_nil hempty]
    exact h.close

lemma keep (h : Tidy draft tag now) {item : α} (hitem : tag item = now) :
    Tidy (draft.keep item) tag now where
  pending := by
    intro i hi
    simp only [Draft.keep, Array.toList_push, List.mem_append,
      List.mem_singleton] at hi
    rcases hi with hi | rfl
    · exact h.pending i hi
    · exact hitem
  behind := h.behind
  alike := h.alike
  apart := h.apart

/-- **One step keeps a draft tidy**, and counts an end. -/
lemma add (h : Tidy draft tag now) (role : Role) {item : α}
    (hitem : tag item = now) :
    Tidy (draft.add role item) tag (now + role.ends.toNat) := by
  cases role with
  | opener | dropped => exact h
  | closer => exact h.close
  | separator => exact h.cut
  | text => exact h.keep hitem

/-- In the end two items are in one word when they have as many ends before
them. -/
lemma mem_finish_iff (h : Tidy draft tag now) {i j : α}
    (hi : i ∈ draft.held) (hj : j ∈ draft.held) :
    (∃ word ∈ draft.finish, i ∈ word ∧ j ∈ word) ↔ tag i = tag j := by
  have hcut : Tidy draft.cut tag (now + 1) := h.cut
  constructor
  · rintro ⟨word, hword, hi, hj⟩
    exact hcut.alike word hword i hi j hj
  · intro htag
    rw [← flatten_finish, List.mem_flatten] at hi hj
    obtain ⟨u, hu, hi⟩ := hi
    obtain ⟨v, hv, hj⟩ := hj
    obtain ⟨m, hm, rfl⟩ := List.mem_iff_getElem.mp hu
    obtain ⟨n, hn, rfl⟩ := List.mem_iff_getElem.mp hv
    have hapart := List.pairwise_iff_getElem.mp hcut.apart
    rcases Nat.lt_trichotomy m n with hlt | rfl | hlt
    · have hne := hapart m n hm hn hlt i hi j hj
      omega
    · exact ⟨_, hu, hi, hj⟩
    · have hne := hapart n m hn hm hlt j hj i hi
      omega

end Draft.Tidy

namespace Policy

variable (policy : Policy) (text : Text)

/-! ### Ends before a position -/

/-- The number of characters before `pos` that end a word. -/
def endsBefore (policy : Policy) (line : Text) (pos : Nat) : Nat :=
  (List.range pos).countP fun k => (policy.roleAt line k).ends

lemma endsBefore_succ (pos : Nat) :
    policy.endsBefore text (pos + 1) =
      policy.endsBefore text pos + (policy.roleAt text pos).ends.toNat := by
  rw [endsBefore, List.range_succ, List.countP_append, List.countP_singleton,
    ← endsBefore]
  cases (policy.roleAt text pos).ends <;> rfl

/-- As many characters end a word before two positions when none does from
the first to the second. -/
lemma endsBefore_eq_iff {i j : Nat} (h : i ≤ j) :
    policy.endsBefore text i = policy.endsBefore text j ↔
      ∀ k, i ≤ k → k < j → (policy.roleAt text k).ends = false := by
  induction j, h using Nat.le_induction with
  | base =>
      constructor
      · intro _ k hk hk'
        omega
      · exact fun _ => rfl
  | succ j hij ih =>
      have hmono : policy.endsBefore text i ≤ policy.endsBefore text j := by
        refine List.Sublist.countP_le ?_
        exact (List.range_sublist).mpr hij
      rw [endsBefore_succ]
      constructor
      · intro heq k hk hk'
        have hzero : (policy.roleAt text j).ends.toNat = 0 := by omega
        rcases Nat.lt_or_eq_of_le (Nat.le_of_lt_succ hk') with hlt | rfl
        · exact ih.mp (by omega) k hk hlt
        · simpa using hzero
      · intro hall
        rw [hall j hij (Nat.lt_succ_self j), ih.mpr fun k hk hk' =>
          hall k hk (Nat.lt_succ_of_lt hk')]
        rfl

/-! ### Places -/

/-- The positions of the text characters of a line, in order. -/
def textPlaces (policy : Policy) (line : Text) : List Nat :=
  (List.range line.length).filter fun pos => policy.Plays line pos .text

lemma held_draftOf_range {pos : Nat} (h : pos ≤ text.length) :
    (policy.draftOf text (List.range text.length) pos).held =
      (List.range pos).filter fun k => policy.Plays text k .text := by
  induction pos with
  | zero =>
      rw [draftOf_zero]
      rfl
  | succ pos ih =>
      have hpos : pos < text.length := h
      have hplays : policy.Plays text pos .text ↔
          policy.roleAt text pos = .text := by simp [plays_iff, hpos]
      rw [draftOf_succ policy text hpos (List.getElem?_range hpos),
        Draft.held_add, ih (Nat.le_of_lt hpos), List.range_succ,
        List.filter_append]
      simp only [List.filter_cons, List.filter_nil, hplays,
        decide_eq_true_eq]

lemma tidy_draftOf_range {pos : Nat} (h : pos ≤ text.length) :
    (policy.draftOf text (List.range text.length) pos).Tidy
      (policy.endsBefore text) (policy.endsBefore text pos) := by
  induction pos with
  | zero =>
      rw [draftOf_zero]
      exact Draft.Tidy.empty _ _
  | succ pos ih =>
      have hpos : pos < text.length := h
      rw [draftOf_succ policy text hpos (List.getElem?_range hpos),
        endsBefore_succ]
      exact (ih (Nat.le_of_lt hpos)).add _ rfl

/-- Every text position has its place in a word, in order. -/
lemma flatten_places :
    (policy.places text).flatten = policy.textPlaces text := by
  rw [places_eq, Draft.flatten_finish, held_draftOf_range _ _ (Nat.le_refl _)]
  rfl

/-- A word is spelled by the characters at its places. -/
lemma map_words_eq_map_places (position : Nat) :
    (policy.split text position).words.map (List.map some) =
      (policy.places text).map (List.map text.char?) := by
  have hchars : text.map some =
      (List.range text.length).map text.char? := by
    refine eq_map_range (List.length_map some) fun k hk => ?_
    rw [List.getElem?_map, Text.char?, List.getElem?_eq_getElem hk,
      Option.map_some]
  rw [words_split, places_eq, ← Draft.finish_map, ← Draft.finish_map,
    ← draftOf_map, ← draftOf_map, hchars]

/-- A text position lies in the same word as another when no closer and no
separator stands between them. -/
lemma mem_places_iff {i j : Nat} (h : i < j)
    (hi : policy.Plays text i .text) (hj : policy.Plays text j .text) :
    (∃ place ∈ policy.places text, i ∈ place ∧ j ∈ place) ↔
      ∀ k, i < k → k < j →
        ¬ policy.Plays text k .separator ∧ ¬ policy.Plays text k .closer := by
  have hheld : ∀ {k}, policy.Plays text k .text →
      k ∈ (policy.draftOf text (List.range text.length) text.length).held := by
    intro k hk
    rw [held_draftOf_range _ _ (Nat.le_refl _), List.mem_filter]
    exact ⟨List.mem_range.mpr hk.lt_length, decide_eq_true hk⟩
  have hend : (policy.roleAt text i).ends = false := by
    rw [(plays_iff.mp hi).2]
    rfl
  rw [places_eq, (tidy_draftOf_range policy text (Nat.le_refl _)).mem_finish_iff
    (hheld hi) (hheld hj), endsBefore_eq_iff _ _ (Nat.le_of_lt h)]
  constructor
  · intro hall k hik hkj
    have hk := hall k (Nat.le_of_lt hik) hkj
    refine ⟨fun hsep => ?_, fun hclose => ?_⟩
    · rw [(plays_iff.mp hsep).2] at hk
      exact absurd hk (by simp [Role.ends])
    · rw [(plays_iff.mp hclose).2] at hk
      exact absurd hk (by simp [Role.ends])
  · intro hall k hik hkj
    rcases Nat.lt_or_eq_of_le hik with hlt | rfl
    · obtain ⟨hsep, hclose⟩ := hall k hlt hkj
      have hk : k < text.length := Nat.lt_trans hkj hj.lt_length
      cases hrole : policy.roleAt text k with
      | opener | dropped | text => rfl
      | closer => exact absurd (plays_iff.mpr ⟨hk, hrole⟩) hclose
      | separator => exact absurd (plays_iff.mpr ⟨hk, hrole⟩) hsep
    · exact hend

/-- **Nothing is lost, nothing is doubled, and the words end where they
should.**  Every character plays one role; put together the words are the text
characters of the line in order; and two text characters are in one word
exactly when no separator and no closer stands between them. -/
theorem words_segmentation (policy : Policy) (line : Text) (position : Nat) :
    (∀ pos < line.length, ∃! role, policy.Plays line pos role) ∧
    (policy.split line position).words.flatten.map some =
      (policy.textPlaces line).map line.char? ∧
    (policy.split line position).words.map (List.map some) =
      (policy.places line).map (List.map line.char?) ∧
    (policy.places line).flatten = policy.textPlaces line ∧
    ∀ i j, i < j → policy.Plays line i .text → policy.Plays line j .text →
      ((∃ place ∈ policy.places line, i ∈ place ∧ j ∈ place) ↔
        ∀ k, i < k → k < j →
          ¬ policy.Plays line k .separator ∧
            ¬ policy.Plays line k .closer) := by
  have hspell := map_words_eq_map_places policy line position
  have hflat : (policy.split line position).words.flatten.map some =
      (policy.textPlaces line).map line.char? := by
    rw [List.map_flatten, hspell, ← List.map_flatten, flatten_places]
  exact ⟨fun pos h => existsUnique_plays h, hflat, hspell,
    flatten_places policy line, fun i j h => mem_places_iff policy line h⟩

/-- In a block a blank does not end a word, although the quotes around the
block are dropped. -/
theorem words_segmentation_block :
    Plays {} "a\"b c\"".toList 0 .text ∧
      Plays {} "a\"b c\"".toList 4 .text ∧
      ∃ place ∈ places {} "a\"b c\"".toList, 0 ∈ place ∧ 4 ∈ place := by
  have hfirst : Plays {} "a\"b c\"".toList 0 .text := by decide
  have hlast : Plays {} "a\"b c\"".toList 4 .text := by decide
  have hnone : ∀ k < 4, ¬ Plays {} "a\"b c\"".toList k .separator ∧
      ¬ Plays {} "a\"b c\"".toList k .closer := by decide
  have hiff := (words_segmentation {} "a\"b c\"".toList 0).2.2.2.2 0 4
    (by decide) hfirst hlast
  exact ⟨hfirst, hlast, hiff.mpr fun k _ hk => hnone k hk⟩

end Policy

end PromptLine
