/-
Where the empty words of a line come from.

* `Draft.idxsOf_nil_add`: an empty word is added only by a closer that finds
  nothing pending;
* `Policy.EndsEmpty`: a character is such a closer.  The empty words of a line
  are the ones that these characters end (`Policy.idxsOf_nil_words_split`);
* `Policy.EmptyPair`: a quote opens a block that the next character closes, and
  nothing is pending before it.  No other block can be closed with nothing
  pending, because what is dropped from a block escapes the character behind it
  (`Policy.endsEmpty_succ_iff`);
* `Policy.count_nil_words_split`: **there are as many empty words as such
  pairs, and the caret in front of each pair tells the number of its word**;
* `Policy.count_nil_wordsLeft_pair`: with nothing pending before it a pair makes
  one empty word, and behind text none.
-/
import Mathlib.Data.List.Basic
import PromptLine.Proofs.Completion

namespace PromptLine

namespace Draft

variable (draft : Draft Char)

/-! ### Empty words of a draft -/

lemma idxsOf_nil_close :
    draft.close.words.toList.idxsOf [] =
      draft.words.toList.idxsOf [] ++
        if draft.pending.toList = [] then [draft.words.size] else [] := by
  rw [words_close, List.idxsOf_append, List.idxsOf_cons, List.idxsOf_nil,
    Nat.zero_add, Array.length_toList]
  simp

lemma idxsOf_nil_cut :
    draft.cut.words.toList.idxsOf [] = draft.words.toList.idxsOf [] := by
  by_cases h : draft.pending.toList = []
  · rw [cut_of_pending_eq_nil h]
  · rw [cut_of_pending_ne_nil h, idxsOf_nil_close, if_neg h, List.append_nil]

/-- **One step adds an empty word** when a closer finds nothing pending, and
never otherwise. -/
lemma idxsOf_nil_add (role : Role) (c : Char) :
    (draft.add role c).words.toList.idxsOf [] =
      draft.words.toList.idxsOf [] ++
        if role = .closer ∧ draft.pending.toList = [] then
          [draft.words.size] else [] := by
  cases role with
  | opener | dropped | text => simp [add, keep]
  | closer =>
      rw [add, idxsOf_nil_close]
      simp
  | separator =>
      rw [add, idxsOf_nil_cut]
      simp

lemma idxsOf_nil_finish :
    draft.finish.idxsOf [] = draft.words.toList.idxsOf [] :=
  idxsOf_nil_cut draft

end Draft

namespace Policy

/-- The character at `pos` closes a block while nothing is pending, so that the
word that it ends is empty. -/
def EndsEmpty (policy : Policy) (line : Text) (pos : Nat) : Prop :=
  policy.Closes line pos ∧ (policy.draftOf line line pos).pending.toList = []

instance (policy : Policy) (line : Text) (pos : Nat) :
    Decidable (policy.EndsEmpty line pos) :=
  inferInstanceAs (Decidable (_ ∧ _))

/-- The character at `pos` opens a block, the next one is the same and closes
it, and a caret in front of the pair has nothing of its word behind it. -/
structure EmptyPair (policy : Policy) (line : Text) (pos : Nat) : Prop where
  opens : policy.Opens line pos
  lt_length : pos + 1 < line.length
  twin : line.char? (pos + 1) = line.char? pos
  fresh : (policy.split line pos).caretOffset = some 0

instance (policy : Policy) (line : Text) (pos : Nat) :
    Decidable (policy.EmptyPair line pos) :=
  decidable_of_iff
    (policy.Opens line pos ∧ pos + 1 < line.length ∧
      line.char? (pos + 1) = line.char? pos ∧
      (policy.split line pos).caretOffset = some 0)
    ⟨fun ⟨hopens, hlt, htwin, hfresh⟩ => ⟨hopens, hlt, htwin, hfresh⟩,
      fun h => ⟨h.opens, h.lt_length, h.twin, h.fresh⟩⟩

lemma EmptyPair.le_length {policy : Policy} {line : Text} {pos : Nat}
    (h : policy.EmptyPair line pos) : pos ≤ line.length :=
  Nat.le_of_lt (Nat.lt_of_succ_lt h.lt_length)

/-- The positions of a line at which an empty pair stands, in order. -/
def emptyPairs (policy : Policy) (line : Text) : List Nat :=
  (List.range line.length).filter fun pos => policy.EmptyPair line pos

variable (policy : Policy) (text : Text)

/-! ### Characters that end an empty word -/

/-- The empty words behind the first characters are those ended by one of
them, and the number of each is that of the words complete before it. -/
lemma idxsOf_nil_draftOf {pos : Nat} (h : pos ≤ text.length) :
    (policy.draftOf text text pos).words.toList.idxsOf [] =
      ((List.range pos).filter fun k => policy.EndsEmpty text k).map
        fun k => (policy.draftOf text text k).words.size := by
  induction pos with
  | zero =>
      rw [draftOf_zero]
      rfl
  | succ pos ih =>
      have hpos : pos < text.length := h
      have hends : policy.EndsEmpty text pos ↔
          policy.roleAt text pos = .closer ∧
            (policy.draftOf text text pos).pending.toList = [] :=
        and_congr_left fun _ => closes_iff.trans (and_iff_right hpos)
      rw [draftOf_succ policy text hpos (List.getElem?_eq_getElem hpos),
        Draft.idxsOf_nil_add, ih (Nat.le_of_lt hpos), List.range_succ,
        List.filter_append, List.map_append, List.filter_singleton]
      by_cases hend : policy.EndsEmpty text pos
      · rw [if_pos (hends.mp hend)]
        simp [hend]
      · rw [if_neg fun h => hend (hends.mpr h)]
        simp [hend]

/-- The empty words of a line are those that its characters end. -/
lemma idxsOf_nil_words_split (position : Nat) :
    (policy.split text position).words.idxsOf [] =
      ((List.range text.length).filter fun k => policy.EndsEmpty text k).map
        fun k => (policy.draftOf text text k).words.size := by
  rw [words_split, Draft.idxsOf_nil_finish,
    idxsOf_nil_draftOf policy text (Nat.le_refl _)]

lemma count_nil_eq_length (position : Nat) :
    (policy.split text position).words.count [] =
      ((List.range text.length).filter fun k =>
        policy.EndsEmpty text k).length := by
  rw [← List.length_idxsOf, idxsOf_nil_words_split, List.length_map]

/-! ### Blocks with nothing in them -/

variable {policy text} {pos : Nat}

lemma Opens.openBefore_succ (h : policy.Opens text pos) :
    policy.openBefore text (pos + 1) = text.char? pos := by
  rw [openBefore, h.1]
  exact if_pos h.2

lemma Closes.openBefore_succ (h : policy.Closes text pos) :
    policy.openBefore text (pos + 1) = none := by
  obtain ⟨quote, hopen, hclose⟩ := h
  rw [openBefore, hopen]
  exact if_pos hclose

lemma Separates.openBefore_succ (h : policy.Separates text pos) :
    policy.openBefore text (pos + 1) = none := by
  rw [openBefore, h.1]
  exact if_neg (Bool.eq_false_iff.mp h.2.1)

lemma Opens.draftOf_succ (h : policy.Opens text pos) :
    policy.draftOf text text (pos + 1) = policy.draftOf text text pos := by
  obtain ⟨hpos, hrole⟩ := opens_iff.mp h
  rw [Policy.draftOf_succ policy text hpos (List.getElem?_eq_getElem hpos),
    hrole, Draft.add]

/-- A quote that opens a block is closed by the same quote right behind it. -/
lemma Opens.closes_succ (h : policy.Opens text pos)
    (htwin : text.char? (pos + 1) = text.char? pos) :
    policy.Closes text (pos + 1) := by
  obtain ⟨quote, hchar, -⟩ := exists_of_isActiveQuote h.2
  exact ⟨quote, h.openBefore_succ.trans hchar, htwin.trans hchar,
    h.isActiveEscape⟩

/-- Where a block is open, nothing is pending and nothing is escaped, the
character before has opened the block: text would be pending, and an escape
would have the next character escaped. -/
lemma opens_of_pending_eq_nil {quote : Char} (hpos : pos < text.length)
    (hopen : policy.openBefore text (pos + 1) = some quote)
    (hescaped : policy.isEscaped text (pos + 1) = false)
    (hpending : (policy.draftOf text text (pos + 1)).pending.toList = []) :
    policy.Opens text pos := by
  have hplays : policy.Plays text pos (policy.roleAt text pos) :=
    plays_roleAt hpos
  rw [Policy.draftOf_succ policy text hpos (List.getElem?_eq_getElem hpos)]
    at hpending
  generalize policy.roleAt text pos = role at hplays hpending
  cases role with
  | opener => exact hplays
  | closer =>
      rw [Closes.openBefore_succ hplays] at hopen
      cases hopen
  | separator =>
      rw [Separates.openBefore_succ hplays] at hopen
      cases hopen
  | dropped =>
      have hactive : policy.isEscaped text (pos + 1) = true := hplays.1
      rw [hactive] at hescaped
      cases hescaped
  | text => simp [Draft.add, Draft.keep] at hpending

/-- The caret has nothing of its word behind it where nothing is pending. -/
lemma caretOffset_split_eq_zero_iff (h : pos ≤ text.length) :
    (policy.split text pos).caretOffset = some 0 ↔
      (policy.draftOf text text pos).pending.toList = [] := by
  rw [WordList.caretOffset, caret_split_of_le policy text h, Option.map_some,
    Option.some_inj, Draft.pending_eq_nil_iff]
  rfl

/-- An empty word is ended by the second character of an empty pair, and by
no other character. -/
lemma endsEmpty_succ_iff :
    policy.EndsEmpty text (pos + 1) ↔ policy.EmptyPair text pos := by
  constructor
  · rintro ⟨⟨quote, hopen, hchar, hescaped⟩, hpending⟩
    have hlt : pos + 1 < text.length :=
      (List.getElem?_eq_some_iff.mp hchar).1
    have hopens : policy.Opens text pos :=
      opens_of_pending_eq_nil (by omega) hopen hescaped hpending
    rw [hopens.openBefore_succ] at hopen
    rw [hopens.draftOf_succ] at hpending
    exact ⟨hopens, hlt, hchar.trans hopen.symm,
      (caretOffset_split_eq_zero_iff (by omega)).mpr hpending⟩
  · intro h
    refine ⟨h.opens.closes_succ h.twin, ?_⟩
    rw [h.opens.draftOf_succ]
    exact (caretOffset_split_eq_zero_iff h.le_length).mp h.fresh

lemma not_endsEmpty_zero : ¬ policy.EndsEmpty text 0 := by
  rintro ⟨⟨quote, hopen, -⟩, -⟩
  cases hopen

lemma not_endsEmpty_length : ¬ policy.EndsEmpty text text.length := fun h =>
  Nat.lt_irrefl _ (closes_iff.mp h.1).1

/-- The characters that end an empty word stand right behind those at which an
empty pair stands. -/
lemma filter_endsEmpty :
    ((List.range text.length).filter fun k => policy.EndsEmpty text k) =
      (policy.emptyPairs text).map (· + 1) :=
  filter_range_eq_map_succ not_endsEmpty_zero not_endsEmpty_length
    fun _ => endsEmpty_succ_iff

/-- **Empty words come from empty pairs, one from each.**  There are as many
empty words as positions at which a quote opens a block, the next character is
the same quote and a caret there has nothing of its word behind it; and the
numbers of the empty words, in order, are the numbers of the words that the
caret is in at these positions. -/
theorem count_nil_words_split (policy : Policy) (line : Text)
    (position : Nat) :
    (policy.split line position).words.count [] =
      (policy.emptyPairs line).length ∧
    ((policy.split line position).words.idxsOf []).map some =
      (policy.emptyPairs line).map fun pos =>
        (policy.split line pos).caretWord := by
  constructor
  · rw [count_nil_eq_length, filter_endsEmpty, List.length_map]
  · rw [idxsOf_nil_words_split, filter_endsEmpty, List.map_map, List.map_map]
    refine List.map_congr_left fun pos hpos => ?_
    have hpair : policy.EmptyPair line pos :=
      of_decide_eq_true (List.mem_filter.mp hpos).2
    rw [WordList.caretWord, caret_split_of_le policy line hpair.le_length,
      Function.comp_apply, Function.comp_apply, hpair.opens.draftOf_succ]
    rfl

/-- The pair behind the letter makes no word, and neither do escaped quotes or
the block that is left open; of four quotes in a row each two make one. -/
example : emptyPairs {} "a\"\" \\'\\' \"\"\"\" '".toList = [9, 11] ∧
    (split {} "a\"\" \\'\\' \"\"\"\" '".toList 0).words.count [] = 2 := by
  decide

/-- **A pair makes one empty word where nothing is pending before it, and none
behind text.**  Let a quote open a block that the same quote closes at once.
Behind the two, the words wholly left of the caret hold one empty word more
than before them if nothing of its word was typed there, and as many if
something was. -/
theorem count_nil_wordsLeft_pair {line : Text} {pos : Nat}
    (h : policy.Opens line pos)
    (htwin : line.char? (pos + 1) = line.char? pos) :
    (policy.parse line (pos + 2)).wordsLeft.count [] =
      (policy.parse line pos).wordsLeft.count [] +
        if (policy.parse line pos).typedPart = some [] then 1 else 0 := by
  obtain ⟨hlt, hrole⟩ := closes_iff.mp (h.closes_succ htwin)
  have hdraft : policy.draftOf line line (pos + 2) =
      (policy.draftOf line line pos).close := by
    rw [draftOf_succ policy line hlt (List.getElem?_eq_getElem hlt), hrole,
      h.draftOf_succ, Draft.add]
  have hpos : pos ≤ line.length := by omega
  rw [wordsLeft_parse policy hlt, wordsLeft_parse policy hpos,
    typedPart_parse policy hpos, hdraft, Draft.words_close, List.count_append,
    List.count_singleton]
  simp

end Policy

end PromptLine
