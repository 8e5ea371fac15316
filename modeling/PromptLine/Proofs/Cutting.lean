/-
The words of a line in which nothing quotes.

* `Policy.cutWords`: the line cut at its separators, the pieces without their
  escapes, less the pieces in which nothing is left;
* `Draft.finish_addAll_unquoted`: taking in the characters one by one makes
  these words, in front of which the pending word goes on;
* `Text.runsOutside`: the maximal runs of characters outside a class; cutting
  at the class and dropping the empty pieces gives these runs
  (`Text.piecesBetween_eq_runsOutside`);
* `Policy.words_split_unquoted`: **a line without active quotes splits into
  the words cut so, none of them empty; without quotes and escapes they are
  its maximal runs of characters that are not blank**.
-/
import Mathlib.Data.List.SplitBy
import PromptLine.Proofs.Spacing
import PromptLine.Proofs.Stripping

namespace PromptLine

namespace Policy

/-- The line cut at its separators, each piece without its escapes, less the
pieces in which nothing is left. -/
def cutWords (policy : Policy) (line : Text) : List Text :=
  ((line.zipIdx.splitOnP fun place => policy.isSeparator line place.2).map
    (policy.kept line)).filter (· ≠ [])

/-- The role of a character where nothing quotes. -/
def unquotedRoleAt (policy : Policy) (line : Text) (pos : Nat) : Role :=
  if policy.isSeparator line pos then .separator
  else policy.plainRoleAt line pos

variable {policy : Policy} {text : Text}

/-- Without active quotes no block is ever open. -/
lemma openBefore_eq_none (h : ∀ pos, policy.isActiveQuote text pos = false)
    (pos : Nat) : policy.openBefore text pos = none := by
  induction pos with
  | zero => rfl
  | succ pos ih =>
      rw [openBefore, ih]
      exact if_neg (Bool.eq_false_iff.mp (h pos))

lemma roleAt_eq_unquotedRoleAt
    (h : ∀ pos, policy.isActiveQuote text pos = false) (pos : Nat) :
    policy.roleAt text pos = policy.unquotedRoleAt text pos := by
  rw [roleAt, openBefore_eq_none h]
  exact if_neg (Bool.eq_false_iff.mp (h pos))

end Policy

/-! ### Cutting character by character -/

/-- Taking in characters where nothing quotes: the pending word goes on in the
first piece, and a piece in which nothing is left makes no word. -/
lemma Draft.finish_addAll_unquoted (policy : Policy) (text : Text)
    (draft : Draft Char) (places : List (Char × Nat)) :
    (draft.addAll (places.map fun place =>
        (policy.unquotedRoleAt text place.2, place.1))).finish =
      draft.words.toList ++
        (((places.splitOnP fun place =>
            policy.isSeparator text place.2).map (policy.kept text)).modifyHead
          (draft.pending.toList ++ ·)).filter (· ≠ []) := by
  induction places generalizing draft with
  | nil =>
      rw [List.map_nil, addAll_nil, finish_eq_append]
      by_cases h : draft.pending.toList = [] <;> simp [h]
  | cons place places ih =>
      rw [List.map_cons, addAll_cons, ih,
        List.splitOnP_cons_eq_if_modifyHead, Policy.unquotedRoleAt]
      obtain ⟨piece, pieces, hcut⟩ := List.exists_cons_of_ne_nil
        (List.splitOnP_ne_nil
          (fun place => policy.isSeparator text place.2) places)
      rw [hcut]
      by_cases hsep : policy.isSeparator text place.2 = true
      · -- what was pending ends here, and the next piece begins anew
        have hwords : draft.cut.words.toList = draft.finish := rfl
        rw [if_pos hsep, if_pos hsep, add, hwords, finish_eq_append,
          pending_cut]
        by_cases h : draft.pending.toList = [] <;> simp [h]
      · rw [if_neg hsep, if_neg hsep, Policy.plainRoleAt]
        cases hactive : policy.isActiveEscape text place.2 with
        | true =>
            rw [if_pos rfl, add, List.modifyHead_cons, List.map_cons,
              List.map_cons, policy.kept_cons_of_active piece hactive]
        | false =>
            rw [if_neg Bool.false_ne_true, add, List.modifyHead_cons,
              List.map_cons, List.map_cons,
              policy.kept_cons_of_inert piece hactive]
            simp [keep]

namespace Text

/-! ### Maximal runs -/

variable {p : Char → Bool}

/-- The maximal runs of characters of the text that are outside the class
`p`. -/
def runsOutside (text : Text) (p : Char → Bool) : List Text :=
  (text.splitBy fun a b => p a == p b).filter fun run =>
    run.all fun c => !p c

/-- The pieces of the text between the characters of the class `p`, less the
empty ones. -/
def piecesBetween (text : Text) (p : Char → Bool) : List Text :=
  (text.splitOnP p).filter (· ≠ [])

lemma piecesBetween_append_gap {gap : Text} (h : ∀ c ∈ gap, p c = true)
    (rest : Text) :
    Text.piecesBetween (gap ++ rest) p = rest.piecesBetween p := by
  induction gap with
  | nil => rfl
  | cons c gap ih =>
      obtain ⟨hc, hgap⟩ := List.forall_mem_cons.mp h
      rw [← ih hgap, List.cons_append, piecesBetween,
        List.splitOnP_cons_eq_if_modifyHead, if_pos hc]
      rfl

lemma piecesBetween_append_word {word : Text} (hne : word ≠ [])
    (h : ∀ c ∈ word, p c = false) {rest : Text}
    (hrest : ∀ c ∈ rest.head?, p c = true) :
    Text.piecesBetween (word ++ rest) p = word :: rest.piecesBetween p := by
  cases rest with
  | nil =>
      rw [List.append_nil, piecesBetween, List.splitOnP_eq_singleton h]
      simp [hne, piecesBetween]
  | cons c rest =>
      have hc : p c = true := hrest c rfl
      have hgap : Text.piecesBetween (c :: rest) p =
          Text.piecesBetween rest p :=
        piecesBetween_append_gap (List.forall_mem_singleton.mpr hc) rest
      rw [hgap, piecesBetween, List.splitOnP_append_cons _ _ hc,
        List.splitOnP_eq_singleton h, List.filter_append]
      simp [hne, piecesBetween]

/-- In a run every character is in the class, or none is. -/
lemma mem_run_eq {c : Char} {tail : Text}
    (h : (c :: tail).IsChain fun a b => p a == p b) :
    ∀ d ∈ c :: tail, p d = p c := by
  induction tail generalizing c with
  | nil =>
      intro d hd
      rw [List.mem_singleton.mp hd]
  | cons next tail ih =>
      obtain ⟨hnext, htail⟩ := List.isChain_cons_cons.mp h
      intro d hd
      rcases List.mem_cons.mp hd with rfl | hd
      · rfl
      · exact (ih htail d hd).trans (eq_of_beq hnext).symm

/-- Where runs in the class and runs outside it follow each other by turns, the
pieces are the runs outside. -/
lemma piecesBetween_flatten {runs : List Text} (hne : [] ∉ runs)
    (hrun : ∀ run ∈ runs, run.IsChain fun a b => p a == p b)
    (hturn : runs.IsChain fun u v =>
      ∃ hu hv, (p (u.getLast hu) == p (v.head hv)) = false) :
    Text.piecesBetween runs.flatten p =
      runs.filter fun run => run.all fun c => !p c := by
  induction runs with
  | nil => rfl
  | cons run runs ih =>
      obtain ⟨hrun', hruns⟩ := List.forall_mem_cons.mp hrun
      obtain ⟨hnext, hturns⟩ := List.isChain_cons.mp hturn
      have hrest := ih (fun hmem => hne (List.mem_cons_of_mem _ hmem)) hruns
        hturns
      cases run with
      | nil => exact absurd List.mem_cons_self hne
      | cons c tail =>
          have hclass := mem_run_eq hrun'
          rw [List.flatten_cons]
          by_cases hc : p c = true
          · rw [piecesBetween_append_gap fun d hd => (hclass d hd).trans hc,
              hrest]
            simp [hc]
          · have hout : ∀ d ∈ c :: tail, p d = false := fun d hd =>
              (hclass d hd).trans (Bool.eq_false_iff.mpr hc)
            -- the next run begins with a character of the class
            have hhead : ∀ d ∈ runs.flatten.head?, p d = true := by
              cases runs with
              | nil => simp
              | cons next more =>
                  obtain ⟨hlast, hfirst, hdiffer⟩ := hnext next rfl
                  obtain ⟨d, rest, rfl⟩ := List.exists_cons_of_ne_nil hfirst
                  rw [hout _ (List.getLast_mem hlast)] at hdiffer
                  simpa using hdiffer
            rw [piecesBetween_append_word (List.cons_ne_nil _ _) hout hhead,
              hrest, List.filter_cons_of_pos (by simpa using hout)]

/-- Cutting a text at the characters of a class gives its maximal runs of
characters outside the class. -/
lemma piecesBetween_eq_runsOutside (text : Text) (p : Char → Bool) :
    text.piecesBetween p = text.runsOutside p := by
  obtain ⟨hflatten, hne, hrun, hturn⟩ :=
    (List.splitBy_eq_iff (m := text) (r := fun a b => p a == p b)).mp rfl
  calc text.piecesBetween p
      = Text.piecesBetween (text.splitBy fun a b => p a == p b).flatten p := by
        rw [← hflatten]
    _ = text.runsOutside p := piecesBetween_flatten hne hrun hturn

end Text

namespace Policy

variable {policy : Policy} {text : Text}

/-! ### Lines without quotes -/

/-- Without active quotes the words are those cut at the separators. -/
lemma words_split_eq_cutWords
    (h : ∀ pos, policy.isActiveQuote text pos = false) (position : Nat) :
    (policy.split text position).words = policy.cutWords text := by
  have hroles : (fun place : Char × Nat =>
        (policy.roleAt text place.2, place.1)) =
      fun place => (policy.unquotedRoleAt text place.2, place.1) :=
    funext fun place => by rw [roleAt_eq_unquotedRoleAt h]
  have hnothing : (fun piece : Text =>
      (Draft.pending {}).toList ++ piece) = id := funext List.nil_append
  rw [words_split, draftOf_length_eq_addAll_map, hroles,
    Draft.finish_addAll_unquoted, hnothing, List.modifyHead_id]
  rfl

lemma nil_notMem_cutWords : [] ∉ policy.cutWords text := by
  simp [cutWords]

lemma isActiveQuote_eq_false_of_forall
    (h : ∀ c ∈ text, policy.config.isQuote c = false) (pos : Nat) :
    policy.isActiveQuote text pos = false := by
  rw [isActiveQuote, Text.holdsAt_eq_false h, Bool.false_and]

lemma isActiveEscape_eq_false_of_forall
    (h : ∀ c ∈ text, policy.config.isEscape c = false) (pos : Nat) :
    policy.isActiveEscape text pos = false := by
  rw [isActiveEscape, Escape.isActive_eq]
  exact (congrArg (· && _) (Text.holdsAt_eq_false h pos)).trans
    (Bool.false_and _)

lemma isEscaped_eq_false_of_forall
    (h : ∀ c ∈ text, policy.config.isEscape c = false) (pos : Nat) :
    policy.isEscaped text pos = false := by
  cases pos with
  | zero => rfl
  | succ pos => exact isActiveEscape_eq_false_of_forall h pos

/-- Where no character quotes or escapes the line is cut at the characters of
the class that separates. -/
lemma cutWords_eq_piecesBetween {p : Char → Bool}
    (hp : policy.separator.LooksAt p)
    (hescape : ∀ c ∈ text, policy.config.isEscape c = false) :
    policy.cutWords text = text.piecesBetween p := by
  have hkept : policy.kept text = List.map Prod.fst := by
    funext places
    simp [kept, isActiveEscape_eq_false_of_forall hescape]
  have hcut : ∀ place ∈ text.zipIdx,
      policy.isSeparator text place.2 = p place.1 := by
    intro place hplace
    have hchar : text.char? place.2 = some place.1 :=
      List.mem_zipIdx_iff_getElem?.mp hplace
    obtain ⟨hlt, -⟩ := List.getElem?_eq_some_iff.mp hchar
    rw [isSeparator_of_lt hlt, isEscaped_eq_false_of_forall hescape,
      Bool.not_false, Bool.true_and, hp text _ _ hchar]
  rw [cutWords, hkept, splitOnP_congr hcut, ← splitOnP_map,
    List.zipIdx_map_fst]
  rfl

/-- **A line in which no quote is active splits into the pieces between its
separators**, each without its escapes; a piece in which nothing is left is
dropped, so that no word is empty.  Where there are no quotes and no escapes at
all, splitting at blanks gives the maximal runs of characters that are not
blank. -/
theorem words_split_unquoted (policy : Policy) (line : Text)
    (position : Nat) :
    ((∀ pos, policy.isActiveQuote line pos = false) →
      (policy.split line position).words = policy.cutWords line ∧
      [] ∉ (policy.split line position).words) ∧
    (policy.separator = .blank →
      (∀ c ∈ line, policy.config.isQuote c = false ∧
        policy.config.isEscape c = false) →
      (policy.split line position).words = line.runsOutside isBlank) := by
  constructor
  · intro hquote
    rw [words_split_eq_cutWords hquote]
    exact ⟨rfl, nil_notMem_cutWords⟩
  · intro hblank hplain
    have hlooks : policy.separator.LooksAt isBlank := by
      rw [hblank]
      exact Separator.looksAt_ofChar isBlank
    rw [words_split_eq_cutWords (isActiveQuote_eq_false_of_forall
        fun c hc => (hplain c hc).1),
      cutWords_eq_piecesBetween hlooks fun c hc => (hplain c hc).2,
      Text.piecesBetween_eq_runsOutside]

/-- An escaped quote opens no block and an escaped blank does not separate; of
the last piece only an escape that has done its work is left, so it is no
word. -/
theorem words_split_unquoted_escapes :
    (∀ pos, isActiveQuote {} "\\\"a  b\\ c \\".toList pos = false) ∧
      (∀ position, (split {} "\\\"a  b\\ c \\".toList position).words =
        ["\"a".toList, "b c".toList]) ∧
      (∀ c ∈ "  ab\tc ".toList, Config.standard.isQuote c = false ∧
        Config.standard.isEscape c = false) ∧
      ∀ position, (split {} "  ab\tc ".toList position).words =
        ["ab".toList, ['c']] := by
  have hquote : ∀ pos,
      isActiveQuote {} "\\\"a  b\\ c \\".toList pos = false := by
    intro pos
    by_cases h : pos < 11
    · exact (by decide : ∀ pos < 11,
        isActiveQuote {} "\\\"a  b\\ c \\".toList pos = false) pos h
    · rw [isActiveQuote, Text.holdsAt_of_length_le _ (Nat.le_of_not_lt h),
        Bool.false_and]
  have hplain : ∀ c ∈ "  ab\tc ".toList, Config.standard.isQuote c = false ∧
      Config.standard.isEscape c = false := by
    simp [Config.isQuote, Config.isEscape, Config.standard]
  refine ⟨hquote, fun position => ?_, hplain, fun position => ?_⟩
  · exact ((words_split_unquoted {} _ position).1 hquote).1.trans (by decide)
  · exact ((words_split_unquoted {} _ position).2 rfl hplain).trans
      (by decide)

/-- Between brackets a blank does not cut the line, where the rule shields it. -/
example :
    (split { separator := .bracketed } "a [b c] d".toList 0).words =
        [['a'], "[b c]".toList, ['d']] ∧
      (split {} "a [b c] d".toList 0).words =
        [['a'], "[b".toList, "c]".toList, ['d']] := by
  decide

end Policy

end PromptLine
