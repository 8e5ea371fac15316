/-
What one more character makes of the words of a line.

* `Policy.Silent`: a character that opens a block, escapes the next one or
  separates words.  It stands in no word itself, and a word that it ends would
  end with the line all the same (`Policy.silent_iff`,
  `Draft.finish_add_of_silent`);
* `Policy.draftOf_concat`: the draft behind the character is that of the line,
  with the character taken in;
* `Policy.words_split_typed`: **a silent character leaves the words as they
  are, a closing quote adds at most an empty word, and every other character
  goes to the end of the last word or begins a new one**.
-/
import PromptLine.Proofs.Resumption

namespace PromptLine

lemma Separator.Settled.settledUpTo {separator : Separator} {a b : Text}
    (h : separator.Settled a b) : separator.SettledUpTo (a ++ b) a.length := by
  intro pos hpos
  rw [h pos hpos, List.take_left]

namespace Draft

variable {α : Type} (draft : Draft α)

/-! ### The words behind one more item -/

/-- Only a closer and text make a difference in the end. -/
lemma finish_add_of_silent {role : Role} (hcloser : role ≠ .closer)
    (htext : role ≠ .text) (item : α) :
    (draft.add role item).finish = draft.finish := by
  cases role with
  | opener | dropped => rfl
  | closer => exact absurd rfl hcloser
  | separator => exact finish_cut draft
  | text => exact absurd rfl htext

/-- Where a word has begun a closer completes it, as the end of the line
would. -/
lemma finish_close_of_pending_ne_nil (h : draft.pending.toList ≠ []) :
    draft.close.finish = draft.finish := by
  rw [finish_close, finish_eq_append, if_neg h]

/-- Where no word has begun a closer makes an empty word. -/
lemma finish_close_of_pending_eq_nil (h : draft.pending.toList = []) :
    draft.close.finish = draft.finish ++ [[]] := by
  rw [finish_close, finish_eq_append, if_pos h, h, List.append_nil]

lemma finish_keep (item : α) :
    (draft.keep item).finish =
      draft.words.toList ++ [draft.pending.toList ++ [item]] := by
  have hpending : (draft.keep item).pending.toList =
      draft.pending.toList ++ [item] := by simp [keep]
  rw [finish_eq_append, hpending, if_neg (List.concat_ne_nil _ _)]
  rfl

lemma finish_keep_of_pending_eq_nil (h : draft.pending.toList = [])
    (item : α) : (draft.keep item).finish = draft.finish ++ [[item]] := by
  rw [finish_keep, finish_eq_append, if_pos h, h, List.append_nil,
    List.nil_append]

/-- Where a word has begun it is the last, and text goes to its end. -/
lemma exists_finish_keep (h : draft.pending.toList ≠ []) (item : α) :
    ∃ done word, draft.finish = done ++ [word] ∧
      done.length = draft.words.size ∧ word.length = draft.pending.size ∧
      (draft.keep item).finish = done ++ [word ++ [item]] := by
  refine ⟨draft.words.toList, draft.pending.toList, ?_, Array.length_toList,
    Array.length_toList, draft.finish_keep item⟩
  rw [finish_eq_append, if_neg h]

end Draft

namespace Policy

variable {policy : Policy} {text : Text} {pos : Nat}

/-! ### Silent characters -/

/-- The character stands in no word, and ends none that would not end with the
line. -/
def Silent (policy : Policy) (line : Text) (pos : Nat) : Prop :=
  policy.Opens line pos ∨ policy.isActiveEscape line pos = true ∨
    policy.Separates line pos

/-- A character is silent when it neither closes a block nor is text. -/
lemma silent_iff (h : pos < text.length) :
    policy.Silent text pos ↔
      policy.roleAt text pos ≠ .closer ∧ policy.roleAt text pos ≠ .text := by
  have hplays : policy.Plays text pos (policy.roleAt text pos) :=
    plays_roleAt h
  constructor
  · have hrole : ∀ {role}, policy.Plays text pos role → role ≠ .closer →
        role ≠ .text → policy.roleAt text pos ≠ .closer ∧
          policy.roleAt text pos ≠ .text := by
      intro role hrole hcloser htext
      rw [roleAt_of_plays h hrole]
      exact ⟨hcloser, htext⟩
    rintro (hopens | hescape | hseparates)
    · exact @hrole .opener hopens (by simp) (by simp)
    · by_cases hseparates : policy.Separates text pos
      · exact @hrole .separator hseparates (by simp) (by simp)
      · exact @hrole .dropped ⟨hescape, hseparates⟩ (by simp) (by simp)
    · exact @hrole .separator hseparates (by simp) (by simp)
  · rintro ⟨hcloser, htext⟩
    generalize policy.roleAt text pos = found at hplays hcloser htext
    cases found with
    | opener => exact .inl hplays
    | closer => exact absurd rfl hcloser
    | separator => exact .inr (.inr hplays)
    | dropped => exact .inr (.inl hplays.1)
    | text => exact absurd rfl htext

lemma roleAt_eq_text (h : pos < text.length)
    (hsilent : ¬ policy.Silent text pos) (hcloses : ¬ policy.Closes text pos) :
    policy.roleAt text pos = .text := by
  by_contra htext
  refine hsilent ((silent_iff h).mpr ⟨fun hcloser => hcloses ?_, htext⟩)
  have hplays : policy.Plays text pos .closer := plays_iff.mpr ⟨h, hcloser⟩
  exact hplays

/-! ### One more character -/

variable (policy) {line : Text} {c : Char}

/-- The draft behind a line and one more character takes the character in, in
the role that it plays in the longer line. -/
lemma draftOf_concat (h : policy.separator.Settled line [c]) :
    policy.draftOf (line ++ [c]) (line ++ [c]) (line ++ [c]).length =
      (policy.draftOf line line line.length).add
        (policy.roleAt (line ++ [c]) line.length) c := by
  have hlength : (line ++ [c]).length = line.length + 1 :=
    List.length_append
  have hbefore := draftOf_take policy h.settledUpTo
  rw [List.take_left] at hbefore
  rw [hlength, draftOf_succ policy _ (by omega) List.getElem?_concat_length,
    hbefore]

/-- **One more character changes the words in one of three ways.**  Say that
the caret behind the line is in word number `i`, behind `o` characters of it.
A silent character leaves the words as they are, and so does a closing quote
unless `o` is zero; then it adds an empty word.  Any other character is put at
the end of word number `i`, which is the last, or makes a new word of its own
if `o` is zero. -/
theorem words_split_typed (policy : Policy) {line : Text} {c : Char}
    (h : policy.separator.Settled line [c]) :
    ∃ i o, (policy.split line line.length).caret = some ⟨i, o⟩ ∧
      ∀ position,
        (policy.Silent (line ++ [c]) line.length ∨
            (policy.Closes (line ++ [c]) line.length ∧ 0 < o) →
          (policy.split (line ++ [c]) position).words =
            (policy.split line position).words) ∧
        (policy.Closes (line ++ [c]) line.length ∧ o = 0 →
          (policy.split (line ++ [c]) position).words =
            (policy.split line position).words ++ [[]]) ∧
        (¬ policy.Silent (line ++ [c]) line.length →
          ¬ policy.Closes (line ++ [c]) line.length →
          (o = 0 → (policy.split (line ++ [c]) position).words =
            (policy.split line position).words ++ [[c]]) ∧
          (0 < o → ∃ done word,
            (policy.split line position).words = done ++ [word] ∧
            done.length = i ∧ word.length = o ∧
            (policy.split (line ++ [c]) position).words =
              done ++ [word ++ [c]])) := by
  have hpos : line.length < (line ++ [c]).length := by simp
  have hcloser : policy.Closes (line ++ [c]) line.length →
      policy.roleAt (line ++ [c]) line.length = .closer :=
    fun hcloses => roleAt_of_plays hpos hcloses
  refine ⟨_, _, caret_split_of_le policy line (Nat.le_refl _),
    fun position => ?_⟩
  rw [words_split policy (line ++ [c]), words_split policy line,
    draftOf_concat policy h]
  generalize policy.draftOf line line line.length = draft
  have hnone : draft.pending.size = 0 → draft.pending.toList = [] :=
    draft.pending_eq_nil_iff.mpr
  have hsome : 0 < draft.pending.size → draft.pending.toList ≠ [] :=
    draft.pending_ne_nil_iff.mpr
  refine ⟨?_, ?_, fun hsilent hcloses => ?_⟩
  · rintro (hsilent | ⟨hcloses, ho⟩)
    · obtain ⟨hnot, htext⟩ := (silent_iff hpos).mp hsilent
      exact draft.finish_add_of_silent hnot htext c
    · rw [hcloser hcloses]
      exact draft.finish_close_of_pending_ne_nil (hsome ho)
  · rintro ⟨hcloses, ho⟩
    rw [hcloser hcloses]
    exact draft.finish_close_of_pending_eq_nil (hnone ho)
  · rw [roleAt_eq_text hpos hsilent hcloses]
    exact ⟨fun ho => draft.finish_keep_of_pending_eq_nil (hnone ho) c,
      fun ho => draft.exists_finish_keep (hsome ho) c⟩

/-- The quote that closes an empty block adds an empty word. -/
theorem words_split_typed_empty_block :
    Separator.blank.Settled "a \"".toList ['"'] ∧
      (split {} "a \"".toList 3).caret = some ⟨1, 0⟩ ∧
      Closes {} ("a \"".toList ++ ['"']) 3 ∧
      ∀ position, (split {} ("a \"".toList ++ ['"']) position).words =
        (split {} "a \"".toList position).words ++ [[]] := by
  have hsettled : Separator.blank.Settled "a \"".toList ['"'] :=
    Separator.settled_ofChar isBlank _ _
  have hcaret : (split {} "a \"".toList 3).caret = some ⟨1, 0⟩ := by decide
  have hcloses : Plays {} ("a \"".toList ++ ['"']) 3 .closer := by decide
  obtain ⟨i, o, hio, htyped⟩ := words_split_typed {} hsettled
  have ho : o = 0 := by
    have heq := Option.some.inj (hio.symm.trans hcaret)
    exact congrArg Caret.offset heq
  exact ⟨hsettled, hcaret, hcloses,
    fun position => (htyped position).2.1 ⟨hcloses, ho⟩⟩

end Policy

end PromptLine
