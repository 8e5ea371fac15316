/-
What the position of the caret changes in a split, which is the caret alone.

* `WordList.caretWord_eq_none_iff`, `WordList.caretOffset_eq_none_iff`,
  `WordList.wordAtCaret_eq_none`: without a caret there is no word and no offset
  to tell, and no word stands at it;
* `Policy.caret_split_eq_none_iff`: the caret is missing past the end of the
  line and nowhere else;
* `Policy.split_caret_free`: **the words and the quote reported open are the
  same for all positions of the caret; it is found at each position up to the
  end of the line and is never moved there from beyond**.
-/
import PromptLine.ParsedLine
import PromptLine.Proofs.Progress

namespace PromptLine

namespace WordList

variable {list : WordList}

/-! ### Without a caret -/

lemma caretWord_eq_none_iff : list.caretWord = none ↔ list.caret = none :=
  Option.map_eq_none_iff

lemma caretOffset_eq_none_iff : list.caretOffset = none ↔ list.caret = none :=
  Option.map_eq_none_iff

lemma wordAtCaret_eq_none (h : list.caret = none) :
    list.wordAtCaret = none := by
  rw [wordAtCaret, caretWord_eq_none_iff.mpr h, Option.bind_none]

end WordList

namespace Policy

variable (policy : Policy) (text : Text)

/-- The caret is missing past the end of the line and nowhere else. -/
lemma caret_split_eq_none_iff (position : Nat) :
    (policy.split text position).caret = none ↔ text.length < position := by
  rw [caret_split, ite_eq_right_iff, ← Nat.not_le]
  exact forall_congr' fun _ => iff_of_false (Option.some_ne_none _) id

/-- **The position of the caret decides nothing but the caret.**  For any two
positions the words are the same, in the split and in the parsed line, and so
is the quote that is reported open.  There is a caret exactly when its position
lies in the line or at its end; past the end its word and its offset are
missing, and no word stands at it.  The position itself is handed on as it was
asked for. -/
theorem split_caret_free (policy : Policy) (line : Text) :
    (∀ first second,
      (policy.split line first).words = (policy.split line second).words ∧
      (policy.parse line first).words = (policy.parse line second).words ∧
      (policy.scan line first).events.map Event.quoteLeftOpen =
        (policy.scan line second).events.map Event.quoteLeftOpen) ∧
    (∀ position,
      ((policy.split line position).caret.isSome = true ↔
        position ≤ line.length) ∧
      ((policy.split line position).caretWord = none ↔
        line.length < position) ∧
      ((policy.split line position).caretOffset = none ↔
        line.length < position) ∧
      (line.length < position →
        (policy.split line position).wordAtCaret = none) ∧
      (policy.split line position).position = position) ∧
    ∀ position,
      ((policy.parse line position).wordIndex = none ↔
        line.length < position) ∧
      ((policy.parse line position).wordOffset = none ↔
        line.length < position) ∧
      (policy.parse line position).position = position := by
  have hwords : ∀ first second, (policy.split line first).words =
      (policy.split line second).words := fun first second => by
    rw [words_split, words_split]
  have hword : ∀ position, (policy.split line position).caretWord = none ↔
      line.length < position := fun position =>
    WordList.caretWord_eq_none_iff.trans
      (caret_split_eq_none_iff policy line position)
  have hoffset : ∀ position, (policy.split line position).caretOffset = none ↔
      line.length < position := fun position =>
    WordList.caretOffset_eq_none_iff.trans
      (caret_split_eq_none_iff policy line position)
  refine ⟨fun first second =>
    ⟨hwords first second, hwords first second, ?_⟩, fun position =>
    ⟨?_, hword position, hoffset position, fun hbeyond => ?_, rfl⟩,
    fun position => ⟨hword position, hoffset position, rfl⟩⟩
  · rw [quoteLeftOpen_scan, quoteLeftOpen_scan]
  · rw [← Option.ne_none_iff_isSome, ne_eq, caret_split_eq_none_iff,
      Nat.not_lt]
  · exact WordList.wordAtCaret_eq_none
      ((caret_split_eq_none_iff policy line position).mpr hbeyond)

/-- Far beyond the end there is no caret, and the words are those found with the
caret at the end, where there is one. -/
theorem split_caret_free_beyond :
    "a 'b".toList.length < 18446744073709551615 ∧
      (split {} "a 'b".toList 18446744073709551615).wordAtCaret = none ∧
      (split {} "a 'b".toList 18446744073709551615).words =
        [['a'], ['b']] ∧
      (split {} "a 'b".toList 4).caret.isSome = true := by
  have hbeyond : "a 'b".toList.length < 18446744073709551615 := by decide
  obtain ⟨hsame, hcaret, -⟩ := split_caret_free {} "a 'b".toList
  obtain ⟨-, -, -, hnone, -⟩ := hcaret 18446744073709551615
  exact ⟨hbeyond, hnone hbeyond,
    (hsame 18446744073709551615 0).1.trans (by decide),
    (hcaret 4).1.mpr (by decide)⟩

end Policy

end PromptLine
