/-
What stands left of the caret decides what there is to complete.

* `ParsedLine.wordsLeft`, `ParsedLine.typedPart`: the words that lie wholly
  left of the caret, and what is typed so far of the word that it stands in;
* `Separator.SettledUpTo`: the verdicts up to a position do not depend on what
  follows it, so a line may be cut there without changing them;
* `Policy.draftOf_take`: the draft at the caret is then that of the line cut
  there, and `Policy.wordsLeft_parse`, `Policy.typedPart_parse` read both
  answers off it;
* `Policy.parse_congr`, `Policy.words_parse_take`: lines that agree up to the
  caret agree in these answers, and the line cut there has no other words;
* `Policy.parse_left_of_caret`: **a line cut at the caret has the same caret,
  the words left of it, and the typed part as its last word**, so that no edit
  right of the caret changes what is to be completed.
-/
import PromptLine.ParsedLine
import PromptLine.Proofs.Growth

namespace PromptLine

namespace ParsedLine

/-- The words that lie wholly left of the caret. -/
def wordsLeft (parsed : ParsedLine) : List Text :=
  parsed.words.take (parsed.wordIndex.getD 0)

/-- What is typed so far of the word that the caret stands in: the part of it
left of the caret.  Without a caret there is nothing to complete. -/
def typedPart (parsed : ParsedLine) : Option Text :=
  parsed.wordOffset.map (parsed.word.getD []).take

end ParsedLine

namespace Separator

/-- The verdicts on the first `k` characters are the same when nothing follows
them. -/
def SettledUpTo (separator : Separator) (line : Text) (k : Nat) : Prop :=
  ∀ pos < k, separator.cuts line pos = separator.cuts (line.take k) pos

/-- A rule that looks at the character alone is settled everywhere. -/
lemma settledUpTo_ofChar (p : Char → Bool) (line : Text) (k : Nat) :
    (ofChar p).SettledUpTo line k := by
  intro pos hpos
  rw [cuts_ofChar, cuts_ofChar, Text.holdsAt, Text.holdsAt, Text.char?,
    Text.char?, List.getElem?_take_of_lt hpos]

lemma settledUpTo_take (separator : Separator) (line : Text) (k : Nat) :
    separator.SettledUpTo (line.take k) k := by
  intro pos _
  rw [List.take_take, Nat.min_self]

end Separator

namespace Policy

variable (policy : Policy) {text : Text} {k : Nat}

/-- The draft at a position is that of the line cut there. -/
lemma draftOf_take (h : policy.separator.SettledUpTo text k) :
    policy.draftOf (text.take k) (text.take k) k =
      policy.draftOf text text k := by
  rw [draftOf_eq_readOn, draftOf_eq_readOn, List.take_take, Nat.min_self]
  refine Draft.readOn_congr _ _ _ _ fun pos hpos => ?_
  exact (h pos (Nat.lt_of_lt_of_le hpos (List.length_take_le k text))).symm

lemma draftOf_congr {other : Text} (hsame : other.take k = text.take k)
    (hother : policy.separator.SettledUpTo other k)
    (htext : policy.separator.SettledUpTo text k) :
    policy.draftOf other other k = policy.draftOf text text k := by
  rw [← draftOf_take policy hother, hsame, draftOf_take policy htext]

/-! ### A caret inside the line -/

lemma wordIndex_parse (h : k ≤ text.length) :
    (policy.parse text k).wordIndex =
      some (policy.draftOf text text k).words.size := by
  have hcaret := caret_split_of_le policy text h
  exact congrArg (Option.map Caret.word) hcaret

lemma wordOffset_parse (h : k ≤ text.length) :
    (policy.parse text k).wordOffset =
      some (policy.draftOf text text k).pending.size := by
  have hcaret := caret_split_of_le policy text h
  exact congrArg (Option.map Caret.offset) hcaret

lemma word_parse (h : k ≤ text.length) :
    (policy.parse text k).word =
      (policy.parse text k).words[
        (policy.draftOf text text k).words.size]? := by
  have hindex := wordIndex_parse policy h
  rw [ParsedLine.wordIndex] at hindex
  rw [ParsedLine.word, WordList.wordAtCaret, hindex]
  rfl

lemma wordsLeft_eq_take (h : k ≤ text.length) :
    (policy.parse text k).wordsLeft =
      (policy.parse text k).words.take
        (policy.draftOf text text k).words.size := by
  rw [ParsedLine.wordsLeft, wordIndex_parse policy h, Option.getD_some]

/-- Wholly left of the caret lie the complete words. -/
lemma wordsLeft_parse (h : k ≤ text.length) :
    (policy.parse text k).wordsLeft =
      (policy.draftOf text text k).words.toList :=
  (wordsLeft_eq_take policy h).trans
    (begins_words_split policy text k h).take_words

/-- A word that has begun at the caret starts with what is pending. -/
lemma exists_word_parse (h : k ≤ text.length)
    (hpending : (policy.draftOf text text k).pending.toList ≠ []) :
    ∃ word, (policy.parse text k).word = some word ∧
      (policy.draftOf text text k).pending.size ≤ word.length ∧
      word.take (policy.draftOf text text k).pending.size =
        (policy.draftOf text text k).pending.toList := by
  obtain ⟨word, hword, hstart⟩ :=
    (begins_words_split policy text k h).pending hpending
  refine ⟨word, (word_parse policy h).trans hword, ?_⟩
  rw [← Array.length_toList]
  exact ⟨hstart.length_le, (List.prefix_iff_eq_take.mp hstart).symm⟩

/-- What is typed so far is what is pending. -/
lemma typedPart_parse (h : k ≤ text.length) :
    (policy.parse text k).typedPart =
      some (policy.draftOf text text k).pending.toList := by
  rw [ParsedLine.typedPart, wordOffset_parse policy h, Option.map_some]
  by_cases hpending : (policy.draftOf text text k).pending.toList = []
  · rw [← Array.length_toList, hpending, List.length_nil, List.take_zero]
  · obtain ⟨word, hword, -, htake⟩ := exists_word_parse policy h hpending
    rw [hword, Option.getD_some, htake]

/-! ### Cutting the line at the caret -/

/-- Lines with the same text left of the caret agree in all that is read off
the draft there. -/
lemma parse_congr {other : Text} (hother : k ≤ other.length)
    (htext : k ≤ text.length) (hsame : other.take k = text.take k)
    (hsettled : policy.separator.SettledUpTo other k)
    (hsettled' : policy.separator.SettledUpTo text k) :
    (policy.parse other k).wordIndex = (policy.parse text k).wordIndex ∧
    (policy.parse other k).wordOffset = (policy.parse text k).wordOffset ∧
    (policy.parse other k).wordsLeft = (policy.parse text k).wordsLeft ∧
    (policy.parse other k).typedPart = (policy.parse text k).typedPart := by
  have hdraft := draftOf_congr policy hsame hsettled hsettled'
  refine ⟨?_, ?_, ?_, ?_⟩
  · rw [wordIndex_parse policy hother, wordIndex_parse policy htext, hdraft]
  · rw [wordOffset_parse policy hother, wordOffset_parse policy htext, hdraft]
  · rw [wordsLeft_parse policy hother, wordsLeft_parse policy htext, hdraft]
  · rw [typedPart_parse policy hother, typedPart_parse policy htext, hdraft]

/-- The words of the line cut at the caret: those left of the caret, and what
is pending there, if there is any. -/
lemma words_parse_take (h : k ≤ text.length)
    (hsettled : policy.separator.SettledUpTo text k) :
    (policy.parse (text.take k) k).words =
      (policy.parse text k).wordsLeft ++
        if (policy.draftOf text text k).pending.toList = [] then []
        else [(policy.draftOf text text k).pending.toList] := by
  have hlength : (text.take k).length = k := List.length_take_of_le h
  rw [wordsLeft_parse policy h, ← Draft.finish_eq_append,
    ← draftOf_take policy hsettled]
  refine (words_split policy (text.take k) k).trans ?_
  rw [hlength]

/-- **What stands left of the caret decides what there is to complete.**  The
line cut at the caret has the caret at the same place `i`, `o`; its words are
the first `i` of the whole line, followed by the first `o` characters of the
word at the caret if `o` is not zero.  Hence two lines that agree up to the
caret agree in the caret, in the words left of it and in the typed part. -/
theorem parse_left_of_caret (policy : Policy) {line : Text} {k : Nat}
    (hk : k ≤ line.length) (hline : policy.separator.SettledUpTo line k) :
    (∃ i o, (policy.parse line k).wordIndex = some i ∧
      (policy.parse line k).wordOffset = some o ∧
      (policy.parse (line.take k) k).wordIndex = some i ∧
      (policy.parse (line.take k) k).wordOffset = some o ∧
      i ≤ (policy.parse line k).words.length ∧
      (o = 0 → (policy.parse (line.take k) k).words =
        (policy.parse line k).words.take i) ∧
      (0 < o → ∃ word, (policy.parse line k).word = some word ∧
        o ≤ word.length ∧
        (policy.parse (line.take k) k).words =
          (policy.parse line k).words.take i ++ [word.take o])) ∧
    ∀ other, k ≤ other.length → other.take k = line.take k →
      policy.separator.SettledUpTo other k →
      (policy.parse other k).wordIndex = (policy.parse line k).wordIndex ∧
      (policy.parse other k).wordOffset = (policy.parse line k).wordOffset ∧
      (policy.parse other k).wordsLeft = (policy.parse line k).wordsLeft ∧
      (policy.parse other k).typedPart = (policy.parse line k).typedPart := by
  refine ⟨?_, fun other hother hsame hsettled =>
    parse_congr policy hother hk hsame hsettled hline⟩
  -- the line cut at the caret is the least of the lines that agree with it
  have hcut : k ≤ (line.take k).length :=
    Nat.le_of_eq (List.length_take_of_le hk).symm
  have hsame : (line.take k).take k = line.take k := by
    rw [List.take_take, Nat.min_self]
  obtain ⟨hindex, hoffset, -, -⟩ := parse_congr policy hcut hk hsame
    (policy.separator.settledUpTo_take line k) hline
  have hwords := words_parse_take policy hk hline
  rw [wordsLeft_eq_take policy hk] at hwords
  refine ⟨_, _, wordIndex_parse policy hk, wordOffset_parse policy hk,
    hindex.trans (wordIndex_parse policy hk),
    hoffset.trans (wordOffset_parse policy hk),
    (begins_words_split policy line k hk).size_le,
    fun hzero => ?_, fun hpos => ?_⟩
  · have hnone := (Draft.pending_eq_nil_iff _).mpr hzero
    rw [hwords, if_pos hnone, List.append_nil]
  · have hpending := (Draft.pending_ne_nil_iff _).mpr hpos
    obtain ⟨word, hword, hle, htake⟩ := exists_word_parse policy hk hpending
    refine ⟨word, hword, hle, ?_⟩
    rw [hwords, if_neg hpending, htake]

/-- In a block that is closed further on, the blank left of the caret belongs
to the typed part, and stays there when the block is left open. -/
theorem parse_left_of_caret_in_block :
    6 ≤ "ab \"c d\" e".toList.length ∧
      Separator.blank.SettledUpTo "ab \"c d\" e".toList 6 ∧
      (∃ word, (parse {} "ab \"c d\" e".toList 6).word = some word ∧
        (parse {} ("ab \"c d\" e".toList.take 6) 6).words =
          (parse {} "ab \"c d\" e".toList 6).words.take 1 ++ [word.take 2]) ∧
      (parse {} "ab \"c x".toList 6).typedPart =
        (parse {} "ab \"c d\" e".toList 6).typedPart := by
  have hsettled : ∀ line, Separator.blank.SettledUpTo line 6 := fun line =>
    Separator.settledUpTo_ofChar isBlank line 6
  have hlength : 6 ≤ "ab \"c d\" e".toList.length := by decide
  obtain ⟨⟨i, o, hi, ho, -, -, -, -, hword⟩, hedit⟩ :=
    parse_left_of_caret {} hlength (hsettled _)
  have hone : i = 1 := Option.some.inj (hi.symm.trans (by decide))
  have htwo : o = 2 := Option.some.inj (ho.symm.trans (by decide))
  subst hone htwo
  obtain ⟨word, hfound, -, hwords⟩ := hword (by decide)
  exact ⟨hlength, hsettled _, ⟨word, hfound, hwords⟩,
    (hedit "ab \"c x".toList (by decide) (by decide) (hsettled _)).2.2.2⟩

end Policy

end PromptLine
