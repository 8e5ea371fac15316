/-
Splitting a line that goes on where another ended.

* `Policy.completedWords`, `Policy.pendingText`: what a split says of the end
  of a line: the words that a caret there has wholly behind it, and the part
  of its own word behind it;
* `Policy.SameEnd`: two lines end alike when they leave the same pending text
  and the same quote open, and both or neither escape what comes next;
* `Separator.Settled`, `Separator.AlikeBehind`: what is typed on does not
  change the verdicts so far, and is judged alike behind both lines;
* `Policy.draftOf_append`: the draft behind a line that was typed on is found
  from the end of the line, with the words completed there in front;
* `Policy.split_append`: **what is typed on is split alike behind lines that
  end alike**, and behind a line that leaves nothing open it is split on its
  own.
-/
import PromptLine.Proofs.Completion

namespace PromptLine

namespace Separator

/-- Typing `b` behind `a` does not change the verdicts on `a`. -/
def Settled (separator : Separator) (a b : Text) : Prop :=
  ∀ pos < a.length, separator.cuts (a ++ b) pos = separator.cuts a pos

/-- The verdicts on `b` are the same behind `a` and behind `a'`. -/
def AlikeBehind (separator : Separator) (a a' b : Text) : Prop :=
  ∀ k < b.length, separator.cuts (a ++ b) (a.length + k) =
    separator.cuts (a' ++ b) (a'.length + k)

lemma settled_ofChar (p : Char → Bool) (a b : Text) :
    (ofChar p).Settled a b :=
  fun _ h => cuts_ofChar_append_left p b h

lemma alikeBehind_ofChar (p : Char → Bool) (a a' b : Text) :
    (ofChar p).AlikeBehind a a' b := by
  intro k _
  rw [cuts_ofChar_append_right, cuts_ofChar_append_right]

end Separator

namespace Policy

/-! ### The end of a line -/

/-- The words that lie wholly behind a caret at the end of the line. -/
def completedWords (policy : Policy) (line : Text) : List Text :=
  let list := policy.split line line.length
  list.words.take (list.caretWord.getD 0)

/-- The part behind a caret at the end of the line of the word it is in. -/
def pendingText (policy : Policy) (line : Text) : Text :=
  let list := policy.split line line.length
  (list.wordAtCaret.getD []).take (list.caretOffset.getD 0)

/-- Two lines end alike: the same text is pending, the same quote is reported
open, and what comes next is escaped in both or in neither. -/
structure SameEnd (policy : Policy) (a a' : Text) : Prop where
  pending : policy.pendingText a = policy.pendingText a'
  openQuote : policy.reportedQuote a = policy.reportedQuote a'
  escaped : policy.isEscaped a a.length = policy.isEscaped a' a'.length

variable (policy : Policy)

lemma completedWords_eq (a : Text) :
    policy.completedWords a =
      (policy.draftOf a a a.length).words.toList :=
  wordsLeft_parse policy (Nat.le_refl a.length)

lemma pendingText_eq (a : Text) :
    policy.pendingText a =
      (policy.draftOf a a a.length).pending.toList := by
  calc policy.pendingText a
      = ((policy.parse a a.length).word.getD []).take
          ((policy.parse a a.length).wordOffset.getD 0) := rfl
    _ = (policy.parse a a.length).typedPart.getD [] := by
        rw [ParsedLine.typedPart, wordOffset_parse policy (Nat.le_refl _)]
        rfl
    _ = (policy.draftOf a a a.length).pending.toList := by
        rw [typedPart_parse policy (Nat.le_refl _), Option.getD_some]

/-- The draft behind a line is what its split says of its end. -/
lemma draftOf_length (a : Text) :
    policy.draftOf a a a.length =
      Draft.onto { pending := (policy.pendingText a).toArray }
        (policy.completedWords a) := by
  rw [completedWords_eq, pendingText_eq, Array.toArray_toList]
  exact (Draft.pending_onto_words _).symm

/-- The reading behind a line is what its split reports and the query at its
end. -/
lemma after_eq (a : Text) :
    Reading.after {} policy.config a =
      { openQuote := policy.reportedQuote a
        parity := ⟨policy.isEscaped a a.length⟩ } := by
  have hparity : (Reading.after {} policy.config a).parity =
      ⟨policy.isEscaped a a.length⟩ := by
    rw [← parity_after_take none (Nat.le_refl a.length), List.take_length]
  rw [reportedQuote_eq, ← hparity]

/-- Behind a character that ends a word nothing is pending. -/
lemma pendingText_of_ends {a : Text} {pos : Nat} (h : a.length = pos + 1)
    (hends : policy.Closes a pos ∨ policy.Separates a pos) :
    policy.pendingText a = [] := by
  have hpos : pos < a.length := by omega
  rw [pendingText_eq, h,
    draftOf_succ policy a hpos (List.getElem?_eq_getElem hpos)]
  rcases hends with hclose | hsep
  · have hrole : policy.roleAt a pos = .closer :=
      roleAt_of_plays hpos hclose
    rw [hrole, Draft.add, Draft.pending_close]
  · have hrole : policy.roleAt a pos = .separator :=
      roleAt_of_plays hpos hsep
    rw [hrole, Draft.add, Draft.pending_cut]

/-! ### Typing on -/

/-- The draft of what is typed on behind `a`, up to its first `k`
characters, on top of the text that is pending there. -/
def resumed (policy : Policy) (a b : Text) (k : Nat) : Draft Char :=
  Draft.readOn { pending := (policy.pendingText a).toArray } policy.config
    { openQuote := policy.reportedQuote a
      parity := ⟨policy.isEscaped a a.length⟩ }
    (fun k => policy.separator.cuts (a ++ b) (a.length + k)) (b.take k)

/-- The draft behind a line that was typed on, found from the end of the
line. -/
lemma draftOf_append {a b : Text} (h : policy.separator.Settled a b)
    (k : Nat) :
    policy.draftOf (a ++ b) (a ++ b) (a.length + k) =
      (policy.resumed a b k).onto (policy.completedWords a) := by
  have htake : (a ++ b).take (a.length + k) = a ++ b.take k :=
    List.take_length_add_append k
  have hfirst : Draft.readOn {} policy.config {}
      (policy.separator.cuts (a ++ b)) a = policy.draftOf a a a.length := by
    rw [draftOf_eq_readOn, List.take_length]
    exact Draft.readOn_congr _ _ _ a h
  rw [draftOf_eq_readOn, htake, Draft.readOn_append, hfirst, draftOf_length,
    after_eq, Draft.readOn_onto]
  rfl

lemma words_split_append {a b : Text} (h : policy.separator.Settled a b)
    (position : Nat) :
    (policy.split (a ++ b) position).words =
      policy.completedWords a ++ (policy.resumed a b b.length).finish := by
  rw [words_split, List.length_append, draftOf_append policy h,
    Draft.finish_onto]

lemma caret_split_append {a b : Text} (h : policy.separator.Settled a b)
    {k : Nat} (hk : k ≤ b.length) :
    (policy.split (a ++ b) (a.length + k)).caret =
      some ⟨(policy.completedWords a).length +
        (policy.resumed a b k).caret.word,
        (policy.resumed a b k).caret.offset⟩ := by
  have hle : a.length + k ≤ (a ++ b).length := by
    rw [List.length_append]
    omega
  rw [caret_split, if_pos hle, draftOf_append policy h, Draft.caret_onto]

/-- Behind lines that end alike the same draft goes on. -/
lemma resumed_congr {a a' b : Text} (hend : policy.SameEnd a a')
    (halike : policy.separator.AlikeBehind a a' b) (k : Nat) :
    policy.resumed a b k = policy.resumed a' b k := by
  rw [resumed, resumed, hend.pending, hend.openQuote, hend.escaped]
  refine Draft.readOn_congr _ _ _ _ fun i hi => halike i ?_
  exact Nat.lt_of_lt_of_le hi (List.take_sublist k b).length_le

lemma resumed_nil (b : Text) (k : Nat) :
    policy.resumed [] b k = policy.draftOf b b k := by
  have hcuts : (fun k => policy.separator.cuts ([] ++ b)
      (List.length ([] : Text) + k)) = policy.separator.cuts b := by
    funext k
    rw [List.nil_append, List.length_nil, Nat.zero_add]
  rw [resumed, hcuts, draftOf_eq_readOn]
  rfl

/-- A line without pending text has completed all of its words. -/
lemma completedWords_of_pendingText {a : Text}
    (h : policy.pendingText a = []) (position : Nat) :
    policy.completedWords a = (policy.split a position).words := by
  rw [pendingText_eq] at h
  rw [completedWords_eq, words_split, Draft.finish_eq_append, if_pos h,
    List.append_nil]

/-- **What is typed on depends on the end of the line alone.**  Behind lines
that end alike it completes the same words and moves the caret in the same
way.  Behind a line that leaves no quote open, nothing pending and nothing
escaped it is split on its own; nothing is pending behind a closer and behind
a separator.  Rules that look at the character alone give the verdicts that
this takes. -/
theorem split_append (policy : Policy) :
    (∀ a a' b, policy.SameEnd a a' → policy.separator.Settled a b →
      policy.separator.Settled a' b →
      policy.separator.AlikeBehind a a' b →
      (∃ rest, ∀ position,
        (policy.split (a ++ b) position).words =
          policy.completedWords a ++ rest ∧
        (policy.split (a' ++ b) position).words =
          policy.completedWords a' ++ rest) ∧
      ∀ k ≤ b.length, ∃ word offset,
        (policy.split (a ++ b) (a.length + k)).caret =
          some ⟨(policy.completedWords a).length + word, offset⟩ ∧
        (policy.split (a' ++ b) (a'.length + k)).caret =
          some ⟨(policy.completedWords a').length + word, offset⟩) ∧
    (∀ a b, policy.reportedQuote a = none →
      policy.isEscaped a a.length = false → policy.pendingText a = [] →
      policy.separator.Settled a b → policy.separator.AlikeBehind a [] b →
      (∀ position,
        (policy.split (a ++ b) position).words =
          (policy.split a position).words ++
            (policy.split b position).words) ∧
      ∀ k ≤ b.length, ∃ caret, (policy.split b k).caret = some caret ∧
        (policy.split (a ++ b) (a.length + k)).caret =
          some ⟨(policy.split a a.length).words.length + caret.word,
            caret.offset⟩) ∧
    (∀ a pos, a.length = pos + 1 →
      policy.Closes a pos ∨ policy.Separates a pos →
      policy.pendingText a = []) ∧
    ∀ p a a' b, (Separator.ofChar p).Settled a b ∧
      (Separator.ofChar p).AlikeBehind a a' b := by
  refine ⟨?_, ?_, ?_, ?_⟩
  · intro a a' b hend hsettled hsettled' halike
    refine ⟨⟨(policy.resumed a b b.length).finish, fun position => ?_⟩,
      fun k hk => ?_⟩
    · refine ⟨words_split_append policy hsettled position, ?_⟩
      rw [words_split_append policy hsettled',
        resumed_congr policy hend halike]
    · refine ⟨_, _, caret_split_append policy hsettled hk, ?_⟩
      rw [caret_split_append policy hsettled' hk,
        resumed_congr policy hend halike]
  · intro a b hopen hescaped hpending hsettled halike
    have hend : policy.SameEnd a [] := ⟨hpending, hopen, hescaped⟩
    have hresumed : ∀ k, policy.resumed a b k = policy.draftOf b b k :=
      fun k => (resumed_congr policy hend halike k).trans
        (resumed_nil policy b k)
    refine ⟨fun position => ?_, fun k hk => ?_⟩
    · rw [words_split_append policy hsettled, hresumed, words_split policy b,
        completedWords_of_pendingText policy hpending]
    · refine ⟨(policy.draftOf b b k).caret, ?_, ?_⟩
      · rw [caret_split, if_pos hk]
      · rw [caret_split_append policy hsettled hk, hresumed,
          completedWords_of_pendingText policy hpending a.length]
  · exact fun a pos h hends => pendingText_of_ends policy h hends
  · exact fun p a a' b => ⟨Separator.settled_ofChar p a b,
      Separator.alikeBehind_ofChar p a a' b⟩

/-- Inside a block that both lines have opened, what is typed on becomes the
same two words; behind a separator it becomes words of its own. -/
theorem split_append_inside_block :
    SameEnd {} "x \"a".toList "\"a".toList ∧
      (∃ rest, ∀ position,
        (split {} ("x \"a".toList ++ "b\" c".toList) position).words =
          [['x']] ++ rest ∧
        (split {} ("\"a".toList ++ "b\" c".toList) position).words =
          [] ++ rest) ∧
      Separates {} "x ".toList 1 ∧ pendingText {} "x ".toList = [] ∧
      ∀ position,
        (split {} ("x ".toList ++ "b\" c".toList) position).words =
          (split {} "x ".toList position).words ++
            (split {} "b\" c".toList position).words := by
  obtain ⟨hsame, hown, hends, hofChar⟩ := split_append {}
  have hend : SameEnd {} "x \"a".toList "\"a".toList :=
    ⟨by decide, by decide, by decide⟩
  have hdone : completedWords {} "x \"a".toList = [['x']] := by decide
  have hnone : completedWords {} "\"a".toList = [] := by decide
  have hrest := (hsame _ _ "b\" c".toList hend
    (hofChar isBlank _ [] _).1 (hofChar isBlank _ [] _).1
    (hofChar isBlank _ _ _).2).1
  rw [hdone, hnone] at hrest
  have hsep : Separates {} "x ".toList 1 := ⟨by decide, by decide, by decide⟩
  have hpending := hends "x ".toList 1 rfl (.inr hsep)
  have hblank := hofChar isBlank "x ".toList [] "b\" c".toList
  exact ⟨hend, hrest, hsep, hpending,
    (hown _ _ (by decide) (by decide) hpending hblank.1 hblank.2).1⟩

end Policy

end PromptLine
