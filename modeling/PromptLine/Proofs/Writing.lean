/-
Writing a word with escapes, and reading it back.

* `Escape.Written`: the ways of writing a word in which every character of a
  given kind is escaped.  Any other character may be escaped too;
* `Draft.readOn_written`: wherever the escape is dropped and the characters
  that need none are text, reading what is written adds the word to the
  pending one and leaves the reading as it was.
-/
import PromptLine.Proofs.Progress

namespace PromptLine

namespace Escape

/-- The text writes the word with `e` before some of its characters, and
before every special one. -/
inductive Written (e : Char) (special : Char → Prop) : Text → Text → Prop
  | nil : Written e special [] []
  | plain {c : Char} {word text : Text} (hc : ¬ special c)
      (h : Written e special word text) :
      Written e special (c :: word) (c :: text)
  | escaped {c : Char} {word text : Text}
      (h : Written e special word text) :
      Written e special (c :: word) (e :: c :: text)

end Escape

namespace Draft

variable {config : Config} {e : Char} {special : Char → Prop}

/-- What is written is read back, from a reading behind which nothing is
escaped.  The verdicts on the characters have to be such that the escape is
dropped and that what needs no escape is text. -/
lemma readOn_written (reading : Reading) (verdict : Char → Bool → Prop)
    (hrest : reading = { openQuote := reading.openQuote })
    (hescape : ∀ cut, verdict e cut → reading.role config cut e = .dropped)
    (hplain : ∀ c cut, ¬ special c → verdict c cut →
      reading.role config cut c = .text)
    {word text : Text} (h : Escape.Written e special word text)
    (draft : Draft Char) (cuts : Nat → Bool)
    (hcuts : ∀ k c, text[k]? = some c → verdict c (cuts k)) :
    draft.readOn config reading cuts text = draft.keepAll word ∧
      reading.after config text = reading := by
  induction h generalizing draft cuts with
  | nil => simp
  | @plain c word text hc _ ih =>
      have hrole := hplain c (cuts 0) hc (hcuts 0 c rfl)
      have hpass : reading.pass config c = reading :=
        (Reading.pass_of_role_text config hrole).trans hrest.symm
      have hread := ih (draft.keep c) (fun k => cuts (k + 1))
        fun k => hcuts (k + 1)
      rw [readOn_cons, Reading.after_cons, hrole, hpass, keepAll_cons]
      exact hread
  | @escaped c word text _ ih =>
      have hdrop := hescape (cuts 0) (hcuts 0 e rfl)
      have hpass := Reading.pass_of_role_dropped config hdrop
      -- behind the escape the character is text, whatever it is
      have hrole : (reading.pass config e).role config (cuts 1) c = .text :=
        Reading.role_of_escaped config (by rw [hpass]) (cuts 1) c
      have hback : (reading.pass config e).pass config c = reading := by
        rw [Reading.pass_of_role_text config hrole, hpass]
        exact hrest.symm
      have hread := ih (draft.keep c) (fun k => cuts (k + 1 + 1))
        fun k => hcuts (k + 1 + 1)
      rw [readOn_cons, readOn_cons, Reading.after_cons, Reading.after_cons,
        hdrop, hrole, hback, keepAll_cons]
      exact hread

end Draft

end PromptLine
