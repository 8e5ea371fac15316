/-
Text, as the whole library reads it.

* `Text`: a line or a word, a list of characters; every position, offset and
  length counts characters.
* `Text.char?`: the character at a position, if there is one.
* `Text.holdsAt`: a test of the character at a position, false where the text
  holds none; it looks at that character alone, so what stands elsewhere does
  not matter (`Text.holdsAt_append_left`, `Text.holdsAt_append_right`).
* `Text.holdsBefore`: the same test of the character just before a position.
-/

namespace PromptLine

/-- A line, or a word of it, character by character. -/
abbrev Text := List Char

namespace Text

/-- The character at `pos`. -/
def char? (text : Text) (pos : Nat) : Option Char := text[pos]?

/-- The character at `pos` exists and satisfies `p`. -/
def holdsAt (text : Text) (pos : Nat) (p : Char → Bool) : Bool :=
  (text.char? pos).any p

/-- The character just before `pos` exists and satisfies `p`. -/
def holdsBefore (text : Text) (pos : Nat) (p : Char → Bool) : Bool :=
  match pos with
  | 0 => false
  | before + 1 => text.holdsAt before p

theorem holdsAt_of_length_le {text : Text} {pos : Nat} (p : Char → Bool)
    (h : text.length ≤ pos) : text.holdsAt pos p = false := by
  simp [holdsAt, char?, List.getElem?_eq_none h]

theorem holdsAt_of_lt {text : Text} {pos : Nat} (p : Char → Bool)
    (h : pos < text.length) : text.holdsAt pos p = p text[pos] := by
  simp [holdsAt, char?, List.getElem?_eq_getElem h]

theorem holdsAt_eq_false {text : Text} {p : Char → Bool}
    (h : ∀ c ∈ text, p c = false) (pos : Nat) :
    text.holdsAt pos p = false := by
  by_cases hpos : pos < text.length
  · rw [holdsAt_of_lt p hpos, h _ (List.getElem_mem hpos)]
  · exact holdsAt_of_length_le p (Nat.le_of_not_lt hpos)

/-- What is written after a text does not change its own characters. -/
theorem holdsAt_append_left {a : Text} (b : Text) {pos : Nat}
    (p : Char → Bool) (h : pos < a.length) :
    Text.holdsAt (a ++ b) pos p = a.holdsAt pos p := by
  simp [holdsAt, char?, List.getElem?_append_left h]

/-- Characters written after a text keep their distance from its end. -/
theorem holdsAt_append_right (a b : Text) (k : Nat) (p : Char → Bool) :
    Text.holdsAt (a ++ b) (a.length + k) p = b.holdsAt k p := by
  simp [holdsAt, char?, List.getElem?_append_right]

end Text

end PromptLine
