/-
Escaping in a line that is joined from two texts.

* `Escape.isEscaped_append_left`, `Escape.isActive_append_left`: looking back
  never meets what is written further on, so the answers about the first text
  stand;
* `Escape.isEscaped_append_congr`: on the second text the first one has one
  influence only, which is whether it escapes what comes next.  Of a run of
  escapes across the seam it matters only whether its part in the first text is
  odd or even;
* `Escape.isActive_append_length`: at the seam an escape character is active
  unless the first text escapes it;
* `Escape.isEscaped_append`: **behind a text that does not escape what comes
  next the answers are those about what follows on its own, and otherwise those
  about what follows the one character that is escaped**.
-/
import PromptLine.Proofs.Escaping

namespace PromptLine

namespace Escape

variable (escapes : List Char) {a : Text}

/-! ### The first text -/

/-- What is written behind a text changes neither which of its characters are
escaped nor whether it escapes what comes next. -/
lemma isEscaped_append_left (b : Text) {pos : Nat} (h : pos ≤ a.length) :
    isEscaped escapes (a ++ b) pos = isEscaped escapes a pos := by
  induction pos with
  | zero => rfl
  | succ pos ih =>
      rw [isEscaped_succ, isEscaped_succ, isActive_eq, isActive_eq,
        Text.holdsAt_append_left b _ h, ih (Nat.le_of_succ_le h)]

lemma isActive_append_left (b : Text) {pos : Nat} (h : pos < a.length) :
    isActive escapes (a ++ b) pos = isActive escapes a pos :=
  isEscaped_append_left escapes b h

/-! ### The second text -/

/-- Behind texts that both escape what comes next, or both do not, the same
characters are escaped. -/
lemma isEscaped_append_congr {other : Text}
    (h : isEscaped escapes a a.length =
      isEscaped escapes other other.length) (b : Text) (k : Nat) :
    isEscaped escapes (a ++ b) (a.length + k) =
      isEscaped escapes (other ++ b) (other.length + k) := by
  induction k with
  | zero =>
      rw [Nat.add_zero, Nat.add_zero,
        isEscaped_append_left escapes b (Nat.le_refl _),
        isEscaped_append_left escapes b (Nat.le_refl _), h]
  | succ k ih =>
      rw [← Nat.add_assoc, ← Nat.add_assoc, isEscaped_succ, isEscaped_succ,
        isActive_eq, isActive_eq, Text.holdsAt_append_right,
        Text.holdsAt_append_right, ih]

/-- Behind a text that does not escape what comes next, the second one is read
on its own. -/
lemma isEscaped_append_right (h : isEscaped escapes a a.length = false)
    (b : Text) (k : Nat) :
    isEscaped escapes (a ++ b) (a.length + k) = isEscaped escapes b k := by
  -- the empty text does not escape what comes next either
  have hnil : isEscaped escapes a a.length =
      isEscaped escapes [] (List.length ([] : Text)) := h
  rw [isEscaped_append_congr escapes hnil, List.nil_append, List.length_nil,
    Nat.zero_add]

lemma isActive_append_right (h : isEscaped escapes a a.length = false)
    (b : Text) (k : Nat) :
    isActive escapes (a ++ b) (a.length + k) = isActive escapes b k :=
  isEscaped_append_right escapes h b (k + 1)

/-- At the seam an escape character is active unless the first text escapes
it. -/
lemma isActive_append_length (c : Char) (rest : Text) :
    isActive escapes (a ++ c :: rest) a.length =
      (escapes.contains c && !isEscaped escapes a a.length) := by
  have hchar : Text.holdsAt (a ++ c :: rest) a.length escapes.contains =
      escapes.contains c := Text.holdsAt_append_right a (c :: rest) 0 _
  rw [isActive_eq, hchar, isEscaped_append_left escapes _ (Nat.le_refl _)]

/-- The one character that a text escapes is no active escape. -/
lemma isActive_append_of_isEscaped (h : isEscaped escapes a a.length = true)
    (c : Char) (rest : Text) :
    isActive escapes (a ++ c :: rest) a.length = false := by
  rw [isActive_append_length, h, Bool.not_true, Bool.and_false]

/-- A text that has been given the one character that it escapes does not
escape what comes next. -/
lemma isEscaped_concat_length (h : isEscaped escapes a a.length = true)
    (c : Char) :
    isEscaped escapes (a ++ [c]) (a ++ [c]).length = false := by
  rw [List.length_append, List.length_singleton, isEscaped_succ]
  exact isActive_append_of_isEscaped escapes h c []

/-- **Escaping is read on from the end of a text.**  What follows changes no
answer about the text itself.  The character that comes next is an active
escape when it is an escape character and the text does not escape it.  If the
text does not escape what comes next, the answers further on are those about
what follows on its own.  If it does, the character that comes next is no
active escape, and the answers behind it are those about the rest on its
own. -/
theorem isEscaped_append (escapes : List Char) (a : Text) :
    (∀ b pos, pos ≤ a.length →
      isEscaped escapes (a ++ b) pos = isEscaped escapes a pos) ∧
    (∀ b pos, pos < a.length →
      isActive escapes (a ++ b) pos = isActive escapes a pos) ∧
    (∀ c rest, isActive escapes (a ++ c :: rest) a.length =
      (escapes.contains c && !isEscaped escapes a a.length)) ∧
    (isEscaped escapes a a.length = false → ∀ b k,
      isEscaped escapes (a ++ b) (a.length + k) = isEscaped escapes b k ∧
      isActive escapes (a ++ b) (a.length + k) = isActive escapes b k) ∧
    (isEscaped escapes a a.length = true → ∀ c rest,
      isActive escapes (a ++ c :: rest) a.length = false ∧
      ∀ k, isEscaped escapes (a ++ c :: rest) (a.length + 1 + k) =
          isEscaped escapes rest k ∧
        isActive escapes (a ++ c :: rest) (a.length + 1 + k) =
          isActive escapes rest k) := by
  refine ⟨fun b _ h => isEscaped_append_left escapes b h,
    fun b _ h => isActive_append_left escapes b h,
    isActive_append_length escapes, fun h b k => ?_, fun h c rest => ?_⟩
  · exact ⟨isEscaped_append_right escapes h b k,
      isActive_append_right escapes h b k⟩
  · refine ⟨isActive_append_of_isEscaped escapes h c rest, fun k => ?_⟩
    -- the escaped character goes with the first text
    have hend := isEscaped_concat_length escapes h c
    have hjoin : a ++ c :: rest = (a ++ [c]) ++ rest := List.append_cons ..
    have hlength : a.length + 1 = (a ++ [c]).length := by simp
    rw [hjoin, hlength]
    exact ⟨isEscaped_append_right escapes hend rest k,
      isActive_append_right escapes hend rest k⟩

/-- A run of three backslashes, joined after the second: the third is active
as it is on its own.  A run of two, joined after the first: the second is not
active and the letter behind it not escaped. -/
theorem isEscaped_append_run :
    (3 ≤ "a\\\\".toList.length ∧
      isEscaped ['\\'] ("a\\\\".toList ++ "\\n".toList) 3 =
        isEscaped ['\\'] "a\\\\".toList 3) ∧
    (2 < "a\\\\".toList.length ∧
      isActive ['\\'] ("a\\\\".toList ++ "\\n".toList) 2 =
        isActive ['\\'] "a\\\\".toList 2) ∧
    (isEscaped ['\\'] "a\\\\".toList 3 = false ∧
      isActive ['\\'] ("a\\\\".toList ++ "\\n".toList) 3 = true ∧
      isEscaped ['\\'] ("a\\\\".toList ++ "\\n".toList) 4 = true) ∧
    isEscaped ['\\'] "a\\".toList 2 = true ∧
      isActive ['\\'] ("a\\".toList ++ "\\n".toList) 2 = false ∧
      isEscaped ['\\'] ("a\\".toList ++ "\\n".toList) 3 = false := by
  have heven : isEscaped ['\\'] "a\\\\".toList 3 = false := by decide
  have hodd : isEscaped ['\\'] "a\\".toList 2 = true := by decide
  obtain ⟨hescaped, hactive, -, hown, -⟩ :=
    isEscaped_append ['\\'] "a\\\\".toList
  obtain ⟨-, -, -, -, hnext⟩ := isEscaped_append ['\\'] "a\\".toList
  have hthree : 3 ≤ "a\\\\".toList.length := by decide
  have htwo : 2 < "a\\\\".toList.length := by decide
  obtain ⟨hinert, hrest⟩ := hnext hodd '\\' ['n']
  exact ⟨⟨hthree, hescaped _ 3 hthree⟩, ⟨htwo, hactive _ 2 htwo⟩,
    ⟨heven, ((hown heven _ 0).2).trans (by decide),
      ((hown heven _ 1).1).trans (by decide)⟩,
    hodd, hinert, ((hrest 0).1).trans (by decide)⟩

end Escape

end PromptLine
