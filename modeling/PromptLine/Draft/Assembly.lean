/-
Putting words together and looking for the caret on the way.

* `Assembly`: a draft, and the caret if it has been passed.
* `Assembly.see`: takes note of the caret if its position is the present one.
* `assemble`: the words of a list of items with their roles.  The caret is
  looked for before each item and behind the last.

Looking for the caret does not disturb the words (`draft_assemble`), and the
caret is where the items before its position have brought the draft, if there
are as many (`caret_assemble`).
-/
import PromptLine.Draft.Basic

namespace PromptLine

/-- A draft, and the caret among its words if it has been passed. -/
structure Assembly (α : Type) where
  draft : Draft α := {}
  caret : Option Caret := none

namespace Assembly

variable {α : Type}

/-- Takes note of the caret, looked for at `position`, on coming to `pos`. -/
def see (assembly : Assembly α) (position pos : Nat) : Assembly α :=
  if pos = position then
    { assembly with caret := some assembly.draft.caret }
  else assembly

/-- Takes in the item at `pos`, as its role demands. -/
def add (position : Nat) (assembly : Assembly α) :
    (Role × α) × Nat → Assembly α
  | ((role, item), pos) =>
    let seen := assembly.see position pos
    { seen with draft := seen.draft.add role item }

end Assembly

/-- The words of a list of items with their roles, and the caret at
`position` items from the start. -/
def assemble {α : Type} (position : Nat) (items : List (Role × α)) :
    Assembly α :=
  (items.zipIdx.foldl (Assembly.add position) {}).see position items.length

namespace Assembly

variable {α : Type}

theorem draft_see (assembly : Assembly α) (position pos : Nat) :
    (assembly.see position pos).draft = assembly.draft := by
  unfold see
  split <;> rfl

theorem caret_see (assembly : Assembly α) (position pos : Nat) :
    (assembly.see position pos).caret =
      if pos = position then some assembly.draft.caret
      else assembly.caret := by
  unfold see
  split <;> rfl

/-- Assembling items from number `start` on takes all of them into the draft,
and finds the caret if its position is among theirs. -/
theorem foldl_add (position : Nat) (items : List (Role × α)) (start : Nat)
    (assembly : Assembly α) :
    (items.zipIdx start).foldl (add position) assembly =
      { draft := assembly.draft.addAll items
        caret :=
          if start ≤ position ∧ position < start + items.length then
            some (assembly.draft.addAll (items.take (position - start))).caret
          else assembly.caret } := by
  induction items generalizing start assembly with
  | nil =>
    have h : ¬ (start ≤ position ∧ position < start) := by omega
    simp [h, Draft.addAll]
  | cons item rest ih =>
    rw [List.zipIdx_cons, List.foldl_cons, ih]
    simp only [add, draft_see, caret_see, List.length_cons]
    rcases Nat.lt_trichotomy start position with h | h | h
    · have hne : start ≠ position := by omega
      have hsub : position - start = (position - (start + 1)) + 1 := by omega
      have hiff : (start + 1 ≤ position ∧
          position < start + 1 + rest.length) ↔
          (start ≤ position ∧ position < start + (rest.length + 1)) := by
        omega
      simp only [hne, hiff, hsub, List.take_succ_cons, if_false]
      rfl
    · subst h
      have hno : ¬ start + 1 ≤ start := by omega
      simp [Draft.addAll, hno]
    · have hne : start ≠ position := by omega
      have hno : ¬ (start + 1 ≤ position ∧
          position < start + 1 + rest.length) := by omega
      have hno' : ¬ (start ≤ position ∧
          position < start + (rest.length + 1)) := by omega
      simp only [hne, hno, hno', if_false]
      rfl

end Assembly

variable {α : Type}

/-- Looking for the caret does not disturb the words. -/
theorem draft_assemble (position : Nat) (items : List (Role × α)) :
    (assemble position items).draft = Draft.addAll {} items := by
  rw [assemble, Assembly.draft_see, Assembly.foldl_add]

/-- The caret is where the items before its position have brought the draft,
if there are as many. -/
theorem caret_assemble (position : Nat) (items : List (Role × α)) :
    (assemble position items).caret =
      if position ≤ items.length then
        some (Draft.addAll {} (items.take position)).caret
      else none := by
  rw [assemble, Assembly.caret_see, Assembly.foldl_add]
  rcases Nat.lt_trichotomy position items.length with h | h | h
  · have hne : items.length ≠ position := by omega
    simp [hne, h, Nat.le_of_lt h]
  · subst h
    simp
  · have hne : items.length ≠ position := by omega
    have hlt : ¬ position < items.length := by omega
    simp [hne, hlt, Nat.not_le.mpr h]

end PromptLine
