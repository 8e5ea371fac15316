/-
Words under construction.

* `Draft`: the words that are complete and the one that is pending, which may
  still be empty.  What a word is made of is left open: its characters, or the
  places where they stand.
* `Draft.add`, `Draft.addAll`: take in the next item, or several, as their
  roles demand.
* `Draft.finish`: the words, when nothing comes any more.
* `Draft.caret`: where a caret behind the last item stands.
-/
import PromptLine.Role.Reading
import PromptLine.WordList

namespace PromptLine

/-- Complete words, and what the pending word holds so far. -/
structure Draft (α : Type) where
  words : Array (List α) := #[]
  pending : Array α := #[]

namespace Draft

variable {α : Type}

/-- Makes the pending word complete, even if it is empty. -/
def close (draft : Draft α) : Draft α where
  words := draft.words.push draft.pending.toList

/-- Makes the pending word complete, if it has begun. -/
def cut (draft : Draft α) : Draft α :=
  if draft.pending.isEmpty then draft else draft.close

/-- Puts an item at the end of the pending word. -/
def keep (draft : Draft α) (item : α) : Draft α :=
  { draft with pending := draft.pending.push item }

/-- Takes in the next item, as its role demands. -/
def add (draft : Draft α) (role : Role) (item : α) : Draft α :=
  match role with
  | .opener => draft
  | .closer => draft.close
  | .separator => draft.cut
  | .dropped => draft
  | .text => draft.keep item

/-- Takes in several items one after the other. -/
def addAll (draft : Draft α) (items : List (Role × α)) : Draft α :=
  items.foldl (fun draft item => draft.add item.1 item.2) draft

/-- The words, when nothing comes any more. -/
def finish (draft : Draft α) : List (List α) := draft.cut.words.toList

/-- Where a caret behind the last item stands. -/
def caret (draft : Draft α) : Caret := ⟨draft.words.size, draft.pending.size⟩

theorem addAll_append (draft : Draft α) (a b : List (Role × α)) :
    draft.addAll (a ++ b) = (draft.addAll a).addAll b := by
  simp [addAll]

end Draft

end PromptLine
