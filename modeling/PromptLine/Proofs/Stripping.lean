/-
What is left of a text without its escapes.

* `Policy.kept`, `Policy.strip`: the characters at given places of a line, and
  those of a whole text, without the active escapes;
* `Draft.addAll_plain`: where nothing quotes or separates, these are the
  characters that go to the end of the pending word;
* `Policy.draftOf_length_eq_addAll_map`: the draft behind a line takes in its
  characters with their positions.
-/
import PromptLine.Proofs.Progress

namespace PromptLine

namespace Policy

/-- The characters at the places of `line` that hold no active escape. -/
def kept (policy : Policy) (line : Text) (places : List (Char × Nat)) : Text :=
  (places.filter fun place => !policy.isActiveEscape line place.2).map
    Prod.fst

/-- The characters of a text that are no active escapes. -/
def strip (policy : Policy) (text : Text) : Text :=
  policy.kept text text.zipIdx

variable (policy : Policy) {text : Text}

@[simp] lemma kept_nil : policy.kept text [] = [] := rfl

lemma kept_cons_of_active {place : Char × Nat} (places : List (Char × Nat))
    (h : policy.isActiveEscape text place.2 = true) :
    policy.kept text (place :: places) = policy.kept text places := by
  simp [kept, h]

lemma kept_cons_of_inert {place : Char × Nat} (places : List (Char × Nat))
    (h : policy.isActiveEscape text place.2 = false) :
    policy.kept text (place :: places) =
      place.1 :: policy.kept text places := by
  simp [kept, h]

end Policy

/-- Where nothing quotes or separates the characters that are no active escapes
go to the end of the pending word. -/
lemma Draft.addAll_plain (policy : Policy) (text : Text) (draft : Draft Char)
    (places : List (Char × Nat)) :
    draft.addAll (places.map fun place =>
        (policy.plainRoleAt text place.2, place.1)) =
      draft.keepAll (policy.kept text places) := by
  induction places generalizing draft with
  | nil => rw [Policy.kept_nil, keepAll_nil, List.map_nil, addAll_nil]
  | cons place places ih =>
      rw [List.map_cons, addAll_cons, ih, Policy.plainRoleAt]
      cases h : policy.isActiveEscape text place.2 with
      | true => rw [policy.kept_cons_of_active places h, if_pos rfl, add]
      | false =>
          rw [policy.kept_cons_of_inert places h, keepAll_cons,
            if_neg Bool.false_ne_true, add]

/-- The draft behind a line has taken in its characters in the roles told by
their positions. -/
lemma Policy.draftOf_length_eq_addAll_map (policy : Policy) (text : Text) :
    policy.draftOf text text text.length =
      Draft.addAll {} (text.zipIdx.map fun place =>
        (policy.roleAt text place.2, place.1)) := by
  rw [draftOf, roles_eq_map_roleAt, zip_map_range]
  exact congrArg (Draft.addAll {}) (List.take_of_length_le (by simp))

end PromptLine
