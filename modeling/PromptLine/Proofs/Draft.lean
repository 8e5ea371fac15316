/-
What drafts keep, and what they do not look at.

* `Draft.onto`: a draft with further complete words in front.  They stay there
  untouched, and shift the caret by their number (`Draft.addAll_onto`,
  `Draft.finish_onto`, `Draft.caret_onto`);
* `Draft.map`: a draft of other items.  Only the roles of the items say where
  the words end (`Draft.addAll_map`, `Draft.finish_map`);
* `Draft.finish_eq_append`: the pending word is a word at the end of the line
  only if it has begun.  So a separator there changes no word, and a closer
  completes even an empty one (`Draft.finish_cut`, `Draft.finish_close`);
* `Draft.held`: all items of a draft in order.  Only text adds to them, and
  ending a word moves none (`Draft.held_add`, `Draft.flatten_finish`).
-/
import Mathlib.Data.List.TakeDrop
import PromptLine.Draft.Basic

namespace PromptLine

namespace Draft

variable {α β : Type}

/-! ### Taking in items -/

@[simp] lemma addAll_nil (draft : Draft α) : draft.addAll [] = draft := rfl

@[simp] lemma addAll_cons (draft : Draft α) (role : Role) (item : α)
    (items : List (Role × α)) :
    draft.addAll ((role, item) :: items) =
      (draft.add role item).addAll items := rfl

@[simp] lemma words_close (draft : Draft α) :
    draft.close.words.toList =
      draft.words.toList ++ [draft.pending.toList] := by
  simp [close]

@[simp] lemma pending_close (draft : Draft α) :
    draft.close.pending.toList = [] := rfl

lemma pending_eq_nil_iff (draft : Draft α) :
    draft.pending.toList = [] ↔ draft.pending.size = 0 := by
  rw [← Array.length_toList, List.length_eq_zero_iff]

lemma pending_ne_nil_iff (draft : Draft α) :
    draft.pending.toList ≠ [] ↔ 0 < draft.pending.size := by
  rw [← Array.length_toList, List.length_pos_iff]

lemma cut_of_pending_eq_nil {draft : Draft α}
    (h : draft.pending.toList = []) : draft.cut = draft := by
  have hempty : draft.pending = #[] := Array.toList_eq_nil_iff.mp h
  simp [cut, hempty]

lemma cut_of_pending_ne_nil {draft : Draft α}
    (h : draft.pending.toList ≠ []) : draft.cut = draft.close := by
  have hne : draft.pending ≠ #[] := fun h' =>
    h (Array.toList_eq_nil_iff.mpr h')
  simp [cut, hne]

/-- Behind a separator no word has begun. -/
@[simp] lemma pending_cut (draft : Draft α) :
    draft.cut.pending.toList = [] := by
  by_cases h : draft.pending.toList = []
  · rw [cut_of_pending_eq_nil h, h]
  · rw [cut_of_pending_ne_nil h, pending_close]

lemma cut_cut (draft : Draft α) : draft.cut.cut = draft.cut :=
  cut_of_pending_eq_nil (pending_cut draft)

lemma finish_cut (draft : Draft α) : draft.cut.finish = draft.finish := by
  rw [finish, cut_cut, finish]

/-- The words are the complete ones, and the pending one if it has begun. -/
lemma finish_eq_append (draft : Draft α) :
    draft.finish = draft.words.toList ++
      if draft.pending.toList = [] then [] else [draft.pending.toList] := by
  by_cases h : draft.pending.toList = []
  · rw [finish, cut_of_pending_eq_nil h, if_pos h, List.append_nil]
  · rw [finish, cut_of_pending_ne_nil h, words_close, if_neg h]

lemma finish_close (draft : Draft α) :
    draft.close.finish = draft.words.toList ++ [draft.pending.toList] := by
  rw [finish_eq_append, words_close, pending_close, if_pos rfl,
    List.append_nil]

/-- The draft with several items at the end of its pending word. -/
def keepAll (draft : Draft α) (items : List α) : Draft α :=
  { draft with pending := draft.pending ++ items.toArray }

@[simp] lemma keepAll_nil (draft : Draft α) : draft.keepAll [] = draft := by
  simp [keepAll]

lemma keepAll_cons (draft : Draft α) (item : α) (items : List α) :
    draft.keepAll (item :: items) = (draft.keep item).keepAll items := by
  simp [keepAll, keep]

/-! ### All items in order -/

/-- The items of the complete words and of the pending one, in order. -/
def held (draft : Draft α) : List α :=
  draft.words.toList.flatten ++ draft.pending.toList

lemma held_close (draft : Draft α) : draft.close.held = draft.held := by
  simp [held]

lemma held_cut (draft : Draft α) : draft.cut.held = draft.held := by
  by_cases h : draft.pending.toList = []
  · rw [cut_of_pending_eq_nil h]
  · rw [cut_of_pending_ne_nil h, held_close]

/-- An item of text comes last; no other item is held. -/
lemma held_add (draft : Draft α) (role : Role) (item : α) :
    (draft.add role item).held =
      draft.held ++ if role = .text then [item] else [] := by
  cases role with
  | opener | dropped => simp [add]
  | closer => simp [add, held_close]
  | separator => simp [add, held_cut]
  | text => simp [add, keep, held]

/-- In the end every item that is held is in a word. -/
lemma flatten_finish (draft : Draft α) : draft.finish.flatten = draft.held := by
  rw [finish, ← held_cut, held, pending_cut, List.append_nil]

/-! ### Words in front -/

/-- The draft with the words `done` in front of its own. -/
def onto (draft : Draft α) (done : List (List α)) : Draft α where
  words := done.toArray ++ draft.words
  pending := draft.pending

lemma onto_onto (draft : Draft α) (first last : List (List α)) :
    (draft.onto last).onto first = draft.onto (first ++ last) := by
  simp only [onto, ← Array.append_assoc, List.append_toArray]

/-- Every draft is its pending word, with its complete words in front. -/
lemma pending_onto_words (draft : Draft α) :
    Draft.onto { pending := draft.pending } draft.words.toList = draft := by
  simp [onto]

lemma add_onto (draft : Draft α) (done : List (List α)) (role : Role)
    (item : α) :
    (draft.onto done).add role item = (draft.add role item).onto done := by
  cases role with
  | opener | dropped | text => rfl
  | closer => simp [add, close, onto]
  | separator =>
      by_cases h : draft.pending.toList = []
      · have h' : (draft.onto done).pending.toList = [] := h
        rw [add, add, cut_of_pending_eq_nil h, cut_of_pending_eq_nil h']
      · have h' : (draft.onto done).pending.toList ≠ [] := h
        rw [add, add, cut_of_pending_ne_nil h, cut_of_pending_ne_nil h']
        simp [close, onto]

/-- Words in front stay in front. -/
lemma addAll_onto (draft : Draft α) (done : List (List α))
    (items : List (Role × α)) :
    (draft.onto done).addAll items = (draft.addAll items).onto done := by
  induction items generalizing draft with
  | nil => rfl
  | cons item rest ih => rw [addAll_cons, addAll_cons, add_onto, ih]

lemma finish_onto (draft : Draft α) (done : List (List α)) :
    (draft.onto done).finish = done ++ draft.finish := by
  simp [finish_eq_append, onto]

lemma caret_onto (draft : Draft α) (done : List (List α)) :
    (draft.onto done).caret =
      ⟨done.length + draft.caret.word, draft.caret.offset⟩ := by
  simp [caret, onto]

/-! ### Other items -/

/-- The draft with every item replaced. -/
def map (f : α → β) (draft : Draft α) : Draft β where
  words := draft.words.map (List.map f)
  pending := draft.pending.map f

lemma add_map (f : α → β) (draft : Draft α) (role : Role) (item : α) :
    (draft.map f).add role (f item) = (draft.add role item).map f := by
  cases role with
  | opener | dropped => rfl
  | closer => simp [add, close, map]
  | separator =>
      by_cases h : draft.pending.toList = []
      · have h' : (draft.map f).pending.toList = [] := by simp [map, h]
        rw [add, add, cut_of_pending_eq_nil h, cut_of_pending_eq_nil h']
      · have h' : (draft.map f).pending.toList ≠ [] := by
          simpa [map] using h
        rw [add, add, cut_of_pending_ne_nil h, cut_of_pending_ne_nil h']
        simp [close, map]
  | text => simp [add, keep, map]

/-- The roles alone say where the words end. -/
lemma addAll_map (f : α → β) (draft : Draft α)
    (items : List (Role × α)) :
    (draft.map f).addAll (items.map (Prod.map id f)) =
      (draft.addAll items).map f := by
  induction items generalizing draft with
  | nil => rfl
  | cons item rest ih =>
      rw [List.map_cons, Prod.map, addAll_cons, id_eq, add_map, ih,
        addAll_cons]

@[simp] lemma caret_map (f : α → β) (draft : Draft α) :
    (draft.map f).caret = draft.caret := by
  simp [caret, map]

lemma finish_map (f : α → β) (draft : Draft α) :
    (draft.map f).finish = draft.finish.map (List.map f) := by
  by_cases h : draft.pending.toList = [] <;>
    simp [finish_eq_append, map, h]

end Draft

end PromptLine
