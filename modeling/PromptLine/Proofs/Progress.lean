/-
How far a split has come behind the first characters of a line.

* `Draft.readOn`: the draft behind a text that is read from any reading on.
  Two texts in a row are read one after the other (`Draft.readOn_append`);
* `Policy.draftOf`: the draft behind the first `pos` characters, with its words
  made of given items, one for each character: the characters themselves, or
  their places.  It takes in one item at a time, in the role told by looking
  back (`Policy.draftOf_succ`);
* `Policy.words_split`, `Policy.caret_split`, `Policy.places_eq`: the words of
  a split, its caret and the places of its words, read off these drafts;
* `Policy.events_scan`, `Policy.reportedQuote`: the one report of a split, and
  the quote that it says is open.
-/
import PromptLine.Proofs.Draft
import PromptLine.Proofs.Standing
import PromptLine.Split

namespace PromptLine

attribute [ext] WordList

namespace Draft

/-! ### Drafts that read on -/

/-- The draft behind a text that is read from `reading` on, where `cuts k`
says whether the character at `k` would separate words. -/
def readOn (draft : Draft Char) (config : Config) (reading : Reading)
    (cuts : Nat → Bool) (text : Text) : Draft Char :=
  draft.addAll ((reading.roles config cuts text).zip text)

variable (draft : Draft Char) (config : Config) (reading : Reading)

@[simp] lemma readOn_nil (cuts : Nat → Bool) :
    draft.readOn config reading cuts [] = draft := rfl

lemma readOn_cons (cuts : Nat → Bool) (c : Char) (rest : Text) :
    draft.readOn config reading cuts (c :: rest) =
      (draft.add (reading.role config (cuts 0) c) c).readOn config
        (reading.pass config c) (fun k => cuts (k + 1)) rest := rfl

lemma readOn_append (cuts : Nat → Bool) (a b : Text) :
    draft.readOn config reading cuts (a ++ b) =
      (draft.readOn config reading cuts a).readOn config
        (reading.after config a) (fun k => cuts (a.length + k)) b := by
  rw [readOn, Reading.roles_append,
    List.zip_append (Reading.length_roles reading config cuts a),
    addAll_append]
  rfl

lemma readOn_onto (done : List Text) (cuts : Nat → Bool) (text : Text) :
    (draft.onto done).readOn config reading cuts text =
      (draft.readOn config reading cuts text).onto done :=
  addAll_onto draft done _

/-- Verdicts beyond the text do not matter. -/
lemma readOn_congr {cuts cuts' : Nat → Bool} (text : Text)
    (h : ∀ k < text.length, cuts k = cuts' k) :
    draft.readOn config reading cuts text =
      draft.readOn config reading cuts' text := by
  rw [readOn, readOn, Reading.roles_congr reading config text h]

end Draft

namespace Policy

variable {α β : Type} (policy : Policy) (text : Text)

/-! ### Drafts behind the first characters -/

/-- The draft behind the first `pos` characters of `line`, where `items` has
one item for each character. -/
def draftOf (policy : Policy) (line : Text) (items : List α) (pos : Nat) :
    Draft α :=
  Draft.addAll {} (((policy.roles line).zip items).take pos)

lemma draftOf_zero (items : List α) : policy.draftOf text items 0 = {} := by
  rw [draftOf, List.take_zero, Draft.addAll_nil]

/-- One more character is taken in with the role told by looking back. -/
lemma draftOf_succ {items : List α} {item : α} {pos : Nat}
    (h : pos < text.length) (hitem : items[pos]? = some item) :
    policy.draftOf text items (pos + 1) =
      (policy.draftOf text items pos).add (policy.roleAt text pos) item := by
  have hrole : ((policy.roles text).zip items)[pos]? =
      some (policy.roleAt text pos, item) := by
    rw [List.getElem?_zip_eq_some, getElem?_roles,
      List.getElem?_eq_getElem h]
    exact ⟨rfl, hitem⟩
  rw [draftOf, List.take_add_one, hrole, Option.toList_some,
    Draft.addAll_append]
  rfl

/-- The draft behind the first characters has read them from the start. -/
lemma draftOf_eq_readOn (pos : Nat) :
    policy.draftOf text text pos =
      Draft.readOn {} policy.config {} (policy.separator.cuts text)
        (text.take pos) := by
  rw [draftOf, Draft.readOn, roles_eq, Reading.roles_take,
    List.zip_eq_zipWith, List.zip_eq_zipWith, List.take_zipWith]

lemma draftOf_map (f : α → β) (items : List α) (pos : Nat) :
    policy.draftOf text (items.map f) pos =
      (policy.draftOf text items pos).map f := by
  have hempty : ({} : Draft β) = ({} : Draft α).map f := by simp [Draft.map]
  rw [draftOf, draftOf, hempty, ← Draft.addAll_map, List.map_take,
    List.zip_map_right]

/-! ### Splits read off drafts -/

/-- The words are those of the draft behind the whole line. -/
lemma words_split (position : Nat) :
    (policy.split text position).words =
      (policy.draftOf text text text.length).finish := by
  have hall : ((policy.roles text).zip text).take text.length =
      (policy.roles text).zip text :=
    List.take_of_length_le (by simp [length_roles])
  rw [draftOf, hall, ← draft_assemble position]
  rfl

/-- The caret is that of the draft behind the characters before it. -/
lemma caret_split (position : Nat) :
    (policy.split text position).caret =
      if position ≤ text.length then
        some (policy.draftOf text text position).caret
      else none := by
  have hlength : ((policy.roles text).zip text).length = text.length := by
    simp [length_roles]
  rw [draftOf, ← hlength, ← caret_assemble]
  rfl

lemma caret_split_of_le {position : Nat} (h : position ≤ text.length) :
    (policy.split text position).caret =
      some (policy.draftOf text text position).caret := by
  rw [caret_split, if_pos h]

/-- The places are the words of the draft made of positions. -/
lemma places_eq :
    policy.places text =
      (policy.draftOf text (List.range text.length) text.length).finish := by
  have hall : ((policy.roles text).zip (List.range text.length)).take
      text.length = (policy.roles text).zip (List.range text.length) :=
    List.take_of_length_le (by simp [length_roles])
  rw [draftOf, hall, ← draft_assemble 0]
  rfl

/-! ### The report of a split -/

/-- A split is reported once, with its result and the quote that is open
behind the line. -/
lemma events_scan (position : Nat) :
    (policy.scan text position).events =
      [.lineSplit (policy.split text position).words.length position
        (policy.split text position).caret (policy.openAtEnd text)] := rfl

end Policy

/-- The quote that an event says is open at the end of a line. -/
def Event.quoteLeftOpen : Event → Option Char
  | lineSplit _ _ _ quote => quote
  | configRejected _ => none

namespace Policy

/-- The one report of a split tells the quote of the reading behind the
line. -/
lemma quoteLeftOpen_scan (policy : Policy) (text : Text) (position : Nat) :
    (policy.scan text position).events.map Event.quoteLeftOpen =
      [(Reading.after {} policy.config text).openQuote] := by
  rw [events_scan, openAtEnd_eq]
  rfl

/-- The quote that the report of the split of `line` says is open at its
end. -/
def reportedQuote (policy : Policy) (line : Text) : Option Char :=
  (policy.scan line line.length).events.findSome? Event.quoteLeftOpen

lemma reportedQuote_eq (policy : Policy) (text : Text) :
    policy.reportedQuote text =
      (Reading.after {} policy.config text).openQuote := by
  rw [reportedQuote, events_scan, ← openAtEnd_eq]
  cases h : policy.openAtEnd text <;> simp [Event.quoteLeftOpen]

end Policy

end PromptLine
