/-
What quoting and escaping ask of a character.

* `Config.Renames`: different characters have different new names, and a
  character quotes or escapes when its new name does;
* `Escape.isEscaped_map`: escaping looks at characters only to ask whether they
  are escapes;
* `Config.Renames.openBefore_map`: so does quoting, and besides compares the
  characters of a line with each other, which needs different names;
* `Policy.isEscaped_congr` and its kin: without new names, two policies agree in
  all of this as soon as the same characters quote and escape, in whatever order
  they are listed;
* `Policy.scan_congr`: if such policies give a line the same roles as well, they
  make the same words, find the same caret and report the same.
-/
import Mathlib.Data.List.Basic
import PromptLine.Proofs.Progress

namespace PromptLine

attribute [ext] Logged

/-! ### Characters under new names -/

namespace Text

variable (rename : Char → Char) (text : Text) (pos : Nat)

lemma char?_map : Text.char? (text.map rename) pos =
    (text.char? pos).map rename := List.getElem?_map

lemma holdsAt_map (p : Char → Bool) :
    Text.holdsAt (text.map rename) pos p =
      text.holdsAt pos fun c => p (rename c) := by
  rw [holdsAt, char?_map, Option.any_map]
  rfl

/-- When different characters have different names, a character stands at a place
exactly when its new name stands there in the copy. -/
lemma char?_map_eq_some_iff {rename : Char → Char}
    (hinjective : Function.Injective rename) (text : Text) (pos : Nat)
    (c : Char) :
    Text.char? (text.map rename) pos = some (rename c) ↔
      text.char? pos = some c := by
  rw [char?_map, ← Option.map_some]
  exact (Option.map_injective hinjective).eq_iff

end Text

/-- Escaping asks of a character only whether it is an escape. -/
lemma Escape.isEscaped_map {rename : Char → Char} {escapes renamed : List Char}
    (h : ∀ c, c ∈ escapes ↔ rename c ∈ renamed) (text : Text) (pos : Nat) :
    isEscaped renamed (text.map rename) pos = isEscaped escapes text pos := by
  have hcontains : (fun c => renamed.contains (rename c)) =
      escapes.contains := funext fun c => by
    rw [Bool.eq_iff_iff, List.contains_iff_mem, List.contains_iff_mem, h]
  induction pos with
  | zero => rfl
  | succ pos ih =>
      rw [isEscaped_succ, isEscaped_succ, isActive_eq, isActive_eq, ih,
        Text.holdsAt_map, hcontains]

/-- The configuration `image` is to the new names of characters what `source` is
to the characters themselves. -/
structure Config.Renames (rename : Char → Char) (source image : Config) :
    Prop where
  injective : Function.Injective rename
  quotes : ∀ c, c ∈ source.quotes ↔ rename c ∈ image.quotes
  escapes : ∀ c, c ∈ source.escapes ↔ rename c ∈ image.escapes

namespace Config.Renames

/-- Configurations with the same characters need no new names, in whatever order
the characters are listed. -/
lemma of_perm {first second : Config}
    (hquotes : first.quotes.Perm second.quotes)
    (hescapes : first.escapes.Perm second.escapes) :
    Renames id first second where
  injective := Function.injective_id
  quotes := fun _ => hquotes.mem_iff
  escapes := fun _ => hescapes.mem_iff

lemma of_eq {first second : Config} (h : first = second) :
    Renames id first second := h ▸ of_perm (List.Perm.refl _) (List.Perm.refl _)

variable {rename : Char → Char} {source image : Policy}
  (h : source.config.Renames rename image.config) (text : Text) (pos : Nat)
include h

lemma isEscaped_map :
    image.isEscaped (text.map rename) pos = source.isEscaped text pos :=
  Escape.isEscaped_map h.escapes text pos

lemma isActiveEscape_map :
    image.isActiveEscape (text.map rename) pos =
      source.isActiveEscape text pos :=
  h.isEscaped_map text (pos + 1)

lemma isActiveQuote_map :
    image.isActiveQuote (text.map rename) pos =
      source.isActiveQuote text pos := by
  have hquote : (fun c => image.config.isQuote (rename c)) =
      source.config.isQuote := funext fun c => by
    rw [Bool.eq_iff_iff, Config.isQuote, Config.isQuote, List.contains_iff_mem,
      List.contains_iff_mem, h.quotes]
  rw [Policy.isActiveQuote, Policy.isActiveQuote, h.isEscaped_map,
    Text.holdsAt_map, hquote]

lemma plainRoleAt_map :
    image.plainRoleAt (text.map rename) pos = source.plainRoleAt text pos := by
  rw [Policy.plainRoleAt, Policy.plainRoleAt, h.isActiveEscape_map]

/-- What is open under the new names is the new name of what is open.  A block
is closed by the character that has opened it, and no other has its name. -/
lemma openBefore_map :
    image.openBefore (text.map rename) pos =
      (source.openBefore text pos).map rename := by
  induction pos with
  | zero => rfl
  | succ pos ih =>
      rw [Policy.openBefore, Policy.openBefore, ih, h.isActiveQuote_map,
        h.isEscaped_map]
      cases source.openBefore text pos with
      | none =>
          simp only [Option.map_none, Text.char?_map]
          split_ifs <;> rfl
      | some quote =>
          simp only [Option.map_some, Text.char?_map_eq_some_iff h.injective]
          split_ifs <;> rfl

/-- The quote that the copy leaves open is the new name of the one that the
line leaves open. -/
lemma openAtEnd_map :
    image.openAtEnd (text.map rename) =
      (source.openAtEnd text).map rename := by
  rw [Policy.openAtEnd_eq_openBefore, Policy.openAtEnd_eq_openBefore,
    List.length_map, h.openBefore_map]

end Config.Renames

/-! ### The same characters -/

namespace Policy

variable {first second : Policy}
  (h : first.config.Renames id second.config) (text : Text) (pos : Nat)
include h

lemma isEscaped_congr : first.isEscaped text pos = second.isEscaped text pos := by
  simpa using (h.isEscaped_map text pos).symm

lemma isActiveEscape_congr :
    first.isActiveEscape text pos = second.isActiveEscape text pos :=
  isEscaped_congr h text (pos + 1)

lemma isActiveQuote_congr :
    first.isActiveQuote text pos = second.isActiveQuote text pos := by
  simpa using (h.isActiveQuote_map text pos).symm

lemma plainRoleAt_congr :
    first.plainRoleAt text pos = second.plainRoleAt text pos := by
  simpa using (h.plainRoleAt_map text pos).symm

lemma openBefore_congr :
    first.openBefore text pos = second.openBefore text pos := by
  simpa using (h.openBefore_map text pos).symm

lemma closes_congr : first.Closes text pos ↔ second.Closes text pos := by
  simp only [Closes, openBefore_congr h, isEscaped_congr h]

lemma opens_congr : first.Opens text pos ↔ second.Opens text pos := by
  simp only [Opens, openBefore_congr h, isActiveQuote_congr h]

omit pos

/-- With the same characters that quote and escape, policies that give a line
the same roles find and report the same. -/
lemma scan_congr (hroles : first.roles text = second.roles text)
    (position : Nat) :
    first.scan text position = second.scan text position := by
  have hdraft : ∀ pos, first.draftOf text text pos =
      second.draftOf text text pos := fun pos => by
    rw [draftOf, draftOf, hroles]
  have hsplit : first.split text position = second.split text position := by
    refine WordList.ext ?_ ?_ rfl
    · rw [words_split, words_split, hdraft]
    · rw [caret_split, caret_split, hdraft]
  have hopen : first.openAtEnd text = second.openAtEnd text := by
    rw [openAtEnd_eq_openBefore, openAtEnd_eq_openBefore, openBefore_congr h]
  refine Logged.ext hsplit ?_
  rw [events_scan, events_scan, hsplit, hopen]

end Policy

end PromptLine
