/-
A split of a line whose characters have other names.

* `Policy.Renames`: one configuration is to the new names what the other is to
  the characters, and the separators agree on the line and on its copy under the
  new names;
* `Policy.Renames.roles_map`: the characters play the same roles under both
  names, because quoting and escaping ask no more of them (`Proofs/Naming`);
* `Policy.split_renamed`: **the copy is split into the copies of the words, with
  the same caret, and every query is answered alike.  In particular the order
  in which the characters of a configuration are listed never matters.**
-/
import Mathlib.Logic.Equiv.Basic
import PromptLine.Proofs.Naming

namespace PromptLine

namespace WordList

/-- The list with the characters of its words under new names. -/
def rename (rename : Char → Char) (list : WordList) : WordList :=
  { list with words := list.words.map (List.map rename) }

end WordList

namespace Policy

/-- The policy `image` is to a line under new names what `source` is to the line
itself: the verdicts on the characters, too, are those on their new names. -/
structure Renames (rename : Char → Char) (source image : Policy)
    (line : Text) : Prop
    extends source.config.Renames rename image.config where
  cuts : ∀ pos < line.length, source.separator.cuts line pos =
    image.separator.cuts (line.map rename) pos

namespace Renames

variable {rename : Char → Char} {source image : Policy} {text : Text}
  (h : source.Renames rename image text)
include h

/-! ### Roles -/

lemma isSeparator_map (pos : Nat) :
    image.isSeparator (text.map rename) pos = source.isSeparator text pos := by
  rw [isSeparator, isSeparator, List.length_map, h.isEscaped_map]
  by_cases hpos : pos < text.length
  · rw [h.cuts pos hpos]
  · simp [hpos]

/-- A character plays the same role under both names. -/
lemma roleAt_map (pos : Nat) :
    image.roleAt (text.map rename) pos = source.roleAt text pos := by
  rw [roleAt, roleAt, h.openBefore_map, h.isActiveQuote_map,
    h.isSeparator_map, h.isEscaped_map, h.plainRoleAt_map]
  cases source.openBefore text pos with
  | none => rfl
  | some quote =>
      simp only [Option.map_some, Text.char?_map_eq_some_iff h.injective]

lemma roles_map : image.roles (text.map rename) = source.roles text := by
  rw [roles_eq_map_roleAt, roles_eq_map_roleAt, List.length_map]
  exact List.map_congr_left fun pos _ => h.roleAt_map pos

/-! ### Splits -/

lemma draftOf_map (pos : Nat) :
    image.draftOf (text.map rename) (text.map rename) pos =
      (source.draftOf text text pos).map rename := by
  have hroles : image.draftOf (text.map rename) (text.map rename) pos =
      source.draftOf text (text.map rename) pos := by
    rw [draftOf, draftOf, h.roles_map]
  rw [hroles, Policy.draftOf_map]

/-- The copy is split into the copies of the words, with the same caret. -/
lemma split_map (position : Nat) :
    image.split (text.map rename) position =
      (source.split text position).rename rename := by
  have hwords : (image.split (text.map rename) position).words =
      (source.split text position).words.map (List.map rename) := by
    rw [words_split, words_split, List.length_map, h.draftOf_map,
      Draft.finish_map]
  have hcaret : (image.split (text.map rename) position).caret =
      (source.split text position).caret := by
    rw [caret_split, caret_split, List.length_map, h.draftOf_map,
      Draft.caret_map]
  exact WordList.ext hwords hcaret rfl

end Renames

/-- Configurations with the same characters in another order are the same for
every line. -/
lemma renames_id_of_perm (policy : Policy) {config : Config}
    (hquotes : config.quotes.Perm policy.config.quotes)
    (hescapes : config.escapes.Perm policy.config.escapes) (text : Text) :
    Renames id { policy with config } policy text where
  toRenames := .of_perm hquotes hescapes
  cuts := fun pos _ => by rw [List.map_id]

/-- **Only it matters which characters quote and which escape.**  Let every
character have a new name, different ones different names, and let another
policy be to a line under the new names what the first is to the line itself.
It splits the copy into the copies of the words, with the same caret at every
position, leaves the new name of the same quote open, and answers every query
alike.  Configurations whose characters differ in order alone cannot be told
apart by any split, report or query. -/
theorem split_renamed :
    (∀ (rename : Char → Char) (source image : Policy) (line : Text),
      Renames rename source image line →
      (∀ position, image.split (line.map rename) position =
        (source.split line position).rename rename) ∧
      image.openAtEnd (line.map rename) =
        (source.openAtEnd line).map rename ∧
      ∀ pos,
        image.isEscaped (line.map rename) pos = source.isEscaped line pos ∧
        image.isActiveEscape (line.map rename) pos =
          source.isActiveEscape line pos ∧
        image.isActiveQuote (line.map rename) pos =
          source.isActiveQuote line pos ∧
        image.isSeparator (line.map rename) pos =
          source.isSeparator line pos) ∧
    ∀ (policy : Policy) (config : Config),
      config.quotes.Perm policy.config.quotes →
      config.escapes.Perm policy.config.escapes → ∀ line,
        (∀ position, { policy with config }.scan line position =
          policy.scan line position) ∧
        ∀ pos,
          { policy with config }.isEscaped line pos =
            policy.isEscaped line pos ∧
          { policy with config }.isActiveEscape line pos =
            policy.isActiveEscape line pos ∧
          { policy with config }.isActiveQuote line pos =
            policy.isActiveQuote line pos ∧
          { policy with config }.isSeparator line pos =
            policy.isSeparator line pos := by
  refine ⟨fun rename source image line h => ⟨h.split_map,
    h.openAtEnd_map line, fun pos => ⟨h.isEscaped_map line pos,
      h.isActiveEscape_map line pos, h.isActiveQuote_map line pos,
      h.isSeparator_map pos⟩⟩, fun policy config hquotes hescapes line => ?_⟩
  have h := renames_id_of_perm policy hquotes hescapes line
  have hline : line.map id = line := List.map_id line
  have hroles := h.roles_map
  have hseparator := h.isSeparator_map
  rw [hline] at hroles hseparator
  exact ⟨scan_congr h.toRenames line hroles.symm, fun pos =>
    ⟨isEscaped_congr h.toRenames line pos,
      isActiveEscape_congr h.toRenames line pos,
      isActiveQuote_congr h.toRenames line pos, (hseparator pos).symm⟩⟩

/-- The double quote and the bar trade names, and so do the backslash and the
caret sign. -/
def barNames : Char → Char := Equiv.swap '"' '|' ∘ Equiv.swap '\\' '^'

/-- The standard policy under these names, with its quotes in the other order. -/
def barred : Policy where
  config := {
    quotes := ['|', '\x27']
    escapes := ['^']
    quotes_nodup := by simp
    escapes_nodup := by simp
    disjoint := by simp }

/-- A line with a block, an escaped quote and a quote left open at its end, and
its copy with the bar and the caret sign. -/
theorem split_renamed_bar :
    Renames barNames {} barred "a\"b \\\"c\"'".toList ∧
      ("a\"b \\\"c\"'".toList).map barNames = "a|b ^|c|'".toList ∧
      barred.split "a|b ^|c|'".toList 7 =
        ⟨["ab |c".toList], some ⟨0, 5⟩, 7⟩ ∧
      barred.openAtEnd "a|b ^|c|'".toList = some '\x27' := by
  have hinjective : Function.Injective barNames :=
    (Equiv.injective _).comp (Equiv.injective _)
  have hquotes : Config.standard.quotes.map barNames = ['\x27', '|'] := by
    decide
  have hescapes : Config.standard.escapes.map barNames = ['^'] := by decide
  have h : Renames barNames {} barred "a\"b \\\"c\"'".toList := {
    injective := hinjective
    quotes := fun c => by
      rw [← List.mem_map_of_injective hinjective, hquotes]
      simp [barred, or_comm]
    escapes := fun c => by
      rw [← List.mem_map_of_injective hinjective, hescapes]
      rfl
    cuts := by decide }
  have hcopy : ("a\"b \\\"c\"'".toList).map barNames =
      "a|b ^|c|'".toList := by decide
  obtain ⟨hsplit, hopen, -⟩ := split_renamed.1 barNames {} barred _ h
  rw [hcopy] at hsplit hopen
  exact ⟨h, hcopy, (hsplit 7).trans (by decide), hopen.trans (by decide)⟩

end Policy

end PromptLine
