/-
Which characters the choice of a separator can reach.

* `Policy.Exposed`: no block is open before a character, and the character is
  neither escaped nor a quote;
* `Policy.roles_eq_iff`: two policies with the same quotes and escapes agree in
  everything that these decide (`Proofs/Naming`), so they give a line the same
  roles exactly when their separators agree on its exposed characters;
* `Policy.scan_eq_of_exposed`: **separators that agree on the exposed
  characters split a line alike, whatever they say of the others**.
-/
import PromptLine.Proofs.Naming

namespace PromptLine

namespace Policy

variable {policy first second : Policy} {text : Text} {pos : Nat}

/-- The character at `pos` stands outside any block, is not escaped and does
not quote. -/
structure Exposed (policy : Policy) (line : Text) (pos : Nat) : Prop where
  outside : policy.openBefore line pos = none
  unescaped : policy.isEscaped line pos = false
  unquoting : policy.isActiveQuote line pos = false

instance (policy : Policy) (line : Text) (pos : Nat) :
    Decidable (policy.Exposed line pos) :=
  decidable_of_iff
    (policy.openBefore line pos = none ∧ policy.isEscaped line pos = false ∧
      policy.isActiveQuote line pos = false)
    ⟨fun ⟨houtside, hescaped, hquote⟩ => ⟨houtside, hescaped, hquote⟩,
      fun h => ⟨h.outside, h.unescaped, h.unquoting⟩⟩

lemma Exposed.congr (hsame : first.config.Renames id second.config)
    (h : first.Exposed text pos) : second.Exposed text pos where
  outside := (openBefore_congr hsame text pos).symm.trans h.outside
  unescaped := (isEscaped_congr hsame text pos).symm.trans h.unescaped
  unquoting := (isActiveQuote_congr hsame text pos).symm.trans h.unquoting

/-- An exposed character separates words when the separator cuts there. -/
lemma Exposed.roleAt_eq_separator_iff (h : policy.Exposed text pos)
    (hpos : pos < text.length) :
    policy.roleAt text pos = .separator ↔
      policy.separator.cuts text pos = true := by
  have hplain : policy.plainRoleAt text pos ≠ .separator := by
    unfold plainRoleAt
    split_ifs <;> simp
  rw [roleAt, h.outside, h.unquoting, isSeparator_of_lt hpos, h.unescaped]
  cases policy.separator.cuts text pos <;> simp [hplain]

lemma isSeparator_eq_false_of_isEscaped
    (h : policy.isEscaped text pos = true) :
    policy.isSeparator text pos = false := by
  rw [isSeparator, h, Bool.not_true, Bool.and_false, Bool.false_and]

/-- The role of a character is the same under separators that agree on it if
it is exposed. -/
lemma roleAt_congr (hsame : first.config.Renames id second.config)
    (hpos : pos < text.length)
    (hagree : first.Exposed text pos →
      first.separator.cuts text pos = second.separator.cuts text pos) :
    first.roleAt text pos = second.roleAt text pos := by
  rw [roleAt, roleAt, ← openBefore_congr hsame,
    ← isActiveQuote_congr hsame, ← isEscaped_congr hsame,
    ← plainRoleAt_congr hsame]
  cases hopen : first.openBefore text pos with
  | some quote => rfl
  | none =>
      cases hquote : first.isActiveQuote text pos with
      | true => rfl
      | false =>
          cases hescaped : first.isEscaped text pos with
          | true =>
              have hescaped' : second.isEscaped text pos = true := by
                rw [← isEscaped_congr hsame, hescaped]
              rw [isSeparator_eq_false_of_isEscaped hescaped,
                isSeparator_eq_false_of_isEscaped hescaped']
          | false =>
              rw [isSeparator_of_lt hpos, isSeparator_of_lt hpos,
                ← isEscaped_congr hsame,
                hagree ⟨hopen, hescaped, hquote⟩]

/-- **Two policies with the same quotes and escapes give a line the same roles
exactly when their separators agree on its exposed characters.** -/
lemma roles_eq_iff (hsame : first.config.Renames id second.config) :
    first.roles text = second.roles text ↔
      ∀ pos < text.length, first.Exposed text pos →
        first.separator.cuts text pos = second.separator.cuts text pos := by
  rw [roles_eq_map_roleAt, roles_eq_map_roleAt, List.map_inj_left]
  constructor
  · intro hroles pos hpos hexposed
    have hexposed' : second.Exposed text pos := hexposed.congr hsame
    rw [Bool.eq_iff_iff, ← hexposed.roleAt_eq_separator_iff hpos,
      hroles pos (List.mem_range.mpr hpos),
      hexposed'.roleAt_eq_separator_iff hpos]
  · intro hagree pos hpos
    have hlt : pos < text.length := List.mem_range.mp hpos
    exact roleAt_congr hsame hlt (hagree pos hlt)

/-- **A separator cannot reach what is quoted, what is escaped, or what
quotes.**  Let two policies have one configuration, and let their separators
agree wherever no block is open and the character is neither escaped nor a
quote.  They find the same words and the same caret in the line, and report the
same, the quote left open included.  An escaped character is no separator for
either. -/
theorem scan_eq_of_exposed (first second : Policy) (line : Text)
    (hconfig : first.config = second.config)
    (hagree : ∀ pos < line.length, first.Exposed line pos →
      first.separator.cuts line pos = second.separator.cuts line pos) :
    (∀ position,
      first.split line position = second.split line position ∧
      (first.scan line position).events =
        (second.scan line position).events) ∧
    ∀ pos, first.isEscaped line pos = true →
      first.isSeparator line pos = false ∧
        second.isSeparator line pos = false := by
  have hsame : first.config.Renames id second.config := .of_eq hconfig
  have hroles : first.roles line = second.roles line :=
    (roles_eq_iff hsame).mpr hagree
  refine ⟨fun position => ?_, fun pos hescaped => ⟨?_, ?_⟩⟩
  · have hscan := scan_congr hsame line hroles position
    rw [split, split, hscan]
    exact ⟨rfl, rfl⟩
  · exact isSeparator_eq_false_of_isEscaped hescaped
  · rw [isEscaped_congr hsame] at hescaped
    exact isSeparator_eq_false_of_isEscaped hescaped

end Policy

/-- Every character separates words, save those at the given positions. -/
def Separator.sparing (spared : List Nat) : Separator where
  separates _ pos := !spared.contains pos

namespace Policy

/-- A separator that cuts everywhere but at the letter in front and at the
escape splits this line as blanks do: all else is in the block, at its quotes
or behind the escape. -/
theorem scan_eq_of_exposed_block :
    (∀ pos < 9, Exposed {} "a 'b c'\\ ".toList pos →
      Separator.blank.cuts "a 'b c'\\ ".toList pos =
        (Separator.sparing [0, 7]).cuts "a 'b c'\\ ".toList pos) ∧
      (Separator.sparing [0, 7]).cuts "a 'b c'\\ ".toList 3 = true ∧
      (∀ position, split {} "a 'b c'\\ ".toList position =
        split { separator := .sparing [0, 7] } "a 'b c'\\ ".toList position) ∧
      isEscaped {} "a 'b c'\\ ".toList 8 = true ∧
      isSeparator { separator := .sparing [0, 7] } "a 'b c'\\ ".toList 8 =
        false := by
  have hagree : ∀ pos < 9, Exposed {} "a 'b c'\\ ".toList pos →
      Separator.blank.cuts "a 'b c'\\ ".toList pos =
        (Separator.sparing [0, 7]).cuts "a 'b c'\\ ".toList pos := by decide
  have hescaped : isEscaped {} "a 'b c'\\ ".toList 8 = true := by decide
  obtain ⟨hsplit, hnot⟩ := scan_eq_of_exposed {}
    { separator := .sparing [0, 7] } "a 'b c'\\ ".toList rfl hagree
  exact ⟨hagree, by decide, fun position => (hsplit position).1, hescaped,
    (hnot 8 hescaped).2⟩

end Policy

end PromptLine
