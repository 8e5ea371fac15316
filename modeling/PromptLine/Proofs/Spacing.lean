/-
Words written with escapes and set apart by separators are read back.

* `Separator.LooksAt`: the rule judges a character by its class alone, so the
  verdicts on a line are those of the class (`Text.Judged`), in each of its
  parts;
* `Config.Gap`, `Config.Special`: text of nothing but separating characters,
  and the characters that have to be escaped in a word that stands unquoted;
* `Config.Spaced`: the ways of writing words with a gap between any two;
* `Draft.readOn_unquoted`, `Draft.readOn_gap`: a word written so adds to the
  pending one, and a gap completes it (`Draft.behindGap`); neither leaves
  anything open or escaped;
* `Draft.readOn_spaced`: hence words in a row are read one by one;
* `Policy.split_spaced`: **a line of such words splits into the words
  written**, and leaves no quote open.
-/
import PromptLine.Proofs.Writing

namespace PromptLine

/-! ### Verdicts by class -/

/-- The rule separates words at the characters of the class `p`, wherever they
stand. -/
def Separator.LooksAt (separator : Separator) (p : Char → Bool) : Prop :=
  ∀ line pos c, Text.char? line pos = some c → separator.cuts line pos = p c

lemma Separator.looksAt_ofChar (p : Char → Bool) : (ofChar p).LooksAt p := by
  intro line pos c hchar
  rw [cuts_ofChar, Text.holdsAt, hchar, Option.any_some]

namespace Text

variable {p : Char → Bool} {cuts : Nat → Bool}

/-- The verdicts on the characters of a text are those of the class `p`. -/
def Judged (text : Text) (p : Char → Bool) (cuts : Nat → Bool) : Prop :=
  ∀ k c, text[k]? = some c → cuts k = p c

lemma Judged.head {c : Char} {rest : Text}
    (h : Judged (c :: rest) p cuts) : cuts 0 = p c :=
  h 0 c rfl

lemma Judged.tail {c : Char} {rest : Text}
    (h : Judged (c :: rest) p cuts) : Judged rest p fun k => cuts (k + 1) :=
  fun k => h (k + 1)

lemma Judged.left {a b : Text} (h : Judged (a ++ b) p cuts) :
    Judged a p cuts := by
  intro k c hchar
  refine h k c ?_
  rw [List.getElem?_append_left (List.getElem?_eq_some_iff.mp hchar).1, hchar]

lemma Judged.right {a b : Text} (h : Judged (a ++ b) p cuts) :
    Judged b p fun k => cuts (a.length + k) := by
  intro k c hchar
  refine h (a.length + k) c ?_
  rw [List.getElem?_append_right (Nat.le_add_right _ _),
    Nat.add_sub_cancel_left, hchar]

end Text

/-! ### Writing words with gaps -/

namespace Config

/-- The text has only separating characters without another meaning. -/
def Gap (config : Config) (p : Char → Bool) (gap : Text) : Prop :=
  ∀ c ∈ gap, p c = true ∧ config.isQuote c = false ∧
    config.isEscape c = false

/-- The character has a meaning outside of quotes. -/
def Special (config : Config) (p : Char → Bool) (c : Char) : Prop :=
  config.isQuote c = true ∨ config.isEscape c = true ∨ p c = true

instance (config : Config) (p : Char → Bool) (gap : Text) :
    Decidable (config.Gap p gap) :=
  decidable_of_iff
    (gap.all fun c => p c && !config.isQuote c && !config.isEscape c)
    (by simp [Gap, and_assoc])

instance (config : Config) (p : Char → Bool) (c : Char) :
    Decidable (config.Special p c) :=
  inferInstanceAs (Decidable (config.isQuote c = true ∨
    config.isEscape c = true ∨ p c = true))

/-- The text writes the words one after the other, none of them empty: with
`e` before every special character and perhaps before others, with a gap
between any two words, and perhaps with one at the end. -/
inductive Spaced (config : Config) (p : Char → Bool) (e : Char) :
    List Text → Text → Prop
  | nil {gap : Text} (hgap : config.Gap p gap) : Spaced config p e [] gap
  | cons {word text gap rest : Text} {words : List Text} (hne : word ≠ [])
      (hword : Escape.Written e (config.Special p) word text)
      (hgap : config.Gap p gap) (hapart : words ≠ [] → gap ≠ [])
      (h : Spaced config p e words rest) :
      Spaced config p e (word :: words) (text ++ gap ++ rest)

end Config

namespace Reading

variable {config : Config}

/-! ### Roles outside of quotes -/

lemma role_escape_outside {e : Char} (he : config.isEscape e = true) :
    Reading.role {} config false e = .dropped := by
  have hquote := config.isQuote_eq_false_of_isEscape he
  simp [role, plainRole_rested, hquote, he]

lemma role_plain_outside {c : Char} (hquote : config.isQuote c = false)
    (hescape : config.isEscape c = false) :
    Reading.role {} config false c = .text := by
  simp [role, plainRole_rested, hquote, hescape]

lemma role_separator_outside {c : Char} (hquote : config.isQuote c = false) :
    Reading.role {} config true c = .separator := by
  simp [role, hquote]

/-- Behind a separating character nothing is escaped, unless it escapes. -/
lemma pass_separator_outside {c : Char} (hquote : config.isQuote c = false)
    (hescape : config.isEscape c = false) : Reading.pass {} config c = {} :=
  pass_of_isEscape_eq_false config (role_separator_outside hquote) hescape

end Reading

namespace Draft

variable {config : Config} {p : Char → Bool} {e : Char}

/-! ### Reading words and gaps -/

/-- A word that stands unquoted adds to the pending one. -/
lemma readOn_unquoted (he : config.isEscape e = true) (hpe : p e = false)
    {word text : Text} (h : Escape.Written e (config.Special p) word text)
    (draft : Draft Char) {cuts : Nat → Bool}
    (hcuts : Text.Judged text p cuts) :
    draft.readOn config {} cuts text = draft.keepAll word ∧
      Reading.after {} config text = {} := by
  refine readOn_written {} (fun c cut => cut = p c) rfl ?_ ?_ h draft cuts
    hcuts
  · rintro _ rfl
    rw [hpe]
    exact Reading.role_escape_outside he
  · rintro c _ hc rfl
    obtain ⟨hquote, hescape, hp⟩ : config.isQuote c = false ∧
        config.isEscape c = false ∧ p c = false := by
      simpa [Config.Special] using hc
    rw [hp]
    exact Reading.role_plain_outside hquote hescape

/-- The draft behind a gap, which may be empty. -/
def behindGap (draft : Draft Char) (gap : Text) : Draft Char :=
  if gap = [] then draft else draft.cut

lemma behindGap_cut (draft : Draft Char) (gap : Text) :
    draft.cut.behindGap gap = draft.cut := by
  rw [behindGap, cut_cut, ite_self]

lemma pending_behindGap (draft : Draft Char) {gap : Text} (h : gap ≠ []) :
    (draft.behindGap gap).pending.toList = [] := by
  rw [behindGap, if_neg h, pending_cut]

lemma finish_behindGap (draft : Draft Char) (gap : Text) :
    (draft.behindGap gap).finish = draft.finish := by
  unfold behindGap
  split_ifs
  · rfl
  · exact finish_cut draft

/-- A gap completes the pending word. -/
lemma readOn_gap {gap : Text} (hgap : config.Gap p gap) (draft : Draft Char)
    {cuts : Nat → Bool} (hcuts : Text.Judged gap p cuts) :
    draft.readOn config {} cuts gap = draft.behindGap gap ∧
      Reading.after {} config gap = {} := by
  induction gap generalizing draft cuts with
  | nil => exact ⟨rfl, rfl⟩
  | cons c rest ih =>
      obtain ⟨hp, hquote, hescape⟩ := hgap c List.mem_cons_self
      obtain ⟨hread, hafter⟩ := ih
        (fun c hc => hgap c (List.mem_cons_of_mem _ hc)) draft.cut hcuts.tail
      rw [behindGap_cut] at hread
      rw [readOn_cons, Reading.after_cons, hcuts.head, hp,
        Reading.role_separator_outside hquote,
        Reading.pass_separator_outside hquote hescape]
      exact ⟨hread, hafter⟩

lemma finish_keepAll {draft : Draft Char} (h : draft.pending.toList = [])
    {word : Text} (hne : word ≠ []) :
    (draft.keepAll word).finish = draft.finish ++ [word] := by
  have hpending : (draft.keepAll word).pending.toList = word := by
    simp [keepAll, h]
  rw [finish_eq_append, finish_eq_append, hpending, if_neg hne, if_pos h,
    List.append_nil]
  rfl

/-- Words set apart by gaps are read one by one, provided that the first does
not run into a word before it. -/
lemma readOn_spaced (he : config.isEscape e = true) (hpe : p e = false)
    {words : List Text} {text : Text} (h : config.Spaced p e words text)
    (draft : Draft Char) (hnew : words ≠ [] → draft.pending.toList = [])
    {cuts : Nat → Bool} (hcuts : Text.Judged text p cuts) :
    (draft.readOn config {} cuts text).finish = draft.finish ++ words ∧
      Reading.after {} config text = {} := by
  induction h generalizing draft cuts with
  | nil hgap =>
      obtain ⟨hread, hafter⟩ := readOn_gap hgap draft hcuts
      rw [hread, finish_behindGap, List.append_nil]
      exact ⟨rfl, hafter⟩
  | @cons word text gap rest words hne hword hgap hapart _ ih =>
      obtain ⟨hread, hafter⟩ :=
        readOn_unquoted he hpe hword draft hcuts.left.left
      obtain ⟨hread', hafter'⟩ :=
        readOn_gap hgap (draft.keepAll word) hcuts.left.right
      -- the next word finds nothing pending, because a gap goes before it
      have hnext : words ≠ [] →
          ((draft.keepAll word).behindGap gap).pending.toList = [] :=
        fun hwords => pending_behindGap _ (hapart hwords)
      have hfirst := finish_keepAll (hnew (List.cons_ne_nil _ _)) hne
      have hbetween : Reading.after {} config (text ++ gap) = {} := by
        rw [Reading.after_append, hafter, hafter']
      obtain ⟨hrest, hend⟩ := ih _ hnext hcuts.right
      constructor
      · rw [readOn_append, hbetween, readOn_append, hread, hafter, hread',
          hrest, finish_behindGap, hfirst, List.append_assoc]
        rfl
      · rw [Reading.after_append, hbetween, hend]

end Draft

namespace Policy

/-- **Words written with escapes and set apart by separators are read back**,
wherever the caret is, and the report of the split says that no quote is left
open.  The rule has to look at the character alone, and the escape must not
separate words itself. -/
theorem split_spaced (policy : Policy) {p : Char → Bool}
    (hp : policy.separator.LooksAt p) {e : Char}
    (he : policy.config.isEscape e = true) (hpe : p e = false)
    {words : List Text} {lead text : Text} (hlead : policy.config.Gap p lead)
    (h : policy.config.Spaced p e words text) (position : Nat) :
    (policy.split (lead ++ text) position).words = words ∧
      (policy.scan (lead ++ text) position).events.map Event.quoteLeftOpen =
        [none] := by
  have hcuts : Text.Judged (lead ++ text) p
      (policy.separator.cuts (lead ++ text)) := hp (lead ++ text)
  obtain ⟨hread, hafter⟩ := Draft.readOn_gap hlead {} hcuts.left
  have hempty : Draft.behindGap {} lead = {} := ite_self _
  obtain ⟨hrest, hend⟩ := Draft.readOn_spaced he hpe h {} (fun _ => rfl)
    hcuts.right
  constructor
  · rw [words_split, draftOf_eq_readOn, List.take_length, Draft.readOn_append,
      hread, hempty, hafter, hrest]
    rfl
  · rw [quoteLeftOpen_scan, Reading.after_append, hafter, hend]

/-- An escaped blank stays in its word and an escaped quote opens no block,
with blanks in front, several between the words and one at the end. -/
theorem split_spaced_two :
    Separator.blank.LooksAt isBlank ∧
      Config.standard.isEscape '\\' = true ∧ isBlank '\\' = false ∧
      Config.standard.Gap isBlank [' '] ∧
      Config.standard.Spaced isBlank '\\' ["a b".toList, ['"']]
        "a\\ b  \\\" ".toList ∧
      (split {} " a\\ b  \\\" ".toList 3).words = ["a b".toList, ['"']] ∧
      (scan {} " a\\ b  \\\" ".toList 3).events.map Event.quoteLeftOpen =
        [none] := by
  have hlooks : Separator.blank.LooksAt isBlank :=
    Separator.looksAt_ofChar isBlank
  have hescape : Config.standard.isEscape '\\' = true := by decide
  have hblank : isBlank '\\' = false := by decide
  have hgap : Config.standard.Gap isBlank [' '] := by decide
  have hgap' : Config.standard.Gap isBlank [' ', ' '] := by decide
  have hnone : Config.standard.Gap isBlank [] := by decide
  have hfirst : Escape.Written '\\' (Config.standard.Special isBlank)
      "a b".toList "a\\ b".toList :=
    .plain (by decide) (.escaped (.plain (by decide) .nil))
  have hspaced : Config.standard.Spaced isBlank '\\' ["a b".toList, ['"']]
      "a\\ b  \\\" ".toList :=
    .cons (by simp) hfirst hgap' (by simp)
      (.cons (by simp) (.escaped .nil) hnone (by simp) (.nil hgap))
  exact ⟨hlooks, hescape, hblank, hgap, hspaced,
    split_spaced {} hlooks hescape hblank hgap hspaced 3⟩

end Policy

end PromptLine
