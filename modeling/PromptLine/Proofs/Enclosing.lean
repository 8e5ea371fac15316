/-
What a block makes of the text in it, closed or left open.

* `Policy.Guarded`: no character of the text closes a block of the given quote,
  because it is escaped wherever it stands;
* `Policy.after_take_inside`: so the block stays open over the whole text, in
  which escapes count from its own start;
* `Draft.readOn_left_open`, `Draft.readOn_enclosed`: the block puts the text
  without its escapes at the end of the pending word, and a closing quote
  completes that word;
* `Policy.split_block`: **the block continues the text that is pending before
  it.  Left open it is the last word, if there is anything in it; closed it is
  a word even if there is nothing in it.**
-/
import PromptLine.Proofs.Quoting
import PromptLine.Proofs.Resumption
import PromptLine.Proofs.Stripping

namespace PromptLine

namespace Policy

/-- No character of the text closes a block of `quote`: where the text holds
that quote, it is escaped. -/
def Guarded (policy : Policy) (quote : Char) (inside : Text) : Prop :=
  ∀ k < inside.length, inside.char? k = some quote →
    policy.isEscaped inside k = true

instance (policy : Policy) (quote : Char) (inside : Text) :
    Decidable (policy.Guarded quote inside) :=
  inferInstanceAs (Decidable (∀ k < inside.length,
    inside.char? k = some quote → policy.isEscaped inside k = true))

variable {policy : Policy} {quote : Char} {inside : Text}

/-! ### Inside the block -/

lemma Guarded.not_closes (h : policy.Guarded quote inside) {k : Nat}
    (hk : k < inside.length) :
    (inside[k] == quote && !policy.isEscaped inside k) = false := by
  by_cases hc : inside[k] = quote
  · have hchar : inside.char? k = some quote := by
      rw [Text.char?, List.getElem?_eq_getElem hk, hc]
    rw [h k hk hchar, Bool.not_true, Bool.and_false]
  · rw [beq_eq_false_iff_ne.mpr hc, Bool.false_and]

/-- The block stays open over the first characters of a guarded text, and
escapes count from its start. -/
lemma after_take_inside (h : policy.Guarded quote inside) {k : Nat}
    (hk : k ≤ inside.length) :
    Reading.after { openQuote := some quote } policy.config (inside.take k) =
      { openQuote := some quote
        parity := ⟨policy.isEscaped inside k⟩ } := by
  induction k with
  | zero => rfl
  | succ k ih =>
      have hlt : k < inside.length := hk
      have htake : inside.take (k + 1) = inside.take k ++ [inside[k]] := by
        rw [List.take_add_one, List.getElem?_eq_getElem hlt,
          Option.toList_some]
      have hopen : (Reading.after { openQuote := some quote } policy.config
          (inside.take (k + 1))).openQuote = some quote := by
        rw [htake, Reading.after_append, ih (Nat.le_of_lt hlt),
          Reading.after_cons, Reading.after_nil, Reading.openQuote_pass]
        exact if_neg (Bool.eq_false_iff.mp (h.not_closes hlt))
      rw [← parity_after_take (some quote) hk]
      exact congrArg (fun openQuote => Reading.mk openQuote _) hopen

lemma after_inside (h : policy.Guarded quote inside) :
    Reading.after { openQuote := some quote } policy.config inside =
      { openQuote := some quote
        parity := ⟨policy.isEscaped inside inside.length⟩ } := by
  rw [← after_take_inside h (Nat.le_refl _), List.take_length]

/-- With the quote before it a guarded text leaves the block open. -/
lemma after_left_open (hquote : policy.config.isQuote quote = true)
    (h : policy.Guarded quote inside) :
    Reading.after {} policy.config (quote :: inside) =
      { openQuote := some quote
        parity := ⟨policy.isEscaped inside inside.length⟩ } := by
  rw [Reading.after_cons, Reading.pass_opener hquote, after_inside h]

/-- A guarded text between two quotes leaves nothing open, unless the second
one is escaped. -/
lemma after_enclosed (hquote : policy.config.isQuote quote = true)
    (h : policy.Guarded quote inside)
    (hend : policy.isEscaped inside inside.length = false) :
    Reading.after {} policy.config (quote :: (inside ++ [quote])) = {} := by
  rw [← List.cons_append, Reading.after_append, after_left_open hquote h,
    hend, Reading.after_cons, Reading.pass_closer hquote, Reading.after_nil]

/-- In the block a character is dropped or is text, as escapes in it say. -/
lemma roles_inside (h : policy.Guarded quote inside) (cuts : Nat → Bool) :
    Reading.roles policy.config { openQuote := some quote } cuts inside =
      (List.range inside.length).map (policy.plainRoleAt inside) := by
  refine eq_map_range (Reading.length_roles _ _ cuts inside) fun k hk => ?_
  rw [Reading.getElem?_roles, List.getElem?_eq_getElem hk, Option.map_some,
    after_take_inside h (Nat.le_of_lt hk), Reading.role]
  simp only [h.not_closes hk, plainRole_eq_plainRoleAt (some quote) hk]
  rfl

end Policy

namespace Draft

variable {policy : Policy} {quote : Char} {inside : Text}

/-- A block that is left open puts its text at the end of the pending word. -/
lemma readOn_left_open (hquote : policy.config.isQuote quote = true)
    (h : policy.Guarded quote inside) (draft : Draft Char)
    (cuts : Nat → Bool) :
    draft.readOn policy.config {} cuts (quote :: inside) =
      draft.keepAll (policy.strip inside) := by
  rw [readOn_cons, Reading.role_opener hquote, Reading.pass_opener hquote,
    readOn, Policy.roles_inside h, zip_map_range, addAll_plain]
  rfl

/-- A block that is closed puts its text at the end of the pending word and
completes that word. -/
lemma readOn_enclosed (hquote : policy.config.isQuote quote = true)
    (h : policy.Guarded quote inside)
    (hend : policy.isEscaped inside inside.length = false)
    (draft : Draft Char) (cuts : Nat → Bool) :
    draft.readOn policy.config {} cuts (quote :: (inside ++ [quote])) =
      (draft.keepAll (policy.strip inside)).close := by
  rw [← List.cons_append, readOn_append, readOn_left_open hquote h,
    Policy.after_left_open hquote h, hend, readOn_cons, Reading.role_closer,
    readOn_nil, add]

end Draft

namespace Policy

variable (policy : Policy)

/-! ### Behind another line -/

/-- Behind a line that leaves no quote open and escapes nothing, reading starts
afresh, on top of the text that is pending there. -/
lemma resumed_of_closed {a : Text} (hopen : policy.reportedQuote a = none)
    (hescaped : policy.isEscaped a a.length = false) (b : Text) :
    policy.resumed a b b.length =
      Draft.readOn { pending := (policy.pendingText a).toArray } policy.config
        {} (fun k => policy.separator.cuts (a ++ b) (a.length + k)) b := by
  rw [resumed, hopen, hescaped, List.take_length]

/-- Behind a line that leaves no quote open and escapes nothing, the quote left
open is the one that what is typed on leaves open on its own. -/
lemma quoteLeftOpen_append {a : Text} (hopen : policy.reportedQuote a = none)
    (hescaped : policy.isEscaped a a.length = false) (b : Text)
    (position : Nat) :
    (policy.scan (a ++ b) position).events.map Event.quoteLeftOpen =
      [(Reading.after {} policy.config b).openQuote] := by
  rw [quoteLeftOpen_scan, Reading.after_append, after_eq, hopen, hescaped]

/-- **A block continues the text that is pending before it.**  Let a line leave
no quote open and escape nothing behind it, and let a quote be typed there and
then a text that does not close the block.  The text, without its escapes, is
joined to what was pending; if that makes anything it is the last word, and the
quote is reported open.  If the last character of the text is no active escape
the same quote closes the block, and there is such a word even if it is empty;
then no quote is left open. -/
theorem split_block (policy : Policy) {before inside : Text} {quote : Char}
    (hopen : policy.reportedQuote before = none)
    (hescaped : policy.isEscaped before before.length = false)
    (hquote : policy.config.isQuote quote = true)
    (hinside : policy.Guarded quote inside) :
    (policy.separator.Settled before (quote :: inside) → ∀ position,
      (policy.split (before ++ quote :: inside) position).words =
        policy.completedWords before ++
          (if policy.pendingText before ++ policy.strip inside = [] then []
            else [policy.pendingText before ++ policy.strip inside]) ∧
      (policy.scan (before ++ quote :: inside) position).events.map
        Event.quoteLeftOpen = [some quote]) ∧
    (policy.isEscaped inside inside.length = false →
      policy.separator.Settled before (quote :: (inside ++ [quote])) →
      ∀ position,
      (policy.split (before ++ quote :: (inside ++ [quote])) position).words =
        policy.completedWords before ++
          [policy.pendingText before ++ policy.strip inside] ∧
      (policy.scan (before ++ quote :: (inside ++ [quote])) position).events.map
        Event.quoteLeftOpen = [none]) := by
  have hpending : ∀ items : Text,
      (Draft.keepAll { pending := (policy.pendingText before).toArray }
        items).pending.toList = policy.pendingText before ++ items := by
    simp [Draft.keepAll]
  constructor
  · intro hsettled position
    rw [words_split_append policy hsettled,
      resumed_of_closed policy hopen hescaped,
      Draft.readOn_left_open hquote hinside, Draft.finish_eq_append, hpending,
      quoteLeftOpen_append policy hopen hescaped,
      after_left_open hquote hinside]
    exact ⟨rfl, rfl⟩
  · intro hend hsettled position
    rw [words_split_append policy hsettled,
      resumed_of_closed policy hopen hescaped,
      Draft.readOn_enclosed hquote hinside hend, Draft.finish_close, hpending,
      quoteLeftOpen_append policy hopen hescaped,
      after_enclosed hquote hinside hend]
    exact ⟨rfl, rfl⟩

/-- A block behind a letter continues its word, and neither the blank nor the
escaped quote in it ends that word.  With nothing pending and nothing in it the
block is a word only when it is closed. -/
theorem split_block_joined :
    reportedQuote {} "x a".toList = none ∧
      isEscaped {} "x a".toList 3 = false ∧
      Config.standard.isQuote '"' = true ∧
      Guarded {} '"' " \\\"'".toList ∧
      isEscaped {} " \\\"'".toList 4 = false ∧
      (∀ position, (scan {} ("x a".toList ++ '"' :: " \\\"'".toList)
        position).events.map Event.quoteLeftOpen = [some '"']) ∧
      (∀ position,
        (split {} ("x a".toList ++ '"' :: (" \\\"'".toList ++ ['"']))
          position).words = [['x'], "a \"'".toList]) ∧
      (∀ position,
        (split {} ("x ".toList ++ ['"']) position).words = [['x']]) ∧
      ∀ position,
        (split {} ("x ".toList ++ ['"', '"']) position).words =
          [['x'], []] := by
  have hquote : Config.standard.isQuote '"' = true := by decide
  have hguarded : Guarded {} '"' " \\\"'".toList := by decide
  have hopen : reportedQuote {} "x a".toList = none := by decide
  have hescaped : isEscaped {} "x a".toList 3 = false := by decide
  have hend : isEscaped {} " \\\"'".toList 4 = false := by decide
  have hsettled : ∀ a b, Separator.blank.Settled a b :=
    Separator.settled_ofChar isBlank
  obtain ⟨hleft, hclosed⟩ := split_block {} hopen hescaped hquote hguarded
  obtain ⟨hnone, hempty⟩ := @split_block {} "x ".toList [] '"'
    (by decide) (by decide) hquote (by decide)
  exact ⟨hopen, hescaped, hquote, hguarded, hend,
    fun position => (hleft (hsettled _ _) position).2,
    fun position => (hclosed hend (hsettled _ _) position).1.trans
      (by decide),
    fun position => (hnone (hsettled _ _) position).1.trans (by decide),
    fun position => (hempty rfl (hsettled _ _) position).1.trans
      (by decide)⟩

end Policy

end PromptLine
