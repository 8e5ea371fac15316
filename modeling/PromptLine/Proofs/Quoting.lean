/-
Words written between quotes are read back.

* `Config.Block`: a word written between two quotes, with an escape before
  each quote of that kind and before each escape in it;
* `Draft.readOn_quoted`, `Draft.readOn_block`: reading such a block adds its
  word, whatever separates words, and leaves nothing behind: a closing quote
  does not escape the next opening one;
* `Draft.readOn_blocks`: hence blocks in a row are read as their words;
* `Policy.split_blocks`: **a line of such blocks splits into the words
  written**, and a caret on a closing quote stands at the end of its word.
-/
import Mathlib.Data.List.Forall2
import PromptLine.Proofs.Writing

namespace PromptLine

/-- The block writes the word between two quotes, with `e` before some of its
characters, and before every such quote and every escape. -/
def Config.Block (config : Config) (quote e : Char) (word block : Text) :
    Prop :=
  ∃ text, Escape.Written e
      (fun c => c = quote ∨ config.isEscape c = true) word text ∧
    block = quote :: (text ++ [quote])

/-- The position of the last character of block number `j`. -/
def closingPlace (blocks : List Text) (j : Nat) : Nat :=
  (blocks.take (j + 1)).flatten.length - 1

namespace Reading

variable {config : Config} {quote : Char}

lemma role_opener (hquote : config.isQuote quote = true) (cuts : Bool) :
    Reading.role {} config cuts quote = .opener := by
  simp [role, hquote]

lemma role_closer (config : Config) (quote : Char) (cuts : Bool) :
    Reading.role { openQuote := some quote } config cuts quote =
      .closer := by
  simp [role]

lemma pass_opener (hquote : config.isQuote quote = true) :
    Reading.pass {} config quote = { openQuote := some quote } :=
  pass_of_isEscape_eq_false config (role_opener hquote false)
    (config.isEscape_eq_false_of_isQuote hquote)

lemma pass_closer (hquote : config.isQuote quote = true) :
    Reading.pass { openQuote := some quote } config quote = {} :=
  pass_of_isEscape_eq_false config (role_closer config quote false)
    (config.isEscape_eq_false_of_isQuote hquote)

/-- In a block an escape is dropped. -/
lemma role_escape_inside {e : Char} (hquote : config.isQuote quote = true)
    (he : config.isEscape e = true) (cuts : Bool) :
    Reading.role { openQuote := some quote } config cuts e = .dropped := by
  have hne : e ≠ quote := by
    rintro rfl
    rw [config.isQuote_eq_false_of_isEscape he] at hquote
    exact Bool.false_ne_true hquote
  simp [role, plainRole_rested, hne, he]

/-- In a block a character that is neither its quote nor an escape is
text. -/
lemma role_plain_inside {c : Char}
    (hc : ¬ (c = quote ∨ config.isEscape c = true)) (cuts : Bool) :
    Reading.role { openQuote := some quote } config cuts c = .text := by
  obtain ⟨hne, hescape⟩ := not_or.mp hc
  simp [role, plainRole_rested, hne, hescape]

end Reading

namespace Draft

variable {config : Config} {quote e : Char}

/-- Up to its closing quote a block adds its word to the pending one. -/
lemma readOn_quoted (hquote : config.isQuote quote = true)
    (he : config.isEscape e = true) {word text : Text}
    (h : Escape.Written e (fun c => c = quote ∨ config.isEscape c = true)
      word text)
    (draft : Draft Char) (cuts : Nat → Bool) :
    draft.readOn config {} cuts (quote :: text) = draft.keepAll word ∧
      Reading.after {} config (quote :: text) =
        { openQuote := some quote } := by
  have hread := readOn_written { openQuote := some quote }
    (fun _ _ => True) rfl
    (fun cut _ => Reading.role_escape_inside hquote he cut)
    (fun c cut hc _ => Reading.role_plain_inside hc cut) h draft
    (fun k => cuts (k + 1)) (fun _ _ _ => trivial)
  rw [readOn_cons, Reading.after_cons, Reading.role_opener hquote,
    Reading.pass_opener hquote]
  exact hread

lemma readOn_block (hquote : config.isQuote quote = true)
    (he : config.isEscape e = true) {word block : Text}
    (h : config.Block quote e word block) (draft : Draft Char)
    (cuts : Nat → Bool) :
    draft.readOn config {} cuts block = (draft.keepAll word).close ∧
      Reading.after {} config block = {} := by
  obtain ⟨text, hwritten, rfl⟩ := h
  obtain ⟨hread, hafter⟩ := readOn_quoted hquote he hwritten draft cuts
  rw [← List.cons_append, readOn_append, Reading.after_append, hread, hafter,
    readOn_cons, Reading.after_cons, Reading.role_closer,
    Reading.pass_closer hquote]
  exact ⟨rfl, rfl⟩

/-- Blocks in a row are read as their words. -/
lemma readOn_blocks (hquote : config.isQuote quote = true)
    (he : config.isEscape e = true) {words blocks : List Text}
    (h : List.Forall₂ (config.Block quote e) words blocks)
    (cuts : Nat → Bool) :
    Draft.readOn {} config {} cuts blocks.flatten =
        Draft.onto {} words ∧
      Reading.after {} config blocks.flatten = {} := by
  induction h generalizing cuts with
  | nil => exact ⟨rfl, rfl⟩
  | @cons word block words blocks hblock _ ih =>
      have hfirst : (Draft.keepAll {} word).close = Draft.onto {} [word] := by
        simp [keepAll, close, onto]
      obtain ⟨hread, hafter⟩ := readOn_block hquote he hblock {} cuts
      obtain ⟨hrest, hend⟩ := ih fun k => cuts (block.length + k)
      rw [List.flatten_cons, readOn_append, Reading.after_append, hread,
        hafter, hfirst, readOn_onto, hrest, onto_onto]
      exact ⟨rfl, hend⟩

end Draft

/-! ### Lines of blocks -/

/-- The line before the closing quote of block number `j` ends in that block,
and the closing quote follows. -/
lemma exists_flatten_eq {config : Config} {quote e : Char}
    {words blocks : List Text}
    (h : List.Forall₂ (config.Block quote e) words blocks) {j : Nat}
    {word : Text} (hword : words[j]? = some word) :
    ∃ text rest, Escape.Written e
        (fun c => c = quote ∨ config.isEscape c = true) word text ∧
      blocks.flatten =
        ((blocks.take j).flatten ++ quote :: text) ++ quote :: rest ∧
      closingPlace blocks j =
        ((blocks.take j).flatten ++ quote :: text).length := by
  obtain ⟨hj, rfl⟩ := List.getElem?_eq_some_iff.mp hword
  have hj' : j < blocks.length := h.length_eq ▸ hj
  obtain ⟨text, hwritten, hblock⟩ := (List.forall₂_iff_get.mp h).2 j hj hj'
  have hget : blocks[j] = quote :: (text ++ [quote]) := hblock
  have htake : (blocks.take (j + 1)).flatten =
      ((blocks.take j).flatten ++ quote :: text) ++ [quote] := by
    rw [List.take_add_one, List.getElem?_eq_getElem hj', hget]
    simp
  refine ⟨text, (blocks.drop (j + 1)).flatten, hwritten, ?_, ?_⟩
  · calc blocks.flatten
        = (blocks.take (j + 1)).flatten ++ (blocks.drop (j + 1)).flatten := by
          rw [← List.flatten_append, List.take_append_drop]
      _ = _ := by rw [htake, List.append_assoc, List.singleton_append]
  · rw [closingPlace, htake, List.length_append, List.length_singleton,
      Nat.add_sub_cancel]

namespace Policy

/-- **Words written between quotes are read back**, whatever separates words
and wherever the caret is; and a caret on the closing quote of a block stands
in its word, behind the last character. -/
theorem split_blocks (policy : Policy) {quote e : Char}
    (hquote : policy.config.isQuote quote = true)
    (he : policy.config.isEscape e = true) {words blocks : List Text}
    (h : List.Forall₂ (policy.config.Block quote e) words blocks) :
    (∀ position,
      (policy.split blocks.flatten position).words = words) ∧
    ∀ j word, words[j]? = some word →
      Text.char? blocks.flatten (closingPlace blocks j) = some quote ∧
      (policy.split blocks.flatten (closingPlace blocks j)).caret =
        some ⟨j, word.length⟩ := by
  constructor
  · intro position
    have hread := (Draft.readOn_blocks hquote he h
      (policy.separator.cuts blocks.flatten)).1
    rw [words_split, draftOf_eq_readOn, List.take_length, hread,
      Draft.finish_onto]
    exact List.append_nil words
  · intro j word hword
    have hj : j < words.length := (List.getElem?_eq_some_iff.mp hword).1
    obtain ⟨text, rest, hwritten, hline, hplace⟩ := exists_flatten_eq h hword
    have hle : closingPlace blocks j ≤ blocks.flatten.length := by
      rw [hplace, hline]
      exact (List.sublist_append_left _ _).length_le
    have hbefore := Draft.readOn_blocks hquote he (List.forall₂_take j h)
      (policy.separator.cuts blocks.flatten)
    have hinside := Draft.readOn_quoted hquote he hwritten
      (Draft.onto {} (words.take j)) fun k =>
        policy.separator.cuts blocks.flatten
          ((blocks.take j).flatten.length + k)
    constructor
    · rw [Text.char?, hplace, hline,
        List.getElem?_append_right (Nat.le_refl _), Nat.sub_self]
      rfl
    · rw [caret_split, if_pos hle, draftOf_eq_readOn]
      have htake : blocks.flatten.take (closingPlace blocks j) =
          (blocks.take j).flatten ++ quote :: text := by
        rw [hplace, hline, List.take_left]
      rw [htake, Draft.readOn_append, hbefore.1, hbefore.2, hinside.1]
      simp [Draft.caret, Draft.keepAll, Draft.onto, Nat.le_of_lt hj]

/-- A word with a quote in it, the empty word and an escape are read back,
and a caret on the second closing quote stands in the empty word. -/
theorem split_blocks_three :
    Config.standard.isQuote '"' = true ∧
      Config.standard.isEscape '\\' = true ∧
      List.Forall₂ (Config.standard.Block '"' '\\')
        ["a\"".toList, [], ['\\']]
        ["\"a\\\"\"".toList, "\"\"".toList, "\"\\\\\"".toList] ∧
      (∀ position,
        (split {} "\"a\\\"\"\"\"\"\\\\\"".toList position).words =
          ["a\"".toList, [], ['\\']]) ∧
      (split {} "\"a\\\"\"\"\"\"\\\\\"".toList 6).caret =
        some ⟨1, 0⟩ := by
  have hblocks : List.Forall₂ (Config.standard.Block '"' '\\')
      ["a\"".toList, [], ['\\']]
      ["\"a\\\"\"".toList, "\"\"".toList, "\"\\\\\"".toList] :=
    .cons ⟨"a\\\"".toList, .plain (by decide) (.escaped .nil), rfl⟩
      (.cons ⟨[], .nil, rfl⟩
        (.cons ⟨"\\\\".toList, .escaped .nil, rfl⟩ .nil))
  have hquote : Config.standard.isQuote '"' = true := by decide
  have hescape : Config.standard.isEscape '\\' = true := by decide
  obtain ⟨hwords, hcaret⟩ := split_blocks {} hquote hescape hblocks
  exact ⟨hquote, hescape, hblocks, hwords, (hcaret 1 [] rfl).2⟩

end Policy

end PromptLine
