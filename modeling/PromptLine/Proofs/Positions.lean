/-
Lists told position by position.

* `eq_map_range`: a list with one entry for each position, told by the
  positions;
* `zip_map_range`: such entries beside the items of another list, found from
  its items with their positions;
* `filter_range_eq_map_succ`: the places of what is always found one place
  behind something else;
* `splitOnP_map`, `splitOnP_congr`: a list is cut where others that stand in the
  places of its items are cut, and where the verdicts on its items say.
-/
import Mathlib.Data.List.TakeDrop

namespace PromptLine

variable {α β : Type}

/-- A list is told by its length and by the entry at each position. -/
lemma eq_map_range {entries : List β} {n : Nat} {f : Nat → β}
    (hlength : entries.length = n) (h : ∀ k < n, entries[k]? = some (f k)) :
    entries = (List.range n).map f := by
  refine List.ext_getElem (by simpa using hlength) fun k hk _ => ?_
  have hget := h k (hlength ▸ hk)
  rw [List.getElem?_eq_getElem hk] at hget
  rw [Option.some.inj hget, List.getElem_map, List.getElem_range]

lemma zip_map_range (text : List α) (f : Nat → β) :
    ((List.range text.length).map f).zip text =
      text.zipIdx.map fun place => (f place.2, place.1) := by
  calc ((List.range text.length).map f).zip text
      = ((text.zipIdx.map Prod.snd).map f).zip (text.zipIdx.map Prod.fst) := by
        rw [List.zipIdx_map_snd, List.zipIdx_map_fst, List.range_eq_range']
    _ = text.zipIdx.map fun place => (f place.2, place.1) := by
        rw [List.map_map, List.zip_map']
        rfl

/-- Let one property hold of a place when another holds of the place before it,
and neither of the first place nor of the one behind the last.  Then it holds of
the places of the other, each moved on by one. -/
lemma filter_range_eq_map_succ {p q : Nat → Prop} [DecidablePred p]
    [DecidablePred q] {n : Nat} (hfirst : ¬ p 0) (hlast : ¬ p n)
    (hsucc : ∀ k, p (k + 1) ↔ q k) :
    (List.range n).filter (fun k => p k) =
      ((List.range n).filter fun k => q k).map (· + 1) := by
  have hshift : (fun k => decide (p k)) ∘ Nat.succ = fun k => decide (q k) :=
    funext fun k => decide_eq_decide.mpr (hsucc k)
  calc (List.range n).filter (fun k => p k)
      = (List.range (n + 1)).filter (fun k => p k) := by
        rw [List.range_succ, List.filter_append,
          List.filter_cons_of_neg (by simpa using hlast), List.filter_nil,
          List.append_nil]
    _ = ((List.range n).filter fun k => q k).map (· + 1) := by
        rw [List.range_succ_eq_map,
          List.filter_cons_of_neg (by simpa using hfirst), List.filter_map,
          hshift]

lemma splitOnP_map (f : α → β) (p : β → Bool) (items : List α) :
    (items.map f).splitOnP p =
      (items.splitOnP fun item => p (f item)).map (List.map f) := by
  induction items with
  | nil => rfl
  | cons item rest ih =>
      rw [List.map_cons, List.splitOnP_cons_eq_if_modifyHead,
        List.splitOnP_cons_eq_if_modifyHead, ih]
      by_cases h : p (f item) = true
      · rw [if_pos h, if_pos h, List.map_cons, List.map_nil]
      · rw [if_neg h, if_neg h]
        cases rest.splitOnP fun item => p (f item) <;> rfl

lemma splitOnP_congr {p q : α → Bool} {items : List α}
    (h : ∀ item ∈ items, p item = q item) :
    items.splitOnP p = items.splitOnP q := by
  induction items with
  | nil => rfl
  | cons item rest ih =>
      obtain ⟨hitem, hrest⟩ := List.forall_mem_cons.mp h
      rw [List.splitOnP_cons_eq_if_modifyHead,
        List.splitOnP_cons_eq_if_modifyHead, hitem, ih hrest]

end PromptLine
