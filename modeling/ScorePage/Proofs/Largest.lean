import Mathlib.Data.List.Forall2
import Mathlib.Data.List.MinMax

/-! The first of the largest of some items. It stays what it is when the items are repeated, and when
smaller ones come before it or no larger ones behind it. -/
namespace ScorePage

inductive FirstMost {α : Type} (size : α → Nat) (item : α) : List α → Prop
  | here {others : List α} (most : ∀ other ∈ others, size other ≤ size item) :
      FirstMost size item (item :: others)
  | behind {other : α} {others : List α} (smaller : size other < size item)
      (rest : FirstMost size item others) : FirstMost size item (other :: others)

namespace FirstMost

variable {α β : Type} {size : α → Nat} {otherSize : β → Nat} {item : α} {items : List α}

theorem most (first : FirstMost size item items) : ∀ other ∈ items, size other ≤ size item := by
  induction first with
  | here most => exact List.forall_mem_cons.mpr ⟨Nat.le_refl _, most⟩
  | behind smaller rest ih => exact List.forall_mem_cons.mpr ⟨Nat.le_of_lt smaller, ih⟩

theorem mem (first : FirstMost size item items) : item ∈ items := by
  induction first with
  | here most => exact List.mem_cons_self
  | behind smaller rest ih => exact List.mem_cons_of_mem _ ih

theorem unique {other : α} (first : FirstMost size item items)
    (otherFirst : FirstMost size other items) : item = other := by
  induction first with
  | here most =>
    cases otherFirst with
    | here => rfl
    | behind smaller rest => exact absurd (most other rest.mem) (Nat.not_le_of_lt smaller)
  | behind smaller rest ih =>
    cases otherFirst with
    | here most => exact absurd (most item rest.mem) (Nat.not_le_of_lt smaller)
    | behind _ otherRest => exact ih otherRest

theorem prepend {before : List α} (smaller : ∀ other ∈ before, size other < size item)
    (first : FirstMost size item items) : FirstMost size item (before ++ items) := by
  induction before with
  | nil => exact first
  | cons other before ih =>
    obtain ⟨head, tail⟩ := List.forall_mem_cons.mp smaller
    exact .behind head (ih tail)

theorem map {f : β → α} {item : β} {items : List β} (first : FirstMost (size ∘ f) item items) :
    FirstMost size (f item) (items.map f) := by
  induction first with
  | here most => exact .here (List.forall_mem_map.mpr most)
  | behind smaller rest ih => exact .behind smaller ih

theorem ofArgmax (found : items.argmax size = some item) : FirstMost size item items := by
  induction items generalizing item with
  | nil => contradiction
  | cons other others ih =>
    rw [List.argmax_cons] at found
    cases rest : others.argmax size with
    | none =>
      rw [rest] at found
      cases found
      rw [List.argmax_eq_none.mp rest]
      exact .here (List.forall_mem_nil _)
    | some largest =>
      rw [rest] at found
      have first := ih rest
      by_cases larger : size other < size largest
      · cases (if_pos larger).symm.trans found
        exact .behind larger first
      · cases (if_neg larger).symm.trans found
        exact .here fun other member => Nat.le_trans (first.most other member) (Nat.le_of_not_lt larger)

theorem present (size : α → Nat) (some : items ≠ []) : ∃ item, FirstMost size item items := by
  obtain ⟨item, greatest⟩ :=
    Option.ne_none_iff_exists'.mp (mt (@List.argmax_eq_none _ _ _ _ size _).mp some)
  exact ⟨item, ofArgmax greatest⟩

theorem related {R : α → β → Prop} {others : List β} (first : FirstMost size item items)
    (paired : List.Forall₂ R items others)
    (sizes : ∀ item other, R item other → size item = otherSize other) :
    ∃ other, R item other ∧ FirstMost otherSize other others := by
  induction first generalizing others with
  | here most =>
    obtain ⟨other, rest, same, tail, rfl⟩ := List.forall₂_cons_left_iff.mp paired
    have sameSizes := tail.imp sizes
    rw [← List.forall₂_map_right_iff, ← List.forall₂_map_left_iff, List.forall₂_eq_eq_eq]
      at sameSizes
    refine ⟨other, same, .here fun next member => ?_⟩
    have listed : otherSize next ∈ rest.map otherSize := List.mem_map_of_mem member
    rw [← sameSizes] at listed
    obtain ⟨item, inside, equal⟩ := List.mem_map.mp listed
    rw [← equal, ← sizes _ _ same]
    exact most item inside
  | behind smaller rest ih =>
    obtain ⟨next, others, nextSame, tail, rfl⟩ := List.forall₂_cons_left_iff.mp paired
    obtain ⟨other, same, found⟩ := ih tail
    exact ⟨other, same, .behind (by rwa [← sizes _ _ nextSame, ← sizes _ _ same]) found⟩

theorem repeated {count : α → Nat} {value : α → β} (first : FirstMost (otherSize ∘ value) item items)
    (some : 1 ≤ count item) : FirstMost otherSize (value item)
      (items.flatMap fun item => List.replicate (count item) (value item)) := by
  induction first with
  | @here others most =>
    obtain ⟨further, enough⟩ := Nat.exists_eq_add_of_le' some
    rw [List.flatMap_cons, enough, List.replicate_succ, List.cons_append]
    refine .here fun other member => ?_
    rcases List.mem_append.mp member with copied | member
    · rw [List.eq_of_mem_replicate copied]
    · obtain ⟨source, inside, copied⟩ := List.mem_flatMap.mp member
      rw [List.eq_of_mem_replicate copied]
      exact most source inside
  | behind smaller rest ih =>
    refine .prepend (fun other copied => ?_) ih
    rw [List.eq_of_mem_replicate copied]
    exact smaller

end FirstMost
end ScorePage
