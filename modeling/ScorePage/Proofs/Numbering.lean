import ScorePage.Layout
import ScorePage.Proofs.Result

/-! The numbering of staves. Going through a layout uses up one number for each staff, in order and
without a gap, and fails only for want of numbers. The groups stay as they are nested. -/
namespace ScorePage.Layout

theorem stavesLeaf (count : Nat) (rest : Layout) :
    staves (.leaf count rest) = count + staves rest := rfl

theorem stavesNested (inner rest : Layout) :
    staves (.nested inner rest) = staves inner + staves rest := by
  simp only [staves, Nest.leaves, ← List.sum_eq_foldr, List.sum_append]

theorem rowLeaves (numbers : List Nat) (group : StaffGroup) :
    (numbers.foldr Nest.leaf group).leaves = numbers ++ group.leaves := by
  induction numbers with
  | nil => rfl
  | cons number numbers ih => rw [List.foldr_cons, Nest.leaves, ih, List.cons_append]

theorem prependStavesInRow (before count : Nat) (group : StaffGroup) :
    prependStaves before count group = (List.range' (before + 1) count).foldr .leaf group := by
  induction count generalizing before with
  | zero => rfl
  | succ count ih => rw [prependStaves, ih, List.range'_succ, List.foldr_cons]

theorem prependNumbers (before count : Nat) (group : StaffGroup) :
    (prependStaves before count group).leaves =
      List.range' (before + 1) count ++ group.leaves := by
  rw [prependStavesInRow, rowLeaves]

theorem numberLeaf {before count last : Nat} {rest : Layout} {group : StaffGroup} :
    number before (.leaf count rest) = some (group, last) ↔ before + count ≤ lastStaffNumber ∧
      ∃ others, number (before + count) rest = some (others, last) ∧
        group = prependStaves before count others := by
  rw [number]
  by_cases fits : before + count ≤ lastStaffNumber
  · rw [if_pos fits, Option.map_eq_some_iff]
    constructor
    · rintro ⟨⟨others, final⟩, found, same⟩
      cases same
      exact ⟨fits, others, found, rfl⟩
    · rintro ⟨-, others, found, rfl⟩
      exact ⟨(others, last), found, rfl⟩
  · simp [fits]

theorem numberNested {before last : Nat} {inner rest : Layout} {group : StaffGroup} :
    number before (.nested inner rest) = some (group, last) ↔
      ∃ child next others, number before inner = some (child, next) ∧
        number next rest = some (others, last) ∧ group = .nested child others := by
  simp only [number, bind, Option.bind_eq_some_iff, Prod.exists, Option.some.injEq, Prod.mk.injEq]
  constructor
  · rintro ⟨child, next, first, others, _, second, rfl, rfl⟩
    exact ⟨child, next, others, first, second, rfl⟩
  · rintro ⟨child, next, others, first, second, rfl⟩
    exact ⟨child, next, first, others, last, second, rfl, rfl⟩

theorem numberConsecutive {before : Nat} {layout : Layout} {group : StaffGroup} {last : Nat}
    (numbered : layout.number before = some (group, last)) :
    last = before + layout.staves ∧ group.numbers = List.range' (before + 1) layout.staves := by
  induction layout generalizing before group last with
  | nil =>
    cases Option.some.inj numbered
    exact ⟨rfl, rfl⟩
  | leaf count rest ih =>
    obtain ⟨-, others, found, rfl⟩ := numberLeaf.mp numbered
    obtain ⟨rfl, numbers⟩ := ih found
    rw [StaffGroup.numbers] at numbers ⊢
    rw [prependNumbers, numbers, stavesLeaf, ← List.range'_append_1]
    exact ⟨by omega, by rw [Nat.add_right_comm before 1 count]⟩
  | nested inner rest innerIh restIh =>
    obtain ⟨child, next, others, first, second, rfl⟩ := numberNested.mp numbered
    obtain ⟨rfl, childNumbers⟩ := innerIh first
    obtain ⟨rfl, otherNumbers⟩ := restIh second
    rw [StaffGroup.numbers] at childNumbers otherNumbers ⊢
    rw [Nest.leaves, childNumbers, otherNumbers, stavesNested, ← List.range'_append_1]
    exact ⟨by omega, by rw [Nat.add_right_comm before 1 (staves inner)]⟩

theorem numberable {before : Nat} {layout : Layout}
    (enough : before + layout.staves ≤ lastStaffNumber) :
    ∃ group, layout.number before = some (group, before + layout.staves) := by
  induction layout generalizing before with
  | nil => exact ⟨.nil, rfl⟩
  | leaf count rest ih =>
    rw [stavesLeaf, ← Nat.add_assoc] at enough ⊢
    obtain ⟨group, found⟩ := ih enough
    have fits : before + count ≤ lastStaffNumber := by omega
    exact ⟨_, by rw [number, if_pos fits, found, Option.map_some]⟩
  | nested inner rest innerIh restIh =>
    rw [stavesNested, ← Nat.add_assoc] at enough ⊢
    obtain ⟨child, first⟩ := innerIh (Nat.le_trans (Nat.le_add_right _ _) enough)
    obtain ⟨others, second⟩ := restIh enough
    exact ⟨.nested child others, by simp [number, first, second]⟩

theorem numberWithin {before : Nat} (room : before ≤ lastStaffNumber) {layout : Layout}
    {group : StaffGroup} {last : Nat} (numbered : layout.number before = some (group, last)) :
    last ≤ lastStaffNumber := by
  induction layout generalizing before group last with
  | nil =>
    cases Option.some.inj numbered
    exact room
  | leaf count rest ih =>
    obtain ⟨fits, others, found, -⟩ := numberLeaf.mp numbered
    exact ih fits found
  | nested inner rest innerIh restIh =>
    obtain ⟨child, next, others, first, second, -⟩ := numberNested.mp numbered
    exact restIh (innerIh room first) second

theorem numberNone {before : Nat} (room : before ≤ lastStaffNumber) {layout : Layout} :
    layout.number before = none ↔ lastStaffNumber < before + layout.staves := by
  constructor
  · intro none
    refine Nat.lt_of_not_le fun enough => ?_
    obtain ⟨group, numbered⟩ := numberable enough
    rw [none] at numbered
    contradiction
  · intro tooMany
    cases numbered : layout.number before with
    | none => rfl
    | some found =>
      have within := numberWithin room numbered
      rw [(numberConsecutive numbered).1] at within
      omega

/- Groups that are nested as a layout is: a count stands for so many staves side by side, none when
it is zero, and a group for a group. -/
inductive Shaped : Layout → StaffGroup → Prop where
  | nil : Shaped .nil .nil
  | staves {rest others} (numbers : List Nat) (tail : Shaped rest others) :
      Shaped (.leaf numbers.length rest) (numbers.foldr .leaf others)
  | group {inner rest child others} (body : Shaped inner child) (tail : Shaped rest others) :
      Shaped (.nested inner rest) (.nested child others)

theorem numberShaped {before : Nat} {layout : Layout} {group : StaffGroup} {last : Nat}
    (numbered : layout.number before = some (group, last)) : Shaped layout group := by
  induction layout generalizing before group last with
  | nil =>
    cases Option.some.inj numbered
    exact .nil
  | leaf count rest ih =>
    obtain ⟨-, others, found, rfl⟩ := numberLeaf.mp numbered
    have shaped := Shaped.staves (List.range' (before + 1) count) (ih found)
    rwa [List.length_range', ← prependStavesInRow] at shaped
  | nested inner rest innerIh restIh =>
    obtain ⟨child, next, others, first, second, rfl⟩ := numberNested.mp numbered
    exact .group (innerIh first) (restIh second)

theorem shapedStaves {layout : Layout} {group : StaffGroup} (shaped : Shaped layout group) :
    group.leaves.length = layout.staves := by
  induction shaped with
  | nil => rfl
  | staves numbers tail ih => rw [rowLeaves, List.length_append, ih, stavesLeaf]
  | group body tail bodyIh tailIh =>
    rw [Nest.leaves, List.length_append, bodyIh, tailIh, stavesNested]

theorem shapedUnique {layout : Layout} {group other : StaffGroup} (shaped : Shaped layout group)
    (otherShaped : Shaped layout other) (same : group.leaves = other.leaves) : group = other := by
  induction shaped generalizing other with
  | nil => cases otherShaped; rfl
  | staves numbers tail ih =>
    generalize many : numbers.length = count at otherShaped
    cases otherShaped with
    | staves otherNumbers otherTail =>
      rw [rowLeaves, rowLeaves] at same
      obtain ⟨sameNumbers, sameTail⟩ := List.append_inj same many
      rw [sameNumbers, ih otherTail sameTail]
  | group body tail bodyIh tailIh =>
    cases otherShaped with
    | group otherBody otherTail =>
      have many := (shapedStaves body).trans (shapedStaves otherBody).symm
      obtain ⟨sameBody, sameTail⟩ := List.append_inj same many
      rw [bodyIh otherBody sameBody, tailIh otherTail sameTail]

theorem numberedExactly {before : Nat} (room : before ≤ lastStaffNumber) (layout : Layout) :
    (layout.number before = none ↔ lastStaffNumber < before + layout.staves) ∧
    ∀ group last, layout.number before = some (group, last) ↔
      before + layout.staves ≤ lastStaffNumber ∧ last = before + layout.staves ∧
      group.numbers = List.range' (before + 1) layout.staves ∧ group.staves = layout.staves ∧
      Shaped layout group := by
  refine ⟨numberNone room, fun group last => ⟨?_, ?_⟩⟩
  · intro numbered
    obtain ⟨rfl, numbers⟩ := numberConsecutive numbered
    exact ⟨numberWithin room numbered, rfl, numbers, shapedStaves (numberShaped numbered),
      numberShaped numbered⟩
  · rintro ⟨enough, rfl, numbers, -, shaped⟩
    obtain ⟨found, numbered⟩ := numberable enough
    have same := numbers.trans (numberConsecutive numbered).2.symm
    rw [numbered, shapedUnique shaped (numberShaped numbered) same]

theorem numberedToTheLast :
    number 4294967292 (.leaf 2 (.nested .nil (.nested (.leaf 0 (.leaf 1 .nil)) .nil))) =
      some (.leaf 4294967293 (.leaf 4294967294 (.nested .nil (.nested (.leaf 4294967295 .nil) .nil))),
        4294967295) ∧
    number 4294967292 (.leaf 2 (.nested (.leaf 2 .nil) .nil)) = none := by
  have room : 4294967292 ≤ lastStaffNumber := by decide
  have inner : Shaped (.leaf 0 (.leaf 1 .nil)) (.leaf 4294967295 .nil) :=
    .staves [] (.staves [4294967295] .nil)
  have shaped := Shaped.staves [4294967293, 4294967294] (.group .nil (.group inner .nil))
  exact ⟨((numberedExactly room _).2 _ _).mpr ⟨by decide, rfl, rfl, rfl, shaped⟩,
    (numberedExactly room _).1.mpr (by decide)⟩

end ScorePage.Layout
