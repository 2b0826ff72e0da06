import ScorePage.Binary64

/-! The order of numbers, and the first of several values in it. What is not a number stands nowhere
in the order and comes first only where there is nothing else. -/
namespace ScorePage.Binary64

def AtMost : Binary64 → Binary64 → Prop
  | .number s m, .number t n => place s m.val ≤ place t n.val
  | _, _ => False

def AtLeast (x y : Binary64) : Prop := AtMost y x

structure Foremost (before : Binary64 → Binary64 → Prop) (values : List Binary64) (x : Binary64) :
    Prop where
  listed : x ∈ values
  noNumber : x = .nan ↔ ∀ value ∈ values, value = .nan
  first : ∀ value ∈ values, value ≠ .nan → before x value

abbrev LeastOf := Foremost AtMost

abbrev GreatestOf := Foremost AtLeast

def ZerosApart (values : List Binary64) : Prop := ¬(zero false ∈ values ∧ zero true ∈ values)

instance (values : List Binary64) : Decidable (ZerosApart values) :=
  inferInstanceAs (Decidable (¬_))

def Zeros (x y : Binary64) : Prop := ∃ negative, x = zero negative ∧ y = zero (!negative)

structure Chooses (before : Binary64 → Binary64 → Prop)
    (choice : Binary64 → Binary64 → Binary64) : Prop where
  numbers : ∀ {x y}, before x y → x ≠ .nan ∧ y ≠ .nan
  trans : ∀ {x y z}, before x y → before y z → before x z
  antisymm : ∀ {x y}, before x y → before y x → x = y ∨ Zeros x y
  onlySecond : ∀ y, choice .nan y = y
  onlyFirst : ∀ x, choice x .nan = x
  chosen : ∀ {x y}, x ≠ .nan → y ≠ .nan →
    choice x y = x ∧ before x y ∨ choice x y = y ∧ before y x

theorem numberOf {x : Binary64} (number : x ≠ .nan) : ∃ negative rank, x = .number negative rank := by
  cases x with
  | nan => contradiction
  | number negative rank => exact ⟨negative, rank, rfl⟩

theorem atMostNumbers {x y : Binary64} (ordered : AtMost x y) : x ≠ .nan ∧ y ≠ .nan := by
  cases x with
  | nan => exact ordered.elim
  | number s m =>
    cases y with
    | nan => exact ordered.elim
    | number t n => exact ⟨nofun, nofun⟩

theorem atMostTrans {x y z : Binary64} (first : AtMost x y) (second : AtMost y z) :
    AtMost x z := by
  obtain ⟨s, m, rfl⟩ := numberOf (atMostNumbers first).1
  obtain ⟨t, n, rfl⟩ := numberOf (atMostNumbers first).2
  obtain ⟨u, k, rfl⟩ := numberOf (atMostNumbers second).2
  exact Int.le_trans first second

theorem placeSame {s t : Bool} {m n : Nat} (same : place s m = place t n) :
    m = n ∧ (s = t ∨ m = 0) := by
  unfold place at same
  cases s <;> cases t <;> simp at same ⊢ <;> omega

theorem atMostAntisymm {x y : Binary64} (first : AtMost x y) (second : AtMost y x) :
    x = y ∨ Zeros x y := by
  obtain ⟨s, m, rfl⟩ := numberOf (atMostNumbers first).1
  obtain ⟨t, n, rfl⟩ := numberOf (atMostNumbers first).2
  obtain ⟨ranks, signs⟩ := placeSame (Int.le_antisymm first second)
  cases Fin.ext ranks
  by_cases same : s = t
  · exact .inl (by rw [same])
  · have none : m = ⟨0, by decide⟩ := Fin.ext (signs.resolve_left same)
    exact .inr ⟨s, by rw [none, zero], by rw [none, zero, Bool.eq_not_of_ne (Ne.symm same)]⟩

theorem leastChooses : Chooses AtMost least where
  numbers := atMostNumbers
  trans := atMostTrans
  antisymm := atMostAntisymm
  onlySecond _ := rfl
  onlyFirst x := by cases x <;> rfl
  chosen {x y} number other := by
    obtain ⟨s, m, rfl⟩ := numberOf number
    obtain ⟨t, n, rfl⟩ := numberOf other
    by_cases below : place t n.val < place s m.val
    · exact .inr ⟨if_pos below, Int.le_of_lt below⟩
    · exact .inl ⟨if_neg below, Int.not_lt.mp below⟩

theorem greatestChooses : Chooses AtLeast greatest where
  numbers ordered := (atMostNumbers ordered).symm
  trans first second := atMostTrans second first
  antisymm first second := atMostAntisymm second first
  onlySecond _ := rfl
  onlyFirst x := by cases x <;> rfl
  chosen {x y} number other := by
    obtain ⟨s, m, rfl⟩ := numberOf number
    obtain ⟨t, n, rfl⟩ := numberOf other
    by_cases above : place s m.val < place t n.val
    · exact .inr ⟨if_pos above, Int.le_of_lt above⟩
    · exact .inl ⟨if_neg above, Int.not_lt.mp above⟩

namespace Foremost

variable {before : Binary64 → Binary64 → Prop} {choice : Binary64 → Binary64 → Binary64}
  {values others : List Binary64} {x y : Binary64}

theorem alone (chooses : Chooses before choice) (x : Binary64) : Foremost before [x] x := by
  refine ⟨List.mem_singleton_self x, by simp, ?_⟩
  intro value member number
  cases List.mem_singleton.mp member
  rcases chooses.chosen number number with ⟨-, ordered⟩ | ⟨-, ordered⟩ <;> exact ordered

theorem among (chooses : Chooses before choice) (first : Foremost before values x)
    (inside : ∀ value ∈ values, value ∈ others)
    (after : ∀ value ∈ others, value ∈ values ∨ value = .nan ∨ before x value) :
    Foremost before others x := by
  refine ⟨inside x first.listed, ⟨?_, ?_⟩, ?_⟩
  · intro none value member
    rcases after value member with member | same | ordered
    · exact first.noNumber.mp none value member
    · exact same
    · exact absurd none (chooses.numbers ordered).1
  · intro none
    exact none x (inside x first.listed)
  · intro value member number
    rcases after value member with member | same | ordered
    · exact first.first value member number
    · exact absurd same number
    · exact ordered

theorem chosen (chooses : Chooses before choice) (first : Foremost before values x)
    (second : Foremost before others y) : Foremost before (values ++ others) (choice x y) := by
  have inFront : ∀ value ∈ values, value ∈ values ++ others := fun _ => List.mem_append_left _
  have behind : ∀ value ∈ others, value ∈ values ++ others := fun _ => List.mem_append_right _
  -- the side that was not chosen has numbers after the chosen one only
  have passed {z w : Binary64} {items : List Binary64} (ordered : before z w)
      (top : Foremost before items w) (value : Binary64) (member : value ∈ items) :
      value = .nan ∨ before z value := by
    by_cases same : value = .nan
    · exact .inl same
    · exact .inr (chooses.trans ordered (top.first value member same))
  by_cases noFirst : x = .nan
  · rw [noFirst, chooses.onlySecond]
    refine second.among chooses behind fun value member => ?_
    rcases List.mem_append.mp member with member | member
    · exact .inr (.inl (first.noNumber.mp noFirst value member))
    · exact .inl member
  by_cases noSecond : y = .nan
  · rw [noSecond, chooses.onlyFirst]
    refine first.among chooses inFront fun value member => ?_
    rcases List.mem_append.mp member with member | member
    · exact .inl member
    · exact .inr (.inl (second.noNumber.mp noSecond value member))
  rcases chooses.chosen noFirst noSecond with ⟨same, ordered⟩ | ⟨same, ordered⟩
  · rw [same]
    refine first.among chooses inFront fun value member => ?_
    exact (List.mem_append.mp member).imp_right (passed ordered second value)
  · rw [same]
    refine second.among chooses behind fun value member => ?_
    exact (List.mem_append.mp member).symm.imp_right (passed ordered first value)

theorem unique (chooses : Chooses before choice) (apart : ZerosApart values)
    (first : Foremost before values x) (second : Foremost before others y)
    (same : ∀ value, value ∈ others ↔ value ∈ values) : y = x := by
  by_cases noNumber : x = .nan
  · rw [noNumber, second.noNumber]
    intro value member
    exact first.noNumber.mp noNumber value ((same value).mp member)
  · have listed : y ∈ values := (same y).mp second.listed
    have number : y ≠ .nan := by
      intro none
      refine noNumber (first.noNumber.mpr fun value member => ?_)
      exact second.noNumber.mp none value ((same value).mpr member)
    have forward := first.first y listed number
    have backward := second.first x ((same x).mpr first.listed) noNumber
    rcases chooses.antisymm backward forward with equal | ⟨negative, yZero, xZero⟩
    · exact equal
    · refine absurd ?_ apart
      rw [yZero] at listed
      have other := first.listed
      rw [xZero] at other
      cases negative with
      | false => exact ⟨listed, other⟩
      | true => exact ⟨other, listed⟩

end Foremost
end ScorePage.Binary64
