import Mathlib.Data.Nat.Log
import ScorePage.Binary64

/-! Rounding to the nearest rank. It depends on a quotient alone, not on how the quotient is written,
and it leaves a number that has a rank where it is. -/
namespace ScorePage.Binary64

theorem doublingsPositive (doublings : Nat) : 0 < Nat.pow 2 doublings := Nat.two_pow_pos doublings

theorem divideToEvenScaled (n d : Nat) {k : Nat} (positive : 0 < k) :
    divideToEven (n * k) (d * k) = divideToEven n d := by
  have below : 2 * (n % d * k) < d * k ↔ 2 * (n % d) < d := by
    rw [← Nat.mul_assoc]
    exact Nat.mul_lt_mul_right positive
  have above : d * k < 2 * (n % d * k) ↔ d < 2 * (n % d) := by
    rw [← Nat.mul_assoc]
    exact Nat.mul_lt_mul_right positive
  unfold divideToEven
  rw [Nat.mul_div_mul_right n d positive, Nat.mul_mod_mul_right]
  simp only [below, above]

theorem divideToEvenExact (n : Nat) {d : Nat} (positive : 0 < d) : divideToEven (n * d) d = n := by
  unfold divideToEven
  rw [Nat.mul_div_cancel n positive, Nat.mul_mod_left]
  exact if_pos positive

theorem nearestRankScaled (n d : Nat) {k : Nat} (positive : 0 < k) :
    nearestRank (n * k) (d * k) = nearestRank n d := by
  unfold nearestRank
  dsimp only
  rw [Nat.mul_right_comm n, Nat.mul_div_mul_right _ d positive, Nat.mul_right_comm d,
    divideToEvenScaled _ _ positive]

theorem nearestRankSame {n d m e : Nat} (positive : 0 < d) (otherPositive : 0 < e)
    (same : n * e = m * d) : nearestRank n d = nearestRank m e := by
  rw [← nearestRankScaled n d otherPositive, same, Nat.mul_comm d, nearestRankScaled m e positive]

theorem unitsLog {digits : Nat} (least : Nat.pow 2 52 ≤ digits) (most : digits < Nat.pow 2 53)
    (doublings : Nat) : (digits * Nat.pow 2 doublings).log2 = 52 + doublings := by
  have positive := doublingsPositive doublings
  have nonzero : digits * Nat.pow 2 doublings ≠ 0 :=
    Nat.mul_ne_zero (Nat.ne_of_gt (Nat.lt_of_lt_of_le (by decide) least)) (Nat.ne_of_gt positive)
  rw [Nat.log2_eq_iff nonzero]
  constructor
  · rw [Nat.pow_add]
    exact Nat.mul_le_mul_right _ least
  · rw [Nat.add_right_comm, Nat.pow_add]
    exact Nat.mul_lt_mul_of_pos_right most positive

theorem unitsRounded (rank : Nat) :
    ((units rank).log2 - 52) * Nat.pow 2 52 +
      divideToEven (units rank) (Nat.pow 2 ((units rank).log2 - 52)) = rank := by
  unfold units
  split
  case isTrue even =>
    have none : rank.log2 - 52 = 0 := by
      by_cases zero : rank = 0
      · rw [zero, Nat.log2_zero]
      · exact Nat.sub_eq_zero_of_le (Nat.le_of_lt ((Nat.log2_lt zero).mpr even))
    rw [none, Nat.zero_mul, Nat.zero_add]
    have whole := divideToEvenExact rank Nat.one_pos
    rwa [Nat.mul_one] at whole
  case isFalse wide =>
    have below : rank % Nat.pow 2 52 < Nat.pow 2 52 := Nat.mod_lt rank (doublingsPositive 52)
    have parts := Nat.div_add_mod' rank (Nat.pow 2 52)
    have doubled : 0 < rank / Nat.pow 2 52 := Nat.div_pos (Nat.not_lt.mp wide) (doublingsPositive 52)
    rw [unitsLog (Nat.le_add_right ..) (Nat.add_lt_add_left below _), Nat.add_sub_cancel_left,
      divideToEvenExact _ (doublingsPositive _), ← Nat.add_assoc, ← Nat.succ_mul, Nat.succ_eq_add_one,
      Nat.sub_add_cancel doubled, parts]

theorem nearestRankUnits {rank : Nat} (finite : rank < infinityRank) :
    nearestRank (units rank) (Nat.pow 2 1074) = rank := by
  unfold nearestRank
  -- a power of a variable is not multiplied out
  generalize 1074 = bits
  have positive := doublingsPositive bits
  dsimp only
  rw [Nat.mul_div_cancel _ positive, Nat.mul_comm (Nat.pow 2 bits),
    divideToEvenScaled _ _ positive, unitsRounded]
  exact Nat.min_eq_right (Nat.le_of_lt finite)

end ScorePage.Binary64
