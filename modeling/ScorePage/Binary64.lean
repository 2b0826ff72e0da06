import ScorePage.Decimal

/-! Binary floating-point numbers of 64 bits. A magnitude is given by its rank, its place among all
magnitudes from zero to infinity. A finite magnitude is a whole number of units, the unit being
the least positive one, `1 / 2 ^ 1074`; so order and rounding are questions about natural numbers. -/
namespace ScorePage

def infinityRank : Nat := 2047 * Nat.pow 2 52

inductive Binary64 where
  | nan
  | number (negative : Bool) (rank : Fin (infinityRank + 1))
  deriving DecidableEq, Repr

namespace Binary64

/- Ranks below `2 ^ 52` are evenly spaced by one unit. Above them every further `2 ^ 52` ranks
double the spacing. -/
def units (rank : Nat) : Nat :=
  if rank < Nat.pow 2 52 then rank
  else (Nat.pow 2 52 + rank % Nat.pow 2 52) * Nat.pow 2 (rank / Nat.pow 2 52 - 1)

def divideToEven (n d : Nat) : Nat :=
  let quotient := n / d
  let twice := 2 * (n % d)
  if twice < d then quotient else if d < twice then quotient + 1 else quotient + quotient % 2

def nearestRank (n d : Nat) : Nat :=
  let scaled := n * Nat.pow 2 1074
  let doublings := (scaled / d).log2 - 52
  min infinityRank (doublings * Nat.pow 2 52 + divideToEven scaled (d * Nat.pow 2 doublings))

theorem nearestRankBound (n d : Nat) : nearestRank n d < infinityRank + 1 :=
  Nat.lt_succ_of_le (Nat.min_le_left ..)

def ofQuotient (negative : Bool) (n d : Nat) : Binary64 :=
  .number negative ⟨nearestRank n d, nearestRankBound n d⟩

def zero (negative : Bool) : Binary64 := .number negative ⟨0, by decide⟩

def infinity (negative : Bool) : Binary64 := .number negative ⟨infinityRank, by decide⟩

/- The two bounds only save work: past them every number rounds to infinity or to zero. -/
def ofDecimal (negative : Bool) (d : Decimal) : Binary64 :=
  match d.exponent with
  | .ofNat e =>
      if d.digits = 0 then zero negative
      else if 400 < e then infinity negative
      else ofQuotient negative (d.digits * Nat.pow 10 e) 1
  | .negSucc e =>
      if d.digits.log2 + 400 < e then zero negative
      else ofQuotient negative d.digits (Nat.pow 10 (e + 1))

def place (negative : Bool) (rank : Nat) : Int := if negative then -Int.ofNat rank else Int.ofNat rank

def isFinite : Binary64 → Bool
  | .nan => false
  | .number _ rank => rank.val < infinityRank

def isNonnegative : Binary64 → Bool
  | .nan => false
  | .number negative rank => 0 ≤ place negative rank.val

/-- The lesser of two numbers; one that is not a number gives way to the other. -/
def least : Binary64 → Binary64 → Binary64
  | .nan, y => y
  | x, .nan => x
  | .number s m, .number t n =>
      if place t n.val < place s m.val then .number t n else .number s m

def greatest : Binary64 → Binary64 → Binary64
  | .nan, y => y
  | x, .nan => x
  | .number s m, .number t n =>
      if place s m.val < place t n.val then .number t n else .number s m

end Binary64
end ScorePage
