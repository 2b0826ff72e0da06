import ScorePage.Binary64

/-! The text of a 64-bit number: the fewest decimal digits that read back as the same number, and
of these the nearest to it, in positional notation. -/
namespace ScorePage.Binary64

def fineUnits (rank : Nat) : Nat := units rank * Nat.pow 5 1074

def readsBack (rank digits dropped : Nat) : Bool :=
  nearestRank (digits * Nat.pow 10 dropped) (Nat.pow 10 1074) == rank

/-- Of the two neighbours on the grid of the multiples of `10 ^ dropped`, the nearest that reads
back as the rank. Halfway between two that do, the upper one is taken. -/
def onGrid? (rank dropped : Nat) : Option Decimal :=
  let value := fineUnits rank
  let step := Nat.pow 10 dropped
  let below := value / step
  let remainder := value % step
  let exponent := Int.ofNat dropped - 1074
  if below = 0 then none
  else if readsBack rank below dropped &&
      (2 * remainder < step || !readsBack rank (below + 1) dropped) then some ⟨below, exponent⟩
  else if readsBack rank (below + 1) dropped then some ⟨below + 1, exponent⟩
  else none

def coarsest (rank : Nat) : (dropped : Nat) → Decimal
  | 0 => ⟨fineUnits rank, -1074⟩
  | dropped + 1 => (onGrid? rank (dropped + 1)).getD (coarsest rank dropped)

/- A number of `b` binary digits has at most `b * 0.30103 + 1` decimal ones. -/
def shortest (rank : Nat) : Decimal :=
  if rank = 0 then ⟨0, 0⟩ else coarsest rank ((fineUnits rank).log2 * 30103 / 100000 + 1)

def text : Binary64 → List Char
  | .nan => ['N', 'a', 'N']
  | .number negative rank =>
      let magnitude := if rank.val < infinityRank then (shortest rank.val).text else ['i', 'n', 'f']
      if negative then '-' :: magnitude else magnitude

def magnitude? (negative : Bool) (text : List Char) : Option Binary64 :=
  let word := text.map Char.toLower
  if word = "nan".toList then some .nan
  else if word = "inf".toList || word = "infinity".toList then some (infinity negative)
  else (Decimal.ofText? text).map (ofDecimal negative)

def ofText? : List Char → Option Binary64
  | '-' :: text => magnitude? true text
  | '+' :: text => magnitude? false text
  | text => magnitude? false text

end ScorePage.Binary64
