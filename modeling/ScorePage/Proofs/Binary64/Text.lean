import ScorePage.Binary64.Text
import ScorePage.Proofs.Binary64.Rounding
import ScorePage.Proofs.Decimal

/-! The text of a number reads as that number, with its sign. How a decimal number is rounded depends
on its worth alone, and the digits of a text are chosen among those that read back. -/
namespace ScorePage.Binary64

theorem ofQuotientRank {n d rank : Nat} (rounded : nearestRank n d = rank)
    (bound : rank < infinityRank + 1) (negative : Bool) :
    ofQuotient negative n d = .number negative ⟨rank, bound⟩ := by
  cases rounded
  rfl

theorem powerOfTen (e : Nat) : Nat.pow 2 (3 * e) ≤ Nat.pow 10 e := by
  have eight : Nat.pow 2 (3 * e) = Nat.pow 8 e := Nat.pow_mul 2 3 e
  rw [eight]
  exact Nat.pow_le_pow_left (by decide) e

theorem nearestRankLow {n d : Nat} (low : 2 * (n * Nat.pow 2 1074) < d) : nearestRank n d = 0 := by
  unfold nearestRank
  generalize n * Nat.pow 2 1074 = scaled at low ⊢
  have none : scaled / d = 0 := Nat.div_eq_of_lt (by omega)
  have rest : scaled % d = scaled := Nat.mod_eq_of_lt (by omega)
  have even : divideToEven scaled d = 0 := by
    rw [divideToEven, none, rest]
    exact if_pos low
  dsimp only
  rw [none, Nat.log2_zero, Nat.zero_sub, Nat.zero_mul]
  simp [even]

theorem nearestRankNone {d : Nat} (positive : 0 < d) : nearestRank 0 d = 0 := by
  apply nearestRankLow
  generalize 1074 = bits
  rw [Nat.zero_mul]
  exact positive

theorem nearestRankHigh {n wide : Nat} (enough : 2047 + 52 ≤ wide)
    (high : Nat.pow 2 wide ≤ n * Nat.pow 2 1074) : nearestRank n 1 = infinityRank := by
  unfold nearestRank
  generalize n * Nat.pow 2 1074 = scaled at high ⊢
  have some : scaled ≠ 0 := Nat.ne_of_gt (Nat.lt_of_lt_of_le (Nat.two_pow_pos _) high)
  have doubled : 2047 ≤ scaled.log2 - 52 :=
    Nat.le_sub_of_add_le (Nat.le_trans enough ((Nat.le_log2 some).mpr high))
  dsimp only
  rw [Nat.div_one]
  refine Nat.min_eq_left (Nat.le_trans ?_ (Nat.le_add_right ..))
  exact Nat.mul_le_mul_right _ doubled

theorem nearestRankMany {digits e : Nat} (some : digits ≠ 0) (many : 400 < e) :
    nearestRank (digits * Nat.pow 10 e) 1 = infinityRank := by
  have enough : 2047 + 52 ≤ 3 * e + 1074 := by omega
  apply nearestRankHigh enough
  generalize 1074 = bits
  calc Nat.pow 2 (3 * e + bits)
    _ = Nat.pow 2 (3 * e) * Nat.pow 2 bits := Decimal.powerSum ..
    _ ≤ digits * Nat.pow 10 e * Nat.pow 2 bits := by
      refine Nat.mul_le_mul_right _ (Nat.le_trans (powerOfTen e) ?_)
      exact Nat.le_mul_of_pos_left _ (Nat.pos_of_ne_zero some)

theorem nearestRankFew {digits e : Nat} (few : digits.log2 + 400 < e) :
    nearestRank digits (Nat.pow 10 (e + 1)) = 0 := by
  apply nearestRankLow
  generalize wide : 1074 = bits
  have below : digits < Nat.pow 2 (digits.log2 + 1) := Nat.lt_log2_self
  have scaled : digits * Nat.pow 2 bits < Nat.pow 2 (digits.log2 + 1 + bits) := by
    rw [Decimal.powerSum]
    exact Nat.mul_lt_mul_of_pos_right below (doublingsPositive bits)
  calc 2 * (digits * Nat.pow 2 bits)
    _ < 2 * Nat.pow 2 (digits.log2 + 1 + bits) := Nat.mul_lt_mul_of_pos_left scaled (by decide)
    _ = Nat.pow 2 (digits.log2 + 1 + bits + 1) := Nat.mul_comm ..
    _ ≤ Nat.pow 2 (3 * (e + 1)) := Nat.pow_le_pow_right (by decide) (by omega)
    _ ≤ Nat.pow 10 (e + 1) := powerOfTen (e + 1)

theorem ofDecimalQuotient (negative : Bool) (d : Decimal) :
    ofDecimal negative d = ofQuotient negative d.numerator d.denominator := by
  obtain ⟨digits, exponent⟩ := d
  cases exponent with
  | ofNat e =>
    obtain ⟨top, bottom⟩ := Decimal.wholeQuotient digits e
    rw [top, bottom, ofDecimal]
    dsimp only
    split
    case isTrue none =>
      have nothing := nearestRankNone Nat.one_pos
      rw [none, Nat.zero_mul]
      exact (ofQuotientRank nothing _ negative).symm
    case isFalse some =>
      split
      case isTrue many => exact (ofQuotientRank (nearestRankMany some many) _ negative).symm
      case isFalse => rfl
  | negSucc e =>
    obtain ⟨top, bottom⟩ := Decimal.fractionQuotient digits e
    rw [top, bottom, ofDecimal]
    dsimp only
    split
    case isTrue few => exact (ofQuotientRank (nearestRankFew few) _ negative).symm
    case isFalse => rfl

theorem ofDecimalSame {d e : Decimal} (same : d.Same e) (negative : Bool) :
    ofDecimal negative d = ofDecimal negative e := by
  rw [ofDecimalQuotient, ofDecimalQuotient, ofQuotientRank rfl (nearestRankBound ..),
    ofQuotientRank rfl (nearestRankBound ..)]
  simp only [nearestRankSame d.denominatorPositive e.denominatorPositive same]

def RoundsTo (d : Decimal) (rank : Nat) : Prop := nearestRank d.numerator d.denominator = rank

theorem gridQuotient (digits : Nat) {exponent : Int} {dropped bits : Nat}
    (steps : exponent = (dropped : Int) - bits) :
    nearestRank (Decimal.numerator ⟨digits, exponent⟩) (Decimal.denominator ⟨digits, exponent⟩) =
      nearestRank (digits * Nat.pow 10 dropped) (Nat.pow 10 bits) := by
  have powers : exponent.toNat + bits = dropped + (-exponent).toNat := by omega
  refine nearestRankSame (Decimal.denominatorPositive _) (Nat.pow_pos (by decide)) ?_
  calc digits * Nat.pow 10 exponent.toNat * Nat.pow 10 bits
    _ = digits * Nat.pow 10 (dropped + (-exponent).toNat) := by
      rw [Nat.mul_assoc, ← Decimal.powerSum, powers]
    _ = digits * Nat.pow 10 dropped * Nat.pow 10 (-exponent).toNat := by
      rw [Decimal.powerSum, Nat.mul_assoc]

theorem readsBackRounds {rank digits dropped : Nat} (back : readsBack rank digits dropped = true) :
    RoundsTo ⟨digits, Int.ofNat dropped - 1074⟩ rank := by
  unfold readsBack at back
  generalize wide : 1074 = bits at back
  have steps : Int.ofNat dropped - 1074 = (dropped : Int) - bits := by
    rw [← wide]
    rfl
  exact (gridQuotient digits steps).trans (eq_of_beq back)

theorem fineUnitsBack {rank : Nat} (finite : rank < infinityRank) :
    readsBack rank (fineUnits rank) 0 = true := by
  have read := nearestRankUnits finite
  unfold readsBack fineUnits
  generalize 1074 = bits at read ⊢
  have ten : Nat.pow 10 bits = Nat.pow 2 bits * Nat.pow 5 bits := Nat.mul_pow 2 5 bits
  have positive : 0 < Nat.pow 5 bits := Nat.pow_pos (by decide)
  have one : Nat.pow 10 0 = 1 := rfl
  rw [ten, one, Nat.mul_one, nearestRankScaled _ _ positive, read, beq_self_eq_true]

theorem onGridRead {rank dropped : Nat} {d : Decimal} (found : onGrid? rank dropped = some d) :
    RoundsTo d rank := by
  unfold onGrid? at found
  dsimp only at found
  generalize fineUnits rank / Nat.pow 10 dropped = below at found
  generalize fineUnits rank % Nat.pow 10 dropped = rest at found
  split at found
  · contradiction
  · split at found
    case isTrue lower =>
      rw [← Option.some.inj found]
      exact readsBackRounds (Bool.and_eq_true_iff.mp lower).1
    case isFalse =>
      split at found
      case isTrue upper =>
        rw [← Option.some.inj found]
        exact readsBackRounds upper
      case isFalse => cases found

theorem coarsestRead {rank : Nat} (finite : rank < infinityRank) (dropped : Nat) :
    RoundsTo (coarsest rank dropped) rank := by
  -- `fineUnits` are counted in steps of the finest grid, so it needs no test
  induction dropped with
  | zero =>
    have finest : (-1074 : Int) = Int.ofNat 0 - 1074 := rfl
    rw [coarsest, finest]
    exact readsBackRounds (fineUnitsBack finite)
  | succ dropped ih =>
    rw [coarsest]
    cases found : onGrid? rank (dropped + 1) with
    | none => exact ih
    | some d => exact onGridRead found

theorem shortestRead {rank : Nat} (finite : rank < infinityRank) : RoundsTo (shortest rank) rank := by
  rw [shortest]
  split
  case isTrue zero =>
    rw [zero]
    exact nearestRankNone (Decimal.denominatorPositive _)
  case isFalse => exact coarsestRead finite _

theorem magnitudeDigits {c : Char} (digit : c.isDigit = true) (rest : List Char) (negative : Bool) :
    magnitude? negative (c :: rest) = (Decimal.ofText? (c :: rest)).map (ofDecimal negative) := by
  have letter {first : Char} {others : List Char}
      (apart : "0123456789".toList.all (fun c => c.toLower != first) = true) :
      (c :: rest).map Char.toLower ≠ first :: others := by
    intro same
    exact bne_iff_ne.mp (Text.ofDigit apart digit) (List.cons.inj same).1
  have nan : (c :: rest).map Char.toLower ≠ "nan".toList := letter (by decide)
  have inf : (c :: rest).map Char.toLower ≠ "inf".toList := letter (by decide)
  have infinity : (c :: rest).map Char.toLower ≠ "infinity".toList := letter (by decide)
  simp only [magnitude?, nan, inf, infinity, if_false, decide_false, Bool.or_false,
    Bool.false_eq_true]

theorem magnitudeRead {rank : Fin (infinityRank + 1)} (finite : rank.val < infinityRank)
    (negative : Bool) :
    magnitude? negative (shortest rank.val).text = some (.number negative rank) := by
  obtain ⟨c, rest, begins, digit⟩ := (shortest rank.val).textBegins
  obtain ⟨d, read, same⟩ := (shortest rank.val).textRead
  rw [begins, magnitudeDigits digit, ← begins, read, Option.map_some, ofDecimalSame same,
    ofDecimalQuotient, ofQuotientRank (shortestRead finite) rank.isLt]

theorem ofTextUnsigned {c : Char} (digit : c.isDigit = true) (rest : List Char) :
    ofText? (c :: rest) = magnitude? false (c :: rest) := by
  have unsigned := Text.ofDigit (P := fun c => c != '-' && c != '+') (by decide) digit
  simp only [Bool.and_eq_true, bne_iff_ne] at unsigned
  unfold ofText?
  split
  case h_1 same => exact absurd (List.cons.inj same).1 unsigned.1
  case h_2 same => exact absurd (List.cons.inj same).1 unsigned.2
  case h_3 => rfl

theorem textRead (x : Binary64) : ofText? x.text = some x := by
  cases x with
  | nan => decide
  | number negative rank =>
    by_cases finite : rank.val < infinityRank
    · have read := magnitudeRead finite negative
      rw [text, if_pos finite]
      cases negative with
      | true => exact read
      | false =>
        obtain ⟨c, rest, begins, digit⟩ := (shortest rank.val).textBegins
        rw [begins] at read ⊢
        exact (ofTextUnsigned digit rest).trans read
    · have last : rank = ⟨infinityRank, Nat.lt_succ_self _⟩ :=
        Fin.ext (Nat.le_antisymm (Nat.le_of_lt_succ rank.isLt) (Nat.not_lt.mp finite))
      rw [last]
      cases negative <;> decide

theorem textSome (x : Binary64) : x.text ≠ [] := by
  intro none
  have read := textRead x
  rw [none] at read
  contradiction

theorem textSolid (x : Binary64) : ∀ c ∈ x.text, Text.isBlank c = false := by
  have solidWord {word : List Char} (solid : word.any Text.isBlank = false) :
      ∀ c ∈ word, Text.isBlank c = false := by
    simpa using solid
  cases x with
  | nan => exact solidWord (by decide)
  | number negative rank =>
    have magnitude : ∀ c ∈ (if rank.val < infinityRank then (shortest rank.val).text
        else ['i', 'n', 'f']), Text.isBlank c = false := by
      split
      · intro c member
        rcases (shortest rank.val).textCharacters c member with digit | rfl
        · exact Text.digitNotBlank digit
        · decide
      · exact solidWord (by decide)
    rw [text]
    cases negative with
    | true => exact List.forall_mem_cons.mpr ⟨by decide, magnitude⟩
    | false => exact magnitude

end ScorePage.Binary64
