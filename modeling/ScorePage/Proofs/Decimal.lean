import ScorePage.Decimal
import ScorePage.Proofs.Text.Blank

/-! What a decimal number is worth, in whatever digits and power of ten it is given. Its positional
text reads as a number of the same worth. -/
namespace ScorePage.Decimal
open Text

def numerator (d : Decimal) : Nat := d.digits * Nat.pow 10 d.exponent.toNat

def denominator (d : Decimal) : Nat := Nat.pow 10 (-d.exponent).toNat

theorem powerSum (b m n : Nat) : Nat.pow b (m + n) = Nat.pow b m * Nat.pow b n := Nat.pow_add b m n

theorem wholeQuotient (digits e : Nat) :
    numerator ⟨digits, .ofNat e⟩ = digits * Nat.pow 10 e ∧ denominator ⟨digits, .ofNat e⟩ = 1 := by
  refine ⟨rfl, ?_⟩
  simp [denominator]

theorem fractionQuotient (digits e : Nat) :
    numerator ⟨digits, .negSucc e⟩ = digits ∧
      denominator ⟨digits, .negSucc e⟩ = Nat.pow 10 (e + 1) :=
  ⟨Nat.mul_one digits, rfl⟩

def Same (d e : Decimal) : Prop := d.numerator * e.denominator = e.numerator * d.denominator

theorem denominatorPositive (d : Decimal) : 0 < d.denominator := Nat.pow_pos (by decide)

def positional (whole : List Char) : List Char → List Char
  | [] => whole
  | fraction => whole ++ '.' :: fraction

theorem digitsRead {text : List Char} (filled : text ≠ []) (digits : ∀ c ∈ text, c.isDigit = true) :
    digits? text = some (Nat.ofDigitChars 10 text 0) := by
  rw [digits?, List.all_eq_true.mpr digits, List.isEmpty_eq_false_iff.mpr filled]
  rfl

theorem digitsValue {text : List Char} {n : Nat} (read : digits? text = some n) :
    Nat.ofDigitChars 10 text 0 = n := by
  rw [digits?] at read
  split at read
  · contradiction
  · exact Option.some.inj read

theorem digitRun {run : List Char} (digits : ∀ c ∈ run, c.isDigit = true) :
    run.takeWhile Char.isDigit = run ∧ run.dropWhile Char.isDigit = [] := by
  have taken := @List.takeWhile_append_of_pos _ Char.isDigit run [] digits
  have dropped := @List.dropWhile_append_of_pos _ Char.isDigit run [] digits
  simp only [List.append_nil, List.takeWhile_nil, List.dropWhile_nil] at taken dropped
  exact ⟨taken, dropped⟩

theorem positionalRead {whole fraction : List Char} (filled : whole ≠ [])
    (digits : ∀ c ∈ whole ++ fraction, c.isDigit = true) :
    ofText? (positional whole fraction) =
      some ⟨Nat.ofDigitChars 10 (whole ++ fraction) 0, -fraction.length⟩ := by
  have read := digitsRead (List.append_ne_nil_of_left_ne_nil filled fraction) digits
  obtain ⟨wholeDigits, fractionDigits⟩ := List.forall_mem_append.mp digits
  cases fraction with
  | nil =>
    obtain ⟨taken, dropped⟩ := digitRun wholeDigits
    simp only [List.append_nil] at read
    simp [positional, ofText?, taken, dropped, read, power?]
  | cons c rest =>
    obtain ⟨taken, dropped⟩ := digitRun fractionDigits
    have point : Char.isDigit '.' = false := rfl
    simp only [positional, ofText?, List.takeWhile_append_of_pos wholeDigits,
      List.dropWhile_append_of_pos wholeDigits, List.takeWhile_cons_of_neg, List.dropWhile_cons_of_neg,
      point, Bool.false_eq_true, not_false_eq_true, List.append_nil]
    simp [taken, dropped, read, power?]

theorem paddedDigits (places n : Nat) : ∀ c ∈ padded places n, c.isDigit = true := by
  intro c member
  rcases List.mem_append.mp member with zero | digit
  · rw [List.eq_of_mem_replicate zero]
    rfl
  · exact numberDigits n c digit

theorem paddedLength {places n : Nat} (some : 0 < places) (fits : n < Nat.pow 10 places) :
    (padded places n).length = places := by
  have short := (Nat.length_toDigits_le_iff (by decide) some).mpr fits
  rw [padded, List.length_append, List.length_replicate, Nat.sub_add_cancel short]

theorem paddedValue (places n : Nat) : Nat.ofDigitChars 10 (padded places n) 0 = n := by
  rw [padded, Nat.ofDigitChars_append, Nat.ofDigitChars_replicate_zero, Nat.mul_zero]
  exact Nat.ofDigitChars_ten_toDigits

theorem fractionSame (digits e : Nat) {fraction : List Char} {zeros : Nat}
    (shown : padded (e + 1) (digits % Nat.pow 10 (e + 1)) = fraction ++ List.replicate zeros '0') :
    Same ⟨Nat.ofDigitChars 10 (Nat.toDigits 10 (digits / Nat.pow 10 (e + 1)) ++ fraction) 0,
      -fraction.length⟩ ⟨digits, .negSucc e⟩ := by
  generalize number :
    Nat.ofDigitChars 10 (Nat.toDigits 10 (digits / Nat.pow 10 (e + 1)) ++ fraction) 0 = n
  have length : (fraction ++ List.replicate zeros '0').length = e + 1 := by
    rw [← shown]
    exact paddedLength (Nat.succ_pos e) (Nat.mod_lt digits (Nat.pow_pos (by decide)))
  have places : fraction.length + zeros = e + 1 := by
    rwa [List.length_append, List.length_replicate] at length
  -- reading the zeros too multiplies `n` by a power of ten, and gives all the digits
  have whole : Nat.pow 10 zeros * n = digits := by
    calc Nat.pow 10 zeros * n
      _ = Nat.ofDigitChars 10 (fraction ++ List.replicate zeros '0')
          (digits / Nat.pow 10 (e + 1)) := by
        rw [← number, Nat.ofDigitChars_append, Nat.ofDigitChars_append,
          Nat.ofDigitChars_replicate_zero, Nat.ofDigitChars_ten_toDigits]
        rfl
      _ = Nat.pow 10 (e + 1) * (digits / Nat.pow 10 (e + 1)) + digits % Nat.pow 10 (e + 1) := by
        rw [Nat.ofDigitChars_eq_ofDigitChars_zero, length, ← shown, paddedValue]
        rfl
      _ = digits := Nat.div_add_mod ..
  obtain ⟨top, bottom⟩ := fractionQuotient digits e
  have one : Nat.pow 10 0 = 1 := rfl
  rw [Same, top, bottom, ← whole, ← places, powerSum, numerator, denominator, Int.neg_neg,
    Int.toNat_natCast, Int.toNat_neg_natCast, one, Nat.mul_one]
  ac_rfl

theorem textPositional (d : Decimal) : ∃ whole fraction, d.text = positional whole fraction ∧
    whole ≠ [] ∧ (∀ c ∈ whole ++ fraction, c.isDigit = true) ∧
    Same ⟨Nat.ofDigitChars 10 (whole ++ fraction) 0, -fraction.length⟩ d := by
  obtain ⟨digits, exponent⟩ := d
  cases exponent with
  | ofNat e =>
    refine ⟨Nat.toDigits 10 (digits * Nat.pow 10 e), [], rfl, Nat.toDigits_ne_nil, ?_, ?_⟩
    · rw [List.append_nil]
      exact numberDigits _
    · rw [List.append_nil, Nat.ofDigitChars_ten_toDigits]
      simp [Same, numerator, denominator]
  | negSucc e =>
    have shape : text ⟨digits, .negSucc e⟩ = positional (Nat.toDigits 10 (digits / Nat.pow 10 (e + 1)))
        (dropEndWhile (· == '0') (padded (e + 1) (digits % Nat.pow 10 (e + 1)))) := by
      unfold text positional
      rfl
    obtain ⟨ending, parts, zeros⟩ :=
      dropEndWhileParts (· == '0') (padded (e + 1) (digits % Nat.pow 10 (e + 1)))
    have zeros := List.eq_replicate_of_mem fun c member => eq_of_beq (zeros c member)
    generalize dropEndWhile (· == '0') (padded (e + 1) (digits % Nat.pow 10 (e + 1))) = fraction
      at shape parts
    refine ⟨_, fraction, shape, Nat.toDigits_ne_nil, ?_, fractionSame digits e (zeros ▸ parts)⟩
    intro c member
    rcases List.mem_append.mp member with inWhole | inFraction
    · exact numberDigits _ c inWhole
    · refine paddedDigits (e + 1) (digits % Nat.pow 10 (e + 1)) c ?_
      rw [parts]
      exact List.mem_append_left _ inFraction

theorem textRead (d : Decimal) : ∃ e, ofText? d.text = some e ∧ Same e d := by
  obtain ⟨whole, fraction, shape, filled, digits, same⟩ := textPositional d
  exact ⟨_, shape ▸ positionalRead filled digits, same⟩

theorem textBegins (d : Decimal) : ∃ c rest, d.text = c :: rest ∧ c.isDigit = true := by
  obtain ⟨whole, fraction, shape, filled, digits, -⟩ := textPositional d
  cases whole with
  | nil => contradiction
  | cons c rest =>
    have digit := digits c List.mem_cons_self
    cases fraction with
    | nil => exact ⟨c, rest, shape, digit⟩
    | cons d others => exact ⟨c, rest ++ '.' :: d :: others, shape, digit⟩

theorem textCharacters (d : Decimal) : ∀ c ∈ d.text, c.isDigit = true ∨ c = '.' := by
  obtain ⟨whole, fraction, shape, -, digits, -⟩ := textPositional d
  rw [shape]
  intro c member
  cases fraction with
  | nil => exact .inl (digits c (List.mem_append_left _ member))
  | cons d others =>
    rcases List.mem_append.mp member with inWhole | behind
    · exact .inl (digits c (List.mem_append_left _ inWhole))
    · rcases List.mem_cons.mp behind with point | inFraction
      · exact .inr point
      · exact .inl (digits c (List.mem_append_right _ inFraction))

end ScorePage.Decimal
