import ScorePage.Proofs.Hint.Grammar
import ScorePage.Proofs.Result

/-! The text that a row of lexemes spells. A run of blanks spells one gap, a run of digits one
number, and no run may go on after it. A text is read as lexemes exactly when they spell it. -/
namespace ScorePage.Hint
open Text

/- What has to hold of the text behind a run of characters in `p` for the run to end there. -/
def EndsRun (p : Char → Bool) (text : List Char) : Prop := ∀ c ∈ text.head?, p c = false

inductive Spelled : Nat → List Char → List Located → Prop where
  | nil (column) : Spelled column [] []
  | opening {column text found} (tail : Spelled (column + 1) text found) :
      Spelled column ('(' :: text) (⟨column, .opening⟩ :: found)
  | closing {column text found} (tail : Spelled (column + 1) text found) :
      Spelled column (')' :: text) (⟨column, .closing⟩ :: found)
  | times {column c text found} (sign : isTimes c = true)
      (tail : Spelled (column + 1) text found) :
      Spelled column (c :: text) (⟨column, .times⟩ :: found)
  | gap {column blanks text found} (some : blanks ≠ []) (blank : isBlankText blanks = true)
      (longest : EndsRun isBlank text) (tail : Spelled (column + blanks.length) text found) :
      Spelled column (blanks ++ text) (⟨column, .gap⟩ :: found)
  | number {column digits value text found} (numeral : Numeral digits value)
      (sized : value ≤ largestNumber) (longest : EndsRun Char.isDigit text)
      (tail : Spelled (column + digits.length) text found) :
      Spelled column (digits ++ text) (⟨column, .number value⟩ :: found)

theorem endsRunDropWhile (p : Char → Bool) (text : List Char) : EndsRun p (text.dropWhile p) := by
  intro c first
  have h := List.head?_dropWhile_not p text
  rw [Option.mem_def.mp first] at h
  simpa using h

theorem endsRunAppend {p : Char → Bool} {run text : List Char} (some : run ≠ [])
    (none : ∀ c ∈ run, p c = false) : EndsRun p (run ++ text) := by
  obtain ⟨c, others, rfl⟩ := List.exists_cons_of_ne_nil some
  intro first same
  cases Option.some.inj same
  exact none c List.mem_cons_self

theorem takeWhileOfRun {p : Char → Bool} {run text : List Char} (all : ∀ c ∈ run, p c = true)
    (ends : EndsRun p text) : (run ++ text).takeWhile p = run := by
  cases text with
  | nil => simpa using @List.takeWhile_append_of_pos _ p run [] all
  | cons c rest =>
    have stop : p c = false := ends c rfl
    simp [List.takeWhile_append_of_pos all, stop]

theorem dropWhileOfRun {p : Char → Bool} {run text : List Char} (all : ∀ c ∈ run, p c = true)
    (ends : EndsRun p text) : (run ++ text).dropWhile p = text := by
  cases text with
  | nil => simpa using @List.dropWhile_append_of_pos _ p run [] all
  | cons c rest =>
    have stop : p c = false := ends c rfl
    simp [List.dropWhile_append_of_pos all, stop]

def blankRanges : List (Nat × Nat) :=
  [(9, 13), (0x20, 0x20), (0x85, 0x85), (0xA0, 0xA0), (0x1680, 0x1680), (0x2000, 0x200A),
    (0x2028, 0x2029), (0x202F, 0x202F), (0x205F, 0x205F), (0x3000, 0x3000)]

theorem blankInRange {c : Char} (blank : isBlank c = true) :
    ∃ range ∈ blankRanges, range.1 ≤ c.toNat ∧ c.toNat ≤ range.2 := by
  simp only [isBlank, Bool.or_eq_true, Bool.and_eq_true, decide_eq_true_eq, beq_iff_eq] at blank
  simp only [blankRanges, List.mem_cons, List.not_mem_nil, or_false, exists_eq_or_imp,
    exists_eq_left]
  omega

theorem blankNotAlphanumeric {c : Char} (blank : isBlank c = true) : isAlphanumeric c = false := by
  have apart : (blankRanges.all fun blanks => (alphabeticRanges ++ numericRanges).all fun range =>
      range.2.blt blanks.1 || blanks.2.blt range.1) = true := by decide +kernel
  simp only [List.all_eq_true, Bool.or_eq_true, Nat.blt_eq] at apart
  obtain ⟨blanks, listed, lower, upper⟩ := blankInRange blank
  have outside : ∀ range ∈ alphabeticRanges ++ numericRanges,
      ¬(range.1 ≤ c.toNat ∧ c.toNat ≤ range.2) := by
    intro range member
    have := apart blanks listed range member
    omega
  simp only [isAlphanumeric, isAlphabetic, isNumeric, Bool.or_eq_false_iff, List.any_eq_false,
    Bool.and_eq_true, decide_eq_true_eq]
  exact ⟨fun range member => outside range (List.mem_append_left _ member),
    fun range member => outside range (List.mem_append_right _ member)⟩

theorem blankNotDigit {c : Char} (blank : isBlank c = true) : c.isDigit = false := by
  have apart : ∀ blanks ∈ blankRanges, blanks.2 < '0'.toNat ∨ '9'.toNat < blanks.1 := by decide
  obtain ⟨blanks, listed, lower, upper⟩ := blankInRange blank
  have outside := apart blanks listed
  rw [← Bool.not_eq_true, Char.isDigit_iff_toNat]
  omega

theorem timesCharacters {c : Char} (sign : isTimes c = true) : c = 'x' ∨ c = 'X' := by
  simpa [isTimes] using sign

theorem scanOpening (column : Nat) (text : List Char) :
    scan column ('(' :: text) = (scan (column + 1) text).map (⟨column, .opening⟩ :: ·) := by
  rw [scan, if_pos rfl, Result.consAfter]

theorem scanClosing (column : Nat) (text : List Char) :
    scan column (')' :: text) = (scan (column + 1) text).map (⟨column, .closing⟩ :: ·) := by
  rw [scan, if_neg (by decide), if_pos rfl, Result.consAfter]

theorem scanTimes (column : Nat) {c : Char} (sign : isTimes c = true) (text : List Char) :
    scan column (c :: text) = (scan (column + 1) text).map (⟨column, .times⟩ :: ·) := by
  have opening : c ≠ '(' := by rintro rfl; contradiction
  have closing : c ≠ ')' := by rintro rfl; contradiction
  rw [scan, if_neg opening, if_neg closing, if_pos sign, Result.consAfter]

theorem scanGap (column : Nat) {blanks text : List Char} (some : blanks ≠ [])
    (blank : isBlankText blanks = true) (longest : EndsRun isBlank text) :
    scan column (blanks ++ text) =
      (scan (column + blanks.length) text).map (⟨column, .gap⟩ :: ·) := by
  obtain ⟨c, others, rfl⟩ := List.exists_cons_of_ne_nil some
  simp only [isBlankText, List.all_cons, Bool.and_eq_true, List.all_eq_true] at blank
  have opening : c ≠ '(' := by rintro rfl; exact absurd blank.1 (by decide)
  have closing : c ≠ ')' := by rintro rfl; exact absurd blank.1 (by decide)
  have sign : ¬isTimes c = true := by
    intro sign
    rcases timesCharacters sign with rfl | rfl <;> exact absurd blank.1 (by decide)
  rw [List.cons_append, scan, if_neg opening, if_neg closing, if_neg sign, if_pos blank.1]
  rw [takeWhileOfRun blank.2 longest, dropWhileOfRun blank.2 longest, Result.consAfter,
    List.length_cons, Nat.add_comm 1]

theorem scanDigits (column : Nat) {digits text : List Char} (some : digits ≠ [])
    (decimal : ∀ c ∈ digits, c.isDigit = true) (longest : EndsRun Char.isDigit text) :
    scan column (digits ++ text) = (do
      let number ← numberAt column digits text
      return number :: (← scan (column + digits.length) text)) := by
  obtain ⟨c, others, rfl⟩ := List.exists_cons_of_ne_nil some
  obtain ⟨digit, more⟩ := List.forall_mem_cons.mp decimal
  have opening : c ≠ '(' := by rintro rfl; exact absurd digit (by decide)
  have closing : c ≠ ')' := by rintro rfl; exact absurd digit (by decide)
  have sign : ¬isTimes c = true := by
    intro sign
    rcases timesCharacters sign with rfl | rfl <;> exact absurd digit (by decide)
  have blank : ¬isBlank c = true := by
    intro blank
    rw [blankNotDigit blank] at digit
    contradiction
  rw [List.cons_append, scan, if_neg opening, if_neg closing, if_neg sign, if_neg blank,
    if_pos digit, takeWhileOfRun more longest, dropWhileOfRun more longest]

theorem numberAtOk {column : Nat} {digits text : List Char} {number : Located} :
    numberAt column digits text = .ok number ↔
      EndsRun (fun c => isAlphanumeric c && !isTimes c) text ∧
      Nat.ofDigitChars 10 digits 0 ≤ largestNumber ∧
      number = ⟨column, .number (Nat.ofDigitChars 10 digits 0)⟩ := by
  have sized : (if Nat.ofDigitChars 10 digits 0 ≤ largestNumber then
        Except.ok (Located.mk column (.number (Nat.ofDigitChars 10 digits 0)))
      else .error (Spot.mk column (.numberTooLarge digits))) = .ok number ↔
      Nat.ofDigitChars 10 digits 0 ≤ largestNumber ∧
      number = ⟨column, .number (Nat.ofDigitChars 10 digits 0)⟩ := by
    split
    · rename_i small
      simp only [Except.ok.injEq, small, true_and]
      exact eq_comm
    · rename_i large
      simp [large]
  cases text with
  | nil => simpa [numberAt, EndsRun] using sized
  | cons c rest =>
    simp only [numberAt, EndsRun, List.head?_cons, Option.mem_def, Option.some.injEq,
      forall_eq']
    split
    · rename_i glued
      simp [glued]
    · rename_i apart
      rw [sized]
      simp [apart]

theorem spelledUnglued {column : Nat} {text : List Char} {found : List Located}
    (spelled : Spelled column text found) (longest : EndsRun Char.isDigit text) :
    EndsRun (fun c => isAlphanumeric c && !isTimes c) text := by
  intro c first
  cases spelled with
  | nil => simp at first
  | opening tail => cases Option.some.inj first; decide +kernel
  | closing tail => cases Option.some.inj first; decide +kernel
  | times sign tail => cases Option.some.inj first; simp [sign]
  | gap some blank _ tail =>
    obtain ⟨b, others, rfl⟩ := List.exists_cons_of_ne_nil some
    cases Option.some.inj first
    simp only [isBlankText, List.all_cons, Bool.and_eq_true] at blank
    simp [blankNotAlphanumeric blank.1]
  | number numeral _ _ tail =>
    obtain ⟨d, others, rfl⟩ := List.exists_cons_of_ne_nil numeral.some
    have digit := numeral.decimal d List.mem_cons_self
    have noDigit : d.isDigit = false := longest d rfl
    rw [noDigit] at digit
    contradiction

theorem spelledOfScan {column : Nat} {text : List Char} {found : List Located}
    (ok : scan column text = .ok found) : Spelled column text found := by
  fun_induction scan column text generalizing found with
  | case1 column => cases ok; exact .nil column
  | case2 column rest ih =>
    obtain ⟨tail, scanned, rfl⟩ := Result.consOk.mp ok
    exact .opening (ih scanned)
  | case3 column rest _ ih =>
    obtain ⟨tail, scanned, rfl⟩ := Result.consOk.mp ok
    exact .closing (ih scanned)
  | case4 column c rest _ _ sign ih =>
    obtain ⟨tail, scanned, rfl⟩ := Result.consOk.mp ok
    exact .times sign (ih scanned)
  | case5 column c rest _ _ _ blank width =>
    rename_i ih
    obtain ⟨tail, scanned, rfl⟩ := Result.consOk.mp ok
    have run : isBlankText (c :: rest.takeWhile isBlank) = true := by
      simp [isBlankText, blank]
    have spelled := Spelled.gap (List.cons_ne_nil c _) run (endsRunDropWhile isBlank rest)
      (by simpa only [width, List.length_cons, Nat.add_comm 1] using ih scanned)
    simpa only [List.cons_append, List.takeWhile_append_dropWhile] using spelled
  | case6 column c rest _ _ _ _ digit digits =>
    rename_i ih
    obtain ⟨number, numbered, ok⟩ := Result.bindOk.mp ok
    obtain ⟨tail, scanned, rfl⟩ := Result.consOk.mp ok
    obtain ⟨_, sized, rfl⟩ := numberAtOk.mp numbered
    have run : ∀ d ∈ c :: rest.takeWhile Char.isDigit, d.isDigit = true := by
      intro d member
      rcases List.mem_cons.mp member with rfl | member
      · exact digit
      · exact List.all_eq_true.mp List.all_takeWhile d member
    have numeral := Numeral.mk (List.cons_ne_nil c _) run rfl
    have spelled := Spelled.number numeral sized (endsRunDropWhile Char.isDigit rest) (ih scanned)
    simpa only [digits, List.cons_append, List.takeWhile_append_dropWhile] using spelled
  | case7 => contradiction

theorem scanOfSpelled {column : Nat} {text : List Char} {found : List Located}
    (spelled : Spelled column text found) : scan column text = .ok found := by
  induction spelled with
  | nil column => rw [scan]
  | opening tail ih => rw [scanOpening, ih]; rfl
  | closing tail ih => rw [scanClosing, ih]; rfl
  | times sign tail ih => rw [scanTimes _ sign, ih]; rfl
  | gap some blank longest tail ih => rw [scanGap _ some blank longest, ih]; rfl
  | number numeral sized longest tail ih =>
    have sized := numeral.meaning ▸ sized
    rw [scanDigits _ numeral.some numeral.decimal longest,
      numberAtOk.mpr ⟨spelledUnglued tail longest, sized, rfl⟩, ih, numeral.meaning]
    rfl

theorem scanExact {column : Nat} {text : List Char} {found : List Located} :
    scan column text = .ok found ↔ Spelled column text found :=
  ⟨spelledOfScan, scanOfSpelled⟩

end ScorePage.Hint
