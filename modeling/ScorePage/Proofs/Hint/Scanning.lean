import ScorePage.Proofs.Hint.Runs

/-! What the scan makes of every text. When it succeeds, its lexemes stand for the parts of the text
in order and nothing is left out between them; it fails at the first place that no scan could get
over, and its fault tells what is wrong there. -/
namespace ScorePage.Hint
open Text

inductive Stands (before after : List Char) : List Char → Lexeme → Prop where
  | opening : Stands before after ['('] .opening
  | closing : Stands before after [')'] .closing
  | times {c} (sign : c = 'x' ∨ c = 'X') : Stands before after [c] .times
  | gap {blanks} (run : MaximalRun isBlank before blanks after) : Stands before after blanks .gap
  | number {digits value} (run : MaximalRun Char.isDigit before digits after)
      (meaning : Nat.ofDigitChars 10 digits 0 = value) (sized : value ≤ largestNumber) :
      Stands before after digits (.number value)

theorem timesPlain {c : Char} (sign : c = 'x' ∨ c = 'X') :
    isTimes c = true ∧ isBlank c = false ∧ c.isDigit = false := by
  rcases sign with rfl | rfl <;> decide

theorem standsSome {before after span : List Char} {lexeme : Lexeme}
    (stands : Stands before after span lexeme) : span ≠ [] := by
  cases stands with
  | opening => exact List.cons_ne_nil _ _
  | closing => exact List.cons_ne_nil _ _
  | times sign => exact List.cons_ne_nil _ _
  | gap run => exact run.some
  | number run meaning sized => exact run.some

theorem standsApart {before after span : List Char} {lexeme : Lexeme}
    (stands : Stands before after span lexeme) :
    Border isBlank isBlank span after ∧ Border Char.isDigit Char.isDigit span after := by
  cases stands with
  | opening =>
    exact ⟨borderPlain (List.forall_mem_singleton.mpr rfl) _,
      borderPlain (List.forall_mem_singleton.mpr rfl) _⟩
  | closing =>
    exact ⟨borderPlain (List.forall_mem_singleton.mpr rfl) _,
      borderPlain (List.forall_mem_singleton.mpr rfl) _⟩
  | times sign =>
    obtain ⟨-, solid, noDigit⟩ := timesPlain sign
    exact ⟨borderPlain (by simpa using solid) _, borderPlain (by simpa using noDigit) _⟩
  | gap run =>
    exact ⟨fun _ _ _ => run.ends, borderPlain (fun c member => blankNotDigit (run.all c member)) _⟩
  | number run meaning sized =>
    exact ⟨borderPlain (fun c member => digitNotBlank (run.all c member)) _, fun _ _ _ => run.ends⟩

theorem standsClear {before after span : List Char} {lexeme : Lexeme}
    (stands : Stands before after span lexeme) : Clear span := by
  cases stands with
  | opening => exact clearWithoutDigits (by simp [Legal]) (List.forall_mem_singleton.mpr rfl)
  | closing => exact clearWithoutDigits (by simp [Legal]) (List.forall_mem_singleton.mpr rfl)
  | times sign =>
    obtain ⟨times, -, noDigit⟩ := timesPlain sign
    exact clearWithoutDigits (by simp [Legal, times]) (by simpa using noDigit)
  | gap run =>
    exact clearWithoutDigits (fun c member => .inr (.inr (.inr (.inl (run.all c member)))))
      fun c member => blankNotDigit (run.all c member)
  | number run meaning sized => exact clearDigits run.all (meaning ▸ sized)

theorem standsBehind {front before span after : List Char} {lexeme : Lexeme}
    (blanks : Border isBlank isBlank front (before ++ span ++ after))
    (digits : Border Char.isDigit Char.isDigit front (before ++ span ++ after))
    (stands : Stands before after span lexeme) : Stands (front ++ before) after span lexeme := by
  cases stands with
  | opening => exact .opening
  | closing => exact .closing
  | times sign => exact .times sign
  | gap run => exact .gap (run.behind blanks)
  | number run meaning sized => exact .number (run.behind digits) meaning sized

theorem spelledHead {column : Nat} {text : List Char} {first : Located} {found : List Located}
    (spelled : Spelled column text (first :: found)) :
    ∃ span rest, text = span ++ rest ∧ first.column = column ∧
      Stands [] rest span first.lexeme ∧ Spelled (column + span.length) rest found := by
  cases spelled with
  | @opening _ rest _ tail => exact ⟨['('], rest, rfl, rfl, .opening, tail⟩
  | @closing _ rest _ tail => exact ⟨[')'], rest, rfl, rfl, .closing, tail⟩
  | @times _ c rest _ sign tail => exact ⟨[c], rest, rfl, rfl, .times (timesCharacters sign), tail⟩
  | @gap _ blanks rest _ some blank longest tail =>
    have run : MaximalRun isBlank [] blanks rest :=
      ⟨some, List.all_eq_true.mp blank, by simp, longest⟩
    exact ⟨blanks, rest, rfl, rfl, .gap run, tail⟩
  | @number _ digits value rest _ numeral sized longest tail =>
    have run : MaximalRun Char.isDigit [] digits rest :=
      ⟨numeral.some, numeral.decimal, by simp, longest⟩
    exact ⟨digits, rest, rfl, rfl, .number run numeral.meaning sized, tail⟩

theorem spelledClear {column : Nat} {text : List Char} {found : List Located}
    (spelled : Spelled column text found) : Clear text := by
  induction found generalizing column text with
  | nil =>
    cases spelled
    exact clearWithoutDigits (by simp) (by simp)
  | cons first found ih =>
    obtain ⟨span, rest, rfl, -, stands, tail⟩ := spelledHead spelled
    exact clearAppend (standsApart stands).2 (standsClear stands) (ih tail)

theorem spelledColumn {column : Nat} {text : List Char} {found : List Located}
    (spelled : Spelled column text found) : columnOf (column + text.length) found = column := by
  cases found with
  | nil => cases spelled; rfl
  | cons first found =>
    obtain ⟨span, rest, -, same, -, -⟩ := spelledHead spelled
    exact same

theorem spelledParts {column : Nat} {text : List Char} {earlier later : List Located}
    {located : Located} (spelled : Spelled column text (earlier ++ located :: later)) :
    ∃ before span after, text = before ++ span ++ after ∧
      located.column = column + before.length ∧
      columnOf (column + text.length) later = column + before.length + span.length ∧
      Stands before after span located.lexeme := by
  induction earlier generalizing column text with
  | nil =>
    obtain ⟨span, rest, rfl, same, stands, tail⟩ := spelledHead spelled
    refine ⟨[], span, rest, rfl, same, ?_, stands⟩
    rw [List.length_append, ← Nat.add_assoc]
    exact spelledColumn tail
  | cons first earlier ih =>
    obtain ⟨front, rest, rfl, -, standsFront, tail⟩ := spelledHead spelled
    obtain ⟨before, span, after, rfl, same, next, stands⟩ := ih tail
    obtain ⟨blanks, digits⟩ := standsApart standsFront
    refine ⟨front ++ before, span, after, by simp, ?_, ?_, standsBehind blanks digits stands⟩
    · rw [same, List.length_append, Nat.add_assoc]
    · simpa only [List.length_append, ← Nat.add_assoc] using next

theorem spelledBounds {column : Nat} {text : List Char} {found : List Located}
    (spelled : Spelled column text found) :
    ∀ located ∈ found, column ≤ located.column ∧ located.column < column + text.length := by
  intro located member
  obtain ⟨earlier, later, rfl⟩ := List.append_of_mem member
  obtain ⟨before, span, after, rfl, same, -, stands⟩ := spelledParts spelled
  have some := List.length_pos_iff.mpr (standsSome stands)
  rw [same, List.length_append, List.length_append]
  omega

theorem spelledRising {column : Nat} {text : List Char} {found : List Located}
    (spelled : Spelled column text found) : (found.map Located.column).Pairwise (· < ·) := by
  induction found generalizing column text with
  | nil => exact .nil
  | cons first found ih =>
    obtain ⟨span, rest, -, same, stands, tail⟩ := spelledHead spelled
    refine .cons (List.forall_mem_map.mpr fun next member => ?_) (ih tail)
    have some := List.length_pos_iff.mpr (standsSome stands)
    have further := (spelledBounds tail next member).1
    omega

def sticks (c : Char) : Bool := isAlphanumeric c && !isTimes c

/- The first place that the scan cannot get over: before it everything is clear, but for a number that
an illegal letter follows. Such a letter is told of first, even if the number is too large. -/
inductive FirstFault (column : Nat) : List Char → Spot → Prop where
  | unexpected {before c after} (clear : Clear before) (illegal : ¬Legal c)
      (apart : ∀ d ∈ before.getLast?, d.isDigit = true → isAlphanumeric c = false) :
      FirstFault column (before ++ c :: after) ⟨column + before.length, .unexpectedCharacter c⟩
  | glued {before digits c after} (clear : Clear before)
      (run : MaximalRun Char.isDigit before digits (c :: after)) (illegal : ¬Legal c)
      (letter : isAlphanumeric c = true) :
      FirstFault column (before ++ digits ++ c :: after)
        ⟨column + before.length + digits.length, .characterAfterNumber c digits⟩
  | tooLarge {before digits after} (clear : Clear before)
      (run : MaximalRun Char.isDigit before digits after)
      (large : largestNumber < Nat.ofDigitChars 10 digits 0) (unglued : EndsRun sticks after) :
      FirstFault column (before ++ digits ++ after)
        ⟨column + before.length, .numberTooLarge digits⟩

theorem digitSticks {c : Char} (digit : c.isDigit = true) : sticks c = true :=
  ofDigit (by decide +kernel) digit

theorem unstuckDigits {text : List Char} (unglued : EndsRun sticks text) :
    EndsRun Char.isDigit text := by
  intro c first
  rw [← Bool.not_eq_true]
  intro digit
  have apart := unglued c first
  rw [digitSticks digit] at apart
  contradiction

theorem sticksIllegal {c : Char} (stuck : sticks c = true) (noDigit : c.isDigit = false) :
    ¬Legal c := by
  rintro (rfl | rfl | sign | blank | digit)
  · exact absurd stuck (by decide +kernel)
  · exact absurd stuck (by decide +kernel)
  · simp [sticks, sign] at stuck
  · simp [sticks, blankNotAlphanumeric blank] at stuck
  · rw [noDigit] at digit
    contradiction

theorem illegalSticks {c : Char} (illegal : ¬Legal c) : sticks c = isAlphanumeric c := by
  have noSign : isTimes c = false := by
    rw [← Bool.not_eq_true]
    exact fun sign => illegal (.inr (.inr (.inl sign)))
  rw [sticks, noSign, Bool.not_false, Bool.and_true]

theorem faultBehind {column : Nat} {front rest : List Char} {spot : Spot} (clear : Clear front)
    (apart : Border Char.isDigit sticks front rest)
    (fault : FirstFault (column + front.length) rest spot) :
    FirstFault column (front ++ rest) spot := by
  have digits {text after : List Char} (same : rest = text ++ after) :
      Border Char.isDigit Char.isDigit front text :=
    fun d last digit => endsRunLeft (unstuckDigits (same ▸ apart d last digit))
  cases fault with
  | @unexpected before c after clearBefore illegal unglued =>
    have whole := clearAppend (digits rfl) clear clearBefore
    have moved := @FirstFault.unexpected column (front ++ before) c after whole illegal ?_
    · simpa only [List.append_assoc, List.length_append, Nat.add_assoc] using moved
    · intro d last digit
      by_cases some : before = []
      · subst some
        rw [List.append_nil] at last
        rw [← illegalSticks illegal]
        exact apart d last digit c rfl
      · rw [getLastInner some] at last
        exact unglued d last digit
  | @glued before number c after clearBefore run illegal letter =>
    have whole := clearAppend (digits (List.append_assoc _ _ _)) clear clearBefore
    have further := run.behind (digits (List.append_nil _).symm)
    have moved := @FirstFault.glued column _ _ _ _ whole further illegal letter
    simpa only [List.append_assoc, List.length_append, Nat.add_assoc] using moved
  | @tooLarge before number after clearBefore run large unglued =>
    have whole := clearAppend (digits (List.append_assoc _ _ _)) clear clearBefore
    have further := run.behind (digits (List.append_nil _).symm)
    have moved := @FirstFault.tooLarge column _ _ _ whole further large unglued
    simpa only [List.append_assoc, List.length_append, Nat.add_assoc] using moved

theorem faultBehindPlain {column : Nat} {rest : List Char} {spot : Spot} (front : List Char)
    (legal : ∀ c ∈ front, Legal c) (plain : ∀ c ∈ front, c.isDigit = false)
    (fault : FirstFault (column + front.length) rest spot) :
    FirstFault column (front ++ rest) spot :=
  faultBehind (clearWithoutDigits legal plain) (borderPlain plain rest) fault

theorem numberAtError {column : Nat} {digits text : List Char} {spot : Spot} :
    numberAt column digits text = .error spot ↔
      (∃ c rest, text = c :: rest ∧ sticks c = true ∧
        spot = ⟨column + digits.length, .characterAfterNumber c digits⟩) ∨
      (EndsRun sticks text ∧ largestNumber < Nat.ofDigitChars 10 digits 0 ∧
        spot = ⟨column, .numberTooLarge digits⟩) := by
  have sized : (if Nat.ofDigitChars 10 digits 0 ≤ largestNumber then
        Except.ok (Located.mk column (.number (Nat.ofDigitChars 10 digits 0)))
      else .error (Spot.mk column (.numberTooLarge digits))) = .error spot ↔
      largestNumber < Nat.ofDigitChars 10 digits 0 ∧ spot = ⟨column, .numberTooLarge digits⟩ := by
    split
    · rename_i small
      simp [Nat.not_lt.mpr small]
    · rename_i large
      simp only [Except.error.injEq, Nat.lt_of_not_le large, true_and]
      exact eq_comm
  cases text with
  | nil => simpa [numberAt, EndsRun] using sized
  | cons c rest =>
    change (if sticks c = true then _ else _) = _ ↔ _
    by_cases stuck : sticks c = true
    · rw [if_pos stuck]
      constructor
      · intro refused
        cases refused
        exact .inl ⟨c, rest, rfl, stuck, rfl⟩
      · rintro (⟨_, _, same, -, rfl⟩ | ⟨unglued, -⟩)
        · cases same
          rfl
        · rw [unglued c rfl] at stuck
          contradiction
    · rw [if_neg stuck]
      refine sized.trans ⟨fun large => .inr ⟨?_, large⟩, ?_⟩
      · intro d first
        cases first
        exact Bool.not_eq_true _ ▸ stuck
      · rintro (⟨_, _, same, letter, -⟩ | ⟨-, large⟩)
        · cases same
          contradiction
        · exact large

theorem faultOfScan {column : Nat} {text : List Char} {spot : Spot}
    (refused : scan column text = .error spot) : FirstFault column text spot := by
  fun_induction scan column text with
  | case1 => contradiction
  | case2 column rest ih =>
    have later := ih (Result.consFailed.mp refused)
    exact faultBehindPlain ['('] (by simp [Legal]) (List.forall_mem_singleton.mpr rfl) later
  | case3 column rest _ ih =>
    have later := ih (Result.consFailed.mp refused)
    exact faultBehindPlain [')'] (by simp [Legal]) (List.forall_mem_singleton.mpr rfl) later
  | case4 column c rest _ _ sign ih =>
    have later := ih (Result.consFailed.mp refused)
    have noDigit := (timesPlain (timesCharacters sign)).2.2
    exact faultBehindPlain [c] (by simp [Legal, sign]) (by simpa using noDigit) later
  | case5 column c rest _ _ _ blank width =>
    rename_i ih
    have later := ih (Result.consFailed.mp refused)
    have run : ∀ d ∈ c :: rest.takeWhile isBlank, isBlank d = true :=
      List.forall_mem_cons.mpr ⟨blank, List.all_eq_true.mp List.all_takeWhile⟩
    have moved := @faultBehindPlain column _ spot (c :: rest.takeWhile isBlank)
      (fun d member => .inr (.inr (.inr (.inl (run d member)))))
      (fun d member => blankNotDigit (run d member))
      (by simpa only [width, List.length_cons, Nat.add_comm 1] using later)
    rwa [List.cons_append, List.takeWhile_append_dropWhile] at moved
  | case6 column c rest _ _ _ _ digit digits =>
    rename_i ih
    have run : ∀ d ∈ digits, d.isDigit = true :=
      List.forall_mem_cons.mpr ⟨digit, List.all_eq_true.mp List.all_takeWhile⟩
    have whole : digits ++ rest.dropWhile Char.isDigit = c :: rest := by
      rw [List.cons_append, List.takeWhile_append_dropWhile]
    have maximal : MaximalRun Char.isDigit [] digits (rest.dropWhile Char.isDigit) :=
      ⟨List.cons_ne_nil _ _, run, by simp, endsRunDropWhile Char.isDigit rest⟩
    have nothing : Clear [] := clearWithoutDigits (by simp) (by simp)
    rw [← whole]
    rcases Result.bindError.mp refused with refused | ⟨number, numbered, refused⟩
    · rcases numberAtError.mp refused with ⟨d, after, same, stuck, rfl⟩ | ⟨unglued, large, rfl⟩
      · rw [same] at maximal ⊢
        have illegal := sticksIllegal stuck (maximal.ends d rfl)
        exact .glued nothing maximal illegal (illegalSticks illegal ▸ stuck)
      · exact .tooLarge nothing maximal large unglued
    · obtain ⟨unglued, sized, -⟩ := numberAtOk.mp numbered
      have later := ih (Result.consFailed.mp refused)
      exact faultBehind (clearDigits run sized) (fun _ _ _ => unglued) later
  | case7 column c rest opening closing sign blank digit =>
    cases refused
    have illegal : ¬Legal c := by simp [Legal, opening, closing, sign, blank, digit]
    exact @FirstFault.unexpected column [] c rest (clearWithoutDigits (by simp) (by simp)) illegal
      (by simp)

theorem faultUnclear {column : Nat} {text : List Char} {spot : Spot}
    (fault : FirstFault column text spot) : ¬Clear text := by
  intro clear
  cases fault with
  | unexpected _ illegal _ => exact illegal (clear.legal _ (by simp))
  | glued _ _ illegal _ => exact illegal (clear.legal _ (by simp))
  | tooLarge _ run large _ => exact absurd (clear.sized _ _ _ rfl run) (Nat.not_le.mpr large)

theorem clearScanned {text : List Char} (clear : Clear text) (column : Nat) :
    ∃ found, scan column text = .ok found := by
  cases scanned : scan column text with
  | ok found => exact ⟨found, rfl⟩
  | error spot => exact absurd clear (faultUnclear (faultOfScan scanned))

theorem scanPart {column : Nat} {span rest more : List Char} {lexeme : Lexeme}
    {found : List Located} (stands : Stands [] rest span lexeme)
    (tail : Spelled (column + span.length) rest found)
    (unglued : Border Char.isDigit sticks (span ++ rest) more)
    (apart : Border isBlank isBlank (span ++ rest) more) :
    scan column (span ++ (rest ++ more)) =
      (scan (column + span.length) (rest ++ more)).map (⟨column, lexeme⟩ :: ·) := by
  cases stands with
  | opening => exact scanOpening column _
  | closing => exact scanClosing column _
  | times sign => exact scanTimes column (timesPlain sign).1 _
  | gap run =>
    have ends := endsRunOver run.some run.all run.ends apart
    exact scanGap column run.some (List.all_eq_true.mpr run.all) ends
  | number run meaning sized =>
    have ends := endsRunOver run.some run.all (spelledUnglued tail run.ends) unglued
    subst meaning
    rw [scanDigits column run.some run.all (unstuckDigits ends),
      numberAtOk.mpr ⟨ends, sized, rfl⟩]
    exact Result.consAfter _ _

theorem scanThrough {column : Nat} {text rest : List Char} {found : List Located}
    (spelled : Spelled column text found) (unglued : Border Char.isDigit sticks text rest)
    (apart : Border isBlank isBlank text rest) :
    scan column (text ++ rest) = (scan (column + text.length) rest).map (found ++ ·) := by
  -- The scan does not look back: behind what it could read it goes on as if it had begun there. By
  -- induction on what was read.
  induction found generalizing column text with
  | nil =>
    cases spelled
    change scan column rest = (scan column rest).map id
    cases scan column rest <;> rfl
  | cons first found ih =>
    obtain ⟨span, others, rfl, rfl, stands, tail⟩ := spelledHead spelled
    rw [List.append_assoc, scanPart stands tail unglued apart,
      ih tail (borderBehind unglued) (borderBehind apart), List.length_append, Nat.add_assoc]
    cases scan (first.column + (span.length + others.length)) rest <;> rfl

theorem faultReached {column : Nat} {before rest : List Char} {spot : Spot} (clear : Clear before)
    (unglued : Border Char.isDigit sticks before rest) (apart : Border isBlank isBlank before rest)
    (refused : scan (column + before.length) rest = .error spot) :
    scan column (before ++ rest) = .error spot := by
  obtain ⟨found, scanned⟩ := clearScanned clear column
  rw [scanThrough (spelledOfScan scanned) unglued apart, refused]
  rfl

theorem numberReached {column : Nat} {before digits after : List Char} {spot : Spot}
    (clear : Clear before) (run : MaximalRun Char.isDigit before digits after)
    (refused : numberAt (column + before.length) digits after = .error spot) :
    scan column (before ++ digits ++ after) = .error spot := by
  rw [List.append_assoc]
  refine faultReached clear (fun d last digit => ?_) (fun _ _ _ => ?_) ?_
  · rw [run.begins d last] at digit
    contradiction
  · exact endsRunAppend run.some fun c member => digitNotBlank (run.all c member)
  · rw [scanDigits _ run.some run.all run.ends, refused]
    rfl

theorem scanOfFault {column : Nat} {text : List Char} {spot : Spot}
    (fault : FirstFault column text spot) : scan column text = .error spot := by
  cases fault with
  | @unexpected before c after clear illegal apart =>
    obtain ⟨opening, closing, sign, blank, digit⟩ :
        c ≠ '(' ∧ c ≠ ')' ∧ ¬isTimes c = true ∧ ¬isBlank c = true ∧ ¬c.isDigit = true := by
      simpa only [Legal, not_or] using illegal
    refine faultReached clear (fun d last digit => ?_) (fun _ _ _ => ?_) ?_
    · intro e first
      cases first
      rw [illegalSticks illegal]
      exact apart d last digit
    · intro e first
      cases first
      exact Bool.eq_false_iff.mpr blank
    · rw [scan, if_neg opening, if_neg closing, if_neg sign, if_neg blank, if_neg digit]
  | glued clear run illegal letter =>
    exact numberReached clear run
      (numberAtError.mpr (.inl ⟨_, _, rfl, (illegalSticks illegal).trans letter, rfl⟩))
  | tooLarge clear run large unglued =>
    exact numberReached clear run (numberAtError.mpr (.inr ⟨unglued, large, rfl⟩))

theorem scanFault {column : Nat} {text : List Char} {spot : Spot} :
    scan column text = .error spot ↔ FirstFault column text spot :=
  ⟨faultOfScan, scanOfFault⟩

theorem lexemesOk {source : String} {found : List Located} :
    lexemes source = .ok found ↔ Spelled 1 source.toList found := by
  rw [lexemes, Result.mapErrorOk, scanExact]

theorem lexemesError {source : String} {fault : Fault} :
    lexemes source = .error fault ↔
      fault.token = source ∧ FirstFault 1 source.toList fault.spot := by
  rw [lexemes, Result.mapErrorError]
  constructor
  · rintro ⟨spot, refused, rfl⟩
    exact ⟨rfl, scanFault.mp refused⟩
  · rintro ⟨rfl, refused⟩
    exact ⟨fault.spot, scanFault.mpr refused, rfl⟩

theorem lexemesExact (source : String) :
    ((∃ found, lexemes source = .ok found) ↔ Clear source.toList) ∧
    (∀ found, lexemes source = .ok found →
      columnOf (source.length + 1) found = 1 ∧
      (found.map Located.column).Pairwise (· < ·) ∧
      ∀ earlier located later, found = earlier ++ located :: later →
        ∃ before span after, source.toList = before ++ span ++ after ∧
          located.column = before.length + 1 ∧
          columnOf (source.length + 1) later = before.length + span.length + 1 ∧
          Stands before after span located.lexeme) ∧
    (∀ fault, lexemes source = .error fault ↔
      fault.token = source ∧ FirstFault 1 source.toList fault.spot) ∧
    ∀ c digits,
      (Cause.unexpectedCharacter c).message = s!"Unexpected character '{c}'" ∧
      (Cause.characterAfterNumber c digits).message =
        s!"Unexpected character '{c}' after number {String.ofList digits}" ∧
      (Cause.numberTooLarge digits).message = s!"Number {String.ofList digits} is too large" := by
  refine ⟨⟨?_, ?_⟩, ?_, fun fault => lexemesError, fun c digits => ⟨rfl, rfl, rfl⟩⟩
  · rintro ⟨found, ok⟩
    exact spelledClear (lexemesOk.mp ok)
  · intro clear
    obtain ⟨found, scanned⟩ := clearScanned clear 1
    exact ⟨found, lexemesOk.mpr (spelledOfScan scanned)⟩
  · intro found ok
    have spelled := lexemesOk.mp ok
    rw [← String.length_toList, Nat.add_comm]
    refine ⟨spelledColumn spelled, spelledRising spelled, ?_⟩
    rintro earlier located later rfl
    obtain ⟨before, span, after, text, column, next, stands⟩ := spelledParts spelled
    exact ⟨before, span, after, text, by omega, by omega, stands⟩

theorem letterBehindLargeNumber :
    lexemes "(99999999999a" =
      .error ⟨"(99999999999a", 13, .characterAfterNumber 'a' "99999999999".toList⟩ := by
  have clear : Clear ['('] :=
    clearWithoutDigits (by simp [Legal]) (List.forall_mem_singleton.mpr rfl)
  have run : MaximalRun Char.isDigit ['('] "99999999999".toList ['a'] :=
    ⟨by decide, List.all_eq_true.mp rfl, by simp, by simp [EndsRun]⟩
  have illegal : ¬Legal 'a' := sticksIllegal (by decide +kernel) (by decide)
  exact ((lexemesExact _).2.2.1 _).mpr ⟨rfl, .glued clear run illegal (by decide +kernel)⟩

end ScorePage.Hint
