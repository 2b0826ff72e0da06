import ScorePage.Text.Blank

/-! Digits, cutting off the end of a text, and what trimming makes of a text. -/
namespace ScorePage.Text

theorem ofDigit {P : Char → Bool} (each : "0123456789".toList.all P = true) {c : Char}
    (digit : c.isDigit = true) : P c = true := by
  have among : ∀ n < 58, 48 ≤ n → Char.ofNat n ∈ "0123456789".toList := by decide
  obtain ⟨least, most⟩ := Char.isDigit_iff_toNat.mp digit
  have member := among c.toNat (Nat.lt_succ_of_le most) least
  rw [Char.ofNat_toNat] at member
  exact List.all_eq_true.mp each c member

theorem digitNotBlank {c : Char} (digit : c.isDigit = true) : isBlank c = false := by
  have solid := ofDigit (P := fun c => !isBlank c) (by decide) digit
  simpa using solid

theorem numberDigits (n : Nat) : ∀ c ∈ Nat.toDigits 10 n, c.isDigit = true := fun _ member =>
  Nat.isDigit_of_mem_toDigits (by decide) (by decide) member

theorem dropEndWhileParts (p : Char → Bool) (text : List Char) :
    ∃ ending, text = dropEndWhile p text ++ ending ∧ ∀ c ∈ ending, p c = true := by
  refine ⟨(text.reverse.takeWhile p).reverse, ?_, fun c member => ?_⟩
  · rw [dropEndWhile, ← List.reverse_append, List.takeWhile_append_dropWhile, List.reverse_reverse]
  · exact List.all_eq_true.mp List.all_takeWhile c (List.mem_reverse.mp member)

theorem dropEndWhileNone {p : Char → Bool} {text : List Char}
    (last : ∀ c, text.getLast? = some c → p c = false) : dropEndWhile p text = text := by
  rw [dropEndWhile]
  cases reversed : text.reverse with
  | nil => rw [List.reverse_eq_nil_iff.mp reversed]; rfl
  | cons c rest =>
    have last := last c (by rw [← List.head?_reverse, reversed, List.head?_cons])
    rw [List.dropWhile_cons_of_neg (Bool.eq_false_iff.mp last), ← reversed, List.reverse_reverse]

theorem dropEndWhileLast (p : Char → Bool) (text : List Char) :
    ∀ c ∈ (dropEndWhile p text).getLast?, p c = false := by
  intro c last
  rw [dropEndWhile, List.getLast?_reverse] at last
  have stops := List.head?_dropWhile_not p text.reverse
  rw [last] at stops
  exact stops

theorem dropEndWhileMore {p : Char → Bool} {ending : List Char} (all : ∀ c ∈ ending, p c = true)
    (text : List Char) : dropEndWhile p (text ++ ending) = dropEndWhile p text := by
  have reversed : ∀ c ∈ ending.reverse, p c = true := fun c member =>
    all c (List.mem_reverse.mp member)
  rw [dropEndWhile, List.reverse_append, List.dropWhile_append_of_pos reversed, dropEndWhile]

theorem trimNone {text : List Char} (solid : ∀ c ∈ text, isBlank c = false) : trim text = text := by
  have start : text.dropWhile isBlank = text := by
    cases text with
    | nil => rfl
    | cons c rest =>
      exact List.dropWhile_cons_of_neg (Bool.eq_false_iff.mp (solid c List.mem_cons_self))
  rw [trim, start]
  exact dropEndWhileNone fun c last => solid c (List.mem_of_getLast? last)

theorem trimPadded {before after : List Char} (blankBefore : isBlankText before = true)
    (blankAfter : isBlankText after = true) (text : List Char) :
    trim (before ++ text ++ after) = trim text := by
  have front := List.all_eq_true.mp blankBefore
  have back := List.all_eq_true.mp blankAfter
  rw [trim, List.append_assoc, List.dropWhile_append_of_pos front, List.dropWhile_append, trim]
  split
  · rename_i nothing
    have dropped : (after ++ []).dropWhile isBlank = [] := List.dropWhile_append_of_pos back
    rw [List.append_nil] at dropped
    rw [List.isEmpty_iff.mp nothing, dropped]
  · exact dropEndWhileMore back _

end ScorePage.Text
