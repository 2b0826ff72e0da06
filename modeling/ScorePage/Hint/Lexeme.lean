import ScorePage.Hint.Fault
import ScorePage.Text.Blank
import ScorePage.Text.Alphanumeric

/-! The lexemes of a staff-group hint. A run of digits is one number and a run of blanks one gap. -/
namespace ScorePage.Hint
open Text

inductive Lexeme where
  | opening
  | closing
  | times
  | gap
  | number (value : Nat)
  deriving DecidableEq, Repr

structure Located where
  column : Nat
  lexeme : Lexeme
  deriving DecidableEq, Repr

def largestNumber : Nat := 4294967295

def isTimes (c : Char) : Bool := c == 'x' || c == 'X'

/-- The number that a run of digits stands for, given what follows the run. A letter or a foreign
digit right after the run is refused before the size of the number is looked at. -/
def numberAt (column : Nat) (digits rest : List Char) : Except Spot Located :=
  let value := Nat.ofDigitChars 10 digits 0
  let sized : Except Spot Located :=
    if value ≤ largestNumber then .ok ⟨column, .number value⟩
    else .error ⟨column, .numberTooLarge digits⟩
  match rest with
  | [] => sized
  | c :: _ =>
      if isAlphanumeric c && !isTimes c then
        .error ⟨column + digits.length, .characterAfterNumber c digits⟩
      else sized

theorem dropWhileShorter (p : Char → Bool) (c : Char) (rest : List Char) :
    (rest.dropWhile p).length < (c :: rest).length :=
  Nat.lt_succ_of_le (List.dropWhile_sublist p).length_le

def scan (column : Nat) : List Char → Except Spot (List Located)
  | [] => .ok []
  | c :: rest =>
      if c = '(' then return ⟨column, .opening⟩ :: (← scan (column + 1) rest)
      else if c = ')' then return ⟨column, .closing⟩ :: (← scan (column + 1) rest)
      else if isTimes c then return ⟨column, .times⟩ :: (← scan (column + 1) rest)
      else if isBlank c then
        let width := 1 + (rest.takeWhile isBlank).length
        return ⟨column, .gap⟩ :: (← scan (column + width) (rest.dropWhile isBlank))
      else if c.isDigit then do
        let digits := c :: rest.takeWhile Char.isDigit
        let number ← numberAt column digits (rest.dropWhile Char.isDigit)
        return number :: (← scan (column + digits.length) (rest.dropWhile Char.isDigit))
      else .error ⟨column, .unexpectedCharacter c⟩
termination_by text => text.length
decreasing_by
  · exact Nat.lt_succ_self _
  · exact Nat.lt_succ_self _
  · exact Nat.lt_succ_self _
  · exact dropWhileShorter ..
  · exact dropWhileShorter ..

def lexemes (token : String) : Except Fault (List Located) :=
  (scan 1 token.toList).mapError (⟨token, ·⟩)

end ScorePage.Hint
