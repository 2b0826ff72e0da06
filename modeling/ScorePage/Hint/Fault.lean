/-! What can be wrong with a staff-group hint, where, and how it is told. -/
namespace ScorePage.Hint

def maxStaves : Nat := 1024

def maxRepeats : Nat := 1024

inductive Cause where
  | unexpectedCharacter (character : Char)
  | characterAfterNumber (character : Char) (digits : List Char)
  | numberTooLarge (digits : List Char)
  | emptyHint
  | openingExpected
  | inputAfterGroup
  | zeroStaves
  | tooManyAdjacentStaves (count : Nat)
  | repeatInsideGroup
  | closingMissing
  | closingUnexpected
  | zeroRepeats
  | tooManyRepeats (count : Nat)
  | repeatCountExpected
  | tooManyStaves (count : Nat)
  | notNumberable
  deriving DecidableEq, Repr

namespace Cause

def message : Cause → String
  | unexpectedCharacter c => s!"Unexpected character '{c}'"
  | characterAfterNumber c digits =>
      s!"Unexpected character '{c}' after number {String.ofList digits}"
  | numberTooLarge digits => s!"Number {String.ofList digits} is too large"
  | emptyHint => "Empty staff group hint"
  | openingExpected => "Expected '(' to open a staff group"
  | inputAfterGroup => "Unexpected input after staff group"
  | zeroStaves => "Staff count must be a positive integer"
  | tooManyAdjacentStaves count => s!"Staff count {count} exceeds the limit of {maxStaves}"
  | repeatInsideGroup => "Repeat suffix is only allowed after the outermost group"
  | closingMissing => "Unbalanced parentheses: missing ')'"
  | closingUnexpected => "Unbalanced parentheses: unexpected ')'"
  | zeroRepeats => "Repeat count must be a positive integer"
  | tooManyRepeats count => s!"Repeat count {count} exceeds the limit of {maxRepeats}"
  | repeatCountExpected => "Expected a repeat count after 'x'"
  | tooManyStaves count => s!"System has {count} staves, at most {maxStaves} are allowed"
  | notNumberable => "Too many staves to number"

end Cause

structure Spot where
  column : Nat
  cause : Cause
  deriving DecidableEq, Repr

structure Fault where
  token : String
  spot : Spot
  deriving DecidableEq, Repr

def Fault.message (fault : Fault) : String :=
  s!"Staff group hint error in '{fault.token}' at column {fault.spot.column}: " ++
    fault.spot.cause.message

end ScorePage.Hint
