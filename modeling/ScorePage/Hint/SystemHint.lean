import ScorePage.Hint.Lexeme
import ScorePage.Hint.Pieces
import ScorePage.Layout

/-! The hint for a system: a parenthesised layout and how many systems in a row share it.
The reader goes through the lexemes once, from left to right, and stops at the first lexeme that no
further lexemes could make part of a hint. -/
namespace ScorePage

structure SystemHint where
  source : String
  layout : Layout
  repeats : Nat
  deriving DecidableEq, Repr

namespace Hint

structure Remainder where
  innermost : Layout
  outer : List Layout
  repeats : Nat
  deriving DecidableEq, Repr

namespace Remainder

def prependCount (count : Nat) (r : Remainder) : Remainder :=
  { r with innermost := .leaf count r.innermost }

def beforeClosing (r : Remainder) : Remainder :=
  { r with innermost := .nil, outer := r.innermost :: r.outer }

def beforeOpening (r : Remainder) : Remainder :=
  match r.outer with
  | [] => { r with innermost := .nested r.innermost .nil }
  | items :: outer => { r with innermost := .nested r.innermost items, outer }

end Remainder

def columnOf (beyond : Nat) : List Located → Nat
  | [] => beyond
  | first :: _ => first.column

def readRepeats (beyond : Nat) : List Located → Except Spot Nat
  | [] => .ok 1
  | ⟨column, .closing⟩ :: _ => .error ⟨column, .closingUnexpected⟩
  | ⟨_, .times⟩ :: ⟨column, .number count⟩ :: rest =>
      if count = 0 then .error ⟨column, .zeroRepeats⟩
      else if maxRepeats < count then .error ⟨column, .tooManyRepeats count⟩
      else match rest with
        | [] => .ok count
        | ⟨after, _⟩ :: _ => .error ⟨after, .inputAfterGroup⟩
  | ⟨_, .times⟩ :: rest => .error ⟨columnOf beyond rest, .repeatCountExpected⟩
  | ⟨column, _⟩ :: _ => .error ⟨column, .inputAfterGroup⟩

def readItems (beyond : Nat) : (depth : Nat) → List Located → Except Spot Remainder
  | _, [] => .error ⟨beyond, .closingMissing⟩
  | depth, ⟨column, lexeme⟩ :: rest =>
      match lexeme with
      | .gap => readItems beyond depth rest
      | .opening => (readItems beyond (depth + 1) rest).map Remainder.beforeOpening
      | .closing =>
          match depth with
          | 0 => (readRepeats beyond rest).map fun repeats => ⟨.nil, [], repeats⟩
          | depth + 1 => (readItems beyond depth rest).map Remainder.beforeClosing
      | .times => .error ⟨column, .repeatInsideGroup⟩
      | .number count =>
          if count = 0 then .error ⟨column, .zeroStaves⟩
          else if maxStaves < count then .error ⟨column, .tooManyAdjacentStaves count⟩
          else (readItems beyond depth rest).map (·.prependCount count)

def readGroup (beyond : Nat) : List Located → Except Spot (Layout × Nat)
  | [] => .error ⟨1, .emptyHint⟩
  | ⟨_, .opening⟩ :: rest =>
      (readItems beyond 0 rest).map fun r => (r.innermost, r.repeats)
  | ⟨column, _⟩ :: _ => .error ⟨column, .openingExpected⟩

end Hint

namespace SystemHint
open Hint

/-- Reads one piece of a hint. The staves of a system are counted once the whole piece is read. -/
def ofText (source : String) : Except Hint.Fault SystemHint := do
  let found ← lexemes source
  let (layout, repeats) ← (readGroup (source.length + 1) found).mapError (⟨source, ·⟩)
  if maxStaves < layout.staves then
    .error ⟨source, 1, .tooManyStaves layout.staves⟩
  else .ok ⟨source, layout, repeats⟩

def allOfText (hint : String) : Except Hint.Fault (List SystemHint) := (pieces hint).mapM ofText

end SystemHint
end ScorePage
