import ScorePage.Pattern.Mode

/-! Classes of characters in square brackets. A class has members and further classes; classes are
joined by intersection, difference and symmetric difference. Reading a class gives its depth. -/
namespace ScorePage.Pattern
open Text

/-- A bracket that is open: the depths of the members since the last operation, the last first, and
the depth of all before that. At its beginning hyphens are members, and so is a closing bracket
that comes first. -/
structure Bracket where
  members : List Nat := []
  before : Option Nat := none
  atBeginning : Bool := true
  deriving DecidableEq, Repr

namespace Bracket

def add (b : Bracket) (depth : Nat) : Bracket :=
  { b with members := depth :: b.members, atBeginning := false }

def addHyphen (b : Bracket) : Bracket := { b with members := 0 :: b.members }

def depth (b : Bracket) : Nat :=
  match b.before with
  | none => joinedDepth b.members
  | some before => 1 + max before (joinedDepth b.members)

def operate (b : Bracket) : Bracket := ⟨[], some b.depth, false⟩

end Bracket

def classNames : List String := ["alnum", "alpha", "ascii", "blank", "cntrl", "digit", "graph",
  "lower", "print", "punct", "space", "upper", "word", "xdigit"]

def namedClass? : List Char → Option (Bool × List Char)
  | ':' :: text =>
      let negated := text.head? == some '^'
      let text := if negated then text.drop 1 else text
      let name := text.takeWhile (· != ':')
      match text.drop name.length with
      | ':' :: ']' :: rest =>
          if classNames.contains (String.ofList name) then some (negated, rest) else none
      | _ => none
  | _ => none

def readMember (m : Mode) : List Char → Option (Option Char × List Char)
  | [] => none
  | '\\' :: rest => do
      match ← readEscape m rest with
      | (.character c _, after) => some (some c, after)
      | (.kind negated, after) => if m.takesKind negated then some (none, after) else none
      | (.edge _, _) => none
  | c :: rest => some (some c, rest)

def peek? (m : Mode) (text : List Char) : Option Char :=
  if m.spaced then
    let text' := text.dropWhile isBlank
    let text' := if text'.head? == some '#' then (text'.drop 1).dropWhile isBlank else text'
    text'.head?.or text.head?
  else text.head?

def readMembers (m : Mode) (text : List Char) : Option (List Char) := do
  let (first, rest) ← readMember m text
  let alone := if first.all m.takesMember then some (m.skip rest) else none
  match m.skip rest with
  | '-' :: after =>
      if peek? m after == some ']' || peek? m after == some '-' then alone
      else
        match first, ← readMember m (m.skip after) with
        | some low, (some high, others) =>
            if low ≤ high && m.takesMember low && m.takesMember high then some others else none
        | _, _ => none
  | _ => alone

def enterBracket (m : Mode) (text : List Char) : Option (List Char) :=
  match m.skip text with
  | '^' :: rest => if m.bytes then none else some rest
  | rest => some rest

def isOperation (c : Char) (rest : List Char) : Bool :=
  ['&', '-', '~'].contains c && rest.head? == some c

def readBrackets (m : Mode) (budget : Nat) (b : Bracket) (outer : List Bracket)
    (text : List Char) : Option (Nat × List Char) :=
  match budget with
  | 0 => none
  | budget + 1 =>
      match m.skip text with
      | [] => none
      | c :: rest =>
          if b.atBeginning && c == '-' then
            if m.takesMember c then readBrackets m budget b.addHyphen outer rest else none
          else if b.atBeginning && b.members.isEmpty && c == ']' then
            if m.takesMember c then readBrackets m budget (b.add 0) outer rest else none
          else if c == '[' then
            match namedClass? rest with
            | some (negated, after) =>
                if if m.bytes then !negated else !m.caseless then
                  readBrackets m budget (b.add 0) outer after
                else none
            | none => do readBrackets m budget {} (b :: outer) (← enterBracket m rest)
          else if c == ']' then
            match outer with
            | [] => some (b.depth + 1, rest)
            | parent :: others => readBrackets m budget (parent.add (b.depth + 1)) others rest
          else if isOperation c rest then readBrackets m budget b.operate outer (rest.drop 1)
          else do readBrackets m budget (b.add 0) outer (← readMembers m (c :: rest))

def readClass (m : Mode) (text : List Char) : Option (Nat × List Char) := do
  let inside ← enterBracket m text
  readBrackets m (inside.length + 1) {} [] inside

end ScorePage.Pattern
