import ScorePage.Pattern.Class
import ScorePage.Text.Alphanumeric

/-! Whether a text is a pattern. A pattern is read from left to right; open groups are kept with
what stands before them. Counted repetitions need a closing brace, which the texts that are asked
about do not have, so an opening brace outside a class is refused. -/
namespace ScorePage.Pattern
open Text

def deepest : Nat := 250

structure Part where
  depth : Nat
  repeatable : Bool := true
  deriving DecidableEq, Repr

structure Level where
  before : List Nat := []
  parts : List Part := []
  deriving DecidableEq, Repr

namespace Level

def add (l : Level) (part : Part) : Level := { l with parts := part :: l.parts }

def alternative (l : Level) : Nat := joinedDepth (l.parts.map Part.depth)

def depth (l : Level) : Nat := joinedDepth (l.alternative :: l.before)

end Level

structure Progress where
  mode : Mode := {}
  level : Level := {}
  groups : List (Mode × Level) := []
  names : List (List Char) := []

namespace Progress

abbrev Step := Option (Progress × List Char)

def add (s : Progress) (depth : Nat) : Progress := { s with level := s.level.add ⟨depth, true⟩ }

def enter (s : Progress) (mode : Mode) : Progress :=
  { s with mode, level := {}, groups := (s.mode, s.level) :: s.groups }

def leave (s : Progress) : Option Progress :=
  match s.groups with
  | [] => none
  | (mode, level) :: groups =>
      some { s with mode, level := level.add ⟨s.level.depth + 1, true⟩, groups }

def nextAlternative (s : Progress) : Progress :=
  { s with level := ⟨s.level.alternative :: s.level.before, []⟩ }

def beginsName (c : Char) : Bool := c == '_' || isAlphabetic c

def continuesName (c : Char) : Bool := ['_', '.', '[', ']'].contains c || isAlphanumeric c

def readNamed (s : Progress) (text : List Char) : Step :=
  let name := text.takeWhile (· != '>')
  match name, text.drop name.length with
  | first :: others, _ :: rest =>
      if beginsName first && others.all continuesName && !s.names.contains name then
        some ({ s.enter s.mode with names := name :: s.names }, rest)
      else none
  | _, _ => none

def switch? (m : Mode) (on : Bool) (letter : Char) : Option Mode :=
  if letter == 'i' then some { m with caseless := on }
  else if letter == 'u' then some { m with bytes := !on }
  else if letter == 'x' then some { m with spaced := on }
  else if ['m', 's', 'U', 'R'].contains letter then some m
  else none

def readSwitches (m : Mode) (on : Bool) (seen : List Char) :
    List Char → Option (Mode × List Char × List Char)
  | [] => none
  | c :: rest =>
      if c == ':' || c == ')' then
        if seen.head? == some '-' then none else some (m, seen, c :: rest)
      else if seen.contains c then none
      else if c == '-' then readSwitches m false (c :: seen) rest
      else do readSwitches (← switch? m on c) on (c :: seen) rest

def readMode (s : Progress) (text : List Char) : Step := do
  let (mode, seen, rest) ← readSwitches s.mode true [] text
  if rest.head? == some ':' then some (s.enter mode, rest.drop 1)
  else if seen.isEmpty then none
  else some ({ s with mode, level := s.level.add ⟨0, false⟩ }, rest.drop 1)

def readGroup (s : Progress) (text : List Char) : Step :=
  match s.mode.skip text with
  | '?' :: 'P' :: '<' :: rest => s.readNamed rest
  | '?' :: '<' :: rest => s.readNamed rest
  | '?' :: rest => s.readMode rest
  | rest => some (s.enter s.mode, rest)

def readRepetition (s : Progress) (rest : List Char) : Step :=
  match s.level.parts with
  | [] => none
  | part :: parts =>
      if part.repeatable then
        some ({ s with level.parts := ⟨part.depth + 1, true⟩ :: parts },
          if rest.head? == some '?' then rest.drop 1 else rest)
      else none

def readEscaped (s : Progress) (rest : List Char) : Step := do
  let (escape, after) ← readEscape s.mode rest
  let taken := match escape with
    | .character c asByte => s.mode.takesCharacter c asByte
    | .kind negated => s.mode.takesKind negated
    | .edge ofWord => !ofWord || s.mode.bytes
  if taken then some (s.add 0, after) else none

def read (s : Progress) (c : Char) (rest : List Char) : Step :=
  if c == '(' then s.readGroup rest
  else if c == ')' then s.leave.map fun s => (s, rest)
  else if c == '|' then some (s.nextAlternative, rest)
  else if c == '[' then (readClass s.mode rest).map fun (depth, after) => (s.add depth, after)
  else if ['?', '*', '+'].contains c then s.readRepetition rest
  else if c == '\x7b' then none
  else if c == '\\' then s.readEscaped rest
  else if c == '.' then if s.mode.bytes then none else some (s.add 0, rest)
  else if c == '^' || c == '$' then some (s.add 0, rest)
  else if s.mode.takesCharacter c false then some (s.add 0, rest)
  else none

/- Every part takes at least one character, so a budget of one more than the length of the text is
never used up. -/
def readAll (budget : Nat) (s : Progress) (text : List Char) : Option Progress :=
  match budget with
  | 0 => none
  | budget + 1 =>
      match s.mode.skip text with
      | [] => if s.groups.isEmpty then some s else none
      | c :: rest => do
          let (s, after) ← s.read c rest
          readAll budget s after

end Progress

def isPattern (text : List Char) : Bool :=
  (Progress.readAll (text.length + 1) {} text).any fun s => s.level.depth ≤ deepest

end ScorePage.Pattern
