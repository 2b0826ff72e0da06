import ScorePage.Yaml.Fault

/-! Scalars: plain, in quotation marks, and as blocks of indented lines. The line breaks inside a
scalar are folded: one becomes a space, of several all but the first stay. -/
namespace ScorePage.Yaml
open Text (hexNumber?)

inductive Style where
  | plain
  | quoted
  | literal
  | folded
  deriving DecidableEq, Repr

/-- A scalar being read: its characters so far, last first, and what has to be decided when the
next character comes: blanks, or line breaks once there was one, both last first. An escaped line
break is `glued`: it leaves nothing behind and the breaks after it all stay. -/
structure Reading where
  done : List Char := []
  spaces : List Char := []
  breaks : List Char := []
  broken : Bool := false
  glued : Bool := false

namespace Reading

def value (r : Reading) : List Char := r.done.reverse

def foldedBreaks (breaks : List Char) : List Char :=
  match breaks.reverse with
  | ['\n'] => [' ']
  | '\n' :: others => others.reverse
  | _ => breaks

def settle (r : Reading) : Reading :=
  let pending := if !r.broken then r.spaces else if r.glued then r.breaks else foldedBreaks r.breaks
  { done := pending ++ r.done }

def put (c : Char) (r : Reading) : Reading := { r with done := c :: r.done }

def space (c : Char) (r : Reading) : Reading :=
  if r.broken then r else { r with spaces := c :: r.spaces }

def lineBreak (c : Char) (r : Reading) : Reading :=
  { r with spaces := [], breaks := c :: r.breaks, broken := true }

def glue (r : Reading) : Reading := { r with spaces := [], broken := true, glued := true }

def isPending (r : Reading) : Bool := r.broken || !r.spaces.isEmpty

end Reading

def isFlowIndicator (c : Char) : Bool :=
  c == ',' || c == '[' || c == ']' || c == '\x7b' || c == '\x7d'

def plainRefusedAfterColon (c : Char) : Bool := isFlowIndicator c || c == '?'

def readPlain (inFlow : Bool) (floor : Nat) (r : Reading) :
    List Placed → Except Halt (Reading × List Placed)
  | [] => .ok (r, [])
  | p :: rest =>
      if isBreak p.char then readPlain inFlow floor (r.lineBreak p.char) rest
      else if isSpace p.char then
        if r.broken && p.char == '\t' && p.column < floor then
          halt .plainScalar .tabBreaksIndentation (p :: rest)
        else readPlain inFlow floor (r.space p.char) rest
      else if r.isPending && (p.char == '#' || documentMarkAhead (p :: rest) ||
          (!inFlow && p.column < floor)) then .ok (r, p :: rest)
      else if inFlow && p.char == ':' &&
          (rest.head?.any fun q => plainRefusedAfterColon q.char) then
        halt .plainScalar .colonUnexpected (p :: rest)
      else if (p.char == ':' && gapAhead rest) || (inFlow && isFlowIndicator p.char) then
        .ok (r, p :: rest)
      else readPlain inFlow floor (r.settle.put p.char) rest

def readSingle (r : Reading) : List Placed → Except Halt (Reading × List Placed)
  | [] => halt .quotedScalar .endUnexpected []
  | p :: rest =>
      if isBreak p.char then readSingle (r.lineBreak p.char) rest
      else if isSpace p.char then readSingle (r.space p.char) rest
      else if documentMarkAhead (p :: rest) then
        halt .quotedScalar .documentMarkUnexpected (p :: rest)
      else if p.char == '\'' then
        match rest with
        | q :: after =>
            if q.char == '\'' then readSingle (r.settle.put '\'') after
            else .ok (r.settle, q :: after)
        | [] => .ok (r.settle, [])
      else readSingle (r.settle.put p.char) rest

def escapedChars : List (Char × Nat) := [
  ('0', 0x0), ('a', 0x7), ('b', 0x8), ('t', 0x9), ('\t', 0x9), ('n', 0xA), ('v', 0xB), ('f', 0xC),
  ('r', 0xD), ('e', 0x1B), (' ', 0x20), ('"', 0x22), ('/', 0x2F), ('\\', 0x5C), ('N', 0x85),
  ('_', 0xA0), ('L', 0x2028), ('P', 0x2029)]

def escapeWidths : List (Char × Nat) := [('x', 2), ('u', 4), ('U', 8)]

def unescape (letter : Char) (text rest : List Placed) : Except Halt (Char × Nat) :=
  match escapedChars.lookup letter, escapeWidths.lookup letter with
  | some code, _ => .ok (Char.ofNat code, 0)
  | none, some width =>
      let digits := (rest.take width).map Placed.char
      match if digits.length = width then hexNumber? digits else none with
      | none => halt .escape .hexadecimalMissing rest
      | some code =>
          if code.isValidChar then .ok (Char.ofNat code, width)
          else halt .escape .escapeInvalid rest
  | none, none => halt .escape .escapeUnknown text

def readDouble (skip : Nat) (r : Reading) : List Placed → Except Halt (Reading × List Placed)
  | [] => halt .quotedScalar .endUnexpected []
  | p :: rest =>
      if 0 < skip then readDouble (skip - 1) r rest
      else if isBreak p.char then readDouble 0 (r.lineBreak p.char) rest
      else if isSpace p.char then readDouble 0 (r.space p.char) rest
      else if documentMarkAhead (p :: rest) then
        halt .quotedScalar .documentMarkUnexpected (p :: rest)
      else if p.char == '"' then .ok (r.settle, rest)
      else if p.char == '\\' then
        match rest with
        | [] => halt .escape .escapeUnknown [p]
        | q :: after =>
            if isBreak q.char then readDouble 0 r.settle.glue after
            else match unescape q.char (p :: rest) after with
              | .ok (c, width) => readDouble width (r.settle.put c) after
              | .error stop => .error stop
      else readDouble 0 (r.settle.put p.char) rest

inductive Chomping where
  | strip
  | clip
  | keep
  deriving DecidableEq, Repr

structure BlockHeader where
  chomping : Chomping := .clip
  increment : Nat := 0

namespace BlockHeader

def chomping? (c : Char) : Option Chomping :=
  if c == '+' then some .keep else if c == '-' then some .strip else none

def readChomping (text : List Placed) : Option Chomping × List Placed :=
  match text.head?.bind fun p => chomping? p.char with
  | some chomping => (some chomping, text.drop 1)
  | none => (none, text)

def readIncrement : List Placed → Except Halt (Nat × List Placed)
  | [] => .ok (0, [])
  | p :: rest =>
      if !p.char.isDigit then .ok (0, p :: rest)
      else if p.char == '0' then halt .blockScalar .indentationZero (p :: rest)
      else .ok (p.char.toNat - '0'.toNat, rest)

def read (text : List Placed) : Except Halt (BlockHeader × List Placed) := do
  let (first, rest) := readChomping text
  let (increment, after) ← readIncrement rest
  let (last, behind) := if first.isSome then (none, after) else readChomping after
  let header := ⟨(first.or last).getD .clip, increment⟩
  return (header, ← restOfLine .blockScalar behind)

end BlockHeader

/-- A block being read. `indent` is the column of its lines, 0 while it is not known; until then
`widest` is the widest margin seen. `ending` is the break behind the last line with characters,
`breaks` are those of the empty lines after it, last first. `opened` tells that the last line with
characters begins with a blank. -/
structure Block where
  header : BlockHeader
  floor : Nat
  isLiteral : Bool
  indent : Nat
  widest : Nat := 0
  inLine : Bool := false
  done : List Char := []
  ending : List Char := []
  breaks : List Char := []
  opened : Bool := false

namespace Block

def beginLine (b : Block) (c : Char) : Block :=
  let blank := isSpace c
  let folds := !b.isLiteral && b.ending == ['\n'] && !b.opened && !blank
  let joint := if !folds then b.ending else if b.breaks.isEmpty then [' '] else []
  { b with done := c :: b.breaks ++ joint ++ b.done, ending := [], breaks := [], opened := blank,
           inLine := true }

def value (b : Block) : List Char :=
  let tail := match b.header.chomping with
    | .strip => []
    | .clip => b.ending
    | .keep => b.breaks ++ b.ending
  (tail ++ b.done).reverse

def read (b : Block) : List Placed → Except Halt (Block × List Placed)
  | [] => .ok (b, [])
  | p :: rest =>
      if b.inLine then
        if isBreak p.char then read { b with ending := [p.char], inLine := false } rest
        else read { b with done := p.char :: b.done } rest
      else
        let inMargin := b.indent = 0 || p.column < b.indent
        if inMargin && p.char == ' ' then read b rest
        else if inMargin && p.char == '\t' then halt .blockScalar .tabInMargin (p :: rest)
        else
          let widest := max b.widest p.column
          if isBreak p.char then read { b with widest, breaks := p.char :: b.breaks } rest
          else
            let indent := if b.indent = 0 then max (max widest b.floor) 1 else b.indent
            if p.column = indent then read ({ b with indent }.beginLine p.char) rest
            else .ok ({ b with indent }, p :: rest)

end Block

def readBlock (isLiteral : Bool) (floor : Nat) (text : List Placed) :
    Except Halt (Block × List Placed) := do
  let (header, rest) ← BlockHeader.read text
  let indent := if header.increment = 0 then 0 else floor - 1 + header.increment
  Block.read { header, floor, isLiteral, indent } rest

end ScorePage.Yaml
