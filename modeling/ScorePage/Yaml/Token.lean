import ScorePage.Yaml.Scalar
import ScorePage.Yaml.Property

/-! The tokens of a configuration. A key is known to be one only when its colon comes: until then
its place is kept, and the tokens that announce it are put there afterwards. Blocks are told apart
by their columns; inside braces and brackets, here called flow, columns do not count. -/
namespace ScorePage.Yaml

inductive Token.Kind where
  | directive (directive : Directive)
  | documentStart
  | documentEnd
  | mappingBlock
  | listBlock
  | blockEnd
  | openBrace
  | closeBrace
  | openBracket
  | closeBracket
  | comma
  | dash
  | key
  | value
  | anchor (name : List Char)
  | alias (name : List Char)
  | tag (tag : Tag)
  | scalar (style : Style) (value : List Char)
  | finish
  deriving DecidableEq, Repr

structure Token where
  kind : Token.Kind
  mark : Mark
  deriving DecidableEq, Repr

structure KeyPlace where
  tokens : Nat
  mark : Mark
  required : Bool

/-- Where the reading of tokens stands. `finish` is the end of the text, `tokens` are those read so
far, the last first, and `count` is their number. `floors` holds, innermost first, the least column
of what lies inside each open block; the last one is 0, for no block. `flowKeys` has one entry for
each open brace and bracket, innermost first. -/
structure Progress where
  finish : Mark
  count : Nat := 0
  tokens : List Token := []
  floor : Nat := 0
  floors : List Nat := []
  keyAllowed : Bool := true
  blockKey : Option KeyPlace := none
  flowKeys : List (Option KeyPlace) := []

namespace Progress

def inFlow (s : Progress) : Bool := !s.flowKeys.isEmpty

def place (s : Progress) (text : List Placed) : Mark :=
  (text.head?.map Placed.toMark).getD s.finish

def push (s : Progress) (kind : Token.Kind) (mark : Mark) : Progress :=
  { s with count := s.count + 1, tokens := ⟨kind, mark⟩ :: s.tokens }

def insert (s : Progress) (index : Nat) (kind : Token.Kind) (mark : Mark) : Progress :=
  let (later, sooner) := s.tokens.splitAt (s.count - index)
  { s with count := s.count + 1, tokens := later ++ ⟨kind, mark⟩ :: sooner }

def currentKey (s : Progress) : Option KeyPlace := s.flowKeys.head?.getD s.blockKey

def setKey (s : Progress) (key : Option KeyPlace) : Progress :=
  match s.flowKeys with
  | [] => { s with blockKey := key }
  | _ :: outer => { s with flowKeys := key :: outer }

def giveUp (here : Mark) (key : KeyPlace) : Except Fault Unit :=
  if key.required then .error (.malformed .colonMissing here (some (.simpleKey, key.mark)))
  else .ok ()

def dropKey (s : Progress) (here : Mark) : Except Fault Progress := do
  s.currentKey.forM (giveUp here)
  return s.setKey none

/-- A key and its colon stand on one line with at most 1024 characters between. -/
def isStale (here : Mark) (key : KeyPlace) : Bool :=
  key.mark.line < here.line || key.mark.index + 1024 < here.index

def freshKey (here : Mark) : Option KeyPlace → Except Fault (Option KeyPlace)
  | none => .ok none
  | some key => do
      if isStale here key then
        giveUp here key
        return none
      else return some key

def refresh (s : Progress) (here : Mark) : Except Fault Progress := do
  let blockKey ← freshKey here s.blockKey
  let flowKeys ← s.flowKeys.mapM (freshKey here)
  return { s with blockKey, flowKeys }

def markKey (s : Progress) (here : Mark) : Except Fault Progress :=
  if s.keyAllowed then do
    let s ← s.dropKey here
    return s.setKey (some ⟨s.count, here, !s.inFlow && s.floor == here.column + 1⟩)
  else .ok s

def openBlock (s : Progress) (kind : Token.Kind) (mark : Mark) (index : Nat) : Progress :=
  if s.inFlow || mark.column < s.floor then s
  else { s with floor := mark.column + 1, floors := s.floor :: s.floors }.insert index kind mark

def closeBlocksFrom (here : Mark) (s : Progress) : List Nat → Progress
  | [] => s
  | outer :: others =>
      if here.column + 1 < s.floor then
        closeBlocksFrom here { s.push .blockEnd here with floor := outer, floors := others } others
      else s

def closeBlocks (s : Progress) (here : Mark) : Progress :=
  if s.inFlow then s else closeBlocksFrom here s s.floors

def closeAll (s : Progress) (here : Mark) : Except Fault Progress :=
  let closed :=
    if s.inFlow then s
    else
      { s with count := s.count + s.floors.length,
               tokens := s.floors.map (fun _ => ⟨.blockEnd, here⟩) ++ s.tokens,
               floor := 0, floors := [] }
  closed.dropKey here

def forbidKey (s : Progress) : Progress := { s with keyAllowed := false }

/-- Skips to the next token. After a line ending outside flow a key is allowed. Where a key is
allowed outside flow a tab is not skipped. A byte order mark is skipped at the beginning of a line,
where it counts as a column. -/
def toNextToken (s : Progress) (comment : Bool) : List Placed → Progress × List Placed
  | [] => (s, [])
  | p :: rest =>
      if isBreak p.char then
        toNextToken { s with keyAllowed := s.keyAllowed || !s.inFlow } false rest
      else if comment then toNextToken s true rest
      else if p.char == ' ' || (p.char == '\t' && (s.inFlow || !s.keyAllowed)) ||
          (p.char == '\uFEFF' && p.column == 0) then toNextToken s false rest
      else if p.char == '#' then toNextToken s true rest
      else (s, p :: rest)

abbrev Step := Except Fault (Progress × List Placed)

def heed {α : Type} (s : Progress) (start : Mark) (result : Except Halt α) : Except Fault α :=
  result.mapError fun stop =>
    .malformed stop.problem (s.place stop.rest) (some (stop.activity, start))

def readDocumentMark (s : Progress) (kind : Token.Kind) (here : Mark) (rest : List Placed) :
    Step := do
  return ((← s.closeAll here).forbidKey.push kind here, rest)

def readDirectiveLine (s : Progress) (here : Mark) (rest : List Placed) : Step := do
  let s ← s.closeAll here
  let (directive, after) ← s.heed here (Yaml.readDirective rest)
  return (s.forbidKey.push (.directive directive) here, after)

def readOpening (s : Progress) (kind : Token.Kind) (here : Mark) (rest : List Placed) : Step := do
  let s ← s.markKey here
  return ({ s with flowKeys := none :: s.flowKeys, keyAllowed := true }.push kind here, rest)

def readClosing (s : Progress) (kind : Token.Kind) (here : Mark) (rest : List Placed) : Step := do
  let s ← s.dropKey here
  return ({ s with flowKeys := s.flowKeys.drop 1, keyAllowed := false }.push kind here, rest)

def readComma (s : Progress) (here : Mark) (rest : List Placed) : Step := do
  let s ← s.dropKey here
  return ({ s with keyAllowed := true }.push .comma here, rest)

def beginBlock (s : Progress) (kind : Token.Kind) (refusal : Problem) (here : Mark) :
    Except Fault Progress :=
  if s.inFlow then .ok s
  else if s.keyAllowed then .ok (s.openBlock kind here s.count)
  else .error (.malformed refusal here none)

def readDash (s : Progress) (here : Mark) (rest : List Placed) : Step := do
  let s ← (← s.beginBlock .listBlock .entryOutOfPlace here).dropKey here
  return ({ s with keyAllowed := true }.push .dash here, rest)

def readKeyMark (s : Progress) (here : Mark) (rest : List Placed) : Step := do
  let s ← (← s.beginBlock .mappingBlock .keyOutOfPlace here).dropKey here
  return ({ s with keyAllowed := !s.inFlow }.push .key here, rest)

def readColon (s : Progress) (here : Mark) (rest : List Placed) : Step :=
  match s.currentKey with
  | some key =>
      let s := (s.insert key.tokens .key key.mark).openBlock .mappingBlock key.mark key.tokens
      .ok ((s.setKey none).forbidKey.push .value here, rest)
  | none => do
      let s ← s.beginBlock .mappingBlock .valueOutOfPlace here
      return ({ s with keyAllowed := !s.inFlow }.push .value here, rest)

def readNameToken (s : Progress) (activity : Activity) (kind : List Char → Token.Kind) (here : Mark)
    (rest : List Placed) : Step := do
  let s ← s.markKey here
  let (name, after) ← s.heed here (readName activity rest)
  return (s.forbidKey.push (kind name) here, after)

def readTagToken (s : Progress) (p : Placed) (rest : List Placed) : Step := do
  let s ← s.markKey p.toMark
  let (tag, after) ← s.heed p.toMark (readTag s.inFlow (p :: rest))
  return (s.forbidKey.push (.tag tag) p.toMark, after)

def readBlockToken (s : Progress) (isLiteral : Bool) (here : Mark) (rest : List Placed) :
    Step := do
  let s ← s.dropKey here
  let (block, after) ← s.heed here (readBlock isLiteral s.floor rest)
  let style := if isLiteral then Style.literal else Style.folded
  return ({ s with keyAllowed := true }.push (.scalar style block.value) here, after)

def readQuotedToken (s : Progress) (p : Placed) (rest : List Placed) : Step := do
  let s ← s.markKey p.toMark
  let (r, after) ←
    s.heed p.toMark (if p.char == '"' then readDouble 0 {} rest else readSingle {} rest)
  return (s.forbidKey.push (.scalar .quoted r.value) p.toMark, after)

def readPlainToken (s : Progress) (p : Placed) (rest : List Placed) : Step := do
  let s ← s.markKey p.toMark
  let (r, after) ← s.heed p.toMark (readPlain s.inFlow s.floor {} (p :: rest))
  return ({ s with keyAllowed := r.broken }.push (.scalar .plain r.value) p.toMark, after)

def isIndicator (c : Char) : Bool := "-?:,[]\x7b\x7d#&*!|>'\"%@\x60".toList.contains c

def beginsPlain (inFlow : Bool) (c : Char) (rest : List Placed) : Bool :=
  !(isSpace c || isIndicator c) ||
  (c == '-' && !rest.head?.any fun q => isSpace q.char) ||
  (!inFlow && (c == '?' || c == ':') && !gapAhead rest)

def read (s : Progress) (p : Placed) (rest : List Placed) : Step := do
  let here := p.toMark
  let s := (← s.refresh here).closeBlocks here
  let c := p.char
  let indicates := s.inFlow || gapAhead rest
  if p.column == 0 && c == '%' then readDirectiveLine s here rest
  else if markAhead '-' (p :: rest) then readDocumentMark s .documentStart here (rest.drop 2)
  else if markAhead '.' (p :: rest) then readDocumentMark s .documentEnd here (rest.drop 2)
  else if c == '[' then readOpening s .openBracket here rest
  else if c == '\x7b' then readOpening s .openBrace here rest
  else if c == ']' then readClosing s .closeBracket here rest
  else if c == '\x7d' then readClosing s .closeBrace here rest
  else if c == ',' then readComma s here rest
  else if c == '-' && gapAhead rest then readDash s here rest
  else if c == '?' && indicates then readKeyMark s here rest
  else if c == ':' && indicates then readColon s here rest
  else if c == '*' then readNameToken s .aliasName .alias here rest
  else if c == '&' then readNameToken s .anchorName .anchor here rest
  else if c == '!' then readTagToken s p rest
  else if (c == '|' || c == '>') && !s.inFlow then readBlockToken s (c == '|') here rest
  else if c == '\'' || c == '"' then readQuotedToken s p rest
  else if beginsPlain s.inFlow c rest then readPlainToken s p rest
  else .error (.malformed .noToken here (some (.nextToken, here)))

def readFinish (s : Progress) : Except Fault Progress := do
  let s := (← s.refresh s.finish).closeBlocks s.finish
  let here := if s.finish.column = 0 then s.finish else ⟨s.finish.index, s.finish.line + 1, 0⟩
  ((← s.closeAll here).forbidKey.push .finish here).refresh here

def settled (s : Progress) : List Token :=
  let places := (s.blockKey :: s.flowKeys).reduceOption.map KeyPlace.tokens
  (s.tokens.drop (s.count - places.foldl min s.count)).reverse

/-- The tokens up to the end of the text, or up to a fault. A fault shows itself when the next token
is asked for, so the tokens that have settled before it are there.

Every token takes at least one character, so a budget of one more than the length of the text is
never used up. -/
def readAll (budget : Nat) (s : Progress) (text : List Placed) : List Token × Option Fault :=
  match budget with
  | 0 => (s.settled, none)
  | budget + 1 =>
      match toNextToken s false text with
      | (s, []) =>
          match s.readFinish with
          | .ok s => (s.tokens.reverse, none)
          | .error fault => (s.settled, some fault)
      | (s, p :: rest) =>
          match (do
            let (s, after) ← s.read p rest
            return (← s.refresh (s.place after), after)) with
          | .ok (s, after) => readAll budget s after
          | .error fault => (s.settled, some fault)

end Progress

def controlCharacter? (byte : Nat) : List Char → Option Nat
  | [] => none
  | c :: rest => if isAllowed c then controlCharacter? (byte + c.utf8Size) rest else some byte

def Token.allOfText (text : String) : List Token × Option Fault :=
  let cs := text.toList
  match controlCharacter? 0 cs with
  | some byte => ([], some (.controlCharacter byte))
  | none =>
      let (placed, finish) := place ⟨0, 0, 0⟩ cs
      Progress.readAll (placed.length + 1) { finish } placed

end ScorePage.Yaml
