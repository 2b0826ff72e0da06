import ScorePage.Yaml.Fault

/-! What can stand before the content of a node or of a document: anchors, tags and directives. -/
namespace ScorePage.Yaml
open Text (hexNumber?)

structure Tag where
  handle : List Char
  suffix : List Char
  deriving DecidableEq, Repr

inductive Directive where
  | version (major minor : Nat)
  | tag (handle expansion : List Char)
  deriving DecidableEq, Repr

def endsAnchor (c : Char) : Bool :=
  isSpace c || isBreak c || "?:,]\x7d%@\x60".toList.contains c

def takeWord (text : List Placed) : List Char × List Placed :=
  match text.span fun p => isWordChar p.char with
  | (word, rest) => (word.map Placed.char, rest)

def readName (activity : Activity) (text : List Placed) : Except Halt (List Char × List Placed) :=
  let (name, rest) := takeWord text
  if name.isEmpty || rest.head?.any fun p => !endsAnchor p.char then
    halt activity .anchorNameMissing rest
  else .ok (name, rest)

def isUriChar (verbatim : Bool) (c : Char) : Bool :=
  isWordChar c || ";/?:@&=+$.!~*'()".toList.contains c ||
  (verbatim && (c == ',' || c == '[' || c == ']'))

def byteWidth? (first : Nat) : Option Nat :=
  if first < 0x80 then some 1
  else if first / 0x20 = 6 then some 2
  else if first / 0x10 = 14 then some 3
  else if first / 0x08 = 30 then some 4
  else none

def nextByte (missing byte : Nat) : Except Problem Nat :=
  if missing = 0 then
    match byteWidth? byte with
    | some width => .ok (width - 1)
    | none => .error .octetNotLeading
  else if byte / 0x40 = 2 then .ok (missing - 1) else .error .octetNotTrailing

/-- Reads characters of a tag. An escape is a percent sign and two digits for each byte; of an
escaped character outside ASCII only its presence is kept. -/
def readUriChars (activity : Activity) (verbatim : Bool) (skip missing : Nat) :
    List Placed → Except Halt (List Char × List Placed)
  | [] => if missing = 0 then .ok ([], []) else halt activity .octetMissing []
  | p :: rest =>
      if 0 < skip then readUriChars activity verbatim (skip - 1) missing rest
      else if p.char == '%' then
        let digits := (rest.take 2).map Placed.char
        match if digits.length = 2 then hexNumber? digits else none with
        | none => halt activity .octetMissing (p :: rest)
        | some byte =>
            match nextByte missing byte with
            | .error problem => halt activity problem (p :: rest)
            | .ok after => do
                let (more, others) ← readUriChars activity verbatim 2 after rest
                let shown :=
                  if byte < 0x80 then [Char.ofNat byte] else if after = 0 then ['\uFFFD'] else []
                return (shown ++ more, others)
      else if missing ≠ 0 then halt activity .octetMissing (p :: rest)
      else if isUriChar verbatim p.char then do
        let (more, others) ← readUriChars activity verbatim 0 0 rest
        return (p.char :: more, others)
      else .ok ([], p :: rest)

def untilNul (text : List Char) : List Char := text.takeWhile (· != '\x00')

def readUri (activity : Activity) (verbatim : Bool) (text : List Placed) :
    Except Halt (List Char × List Placed) := do
  let (chars, rest) ← readUriChars activity verbatim 0 0 text
  if chars.isEmpty then halt activity .uriMissing rest else return (untilNul chars, rest)

def readHandle (activity : Activity) : List Placed → Except Halt (List Char × List Placed)
  | [] => halt activity .exclamationMissing []
  | p :: rest =>
      if p.char != '!' then halt activity .exclamationMissing (p :: rest)
      else
        match takeWord rest with
        | (word, []) => .ok ('!' :: word, [])
        | (word, q :: after) =>
            if q.char == '!' then .ok ('!' :: word ++ ['!'], after)
            else .ok ('!' :: word, q :: after)

def isFullHandle (handle : List Char) : Bool := 1 < handle.length && handle.getLast? == some '!'

def readTagText (text : List Placed) : Except Halt (Tag × List Placed) :=
  if spelled ['!', '<'] text then do
    let (suffix, rest) ← readUri .tagUri true (text.drop 2)
    match rest with
    | p :: after =>
        if p.char == '>' then return (⟨[], suffix⟩, after) else halt .tag .angleBracketMissing rest
    | [] => halt .tag .angleBracketMissing []
  else do
    let (handle, rest) ← readHandle .tag text
    if isFullHandle handle then
      let (suffix, after) ← readUri .tagUri false rest
      return (⟨handle, suffix⟩, after)
    else
      let (suffix, after) ← readUriChars .tagUri false 0 0 rest
      let name := untilNul (handle.drop 1 ++ suffix)
      return (if name.isEmpty then ⟨[], ['!']⟩ else ⟨['!'], name⟩, after)

def readTag (inFlow : Bool) (text : List Placed) : Except Halt (Tag × List Placed) := do
  let (tag, rest) ← readTagText text
  if gapAhead rest || (inFlow && rest.head?.any fun p => p.char == ',') then return (tag, rest)
  else halt .tag .blankOrLineEndMissing rest

def readNumber (text : List Placed) : Except Halt (Nat × List Placed) :=
  match text.span fun p => p.char.isDigit with
  | (digits, rest) =>
      if digits.isEmpty then halt .versionDirective .versionNumberMissing rest
      else if 9 < digits.length then
        halt .versionDirective .versionNumberTooLong (text.drop 9)
      else .ok (Nat.ofDigitChars 10 (digits.map Placed.char) 0, rest)

def readVersion (text : List Placed) : Except Halt (Directive × List Placed) := do
  let (major, rest) ← readNumber (skipSpaces text)
  if rest.head?.any fun p => p.char == '.' then
    let (minor, after) ← readNumber (rest.drop 1)
    return (.version major minor, after)
  else halt .versionDirective .versionPointMissing rest

def readTagDirective (text : List Placed) : Except Halt (Directive × List Placed) := do
  let (handle, rest) ← readHandle .directiveHandle (skipSpaces text)
  if handle != ['!'] && !isFullHandle handle then halt .directiveHandleEnd .exclamationMissing rest
  else if !rest.head?.any fun p => isSpace p.char then halt .tagDirective .blankMissing rest
  else
    let (expansion, after) ← readUri .directiveUri true (skipSpaces rest)
    if gapAhead after then return (.tag handle expansion, after)
    else halt .tagDirective .blankOrLineEndMissing after

def readDirective (text : List Placed) : Except Halt (Directive × List Placed) := do
  let (name, rest) := takeWord text
  if name.isEmpty then halt .directive .directiveNameMissing rest
  else if !gapAhead rest then halt .directive .directiveNameEndless rest
  else
    let (directive, after) ←
      if name = "YAML".toList then readVersion rest
      else if name = "TAG".toList then readTagDirective rest
      else halt .directive .directiveUnknown rest
    return (directive, ← restOfLine .directive after)

end ScorePage.Yaml
