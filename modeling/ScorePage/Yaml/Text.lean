import ScorePage.Text.Hexadecimal

/-! The text of a configuration as placed characters. Every line ending is one character: a line
feed, but for the line and the paragraph separator, which stay what they are. -/
namespace ScorePage.Yaml

/-- A place in the text. `index` counts the characters before it in the whole text, `column` those
before it on its line, `line` the lines before. -/
structure Mark where
  index : Nat
  line : Nat
  column : Nat
  deriving DecidableEq, Repr

def Mark.clause (m : Mark) : String :=
  if m.line = 0 ∧ m.column = 0 then "" else s!" at line {m.line + 1} column {m.column + 1}"

structure Placed extends Mark where
  char : Char
  deriving DecidableEq, Repr

def isSeparator (c : Char) : Bool := c.toNat == 0x2028 || c.toNat == 0x2029

def isBreak (c : Char) : Bool := c == '\n' || isSeparator c

def isSpace (c : Char) : Bool := c == ' ' || c == '\t'

def isAllowed (c : Char) : Bool :=
  let n := c.toNat
  n == 0x9 || n == 0xA || n == 0xD || (0x20 ≤ n && n ≤ 0x7E) || n == 0x85 ||
  (0xA0 ≤ n && n ≤ 0xFFFD) || 0x10000 ≤ n

def place (m : Mark) : List Char → List Placed × Mark
  | [] => ([], m)
  | '\r' :: '\n' :: rest =>
      let (others, finish) := place ⟨m.index + 2, m.line + 1, 0⟩ rest
      (⟨m, '\n'⟩ :: others, finish)
  | c :: rest =>
      let shown := if c == '\r' || c.toNat == 0x85 then '\n' else c
      let next : Mark :=
        if isBreak shown then ⟨m.index + 1, m.line + 1, 0⟩ else ⟨m.index + 1, m.line, m.column + 1⟩
      let (others, finish) := place next rest
      (⟨m, shown⟩ :: others, finish)

def gapAhead : List Placed → Bool
  | [] => true
  | p :: _ => isSpace p.char || isBreak p.char

def spelled (word : List Char) (text : List Placed) : Bool :=
  (text.take word.length).map Placed.char == word

def markAhead (c : Char) : List Placed → Bool
  | p :: rest => p.column == 0 && spelled [c, c, c] (p :: rest) && gapAhead (rest.drop 2)
  | [] => false

def documentMarkAhead (text : List Placed) : Bool := markAhead '-' text || markAhead '.' text

def skipSpaces (text : List Placed) : List Placed := text.dropWhile fun p => isSpace p.char

def skipComment : List Placed → List Placed
  | [] => []
  | p :: rest => if p.char == '#' then rest.dropWhile fun q => !isBreak q.char else p :: rest

def isWordChar (c : Char) : Bool := c.isAlphanum || c == '-' || c == '_'

end ScorePage.Yaml
