import ScorePage.Text.Blank
import ScorePage.Text.Hexadecimal

/-! Patterns are regular expressions. This module has the modes in which a pattern is read and its
escapes. No tables of Unicode properties stand behind patterns: a kind of characters and a letter
without regard to case are understood in the mode for bytes only. -/
namespace ScorePage.Pattern
open Text

structure Mode where
  caseless : Bool := false
  bytes : Bool := false
  spaced : Bool := false
  deriving DecidableEq, Repr

def skipBlanks (inComment : Bool) : List Char → List Char
  | [] => []
  | c :: rest =>
      if inComment then skipBlanks (c != '\n') rest
      else if isBlank c then skipBlanks false rest
      else if c == '#' then skipBlanks true rest
      else c :: rest

namespace Mode

def skip (m : Mode) (text : List Char) : List Char :=
  if m.spaced then skipBlanks false text else text

def takesCharacter (m : Mode) (c : Char) (asByte : Bool) : Bool :=
  if m.bytes then !asByte || c.toNat < 128 else !m.caseless

def takesMember (m : Mode) (c : Char) : Bool :=
  if m.bytes then c.toNat < 128 else !m.caseless

def takesKind (m : Mode) (negated : Bool) : Bool := m.bytes && !negated

end Mode

inductive Escape where
  | character (value : Char) (asByte : Bool)
  | kind (negated : Bool)
  | edge (ofWord : Bool)
  deriving DecidableEq, Repr

def hexWidths : List (Char × Nat) := [('x', 2), ('u', 4), ('U', 8)]

def namedCharacters : List (Char × Char) :=
  [('a', '\x07'), ('f', '\x0c'), ('n', '\n'), ('r', '\r'), ('t', '\t'), ('v', '\x0b')]

def readHex (m : Mode) (number : Nat) : (width : Nat) → List Char → Option (Nat × List Char)
  | 0, text => some (number, text)
  | width + 1, text =>
      match m.skip text with
      | [] => none
      | c :: rest => do readHex m (16 * number + (← hexDigit? c)) width rest

def simpleEscape? (c : Char) : Option Escape :=
  if ['d', 's', 'w'].contains c then some (.kind false)
  else if ['D', 'S', 'W'].contains c then some (.kind true)
  else if ['A', 'z'].contains c then some (.edge false)
  else if ['b', 'B', '<', '>'].contains c then some (.edge true)
  else match namedCharacters.lookup c with
    | some value => some (.character value false)
    | none => if c.toNat < 128 && !c.isAlphanum then some (.character c false) else none

def readEscape (m : Mode) : List Char → Option (Escape × List Char)
  | [] => none
  | c :: rest =>
      match hexWidths.lookup c with
      | none => (simpleEscape? c).map fun escape => (escape, rest)
      | some width => do
          let (code, after) ← readHex m 0 width rest
          if code.isValidChar then some (.character (Char.ofNat code) (width == 2), after) else none

def joinedDepth : List Nat → Nat
  | [] => 0
  | [depth] => depth
  | depths => 1 + depths.foldr max 0

end ScorePage.Pattern
