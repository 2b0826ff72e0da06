/-! Text that is safe to show on a terminal: the characters that a terminal may act on are written
as escapes, all others as they are. -/
namespace ScorePage.Text

def terminalEscapes : List (Char × String) := [
  ('\x07', "\\x07"), ('\x08', "\\x08"), ('\x0c', "\\x0c"), ('\x1b', "\\x1b"), ('\x7f', "\\x7f")]

def isHighControl (c : Char) : Bool := 0x80 ≤ c.toNat && c.toNat ≤ 0x9F

def inertChar (c : Char) : List Char :=
  match terminalEscapes.lookup c with
  | some escape => escape.toList
  | none =>
      if isHighControl c then "\\u\x7b".toList ++ Nat.toDigits 16 c.toNat ++ ['\x7d'] else [c]

def inert (text : String) : String := String.ofList (text.toList.flatMap inertChar)

end ScorePage.Text
