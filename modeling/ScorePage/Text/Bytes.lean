/-! Positions in a text by the bytes of its UTF-8 form. A text can only be cut between characters. -/
namespace ScorePage.Text

def byteCount : List Char → Nat
  | [] => 0
  | c :: rest => c.utf8Size + byteCount rest

def fromByte? : Nat → List Char → Option (List Char)
  | 0, text => some text
  | _ + 1, [] => none
  | n + 1, c :: rest => if c.utf8Size ≤ n + 1 then fromByte? (n + 1 - c.utf8Size) rest else none

def upToByte? : Nat → List Char → Option (List Char)
  | 0, _ => some []
  | _ + 1, [] => none
  | n + 1, c :: rest =>
      if c.utf8Size ≤ n + 1 then (upToByte? (n + 1 - c.utf8Size) rest).map (c :: ·) else none

def bytesBetween? (first last : Nat) (text : List Char) : Option (List Char) :=
  (fromByte? first text).bind (upToByte? (last - first))

end ScorePage.Text
