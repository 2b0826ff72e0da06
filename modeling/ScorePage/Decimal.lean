import ScorePage.Text.Blank

/-! Decimal numbers without a sign: positional text, and the text that may carry an exponent. -/
namespace ScorePage

structure Decimal where
  digits : Nat
  exponent : Int
  deriving DecidableEq, Repr

namespace Decimal
open Text

def padded (places n : Nat) : List Char :=
  let shown := Nat.toDigits 10 n
  List.replicate (places - shown.length) '0' ++ shown

def text (d : Decimal) : List Char :=
  match d.exponent with
  | .ofNat e => Nat.toDigits 10 (d.digits * Nat.pow 10 e)
  | .negSucc e =>
      let places := e + 1
      let whole := Nat.toDigits 10 (d.digits / Nat.pow 10 places)
      match dropEndWhile (· == '0') (padded places (d.digits % Nat.pow 10 places)) with
      | [] => whole
      | fraction => whole ++ '.' :: fraction

def digits? (text : List Char) : Option Nat :=
  if text.isEmpty || !text.all Char.isDigit then none else some (Nat.ofDigitChars 10 text 0)

def signed? : List Char → Option Int
  | '-' :: text => (digits? text).map fun n => -Int.ofNat n
  | '+' :: text => (digits? text).map Int.ofNat
  | text => (digits? text).map Int.ofNat

def power? : List Char → Option Int
  | [] => some 0
  | c :: text => if c = 'e' || c = 'E' then signed? text else none

def ofText? (text : List Char) : Option Decimal := do
  let whole := text.takeWhile Char.isDigit
  let afterWhole := text.dropWhile Char.isDigit
  let (fraction, afterFraction) := match afterWhole with
    | '.' :: rest => (rest.takeWhile Char.isDigit, rest.dropWhile Char.isDigit)
    | rest => ([], rest)
  let digits ← digits? (whole ++ fraction)
  let power ← power? afterFraction
  some ⟨digits, power - fraction.length⟩

end Decimal
end ScorePage
