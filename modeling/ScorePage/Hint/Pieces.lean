import ScorePage.Text.Blank

/-! The pieces of a hint: the hint is cut at the blanks outside all parentheses. A closing
parenthesis without an opening one leaves the depth at zero. -/
namespace ScorePage.Hint
open Text

def depthAfter (depth : Nat) (c : Char) : Nat :=
  if c = '(' then depth + 1 else if c = ')' then depth - 1 else depth

structure Cut where
  first : List Char
  others : List (List Char)
  deriving DecidableEq, Repr

namespace Cut

def all (cut : Cut) : List (List Char) :=
  if cut.first.isEmpty then cut.others else cut.first :: cut.others

def extend (c : Char) (cut : Cut) : Cut := ⟨c :: cut.first, cut.others⟩

end Cut

def cut (depth : Nat) : List Char → Cut
  | [] => ⟨[], []⟩
  | c :: rest =>
      if isBlank c && depth == 0 then ⟨[], (cut 0 rest).all⟩
      else (cut (depthAfter depth c) rest).extend c

def pieces (hint : String) : List String := (cut 0 hint.toList).all.map String.ofList

end ScorePage.Hint
