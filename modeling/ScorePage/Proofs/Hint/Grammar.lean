import ScorePage.Hint.SystemHint

/-! The written form of a hint, apart from any way of reading it. A group stands in parentheses and
blanks may stand between its items; two counts next to each other have to be kept apart by blanks.
How large the counts may be is a question of its own. -/
namespace ScorePage.Hint
open Text

structure Numeral (digits : List Char) (value : Nat) : Prop where
  some : digits ≠ []
  decimal : ∀ c ∈ digits, c.isDigit = true
  meaning : Nat.ofDigitChars 10 digits 0 = value

def enclosed (lead items : List Char) : List Char := '(' :: lead ++ items ++ [')']

inductive ItemsText : List Char → Layout → Prop where
  | nil : ItemsText [] .nil
  | count {digits gap rest value layout} (numeral : Numeral digits value)
      (blank : isBlankText gap = true)
      (apart : ∀ next others, layout = .leaf next others → gap ≠ [])
      (tail : ItemsText rest layout) :
      ItemsText (digits ++ gap ++ rest) (.leaf value layout)
  | group {lead items gap rest inner layout} (before : isBlankText lead = true)
      (body : ItemsText items inner) (blank : isBlankText gap = true)
      (tail : ItemsText rest layout) :
      ItemsText (enclosed lead items ++ gap ++ rest) (.nested inner layout)

inductive GroupText : List Char → Layout → Prop where
  | mk {lead items layout} (before : isBlankText lead = true) (body : ItemsText items layout) :
      GroupText (enclosed lead items) layout

inductive PieceText : List Char → Layout → Nat → Prop where
  | once {text layout} (group : GroupText text layout) : PieceText text layout 1
  | repeated {text layout digits repeats c} (group : GroupText text layout)
      (sign : c = 'x' ∨ c = 'X') (numeral : Numeral digits repeats) :
      PieceText (text ++ c :: digits) layout repeats

structure WithinLimits (layout : Layout) (repeats : Nat) : Prop where
  counts : ∀ count ∈ layout.leaves, 1 ≤ count ∧ count ≤ maxStaves
  total : layout.staves ≤ maxStaves
  systems : 1 ≤ repeats ∧ repeats ≤ maxRepeats

structure Laid (lead : List Char) (pieces : List (SystemHint × List Char)) : Prop where
  before : isBlankText lead = true
  blank : ∀ piece ∈ pieces, isBlankText piece.2 = true
  apart : ∀ piece ∈ pieces.dropLast, piece.2 ≠ []

def laidText (lead : List Char) (pieces : List (SystemHint × List Char)) : List Char :=
  lead ++ pieces.flatMap fun piece => piece.1.source.toList ++ piece.2

end ScorePage.Hint
