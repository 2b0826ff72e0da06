/-! Ordered groups that hold values and further groups. A group is its first item followed by the
group of the others, so that a function on groups is one recursion. -/
namespace ScorePage

inductive Nest (α : Type) where
  | nil
  | leaf (value : α) (rest : Nest α)
  | nested (inner rest : Nest α)
  deriving DecidableEq, Repr

namespace Nest

def leaves {α : Type} : Nest α → List α
  | nil => []
  | leaf value rest => value :: rest.leaves
  | nested inner rest => inner.leaves ++ rest.leaves

def parenthesised (items : List String) : String := "(" ++ " ".intercalate items ++ ")"

def itemTexts : Nest Nat → List String
  | nil => []
  | leaf value rest => toString value :: rest.itemTexts
  | nested inner rest => parenthesised inner.itemTexts :: rest.itemTexts

def text (group : Nest Nat) : String := parenthesised group.itemTexts

end Nest
end ScorePage
