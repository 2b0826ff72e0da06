import ScorePage.Element

/-! The making of elements. Every new element takes the next id of a supply. -/
namespace ScorePage

structure IdSupply where
  name : Nat → String
  next : Nat

namespace IdSupply

def hexDigits (n : Nat) : (width : Nat) → List Char
  | 0 => []
  | width + 1 => hexDigits (n / 16) width ++ [Nat.digitChar (n % 16)]

/-- An id in the form of a random UUID; all ids of a run share the digits taken from `seed`, and
the last group of digits counts. -/
def uuidName (seed k : Nat) : String :=
  let counter := Nat.toDigits 16 k
  String.ofList ("m-".toList ++ hexDigits seed 8 ++ '-' :: hexDigits (seed / Nat.pow 16 8) 4 ++
    '-' :: '4' :: hexDigits (seed / Nat.pow 16 12) 3 ++
    '-' :: '8' :: hexDigits (seed / Nat.pow 16 15) 3 ++
    '-' :: List.replicate (12 - counter.length) '0' ++ counter)

def ofSeed (seed : Nat) : IdSupply := ⟨uuidName seed, 0⟩

end IdSupply

abbrev Draft := StateM IdSupply

namespace Draft

def element (name : String) : Draft Element := fun ids =>
  (⟨{ name, id := ids.name ids.next }, .nil⟩, { ids with next := ids.next + 1 })

end Draft
end ScorePage
