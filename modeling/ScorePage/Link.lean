import ScorePage.StaffSystem

/-! Which staves of the image belong to which system. The staves found on the image are dealt out
in page order, to each system as many as it has; this is done only when none is left over and none
is missing. -/
namespace ScorePage

structure Link (α : Type) where
  position : Nat
  group : StaffGroup
  first : α
  others : List α
  deriving DecidableEq, Repr

namespace Link

def dealFrom {α : Type} (position : Nat) : List StaffSystem → List α → List (Link α)
  | [], _ => []
  | system :: rest, items =>
      let further := dealFrom (position + 1) rest (items.drop system.staves)
      match items.take system.staves with
      | [] => further
      | first :: others => ⟨position, system.group, first, others⟩ :: further

def deal {α : Type} (systems : List StaffSystem) (items : List α) : List (Link α) :=
  dealFrom 1 systems items

def totalStaves (systems : List StaffSystem) : Nat :=
  (systems.map StaffSystem.staves).foldr (· + ·) 0

def withoutStaves (systems : List StaffSystem) : List Nat :=
  (systems.zipIdx 1).filterMap fun (system, position) =>
    if system.staves = 0 then some position else none

def possible (systems : List StaffSystem) (boxes : Nat) : Outcome Bool :=
  if totalStaves systems = boxes then
    ⟨(withoutStaves systems).map .systemWithoutStaves, .ok true⟩
  else ⟨[.boxesUnmatched boxes (totalStaves systems)], .ok false⟩

end Link
end ScorePage
