import ScorePage.Hint.SystemHint
import ScorePage.Outcome

/-! The systems of a page. A pattern is a staff group with the number of systems in a row that
share it. The staff group of the largest system stands for the whole page. -/
namespace ScorePage

structure SystemPattern where
  group : StaffGroup
  repeats : Nat
  deriving DecidableEq, Repr

structure StaffSystem where
  pattern : Nat
  group : StaffGroup
  deriving DecidableEq, Repr

namespace SystemPattern

def ofHint (hint : SystemHint) : Outcome SystemPattern :=
  match hint.layout.number 0 with
  | none => .fail (.hint ⟨hint.source, 1, .notNumberable⟩)
  | some (group, last) =>
      ⟨[.stavesInSystem last hint.repeats], .ok ⟨group, hint.repeats⟩⟩

def ofHints (hints : List SystemHint) : Outcome (List SystemPattern) := hints.mapM ofHint

end SystemPattern

namespace StaffSystem

def onPage (patterns : List SystemPattern) : List StaffSystem :=
  patterns.zipIdx.flatMap fun (pattern, place) =>
    List.replicate pattern.repeats ⟨place, pattern.group⟩

def staves (system : StaffSystem) : Nat := system.group.staves

/-- The systems with at least `bar` staves and with more than every earlier one of these, each with
its position; positions count on from `position`. -/
def recordsFrom (position bar : Nat) : List StaffSystem → List (Nat × StaffSystem)
  | [] => []
  | system :: rest =>
      if bar ≤ system.staves then
        (position, system) :: recordsFrom (position + 1) (system.staves + 1) rest
      else recordsFrom (position + 1) bar rest

def records (systems : List StaffSystem) : List (Nat × StaffSystem) := recordsFrom 1 0 systems

def largest (systems : List StaffSystem) : Outcome StaffSystem := do
  let found := records systems
  .noteAll (found.map fun (position, system) => .largestSoFar position system.staves)
  match found.getLast? with
  | none => .fail .noSystems
  | some (_, system) => .ok system

end StaffSystem
end ScorePage
