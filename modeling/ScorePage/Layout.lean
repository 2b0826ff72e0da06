import ScorePage.Nest

/-! Layouts and staff groups. A layout says how many staves stand side by side at each place of a
group; a staff group holds the staves themselves, by number. Numbering goes through a layout from
left to right and never starts again, neither after a group nor inside one. -/
namespace ScorePage

abbrev Layout := Nest Nat

abbrev StaffGroup := Nest Nat

namespace StaffGroup

def numbers (group : StaffGroup) : List Nat := group.leaves

def staves (group : StaffGroup) : Nat := group.numbers.length

end StaffGroup

namespace Layout

def staves (layout : Layout) : Nat := layout.leaves.foldr (· + ·) 0

def lastStaffNumber : Nat := 4294967295

def prependStaves (before : Nat) : (count : Nat) → StaffGroup → StaffGroup
  | 0, group => group
  | count + 1, group => .leaf (before + 1) (prependStaves (before + 1) count group)

/-- The staff group of a layout, with numbers after `before`, and the last number used. There is
none when a number would pass `lastStaffNumber`. -/
def number (before : Nat) : Layout → Option (StaffGroup × Nat)
  | .nil => some (.nil, before)
  | .leaf count rest =>
      if before + count ≤ lastStaffNumber then
        (number (before + count) rest).map fun (group, last) =>
          (prependStaves before count group, last)
      else none
  | .nested inner rest => do
      let (child, next) ← number before inner
      let (group, last) ← number next rest
      some (.nested child group, last)

end Layout
end ScorePage
