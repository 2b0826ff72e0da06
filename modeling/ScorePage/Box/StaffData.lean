import ScorePage.Box
import ScorePage.Fault
import ScorePage.Text.Lines

/-! Boxes of staves as recognised on the page image, one on each line: a label, the four
coordinates and two more fields, with tabs between them. -/
namespace ScorePage.Box
open Text

def coordinate (field : List Char) : Except StaffLineFault Binary64 :=
  match Binary64.ofText? (trim field) with
  | some value =>
      if value.isFinite && value.isNonnegative then .ok value
      else .error (.notACoordinate (trim field))
  | none => .error (.notACoordinate (trim field))

def coordinateFields (fields : List (List Char)) : List (List Char) :=
  (fields.drop 1).take (fields.length - 3)

def ofFields (fields : List (List Char)) : Except StaffLineFault Box :=
  match coordinateFields fields with
  | [ulx, uly, lrx, lry] => do
      return ⟨← coordinate ulx, ← coordinate uly, ← coordinate lrx, ← coordinate lry⟩
  | found => .error (.coordinateCount found.length)

def ofLine (number : Nat) (line : List Char) : Except Fault Box :=
  (ofFields (tabFields line)).mapError (.staffLine number)

def ofStaffData (content : String) : Except Fault (List Box) :=
  let numbered := (lines content.toList).zipIdx 1
  let filled := numbered.filter fun (line, _) => !isBlankText line
  filled.mapM fun (line, number) => ofLine number line

end ScorePage.Box
