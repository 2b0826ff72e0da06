import ScorePage.Box
import ScorePage.Draft

/-! Elements that tie the music to the page image. A zone holds the coordinates of a box; staves
and system breaks refer to a zone by its id. -/
namespace ScorePage.Draft

def zone (box : Box) : Draft Element := do
  let e ← element "zone"
  return e |>.setAttribute "ulx" (String.ofList box.ulx.text)
    |>.setAttribute "uly" (String.ofList box.uly.text)
    |>.setAttribute "lrx" (String.ofList box.lrx.text)
    |>.setAttribute "lry" (String.ofList box.lry.text)

def staff (number : Nat) (zoneId : String) : Draft Element := do
  let e ← element "staff"
  return e |>.setAttribute "n" (toString number) |>.setAttribute "facs" zoneId

def systemBreak (position : Nat) (zoneId : String) : Draft Element := do
  let e ← element "sb"
  return e |>.setAttribute "systemref" zoneId |>.setAttribute "n" (toString position)

end ScorePage.Draft
