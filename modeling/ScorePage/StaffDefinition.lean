import ScorePage.Draft
import ScorePage.Layout

/-! Staff groups as elements: a `staffGrp` for each group and a `staffDef` for each staff. -/
namespace ScorePage.Draft

def staffItems : StaffGroup → Draft Forest
  | .nil => return .nil
  | .leaf number rest => do
      let e ← element "staffDef"
      let others ← staffItems rest
      return .cons (e.setAttribute "n" (toString number)).label .nil others
  | .nested inner rest => do
      let e ← element "staffGrp"
      let children ← staffItems inner
      let others ← staffItems rest
      return .cons e.label children others

def staffGroup (group : StaffGroup) : Draft Element := do
  let e ← element "staffGrp"
  return { e with children := ← staffItems group }

end ScorePage.Draft
