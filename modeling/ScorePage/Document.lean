import ScorePage.Link
import ScorePage.StaffDefinition
import ScorePage.Zone

/-! The document of a page. The facsimile holds a zone for every staff found on the image, the score
definition holds the largest system's staff group. With links it also holds, in the facsimile, a
zone for each system that has staves, and in the section the beginning and the staves of each such
system. Ids are given out in document order. -/
namespace ScorePage

structure Document where
  root : Element
  deriving DecidableEq, Repr

namespace Document
open Draft

def version : String := "2013"

def empty : Draft Document := do
  let root ← element "mei"
  return ⟨root.setAttribute "meiversion" version⟩

def head (title : Option String) : Draft Element := do
  let head ← element "meiHead"
  match title with
  | none => return head
  | some text =>
      let description ← element "fileDesc"
      let statement ← element "titleStmt"
      let title ← element "title"
      return head.add (description.add (statement.add (title.setText text)))

def systemZone (link : Link (Box × Element)) : Draft Element :=
  zone (link.first.1.hull (link.others.map Prod.fst))

def sectionPart (link : Link (Box × Element)) (zone : Element) : Draft (List Element) := do
  let start ← systemBreak link.position zone.label.id
  let numbered := link.group.numbers.zip (link.first :: link.others)
  let staves ← numbered.mapM fun (number, _, staffZone) => staff number staffZone.label.id
  return start :: staves

def draft (title : Option String) (boxes : List Box) (systems : List StaffSystem) (linked : Bool)
    (largest : StaffGroup) : Draft Document := do
  let document ← empty
  let head ← head title
  let music ← element "music"
  let facsimile ← element "facsimile"
  let surface ← element "surface"
  let staffZones ← boxes.mapM zone
  let links := if linked then Link.deal systems (boxes.zip staffZones) else []
  let systemZones ← links.mapM systemZone
  let body ← element "body"
  let mdiv ← element "mdiv"
  let score ← element "score"
  let scoreDef ← element "scoreDef"
  let definition ← staffGroup largest
  let sect ← element "section"
  let parts ← (links.zip systemZones).mapM fun (link, zone) => sectionPart link zone
  let image := facsimile.add (surface.addAll (staffZones ++ systemZones))
  let notes := (score.add (scoreDef.add definition)).add (sect.addAll parts.flatten)
  return ⟨(document.root.add head).add ((music.add image).add (body.add (mdiv.add notes)))⟩

def ofHints (hints : List SystemHint) (boxes : List Box) (options : Options) (ids : IdSupply) :
    Outcome (Document × IdSupply) := do
  let patterns ← SystemPattern.ofHints hints
  let systems := StaffSystem.onPage patterns
  let largest ← StaffSystem.largest systems
  .note (.pageSummary systems.length largest.staves)
  let linked ← if options.linkStaves then Link.possible systems boxes.length else .ok false
  return (draft options.title boxes systems linked largest.group).run ids

def ofHint (hint : String) (boxes : List Box) (options : Options) (ids : IdSupply) :
    Outcome (Document × IdSupply) := do
  let hints ← .ofExcept .hint (SystemHint.allOfText hint)
  ofHints hints boxes options ids

end Document
end ScorePage
