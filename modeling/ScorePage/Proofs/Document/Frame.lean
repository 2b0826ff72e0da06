import ScorePage.Proofs.Link
import ScorePage.Proofs.StaffDefinition

/-! The frame of a document: everything but the zones and the entries of the section. What is drafted
for a page is a frame filled with zones and entries, and its ids go through it in document order. -/
namespace ScorePage
open Draft

namespace Draft

def zoneFor (box : Box) : Element :=
  ⟨{ name := "zone", id := "", attributes := [("ulx", String.ofList box.ulx.text),
      ("uly", String.ofList box.uly.text), ("lrx", String.ofList box.lrx.text),
      ("lry", String.ofList box.lry.text)] }, .nil⟩

def staffFor (number : Nat) (zoneId : String) : Element :=
  ⟨{ name := "staff", id := "", attributes := [("n", toString number), ("facs", zoneId)] }, .nil⟩

def systemBreakFor (position : Nat) (zoneId : String) : Element :=
  ⟨{ name := "sb", id := "", attributes := [("systemref", zoneId), ("n", toString position)] },
    .nil⟩

theorem zoneMade (box : Box) (ids : IdSupply) : ((zone box).run ids).1.unnamed = zoneFor box := rfl

theorem staffMade (number : Nat) (zoneId : String) (ids : IdSupply) :
    ((staff number zoneId).run ids).1.unnamed = staffFor number zoneId := rfl

theorem systemBreakMade (position : Nat) (zoneId : String) (ids : IdSupply) :
    ((systemBreak position zoneId).run ids).1.unnamed = systemBreakFor position zoneId := rfl

theorem staffItemsOrdered (group : StaffGroup) : Ordered (staffItems group) Forest.elements := by
  induction group with
  | nil => intro ids; exact .nil ids
  | leaf number rest ih =>
    intro ids
    exact (elementOrdered "staffDef" ids).append (ih _)
  | nested inner rest innerIh restIh =>
    intro ids
    have parts := (elementOrdered "staffGrp" ids).append ((innerIh _).append (restIh _))
    rw [← idsAppend] at parts
    exact parts

theorem staffGroupOrdered (group : StaffGroup) : Ordered (staffGroup group) Element.elements := by
  intro ids
  exact (elementOrdered "staffGrp" ids).append (staffItemsOrdered group _)

def Named (names : List String) (es : List Element) : Prop := ∀ e ∈ es, e.label.name ∈ names

theorem namedCons {names : List String} {e : Element} {es : List Element}
    (first : e.label.name ∈ names) (others : Named names es) : Named names (e :: es) :=
  List.forall_mem_cons.mpr ⟨first, others⟩

theorem namedNowhere {names : List String} {es : List Element} (named : Named names es)
    {name : String} (other : name ∉ names) :
    es.filter (fun e => e.label.name = name) = [] := by
  rw [List.filter_eq_nil_iff]
  intro e member same
  exact other (of_decide_eq_true same ▸ named e member)

theorem staffGroupNamed (group : StaffGroup) (ids : IdSupply) :
    Named ["staffGrp", "staffDef"] ((staffGroup group).run ids).1.elements := by
  intro e member
  rcases (staffGroupDeclares group ids e member).2 with ⟨named, -⟩ | ⟨named, -⟩ <;> simp [named]

end Draft

namespace Document

theorem headOrdered (title : Option String) : Ordered (head title) Element.elements := by
  intro ids
  cases title <;> exact ⟨rfl, rfl⟩

theorem headNamed (title : Option String) (ids : IdSupply) :
    Named ["meiHead", "fileDesc", "titleStmt", "title"] ((head title).run ids).1.elements := by
  cases title with
  | none => exact namedCons (.head _) (by intro e member; contradiction)
  | some text =>
    have names : (((head (some text)).run ids).1.elements).map (·.label.name) =
        ["meiHead", "fileDesc", "titleStmt", "title"] := rfl
    intro e member
    rw [← names]
    exact List.mem_map_of_mem member

def systemBox (link : Link (Box × Element)) : Box :=
  link.first.1.hull (link.others.map Prod.fst)

theorem systemZoneMade (link : Link (Box × Element)) (ids : IdSupply) :
    ((systemZone link).run ids).1.unnamed = zoneFor (systemBox link) := rfl

theorem systemZoneOrdered (link : Link (Box × Element)) :
    Ordered (systemZone link) Element.elements := zoneOrdered (systemBox link)

def partFor (shared : Nat × StaffGroup × List (Box × Element)) (zone : Element) : List Element :=
  systemBreakFor shared.1 zone.label.id ::
    (shared.2.1.numbers.zip shared.2.2).map fun numbered =>
      staffFor numbered.1 numbered.2.2.label.id

theorem sectionPartMade (link : Link (Box × Element)) (zone : Element) (ids : IdSupply) :
    ((sectionPart link zone).run ids).1.map Element.unnamed = partFor link.view zone := by
  rw [sectionPart, runBind, runBind, runPure, List.map_cons, systemBreakMade]
  rw [mapMView (fun numbered _ => staffMade numbered.1 numbered.2.2.label.id _)]
  rfl

theorem sectionPartOrdered (link : Link (Box × Element)) (zone : Element) :
    Ordered (sectionPart link zone) (List.flatMap Element.elements) := by
  intro ids
  have staves := mapMOrdered (fun numbered : Nat × Box × Element =>
    staffOrdered numbered.1 numbered.2.2.label.id) (link.group.numbers.zip (link.first :: link.others))
  have parts := (systemBreakOrdered link.position zone.label.id ids).append (staves _)
  rw [← idsAppend] at parts
  exact parts

def linkedPart (linked : Link (Box × Element) × Element) : Draft (List Element) :=
  sectionPart linked.1 linked.2

theorem linkedPartMade (linked : Link (Box × Element) × Element) (ids : IdSupply) :
    ((linkedPart linked).run ids).1.map Element.unnamed = partFor linked.1.view linked.2 :=
  sectionPartMade linked.1 linked.2 ids

theorem linkedPartOrdered (linked : Link (Box × Element) × Element) :
    Ordered (linkedPart linked) (List.flatMap Element.elements) :=
  sectionPartOrdered linked.1 linked.2

structure Frame where
  root : Element
  head : Element
  music : Element
  facsimile : Element
  surface : Element
  body : Element
  mdiv : Element
  score : Element
  scoreDef : Element
  definition : Element
  sect : Element

namespace Frame

def image (frame : Frame) (zones : List Element) : Element :=
  frame.facsimile.add (frame.surface.addAll zones)

def notes (frame : Frame) (entries : List Element) : Element :=
  (frame.score.add (frame.scoreDef.add frame.definition)).add (frame.sect.addAll entries)

def document (frame : Frame) (zones entries : List Element) : Document :=
  ⟨(frame.root.add frame.head).add
    ((frame.music.add (frame.image zones)).add (frame.body.add (frame.mdiv.add (frame.notes entries))))⟩

theorem imageElements {frame : Frame} (surface : frame.surface.children = .nil)
    (facsimile : frame.facsimile.children = .nil) (zones : List Element) :
    (frame.image zones).elements =
      frame.image zones :: frame.surface.addAll zones :: zones.flatMap Element.elements := by
  rw [Element.elements, image, Element.addElements, facsimile, Element.elements,
    Element.addAllElements, surface]
  rfl

end Frame

/- How the frame of a drafted document looks; what a draft of its own makes is referred to. -/
structure Frame.Drafted (frame : Frame) (title : Option String) (largest : StaffGroup) : Prop where
  root : frame.root.unnamed = (bare "mei" "").setAttribute "meiversion" version
  head : ∃ ids, frame.head = ((Document.head title).run ids).1
  music : frame.music.unnamed = bare "music" ""
  facsimile : frame.facsimile.unnamed = bare "facsimile" ""
  surface : frame.surface.unnamed = bare "surface" ""
  body : frame.body.unnamed = bare "body" ""
  mdiv : frame.mdiv.unnamed = bare "mdiv" ""
  score : frame.score.unnamed = bare "score" ""
  scoreDef : frame.scoreDef.unnamed = bare "scoreDef" ""
  definition : ∃ ids, frame.definition = ((staffGroup largest).run ids).1
  sect : frame.sect.unnamed = bare "section" ""

theorem childrenOfUnnamed {e shape : Element} (made : e.unnamed = shape) :
    e.children = shape.children := by
  rw [← made]
  rfl

theorem nameOfUnnamed {e shape : Element} (made : e.unnamed = shape) :
    e.label.name = shape.label.name := by
  rw [← made]
  rfl

namespace Frame

variable {frame : Frame} {title : Option String} {largest : StaffGroup}

def filledScoreDef (frame : Frame) : Element := frame.scoreDef.add frame.definition

def filledBody (frame : Frame) (entries : List Element) : Element :=
  frame.body.add (frame.mdiv.add (frame.notes entries))

def filledMusic (frame : Frame) (zones entries : List Element) : Element :=
  (frame.music.add (frame.image zones)).add (frame.filledBody entries)

theorem notesElements (drafted : frame.Drafted title largest) (entries : List Element) :
    (frame.notes entries).elements =
      frame.notes entries :: frame.filledScoreDef :: (frame.definition.elements ++
        frame.sect.addAll entries :: entries.flatMap Element.elements) := by
  rw [Element.elements, notes, Element.addElements, Element.addElements,
    childrenOfUnnamed drafted.score, Element.elements, Element.elements, Element.addElements,
    Element.addAllElements, childrenOfUnnamed drafted.scoreDef, childrenOfUnnamed drafted.sect]
  simp [bare, Forest.elements, filledScoreDef]

theorem filledBodyElements (drafted : frame.Drafted title largest) (entries : List Element) :
    (frame.filledBody entries).elements = frame.filledBody entries ::
      frame.mdiv.add (frame.notes entries) :: (frame.notes entries).elements := by
  rw [Element.elements, filledBody, Element.addElements, childrenOfUnnamed drafted.body,
    Element.elements, Element.addElements, childrenOfUnnamed drafted.mdiv]
  rfl

theorem filledMusicElements (drafted : frame.Drafted title largest) (zones entries : List Element) :
    (frame.filledMusic zones entries).elements = frame.filledMusic zones entries ::
      ((frame.image zones).elements ++ (frame.filledBody entries).elements) := by
  rw [Element.elements, filledMusic, Element.addElements, Element.addElements,
    childrenOfUnnamed drafted.music]
  rfl

theorem documentElements (drafted : frame.Drafted title largest) (zones entries : List Element) :
    (frame.document zones entries).root.children.elements =
      frame.head.elements ++ frame.filledMusic zones entries :: (frame.image zones ::
        frame.surface.addAll zones :: zones.flatMap Element.elements ++
        frame.filledBody entries :: frame.mdiv.add (frame.notes entries) ::
          frame.notes entries :: frame.filledScoreDef :: (frame.definition.elements ++
            frame.sect.addAll entries :: entries.flatMap Element.elements)) := by
  rw [← notesElements drafted, ← filledBodyElements drafted,
    ← imageElements (childrenOfUnnamed drafted.surface) (childrenOfUnnamed drafted.facsimile),
    ← filledMusicElements drafted]
  rw [document, Element.addElements, Element.addElements, childrenOfUnnamed drafted.root]
  rfl

theorem documentIds (drafted : frame.Drafted title largest) (zones entries : List Element) :
    idsOf (frame.document zones entries).root.elements =
      frame.root.label.id :: (idsOf frame.head.elements ++ frame.music.label.id ::
        frame.facsimile.label.id :: frame.surface.label.id ::
        (idsOf (zones.flatMap Element.elements) ++ frame.body.label.id :: frame.mdiv.label.id ::
          frame.score.label.id :: frame.scoreDef.label.id :: (idsOf frame.definition.elements ++
            frame.sect.label.id :: idsOf (entries.flatMap Element.elements)))) := by
  rw [Element.elements, documentElements drafted]
  simp only [idsOf, List.map_cons, List.map_append, List.cons_append]
  rfl

def otherNames : List String :=
  ["meiHead", "fileDesc", "titleStmt", "title"] ++ ["music", "facsimile", "body", "mdiv", "score",
    "scoreDef"] ++ ["staffGrp", "staffDef"]

theorem documentNamed (drafted : frame.Drafted title largest) {zones entries : List Element}
    (zonesEmpty : ∀ zone ∈ zones, zone.children = .nil)
    (entriesEmpty : ∀ entry ∈ entries, entry.children = .nil) (name : String) :
    (frame.document zones entries).root.descendants name =
      frame.head.elements.filter (fun e => e.label.name = name) ++
        ((if "music" = name then [frame.filledMusic zones entries] else []) ++
        (if "facsimile" = name then [frame.image zones] else []) ++
        (if "surface" = name then [frame.surface.addAll zones] else []) ++
        zones.filter (fun e => e.label.name = name) ++
        (if "body" = name then [frame.filledBody entries] else []) ++
        (if "mdiv" = name then [frame.mdiv.add (frame.notes entries)] else []) ++
        (if "score" = name then [frame.notes entries] else []) ++
        (if "scoreDef" = name then [frame.filledScoreDef] else []) ++
        frame.definition.elements.filter (fun e => e.label.name = name) ++
        (if "section" = name then [frame.sect.addAll entries] else []) ++
        entries.filter (fun e => e.label.name = name)) := by
  have music : (frame.filledMusic zones entries).label.name = "music" :=
    nameOfUnnamed drafted.music
  have facsimile : (frame.image zones).label.name = "facsimile" := nameOfUnnamed drafted.facsimile
  have surface : (frame.surface.addAll zones).label.name = "surface" :=
    nameOfUnnamed drafted.surface
  have body : (frame.filledBody entries).label.name = "body" := nameOfUnnamed drafted.body
  have mdiv : (frame.mdiv.add (frame.notes entries)).label.name = "mdiv" :=
    nameOfUnnamed drafted.mdiv
  have score : (frame.notes entries).label.name = "score" := nameOfUnnamed drafted.score
  have scoreDef : frame.filledScoreDef.label.name = "scoreDef" := nameOfUnnamed drafted.scoreDef
  have sect : (frame.sect.addAll entries).label.name = "section" := nameOfUnnamed drafted.sect
  have first (e : Element) (others : List Element) :
      (e :: others).filter (fun e => e.label.name = name) =
        (if e.label.name = name then [e] else []) ++ others.filter (fun e => e.label.name = name) := by
    rw [List.filter_cons]
    by_cases same : e.label.name = name <;> simp [same]
  rw [Element.descendantsElements, documentElements drafted, Element.childlessElements zonesEmpty,
    Element.childlessElements entriesEmpty]
  simp only [List.filter_append, first, music, facsimile, surface, body, mdiv, score, scoreDef, sect,
    List.append_assoc, List.cons_append]

theorem documentDescendants (drafted : frame.Drafted title largest) {zones entries : List Element}
    (zonesEmpty : ∀ zone ∈ zones, zone.children = .nil)
    (entriesEmpty : ∀ entry ∈ entries, entry.children = .nil) {name : String}
    (other : name ∉ otherNames) :
    (frame.document zones entries).root.descendants name =
      (if "surface" = name then [frame.surface.addAll zones] else []) ++
        zones.filter (fun e => e.label.name = name) ++
        (if "section" = name then [frame.sect.addAll entries] else []) ++
        entries.filter (fun e => e.label.name = name) := by
  simp only [otherNames, List.mem_append, not_or] at other
  obtain ⟨⟨notHead, notOwn⟩, notDefinition⟩ := other
  obtain ⟨headIds, headDrafted⟩ := drafted.head
  obtain ⟨groupIds, groupDrafted⟩ := drafted.definition
  have noHead := namedNowhere (headDrafted ▸ headNamed title headIds) notHead
  have noGroup := namedNowhere (groupDrafted ▸ staffGroupNamed largest groupIds) notDefinition
  simp only [List.mem_cons, List.not_mem_nil, or_false, not_or, @eq_comm _ name] at notOwn
  rw [documentNamed drafted zonesEmpty entriesEmpty]
  simp only [noHead, noGroup, notOwn, if_false, List.nil_append, List.append_nil]

end Frame

structure Filling (boxes : List Box) (links : List (Link (Box × Element)))
    (staffZones systemZones : List Element) (parts : List (List Element)) : Prop where
  zonesOfBoxes : staffZones.map Element.unnamed = boxes.map zoneFor
  zonesOfLinks : systemZones.map Element.unnamed =
    links.map fun link => zoneFor (systemBox link)
  partsOfLinks : parts.map (List.map Element.unnamed) =
    (links.zip systemZones).map fun linked => partFor linked.1.view linked.2

structure Plain (names : List String) (e : Element) : Prop where
  childless : e.children = .nil
  named : e.label.name ∈ names

theorem plainOfUnnamed {names : List String} {es shapes : List Element}
    (made : es.map Element.unnamed = shapes) (plain : ∀ shape ∈ shapes, Plain names shape) :
    ∀ e ∈ es, Plain names e := by
  intro e member
  have shaped : Plain names e.unnamed := plain _ (made ▸ List.mem_map_of_mem member)
  exact ⟨shaped.childless, shaped.named⟩

theorem partPlain (shared : Nat × StaffGroup × List (Box × Element)) (zone : Element) :
    ∀ shape ∈ partFor shared zone, Plain ["sb", "staff"] shape := by
  refine List.forall_mem_cons.mpr ⟨⟨rfl, .head _⟩, ?_⟩
  intro shape member
  obtain ⟨numbered, _, rfl⟩ := List.mem_map.mp member
  exact ⟨rfl, .tail _ (.head _)⟩

namespace Filling

variable {boxes : List Box} {links : List (Link (Box × Element))}
  {staffZones systemZones : List Element} {parts : List (List Element)}

theorem zonesPlain (filling : Filling boxes links staffZones systemZones parts) :
    ∀ zone ∈ staffZones ++ systemZones, Plain ["zone"] zone := by
  intro zone member
  rcases List.mem_append.mp member with member | member
  · refine plainOfUnnamed filling.zonesOfBoxes ?_ zone member
    intro shape made
    obtain ⟨box, _, rfl⟩ := List.mem_map.mp made
    exact ⟨rfl, .head _⟩
  · refine plainOfUnnamed filling.zonesOfLinks ?_ zone member
    intro shape made
    obtain ⟨link, _, rfl⟩ := List.mem_map.mp made
    exact ⟨rfl, .head _⟩

theorem entryMade (filling : Filling boxes links staffZones systemZones parts) {entry : Element}
    (member : entry ∈ parts.flatten) : ∃ link ∈ links,
      (∃ zone ∈ systemZones, entry.unnamed = systemBreakFor link.position zone.label.id) ∨
      (∃ number ∈ link.group.numbers, ∃ item ∈ link.items,
        entry.unnamed = staffFor number item.2.label.id) := by
  obtain ⟨part, drafted, inside⟩ := List.mem_flatten.mp member
  have made : part.map Element.unnamed ∈ parts.map (List.map Element.unnamed) :=
    List.mem_map_of_mem drafted
  rw [filling.partsOfLinks] at made
  obtain ⟨⟨link, zone⟩, linked, same⟩ := List.mem_map.mp made
  obtain ⟨chosen, zoned⟩ := List.of_mem_zip linked
  have shape : entry.unnamed ∈ partFor link.view zone := same ▸ List.mem_map_of_mem inside
  refine ⟨link, chosen, ?_⟩
  rcases List.mem_cons.mp shape with start | staff
  · exact .inl ⟨zone, zoned, start⟩
  · obtain ⟨⟨number, item⟩, numbered, shape⟩ := List.mem_map.mp staff
    obtain ⟨counted, dealt⟩ := List.of_mem_zip numbered
    exact .inr ⟨number, counted, item, dealt, shape.symm⟩

theorem entriesPlain (filling : Filling boxes links staffZones systemZones parts) :
    ∀ entry ∈ parts.flatten, Plain ["sb", "staff"] entry := by
  have made : parts.flatten.map Element.unnamed =
      (links.zip systemZones).flatMap fun linked => partFor linked.1.view linked.2 := by
    rw [List.map_flatten, filling.partsOfLinks, List.flatMap_def]
  apply plainOfUnnamed made
  intro shape member
  obtain ⟨linked, _, part⟩ := List.mem_flatMap.mp member
  exact partPlain linked.1.view linked.2 shape part

end Filling

theorem plainNowhere {names : List String} {es : List Element}
    (plain : ∀ e ∈ es, Plain names e) {name : String} (other : name ∉ names) :
    es.filter (fun e => e.label.name = name) = [] :=
  namedNowhere (fun e member => (plain e member).named) other

theorem plainEverywhere {name : String} {es : List Element} (plain : ∀ e ∈ es, Plain [name] e) :
    es.filter (fun e => e.label.name = name) = es := by
  rw [List.filter_eq_self]
  intro e member
  exact decide_eq_true (List.mem_singleton.mp (plain e member).named)

structure Searches (root surface sect : Element) (zones entries : List Element) : Prop where
  surfaces : root.descendants "surface" = [surface]
  sections : root.descendants "section" = [sect]
  zones : root.descendants "zone" = zones
  staves : root.descendants "staff" = entries.filter fun e => e.label.name = "staff"
  systemBreaks : root.descendants "sb" = entries.filter fun e => e.label.name = "sb"

theorem filledSearches {frame : Frame} {title : Option String} {largest : StaffGroup}
    (drafted : frame.Drafted title largest) {zones entries : List Element}
    (zonesPlain : ∀ zone ∈ zones, Plain ["zone"] zone)
    (entriesPlain : ∀ entry ∈ entries, Plain ["sb", "staff"] entry) :
    Searches (frame.document zones entries).root (frame.surface.addAll zones)
      (frame.sect.addAll entries) zones entries := by
  have search {name : String} (other : name ∉ Frame.otherNames) :=
    Frame.documentDescendants drafted (fun zone member => (zonesPlain zone member).childless)
      (fun entry member => (entriesPlain entry member).childless) other
  constructor
  · rw [search (by decide), plainNowhere zonesPlain (by decide),
      plainNowhere entriesPlain (by decide)]
    rfl
  · rw [search (by decide), plainNowhere zonesPlain (by decide),
      plainNowhere entriesPlain (by decide)]
    rfl
  · rw [search (by decide), plainEverywhere zonesPlain, plainNowhere entriesPlain (by decide)]
    simp
  · rw [search (by decide), plainNowhere zonesPlain (by decide)]
    simp
  · rw [search (by decide), plainNowhere zonesPlain (by decide)]
    simp

theorem emptyRun {ids left : IdSupply} {document : Document}
    (ran : Document.empty.run ids = (document, left)) :
    document.root.unnamed = (bare "mei" "").setAttribute "meiversion" version ∧
      ids.Gives [document.root.label.id] left := by
  cases ran
  exact ⟨rfl, rfl, rfl⟩

theorem elementRun {name : String} {ids left : IdSupply} {e : Element}
    (ran : (element name).run ids = (e, left)) :
    e.unnamed = bare name "" ∧ ids.Gives [e.label.id] left := by
  cases ran
  exact ⟨rfl, rfl, rfl⟩

theorem orderedRun {α : Type} {drafting : Draft α} {shown : α → List Element}
    (ordered : Ordered drafting shown) {ids left : IdSupply} {made : α}
    (ran : drafting.run ids = (made, left)) : ids.Gives (idsOf (shown made)) left := by
  have given := ordered ids
  rw [ran] at given
  exact given

theorem viewRun {α β γ : Type} {f : α → Draft β} {view : β → γ} {expected : α → γ}
    (each : ∀ x ids, view ((f x).run ids).1 = expected x) {xs : List α} {ids left : IdSupply}
    {made : List β} (ran : (xs.mapM f).run ids = (made, left)) :
    made.map view = xs.map expected := by
  have viewed := mapMView each xs ids
  rw [ran] at viewed
  exact viewed

theorem draftFramed (title : Option String) (boxes : List Box) (systems : List StaffSystem)
    (linked : Bool) (largest : StaffGroup) (ids : IdSupply) :
    ∃ frame staffZones systemZones parts left,
      (draft title boxes systems linked largest).run ids =
        (Frame.document frame (staffZones ++ systemZones) parts.flatten, left) ∧
      frame.Drafted title largest ∧
      Filling boxes (if linked then Link.deal systems (boxes.zip staffZones) else [])
        staffZones systemZones parts ∧
      ids.Gives (idsOf (Frame.document frame (staffZones ++ systemZones) parts.flatten).root.elements)
        left := by
  rcases rootRun : Document.empty.run ids with ⟨⟨root⟩, s₁⟩
  rcases headRun : (Document.head title).run s₁ with ⟨head, s₂⟩
  rcases musicRun : (element "music").run s₂ with ⟨music, s₃⟩
  rcases facsimileRun : (element "facsimile").run s₃ with ⟨facsimile, s₄⟩
  rcases surfaceRun : (element "surface").run s₄ with ⟨surface, s₅⟩
  rcases zonesRun : (boxes.mapM zone).run s₅ with ⟨staffZones, s₆⟩
  generalize made : (if linked then Link.deal systems (boxes.zip staffZones) else []) = links
  rcases systemsRun : (links.mapM systemZone).run s₆ with ⟨systemZones, s₇⟩
  rcases bodyRun : (element "body").run s₇ with ⟨body, s₈⟩
  rcases mdivRun : (element "mdiv").run s₈ with ⟨mdiv, s₉⟩
  rcases scoreRun : (element "score").run s₉ with ⟨score, s₁₀⟩
  rcases scoreDefRun : (element "scoreDef").run s₁₀ with ⟨scoreDef, s₁₁⟩
  rcases definitionRun : (staffGroup largest).run s₁₁ with ⟨definition, s₁₂⟩
  rcases sectRun : (element "section").run s₁₂ with ⟨sect, s₁₃⟩
  rcases partsRun : ((links.zip systemZones).mapM linkedPart).run s₁₃ with ⟨parts, left⟩
  let frame : Frame :=
    ⟨root, head, music, facsimile, surface, body, mdiv, score, scoreDef, definition, sect⟩
  have ran : (draft title boxes systems linked largest).run ids =
      (frame.document (staffZones ++ systemZones) parts.flatten, left) := by
    have drawn : ((links.zip systemZones).mapM fun linked => sectionPart linked.1 linked.2).run s₁₃ =
        (parts, left) := partsRun
    simp only [draft, runBind, runPure, rootRun, headRun, musicRun, facsimileRun, surfaceRun,
      zonesRun, made, systemsRun, bodyRun, mdivRun, scoreRun, scoreDefRun, definitionRun, sectRun,
      drawn]
    rfl
  obtain ⟨rootMade, rootGiven⟩ := emptyRun rootRun
  obtain ⟨musicMade, musicGiven⟩ := elementRun musicRun
  obtain ⟨facsimileMade, facsimileGiven⟩ := elementRun facsimileRun
  obtain ⟨surfaceMade, surfaceGiven⟩ := elementRun surfaceRun
  obtain ⟨bodyMade, bodyGiven⟩ := elementRun bodyRun
  obtain ⟨mdivMade, mdivGiven⟩ := elementRun mdivRun
  obtain ⟨scoreMade, scoreGiven⟩ := elementRun scoreRun
  obtain ⟨scoreDefMade, scoreDefGiven⟩ := elementRun scoreDefRun
  obtain ⟨sectMade, sectGiven⟩ := elementRun sectRun
  have drafted : frame.Drafted title largest :=
    ⟨rootMade, ⟨s₁, by rw [headRun]⟩, musicMade, facsimileMade, surfaceMade, bodyMade, mdivMade,
      scoreMade, scoreDefMade, ⟨s₁₁, by rw [definitionRun]⟩, sectMade⟩
  refine ⟨frame, staffZones, systemZones, parts, left, ran, drafted, ?_, ?_⟩
  · rw [made]
    exact ⟨viewRun zoneMade zonesRun, viewRun systemZoneMade systemsRun,
      viewRun linkedPartMade partsRun⟩
  · have headGiven := orderedRun (headOrdered title) headRun
    have zonesGiven := orderedRun (mapMOrdered zoneOrdered boxes) zonesRun
    have systemsGiven := orderedRun (mapMOrdered systemZoneOrdered links) systemsRun
    have definitionGiven := orderedRun (staffGroupOrdered largest) definitionRun
    have partsGiven := orderedRun (mapMOrdered linkedPartOrdered _) partsRun
    have given := rootGiven.append (headGiven.append (musicGiven.append (facsimileGiven.append
      (surfaceGiven.append (zonesGiven.append (systemsGiven.append (bodyGiven.append
        (mdivGiven.append (scoreGiven.append (scoreDefGiven.append (definitionGiven.append
          (sectGiven.append partsGiven))))))))))))
    rw [Frame.documentIds drafted, List.flatMap_append, idsAppend, List.flatten_eq_flatMap,
      List.flatMap_assoc]
    simp only [List.cons_append, List.nil_append, List.append_assoc] at given ⊢
    exact given

end Document
end ScorePage
