import ScorePage.Proofs.Document.Conversion
import ScorePage.Proofs.Document.Frame

/-! The links of a page. When the boxes are as many as the staves of all systems, the zones of the
boxes are dealt out in page order and none is left: every staff refers to the zone of its own box, and
every system to a zone around the boxes of its staves. -/
namespace ScorePage

def Box.hull? : List Box → Option Box
  | [] => none
  | first :: others => some (first.hull others)

namespace Document
open Draft

def systemEntries (position staves : Nat) (zoneId : String) (staffZoneIds : List String) :
    List Element :=
  systemBreakFor position zoneId :: List.zipWith staffFor (List.range' 1 staves) staffZoneIds

theorem staffValues (start : Nat) (ids : List String) :
    Element.values "staff" "facs" (List.zipWith staffFor (List.range' start ids.length) ids) =
      ids.map some := by
  induction ids generalizing start with
  | nil => rfl
  | cons id ids ih =>
    rw [List.length_cons, List.range'_succ, List.zipWith_cons_cons, Element.values,
      List.filter_cons_of_pos (by rfl), List.map_cons, List.map_cons, ← ih (start + 1)]
    rfl

theorem staffWithoutBreak (numbers : List Nat) (ids : List String) :
    Element.values "sb" "systemref" (List.zipWith staffFor numbers ids) = [] := by
  induction numbers generalizing ids with
  | nil => rfl
  | cons number numbers ih =>
    cases ids with
    | nil => rfl
    | cons id ids => exact ih ids

theorem entriesStaves {position staves : Nat} {zoneId : String} {ids : List String}
    (complete : ids.length = staves) :
    Element.values "staff" "facs" (systemEntries position staves zoneId ids) = ids.map some := by
  rw [← staffValues 1 ids, complete]
  rfl

theorem entriesBreak (position staves : Nat) (zoneId : String) (ids : List String) :
    Element.values "sb" "systemref" (systemEntries position staves zoneId ids) = [some zoneId] := by
  have none := staffWithoutBreak (List.range' 1 staves) ids
  rw [Element.values] at none ⊢
  rw [systemEntries, List.filter_cons_of_pos (by rfl), List.map_cons, none]
  rfl

variable {boxes : List Box} {staffZones : List Element}

theorem pairedIds (paired : staffZones.length = boxes.length) :
    (boxes.zip staffZones).map (fun pair => pair.2.label.id) = idsOf staffZones := by
  have zones := List.map_snd_zip (Nat.le_of_eq paired)
  rw [← congrArg idsOf zones, idsOf, List.map_map]
  rfl

theorem pairedBoxes (paired : staffZones.length = boxes.length) :
    (boxes.zip staffZones).map Prod.fst = boxes :=
  List.map_fst_zip (Nat.le_of_eq paired.symm)

theorem pairedLength (paired : staffZones.length = boxes.length) :
    (boxes.zip staffZones).length = boxes.length := by
  rw [List.length_zip, paired, Nat.min_self]

theorem partOfShare (systems : List StaffSystem) (paired : staffZones.length = boxes.length)
    (zone : Element) {placed : StaffSystem × Nat}
    (numbered : placed.1.group.numbers = List.range' 1 placed.1.staves) :
    partFor (Link.share systems (boxes.zip staffZones) placed) zone =
      systemEntries (placed.2 + 1) placed.1.staves zone.label.id
        (Link.slice (idsOf staffZones) (Link.offset systems placed.2) placed.1.staves) := by
  rw [systemEntries, ← pairedIds paired, ← Link.sliceMap, ← numbered, List.zipWith_map_right,
    ← List.map_uncurry_zip_eq_zipWith]
  rfl

def zoneAround (shared : Nat × StaffGroup × List (Box × Element)) : Option Element :=
  (Box.hull? (shared.2.2.map Prod.fst)).map zoneFor

section

variable {systems : List StaffSystem} {systemZones : List Element} {parts : List (List Element)}

theorem zonesPaired {links : List (Link (Box × Element))}
    (filling : Filling boxes links staffZones systemZones parts) :
    staffZones.length = boxes.length := by
  have lengths := congrArg List.length filling.zonesOfBoxes
  rw [List.length_map, List.length_map] at lengths
  exact lengths

variable (matched : Link.totalStaves systems = boxes.length)
  (filling : Filling boxes (Link.deal systems (boxes.zip staffZones)) staffZones systemZones parts)
include matched filling

theorem shares : (Link.deal systems (boxes.zip staffZones)).map Link.view =
    (Link.sounding systems).map (Link.share systems (boxes.zip staffZones)) := by
  apply Link.dealtSlices
  exact Nat.le_of_eq (matched.trans (pairedLength (zonesPaired filling)).symm)

theorem systemZonesMade :
    systemZones.map (fun zone => some zone.unnamed) = (Link.sounding systems).map fun placed =>
      (Box.hull? (Link.slice boxes (Link.offset systems placed.2) placed.1.staves)).map zoneFor := by
  calc systemZones.map (fun zone => some zone.unnamed)
    _ = (systemZones.map Element.unnamed).map some := by rw [List.map_map]; rfl
    _ = ((Link.deal systems (boxes.zip staffZones)).map Link.view).map zoneAround := by
        rw [filling.zonesOfLinks, List.map_map, List.map_map]
        rfl
    _ = (Link.sounding systems).map fun placed =>
          zoneAround (Link.share systems (boxes.zip staffZones) placed) := by
        rw [shares matched filling, List.map_map]
        rfl
    _ = _ := by
        apply List.map_congr_left
        intro placed _
        rw [zoneAround, Link.share, Link.sliceMap, pairedBoxes (zonesPaired filling)]

theorem systemZonesLength : systemZones.length = (Link.sounding systems).length := by
  have lengths := congrArg List.length (systemZonesMade matched filling)
  rw [List.length_map, List.length_map] at lengths
  exact lengths

theorem entriesMade
    (numbered : ∀ system ∈ systems, system.group.numbers = List.range' 1 system.staves) :
    parts.flatten.map Element.unnamed =
      ((Link.sounding systems).zip systemZones).flatMap fun placed =>
        systemEntries (placed.1.2 + 1) placed.1.1.staves placed.2.label.id
          (Link.slice (idsOf staffZones) (Link.offset systems placed.1.2) placed.1.1.staves) := by
  calc parts.flatten.map Element.unnamed
    _ = (((Link.deal systems (boxes.zip staffZones)).map Link.view).zip systemZones).flatMap
          fun shared => partFor shared.1 shared.2 := by
        rw [List.map_flatten, filling.partsOfLinks, ← List.flatMap_def, List.zip_map_left,
          List.flatMap_map]
        rfl
    _ = ((Link.sounding systems).zip systemZones).flatMap fun placed =>
          partFor (Link.share systems (boxes.zip staffZones) placed.1) placed.2 := by
        rw [shares matched filling, List.zip_map_left, List.flatMap_map]
        rfl
    _ = _ := by
        apply List.flatMap_congr
        intro placed member
        have sounds := (List.of_mem_zip member).1
        have inside := List.fst_mem_of_mem_zipIdx (List.mem_filter.mp sounds).1
        exact partOfShare systems (zonesPaired filling) placed.2 (numbered placed.1.1 inside)

theorem soundingZones : ((Link.sounding systems).zip systemZones).map Prod.fst =
      Link.sounding systems ∧
    ((Link.sounding systems).zip systemZones).map Prod.snd = systemZones := by
  have length := systemZonesLength matched filling
  exact ⟨List.map_fst_zip (Nat.le_of_eq length.symm), List.map_snd_zip (Nat.le_of_eq length)⟩

theorem staffReferences
    (numbered : ∀ system ∈ systems, system.group.numbers = List.range' 1 system.staves) :
    Element.values "staff" "facs" parts.flatten = (idsOf staffZones).map some := by
  have total : Link.totalStaves systems = (idsOf staffZones).length := by
    rw [matched, idsOf, List.length_map, zonesPaired filling]
  rw [← Element.valuesUnnamed, entriesMade matched filling numbered, Element.valuesFlatMap]
  calc _
    _ = ((Link.sounding systems).zip systemZones).flatMap fun placed => List.map some
          (Link.slice (idsOf staffZones) (Link.offset systems placed.1.2) placed.1.1.staves) := by
        apply List.flatMap_congr
        intro placed member
        have bound := Link.soundingBound (List.of_mem_zip member).1
        exact entriesStaves (Link.sliceLength (total ▸ bound))
    _ = List.map some ((((Link.sounding systems).zip systemZones).map Prod.fst).flatMap
          fun placed =>
            Link.slice (idsOf staffZones) (Link.offset systems placed.2) placed.1.staves) := by
        rw [List.map_flatMap, List.flatMap_map]
    _ = (idsOf staffZones).map some := by
        rw [(soundingZones matched filling).1, Link.slicesWhole total]

theorem breakReferences
    (numbered : ∀ system ∈ systems, system.group.numbers = List.range' 1 system.staves) :
    Element.values "sb" "systemref" parts.flatten = (idsOf systemZones).map some := by
  rw [← Element.valuesUnnamed, entriesMade matched filling numbered, Element.valuesFlatMap]
  simp only [entriesBreak]
  calc _
    _ = (((Link.sounding systems).zip systemZones).map Prod.snd).map
          fun zone => some zone.label.id := by
        rw [List.map_map, List.map_eq_flatMap]
        rfl
    _ = (idsOf systemZones).map some := by
        rw [(soundingZones matched filling).2, idsOf, List.map_map]
        rfl

end

/- A page whose staves are linked. Places count from 0, positions and the numbers of staves from 1;
the offset of a place is the number of staves of all systems before it. -/
structure LinkedPage (systems : List StaffSystem) (boxes : List Box) (document : Document)
    (surface sect : Element) (staffZones systemZones : List Element) : Prop where
  surfaces : document.root.descendants "surface" = [surface]
  sections : document.root.descendants "section" = [sect]
  zones : surface.children.toList = staffZones ++ systemZones
  zonesOfBoxes : staffZones.map Element.unnamed = boxes.map zoneFor
  zonesOfSystems : systemZones.map (fun zone => some zone.unnamed) =
    (Link.sounding systems).map fun placed =>
      (Box.hull? (Link.slice boxes (Link.offset systems placed.2) placed.1.staves)).map zoneFor
  entries : sect.children.toList.map Element.unnamed =
    ((Link.sounding systems).zip systemZones).flatMap fun placed =>
      systemEntries (placed.1.2 + 1) placed.1.1.staves placed.2.label.id
        (Link.slice (idsOf staffZones) (Link.offset systems placed.1.2) placed.1.1.staves)
  inside : ∀ placed ∈ Link.sounding systems,
    Link.offset systems placed.2 + placed.1.staves ≤ boxes.length
  staffReferences : (document.root.descendants "staff").map (Element.attribute? "facs") =
    (idsOf staffZones).map some
  systemReferences : (document.root.descendants "sb").map (Element.attribute? "systemref") =
    (idsOf systemZones).map some

theorem distinctDescendants {root : Element} (distinct : (idsOf root.elements).Nodup)
    (name : String) : (idsOf (root.descendants name)).Nodup := by
  rw [Element.elements, idsOf, List.map_cons, List.nodup_cons] at distinct
  rw [Element.descendantsElements]
  exact (List.filter_sublist.map _).nodup distinct.2

theorem referredOnce {es : List Element} {key : String} {ids : List String}
    (references : es.map (Element.attribute? key) = ids.map some) (distinct : ids.Nodup) :
    ∀ id ∈ ids, es.countP (fun e => e.attribute? key = some id) = 1 := by
  intro id member
  have once : (ids.map some).count (some id) = 1 := by
    apply List.count_eq_one_of_mem
    · exact (List.nodup_map_iff fun _ _ => Option.some.inj).mpr distinct
    · exact List.mem_map_of_mem member
  rw [← references, List.count_eq_countP, List.countP_map] at once
  rw [← once]
  congr 1
  funext e
  rw [Bool.eq_iff_iff]
  simp

theorem draftLinked (title : Option String) {boxes : List Box} {systems : List StaffSystem}
    (largest : StaffGroup) (ids : IdSupply)
    (numbered : ∀ system ∈ systems, system.group.numbers = List.range' 1 system.staves)
    (matched : Link.totalStaves systems = boxes.length) :
    ∃ document left surface sect staffZones systemZones,
      (draft title boxes systems true largest).run ids = (document, left) ∧
      LinkedPage systems boxes document surface sect staffZones systemZones ∧
      (Function.Injective ids.name → (idsOf (staffZones ++ systemZones)).Nodup) := by
  obtain ⟨frame, staffZones, systemZones, parts, left, ran, drafted, filling, given⟩ :=
    draftFramed title boxes systems true largest ids
  rw [if_pos rfl] at filling
  have searches := filledSearches drafted filling.zonesPlain filling.entriesPlain
  refine ⟨_, left, _, _, staffZones, systemZones, ran,
    ⟨searches.surfaces, searches.sections, ?_, filling.zonesOfBoxes,
      systemZonesMade matched filling, ?_, ?_, ?_, ?_⟩, ?_⟩
  · rw [Element.addAllToList, childrenOfUnnamed drafted.surface]
    rfl
  · rw [Element.addAllToList, childrenOfUnnamed drafted.sect]
    exact entriesMade matched filling numbered
  · intro placed sounds
    rw [← matched]
    exact Link.soundingBound sounds
  · rw [searches.staves]
    exact staffReferences matched filling numbered
  · rw [searches.systemBreaks]
    exact breakReferences matched filling numbered
  · intro distinct
    rw [← searches.zones]
    apply distinctDescendants
    rw [given.next]
    exact IdSupply.namesDistinct distinct _

theorem pageLinked {hints : List SystemHint} {patterns : List SystemPattern} {boxes : List Box}
    {options : Options} (compiled : (SystemPattern.ofHints hints).result = .ok patterns)
    (matched : boxes.length = Link.totalStaves (StaffSystem.onPage patterns))
    (asked : options.linkStaves = true) (ids : IdSupply) :
    (StaffSystem.onPage patterns = [] →
      (ofHints hints boxes options ids).result = .error .noSystems) ∧
    (StaffSystem.onPage patterns ≠ [] →
      ∃ document left surface sect staffZones systemZones,
        (ofHints hints boxes options ids).result = .ok (document, left) ∧
        LinkedPage (StaffSystem.onPage patterns) boxes document surface sect staffZones
          systemZones ∧
        (Function.Injective ids.name →
          (∀ zone ∈ staffZones, (document.root.descendants "staff").countP
            (fun e => e.attribute? "facs" = some zone.label.id) = 1) ∧
          (∀ zone ∈ systemZones, (document.root.descendants "sb").countP
            (fun e => e.attribute? "systemref" = some zone.label.id) = 1))) := by
  constructor
  · intro none
    exact ofHintsNoSystem compiled none boxes options ids
  · intro present
    obtain ⟨largest, -, drafted⟩ := ofHintsDrafted compiled present boxes options ids
    rw [Link.wanted, asked, decide_eq_true matched.symm, Bool.and_self] at drafted
    obtain ⟨document, left, surface, sect, staffZones, systemZones, ran, page, distinctZones⟩ :=
      draftLinked options.title largest.group ids
        (StaffSystem.onPageNumbered (compiledOfHints compiled)) matched.symm
    rw [ran] at drafted
    refine ⟨document, left, surface, sect, staffZones, systemZones, drafted, page, ?_⟩
    intro distinct
    have zoneIds := distinctZones distinct
    rw [idsAppend, List.nodup_append] at zoneIds
    constructor
    · intro zone member
      exact referredOnce page.staffReferences zoneIds.1 _ (List.mem_map_of_mem member)
    · intro zone member
      exact referredOnce page.systemReferences zoneIds.2.1 _ (List.mem_map_of_mem member)

def unitBox : Box := ⟨.zero false, .zero false, .ofQuotient false 1 1, .ofQuotient false 1 1⟩

def silenceBetween : List SystemHint :=
  [⟨"(2)", .leaf 2 .nil, 1⟩, ⟨"()", .nil, 1⟩, ⟨"(1)", .leaf 1 .nil, 1⟩]

theorem pageLinkedAroundSilence :
    ∃ patterns document left surface sect staffZones systemZones,
      (ofHints silenceBetween [unitBox, unitBox, unitBox] { linkStaves := true } (.ofSeed 0)).result =
        .ok (document, left) ∧
      LinkedPage (StaffSystem.onPage patterns) [unitBox, unitBox, unitBox] document surface sect
        staffZones systemZones ∧
      (StaffSystem.onPage patterns).map StaffSystem.staves = [2, 0, 1] ∧
      ∀ zone ∈ staffZones, (document.root.descendants "staff").countP
        (fun e => e.attribute? "facs" = some zone.label.id) = 1 := by
  have compiled : (SystemPattern.ofHints silenceBetween).result =
      .ok [⟨.leaf 1 (.leaf 2 .nil), 1⟩, ⟨.nil, 1⟩, ⟨.leaf 1 .nil, 1⟩] := by rfl
  have matched : [unitBox, unitBox, unitBox].length = Link.totalStaves (StaffSystem.onPage
      [⟨.leaf 1 (.leaf 2 .nil), 1⟩, ⟨.nil, 1⟩, ⟨.leaf 1 .nil, 1⟩]) := rfl
  have asked : ({ linkStaves := true } : Options).linkStaves = true := rfl
  obtain ⟨document, left, surface, sect, staffZones, systemZones, made, page, once⟩ :=
    (pageLinked compiled matched asked (.ofSeed 0)).2 (by decide)
  exact ⟨_, document, left, surface, sect, staffZones, systemZones, made, page, rfl,
    (once (IdSupply.uuidDistinct 0)).1⟩

theorem noPageWithoutSystem :
    (SystemPattern.ofHints [⟨"(1)", .leaf 1 .nil, 0⟩]).result = .ok [⟨.leaf 1 .nil, 0⟩] ∧
      ([] : List Box).length = Link.totalStaves (StaffSystem.onPage [⟨.leaf 1 .nil, 0⟩]) ∧
      ¬∃ made, (ofHints [⟨"(1)", .leaf 1 .nil, 0⟩] [] { linkStaves := true } (.ofSeed 0)).result =
        .ok made := by
  have compiled : (SystemPattern.ofHints [⟨"(1)", .leaf 1 .nil, 0⟩]).result =
      .ok [⟨.leaf 1 .nil, 0⟩] := rfl
  refine ⟨compiled, rfl, ?_⟩
  intro ⟨made, result⟩
  rw [ofHintsNoSystem compiled rfl] at result
  contradiction

end Document
end ScorePage
