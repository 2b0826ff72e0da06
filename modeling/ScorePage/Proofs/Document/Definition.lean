import ScorePage.Proofs.Document.References

/-! The score definition. It declares the staves of the largest system, numbered from 1 in document
order, and so every staff that a system of the page can have. -/
namespace ScorePage

namespace Document
open Draft

theorem numberTextDistinct : Function.Injective (toString : Nat → String) := by
  intro m n same
  have read := numberTextRead m
  rw [same, numberTextRead] at read
  exact (Option.some.inj read).symm

namespace Frame

variable {frame : Frame} {title : Option String} {largest : StaffGroup}

theorem definitionStaffDefs (drafted : frame.Drafted title largest) :
    frame.filledScoreDef.descendants "staffDef" =
        frame.definition.elements.filter (fun e => e.label.name = "staffDef") ∧
      (frame.filledScoreDef.descendants "staffDef").map (Element.attribute? "n") =
        largest.numbers.map fun number => some (toString number) := by
  obtain ⟨ids, made⟩ := drafted.definition
  have inside : frame.filledScoreDef.descendants "staffDef" =
      frame.definition.elements.filter fun e => e.label.name = "staffDef" := by
    rw [Element.descendantsElements, filledScoreDef, Element.addElements,
      childrenOfUnnamed drafted.scoreDef]
    rfl
  have group : frame.definition.label.name = "staffGrp" := by
    rw [made]
    rfl
  refine ⟨inside, ?_⟩
  rw [inside, Element.elements, List.filter_cons_of_neg (by simp [group]), ← Forest.namedElements,
    made]
  exact staffItemsNumbers largest (ids.after 1)

theorem documentDefinition (drafted : frame.Drafted title largest) {zones entries : List Element}
    (zonesPlain : ∀ zone ∈ zones, Plain ["zone"] zone)
    (entriesPlain : ∀ entry ∈ entries, Plain ["sb", "staff"] entry) :
    (frame.document zones entries).root.descendants "scoreDef" = [frame.filledScoreDef] ∧
      (frame.document zones entries).root.descendants "staffDef" =
        frame.filledScoreDef.descendants "staffDef" := by
  have search (name : String) := documentNamed drafted
    (fun zone member => (zonesPlain zone member).childless)
    (fun entry member => (entriesPlain entry member).childless) name
  obtain ⟨headIds, headDrafted⟩ := drafted.head
  obtain ⟨groupIds, groupDrafted⟩ := drafted.definition
  have headNames := headDrafted ▸ headNamed title headIds
  have groupNames := groupDrafted ▸ staffGroupNamed largest groupIds
  constructor
  · rw [search, namedNowhere headNames (by decide), namedNowhere groupNames (by decide),
      plainNowhere zonesPlain (by decide), plainNowhere entriesPlain (by decide)]
    rfl
  · rw [search, namedNowhere headNames (by decide), plainNowhere zonesPlain (by decide),
      plainNowhere entriesPlain (by decide), (definitionStaffDefs drafted).1]
    simp

end Frame

theorem declaredOnce {definitions : List Element} {most number : Nat}
    (numbers : definitions.map (Element.attribute? "n") =
      (List.range' 1 most).map fun number => some (toString number))
    (within : number ∈ List.range' 1 most) :
    definitions.countP (fun e => e.attribute? "n" = some (toString number)) = 1 := by
  have declared : definitions.map (Element.attribute? "n") =
      ((List.range' 1 most).map toString).map some := by
    rw [numbers, List.map_map]
    rfl
  have distinct : ((List.range' 1 most).map (toString : Nat → String)).Nodup :=
    (List.nodup_map_iff numberTextDistinct).mpr List.nodup_range'
  exact referredOnce declared distinct _ (List.mem_map_of_mem within)

theorem definitionCoversPage {hints : List SystemHint} {patterns : List SystemPattern}
    (compiled : (SystemPattern.ofHints hints).result = .ok patterns)
    (present : StaffSystem.onPage patterns ≠ []) (boxes : List Box) (options : Options)
    (ids : IdSupply) :
    ∃ document left scoreDef sect most,
      (ofHints hints boxes options ids).result = .ok (document, left) ∧
      document.root.descendants "scoreDef" = [scoreDef] ∧
      document.root.descendants "section" = [sect] ∧
      ((StaffSystem.onPage patterns).map StaffSystem.staves).max? = some most ∧
      (scoreDef.descendants "staffDef").map (Element.attribute? "n") =
        (List.range' 1 most).map (fun number => some (toString number)) ∧
      ∀ staff ∈ sect.descendants "staff", ∃ n, staff.attribute? "n" = some n ∧
        (document.root.descendants "staffDef").countP (fun e => e.attribute? "n" = some n) = 1 := by
  obtain ⟨largest, found, drawn⟩ := ofHintsDrafted compiled present boxes options ids
  obtain ⟨frame, staffZones, systemZones, parts, left, ran, drafted, filling, -⟩ :=
    draftFramed options.title boxes (StaffSystem.onPage patterns)
      (Link.wanted options (StaffSystem.onPage patterns) boxes.length) largest.group ids
  have numbered := StaffSystem.onPageNumbered (compiledOfHints compiled)
  have most := StaffSystem.largestMost found
  obtain ⟨listed, largestOfAll⟩ := List.max?_eq_some_iff.mp most
  obtain ⟨before, after, split, -, -⟩ := StaffSystem.largestFirst found
  have searches := filledSearches drafted filling.zonesPlain filling.entriesPlain
  obtain ⟨scoreDefs, staffDefs⟩ :=
    Frame.documentDefinition drafted filling.zonesPlain filling.entriesPlain
  obtain ⟨-, numbers⟩ := Frame.definitionStaffDefs drafted
  rw [numbered largest (by simp [split])] at numbers
  refine ⟨_, left, _, _, _, drawn.trans (congrArg _ ran), scoreDefs, searches.sections, most,
    numbers, ?_⟩
  intro staff member
  rw [Element.descendantsElements, Element.addAllElements, childrenOfUnnamed drafted.sect,
    Element.childlessElements fun entry inside => (filling.entriesPlain entry inside).childless]
    at member
  obtain ⟨entry, named⟩ := List.mem_filter.mp member
  obtain ⟨system, placed, number, counted, zone, -, shape⟩ :=
    staffSource filling entry (of_decide_eq_true named)
  refine ⟨toString number, congrArg (Element.attribute? "n") shape, ?_⟩
  rw [staffDefs]
  refine declaredOnce numbers ?_
  have few := largestOfAll _ (List.mem_map_of_mem placed)
  rw [numbered system placed] at counted
  simp only [List.mem_range'_1] at counted ⊢
  omega

theorem definitionCoversSilence :
    ∃ document left scoreDef sect, silenceMade = .ok (document, left) ∧
      document.root.descendants "scoreDef" = [scoreDef] ∧
      document.root.descendants "section" = [sect] ∧
      (scoreDef.descendants "staffDef").map (Element.attribute? "n") = [some "1", some "2"] ∧
      (sect.descendants "staff").length = 3 ∧
      ∀ staff ∈ sect.descendants "staff", ∃ n, staff.attribute? "n" = some n ∧
        (document.root.descendants "staffDef").countP (fun e => e.attribute? "n" = some n) = 1 := by
  have compiled : (SystemPattern.ofHints silenceBetween).result =
      .ok [⟨.leaf 1 (.leaf 2 .nil), 1⟩, ⟨.nil, 1⟩, ⟨.leaf 1 .nil, 1⟩] := rfl
  obtain ⟨document, left, scoreDef, sect, most, made, scoreDefs, sections, greatest, numbers, once⟩ :=
    definitionCoversPage compiled (by decide) [unitBox, unitBox, unitBox] { linkStaves := true }
      (.ofSeed 0)
  obtain ⟨page, rest, same, -, -, staves⟩ := silenceLinked
  cases made.symm.trans same
  cases greatest
  rw [sections] at staves
  exact ⟨document, left, scoreDef, sect, made, scoreDefs, sections, numbers,
    (List.cons.inj staves).1, once⟩

end Document
end ScorePage
