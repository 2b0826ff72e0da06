import ScorePage.Proofs.Document.Repeats
import ScorePage.Proofs.Document.Unlinked

/-! Links as an addition. With links a document has more zones and entries than without, and is the same
otherwise; where the boxes are too many or too few there is a warning, and nothing is added. -/
namespace ScorePage
open Draft

namespace Forest

def take : Nat → Forest → Forest
  | 0, _ => .nil
  | _, .nil => .nil
  | count + 1, .cons label children rest => .cons label children (rest.take count)

/- Nothing in a section, and of each surface only the first zones. -/
def withoutLinks (zones : Nat) : Forest → Forest
  | .nil => .nil
  | .cons label children rest =>
      .cons label
        (if label.name = "section" then .nil
          else if label.name = "surface" then children.take zones
          else children.withoutLinks zones)
        (rest.withoutLinks zones)

theorem takeOfList (es others : List Element) :
    (ofList (es ++ others)).take es.length = ofList es := by
  induction es with
  | nil => cases others <;> rfl
  | cons e es ih => exact congrArg (cons e.label e.children) ih

theorem withoutLinksSame (zones : Nat) {forest : Forest}
    (others : ∀ e ∈ forest.elements, e.label.name ≠ "section" ∧ e.label.name ≠ "surface") :
    forest.withoutLinks zones = forest := by
  induction forest with
  | nil => rfl
  | cons label children rest childrenIh restIh =>
    obtain ⟨here, others⟩ := List.forall_mem_cons.mp others
    obtain ⟨inner, outer⟩ := List.forall_mem_append.mp others
    rw [withoutLinks, if_neg here.1, if_neg here.2, childrenIh inner, restIh outer]

end Forest

theorem SystemPattern.ofHintQuiet (hint : SystemHint) : (ofHint hint).warnings = [] := by
  unfold ofHint
  split <;> rfl

theorem StaffSystem.largestQuiet (systems : List StaffSystem) : (largest systems).warnings = [] :=
  largestReported (fun _ _ => rfl) systems

theorem Link.possibleWarnings (systems : List StaffSystem) (boxes : Nat) :
    (possible systems boxes).warnings =
      if totalStaves systems = boxes then [] else [.boxesUnmatched boxes (totalStaves systems)] := by
  unfold possible
  split
  · rw [Outcome.warnings, List.filter_eq_nil_iff]
    intro event member
    obtain ⟨position, _, rfl⟩ := List.mem_map.mp member
    simp [Event.level]
  · rfl

namespace Document

def withoutLinks (zones : Nat) (document : Document) : Document :=
  ⟨document.root.label, document.root.children.withoutLinks zones⟩

namespace Frame

variable {frame : Frame} {title : Option String} {largest : StaffGroup}

theorem keptOfNamed {names : List String} {e : Element} (named : Named names e.elements)
    (others : "section" ∉ names ∧ "surface" ∉ names) (zones : Nat) :
    e.label.name ≠ "section" ∧ e.label.name ≠ "surface" ∧
      e.children.withoutLinks zones = e.children := by
  have apart : ∀ d ∈ e.elements, d.label.name ≠ "section" ∧ d.label.name ≠ "surface" := by
    intro d member
    exact ⟨fun same => others.1 (same ▸ named d member), fun same => others.2 (same ▸ named d member)⟩
  obtain ⟨here, inside⟩ := List.forall_mem_cons.mp apart
  exact ⟨here.1, here.2, Forest.withoutLinksSame zones inside⟩

theorem documentWithoutLinks (drafted : frame.Drafted title largest)
    (zones others entries : List Element) :
    (frame.document (zones ++ others) entries).withoutLinks zones.length =
      frame.document zones [] := by
  obtain ⟨headIds, headDrafted⟩ := drafted.head
  obtain ⟨groupIds, groupDrafted⟩ := drafted.definition
  have head := keptOfNamed (headDrafted ▸ headNamed title headIds) (by decide) zones.length
  have definition := keptOfNamed (groupDrafted ▸ staffGroupNamed largest groupIds) (by decide)
    zones.length
  have music : frame.music.label.name = "music" := nameOfUnnamed drafted.music
  have facsimile : frame.facsimile.label.name = "facsimile" := nameOfUnnamed drafted.facsimile
  have surface : frame.surface.label.name = "surface" := nameOfUnnamed drafted.surface
  have body : frame.body.label.name = "body" := nameOfUnnamed drafted.body
  have mdiv : frame.mdiv.label.name = "mdiv" := nameOfUnnamed drafted.mdiv
  have score : frame.score.label.name = "score" := nameOfUnnamed drafted.score
  have scoreDef : frame.scoreDef.label.name = "scoreDef" := nameOfUnnamed drafted.scoreDef
  have sect : frame.sect.label.name = "section" := nameOfUnnamed drafted.sect
  simp only [document, Document.withoutLinks, image, notes, Element.add, Element.addAll,
    childrenOfUnnamed drafted.root, childrenOfUnnamed drafted.music,
    childrenOfUnnamed drafted.facsimile, childrenOfUnnamed drafted.surface,
    childrenOfUnnamed drafted.body, childrenOfUnnamed drafted.mdiv,
    childrenOfUnnamed drafted.score, childrenOfUnnamed drafted.scoreDef,
    childrenOfUnnamed drafted.sect, Forest.append, Element.setAttribute, bare]
  simp [Forest.withoutLinks, music, facsimile, surface, body, mdiv, score, scoreDef, sect, head,
    definition, Forest.takeOfList, Forest.ofList]

theorem idsWithoutLinks (drafted : frame.Drafted title largest)
    (zones others entries : List Element) :
    (idsOf (frame.document zones []).root.elements).Sublist
      (idsOf (frame.document (zones ++ others) entries).root.elements) := by
  rw [documentIds drafted, documentIds drafted, List.flatMap_append, idsAppend, List.append_assoc,
    List.flatMap_nil]
  refine .cons_cons _ (.append_left (.cons_cons _ (.cons_cons _ (.cons_cons _ ?_))) _)
  refine .append_left (.trans ?_ (List.sublist_append_right _ _)) _
  refine .cons_cons _ (.cons_cons _ (.cons_cons _ (.cons_cons _ (.append_left ?_ _))))
  exact .cons_cons _ (List.nil_sublist _)

end Frame

theorem draftWithoutLinks (title : Option String) (boxes : List Box) (systems : List StaffSystem)
    (linked : Bool) (largest : StaffGroup) {ids supply : IdSupply}
    (distinct : Function.Injective ids.name) (otherDistinct : Function.Injective supply.name) :
    (((draft title boxes systems linked largest).run ids).1.withoutLinks boxes.length).renamed =
      ((draft title boxes systems false largest).run supply).1.renamed := by
  obtain ⟨frame, staffZones, systemZones, parts, left, ran, drafted, filling, given⟩ :=
    draftFramed title boxes systems linked largest ids
  obtain ⟨other, zones, rest, otherRan, otherDrafted, otherZones, otherGiven⟩ :=
    draftUnlinked title boxes systems largest supply
  have complete : staffZones.length = boxes.length := zonesPaired filling
  have nodup : (idsOf (frame.document (staffZones ++ systemZones)
      parts.flatten).root.elements).Nodup := by
    rw [given.next]
    exact IdSupply.namesDistinct distinct _
  have otherNodup : (idsOf (other.document zones []).root.elements).Nodup := by
    rw [otherGiven.next]
    exact IdSupply.namesDistinct otherDistinct _
  rw [ran, otherRan, ← complete, Frame.documentWithoutLinks drafted]
  apply renamedOfShape
  · exact (Frame.idsWithoutLinks drafted staffZones systemZones parts.flatten).nodup nodup
  · exact otherNodup
  · exact Frame.elementsUnlinked drafted filling.zonesOfBoxes
  · exact Frame.elementsUnlinked otherDrafted otherZones
  · rw [Frame.documentShape drafted filling.zonesOfBoxes,
      Frame.documentShape otherDrafted otherZones]

theorem ofHintsWarnings {hints : List SystemHint} {patterns : List SystemPattern}
    (compiled : (SystemPattern.ofHints hints).result = .ok patterns)
    (present : StaffSystem.onPage patterns ≠ []) (boxes : List Box) (options : Options)
    (ids : IdSupply) : (ofHints hints boxes options ids).warnings =
      if options.linkStaves then (Link.possible (StaffSystem.onPage patterns) boxes.length).warnings
      else [] := by
  obtain ⟨largest, found⟩ := StaffSystem.largestSome present
  have patternsQuiet : (SystemPattern.ofHints hints).warnings = [] :=
    Outcome.mapMQuiet SystemPattern.ofHintQuiet hints
  rw [ofHints, Outcome.bindWarnings compiled, patternsQuiet, Outcome.bindWarnings found,
    StaffSystem.largestQuiet, Outcome.bindWarnings rfl]
  cases options.linkStaves with
  | false => rfl
  | true =>
    dsimp only
    rw [if_pos rfl, Outcome.bindWarnings (Link.possibleResult _ _), if_pos rfl]
    exact List.append_nil _

theorem linkingAdds {hints : List SystemHint} {patterns : List SystemPattern}
    (compiled : (SystemPattern.ofHints hints).result = .ok patterns)
    (present : StaffSystem.onPage patterns ≠ []) (boxes : List Box) (options : Options)
    {ids supply : IdSupply} (distinct : Function.Injective ids.name)
    (otherDistinct : Function.Injective supply.name) :
    ∃ linked left unlinked rest sect,
      (ofHints hints boxes { options with linkStaves := true } ids).result = .ok (linked, left) ∧
      (ofHints hints boxes { options with linkStaves := false } supply).result =
        .ok (unlinked, rest) ∧
      (linked.withoutLinks boxes.length).renamed = unlinked.renamed ∧
      unlinked.root.descendants "section" = [sect] ∧ sect.children = .nil ∧
      (∀ e ∈ unlinked.root.elements, ∀ key ∈ referenceKeys, e.attribute? key = none) ∧
      (Link.totalStaves (StaffSystem.onPage patterns) ≠ boxes.length →
        linked.renamed = unlinked.renamed ∧
        (ofHints hints boxes { options with linkStaves := true } ids).warnings.map Event.message =
          ["staff file has " ++ toString boxes.length ++ " bounding boxes but the systems contain " ++
            toString (Link.totalStaves (StaffSystem.onPage patterns)) ++ " staves; " ++
            "not linking staves to zones"]) ∧
      (Link.totalStaves (StaffSystem.onPage patterns) = boxes.length →
        (ofHints hints boxes { options with linkStaves := true } ids).warnings = []) ∧
      (ofHints hints boxes { options with linkStaves := false } supply).warnings = [] := by
  obtain ⟨largest, found, made⟩ :=
    ofHintsDrafted compiled present boxes { options with linkStaves := true } ids
  obtain ⟨same, foundAgain, otherMade⟩ :=
    ofHintsDrafted compiled present boxes { options with linkStaves := false } supply
  cases found.symm.trans foundAgain
  have warned := ofHintsWarnings compiled present boxes { options with linkStaves := true } ids
  have quiet := ofHintsWarnings compiled present boxes { options with linkStaves := false } supply
  rw [if_pos rfl, Link.possibleWarnings] at warned
  simp only [Link.wanted, Bool.true_and, Bool.false_and] at made otherMade
  generalize StaffSystem.onPage patterns = systems at *
  obtain ⟨frame, zones, rest, ran, drafted, zonesOfBoxes, -⟩ :=
    draftUnlinked options.title boxes systems largest.group supply
  have searches := filledSearches drafted (plainZones zonesOfBoxes) (List.forall_mem_nil _)
  rcases linkedRan : (draft options.title boxes systems
    (decide (Link.totalStaves systems = boxes.length)) largest.group).run ids with ⟨linked, left⟩
  have added := draftWithoutLinks options.title boxes systems
    (decide (Link.totalStaves systems = boxes.length)) largest.group distinct otherDistinct
  rw [ran, linkedRan] at added
  rw [linkedRan] at made
  rw [ran] at otherMade
  refine ⟨linked, left, _, rest, _, made, otherMade, added, searches.sections, ?_, ?_, ?_, ?_, quiet⟩
  · simp [Element.addAll, childrenOfUnnamed drafted.sect, bare, Forest.ofList, Forest.append]
  · intro e member key reference
    exact (Frame.elementsUnlinked drafted zonesOfBoxes e member).noReference reference
  · intro unmatched
    have plain := draftRenamed options.title boxes systems false largest.group distinct
    have otherPlain := draftRenamed options.title boxes systems false largest.group otherDistinct
    rw [decide_eq_false unmatched] at linkedRan
    rw [linkedRan] at plain
    rw [ran] at otherPlain
    refine ⟨plain.trans otherPlain.symm, ?_⟩
    rw [warned, if_neg unmatched]
    rfl
  · intro matched
    rw [warned, if_pos matched]

theorem linkingAddsAroundSilence :
    (∃ linked left unlinked rest,
      (ofHints silenceBetween [unitBox, unitBox, unitBox] { title := some "I", linkStaves := true }
        (.ofSeed 0)).result = .ok (linked, left) ∧
      (ofHints silenceBetween [unitBox, unitBox, unitBox] { title := some "I" }
        (.ofSeed 1)).result = .ok (unlinked, rest) ∧
      (linked.withoutLinks 3).renamed = unlinked.renamed ∧
      (ofHints silenceBetween [unitBox, unitBox, unitBox] { title := some "I", linkStaves := true }
        (.ofSeed 0)).warnings = []) ∧
    ∃ linked left unlinked rest,
      (ofHints silenceBetween [unitBox, unitBox] { linkStaves := true } (.ofSeed 0)).result =
        .ok (linked, left) ∧
      (ofHints silenceBetween [unitBox, unitBox] {} (.ofSeed 1)).result = .ok (unlinked, rest) ∧
      linked.renamed = unlinked.renamed ∧
      (ofHints silenceBetween [unitBox, unitBox] { linkStaves := true }
        (.ofSeed 0)).warnings.map Event.message =
          ["staff file has 2 bounding boxes but the systems contain 3 staves; " ++
            "not linking staves to zones"] := by
  have compiled : (SystemPattern.ofHints silenceBetween).result =
      .ok [⟨.leaf 1 (.leaf 2 .nil), 1⟩, ⟨.nil, 1⟩, ⟨.leaf 1 .nil, 1⟩] := rfl
  have distinct (seed : Nat) : Function.Injective (IdSupply.ofSeed seed).name :=
    IdSupply.uuidDistinct seed
  constructor
  · obtain ⟨linked, left, unlinked, rest, sect, made, otherMade, added, -, -, -, -, quiet, -⟩ :=
      linkingAdds compiled (by decide) [unitBox, unitBox, unitBox] { title := some "I" }
        (distinct 0) (distinct 1)
    exact ⟨linked, left, unlinked, rest, made, otherMade, added, quiet rfl⟩
  · obtain ⟨linked, left, unlinked, rest, sect, made, otherMade, -, -, -, -, unmatched, -, -⟩ :=
      linkingAdds compiled (by decide) [unitBox, unitBox] {} (distinct 0) (distinct 1)
    obtain ⟨same, warned⟩ := unmatched (by decide)
    exact ⟨linked, left, unlinked, rest, made, otherMade, same, warned⟩

end Document
end ScorePage
