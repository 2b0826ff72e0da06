import ScorePage.Proofs.Document.Definition
import ScorePage.Proofs.Document.Unlinked
import ScorePage.Proofs.Largest
import ScorePage.Proofs.Xml.Lossless

/-! Documents without links by their score definition. The staff group of the first largest pattern
can be read off the text of such a document, and the document depends on nothing else in the hint. -/
namespace ScorePage
open Draft

namespace Forest

theorem staffGroupShown (forest : Forest) : forest.shown.staffGroup = forest.staffGroup := by
  induction forest with
  | nil => rfl
  | cons label children rest childrenIh restIh =>
    rw [shown, staffGroup, staffGroup, childrenIh, restIh]
    rfl

theorem namedShown (name : String) (forest : Forest) :
    forest.shown.named name =
      (forest.named name).map fun e => ⟨e.label.shown e.children, e.children.shown⟩ := by
  induction forest with
  | nil => rfl
  | cons label children rest childrenIh restIh =>
    have same : (label.shown children).name = label.name := rfl
    rw [shown, named, named, same, childrenIh, restIh, ← List.map_append]
    split <;> rfl

end Forest

theorem Element.Unlinked.legible {e : Element} (unlinked : e.Unlinked) (indent : Nat) :
    e.Legible indent := by
  constructor
  · exact ⟨unlinked.name, fun pair member => (unlinked.keys _ (List.mem_map_of_mem member)).1⟩
  · rcases unlinked.text with silent | childless
    · exact .inr (.inl (by rw [silent]; rfl))
    · exact .inr (.inr childless)

namespace Document

def declared (document : Document) : List StaffGroup :=
  (document.root.descendants "scoreDef").map fun e => e.children.staffGroup

theorem declaredShown (document : Document) : document.shown.declared = document.declared := by
  rw [declared, declared, shown, Element.descendants, Element.descendants, Forest.namedShown,
    List.map_map]
  simp only [Function.comp_def, Forest.staffGroupShown]

theorem Frame.definitionRead {frame : Frame} {title : Option String} {largest : StaffGroup}
    (drafted : frame.Drafted title largest) :
    frame.filledScoreDef.children.staffGroup = .nested largest .nil := by
  obtain ⟨ids, made⟩ := drafted.definition
  have group : frame.definition.label.name ≠ "staffDef" := by
    rw [made]
    exact (by decide : "staffGrp" ≠ "staffDef")
  have items : frame.definition.children.staffGroup = largest := by
    rw [made]
    exact staffItemsRead largest (ids.after 1)
  rw [filledScoreDef, Element.add, childrenOfUnnamed drafted.scoreDef]
  change (Forest.cons frame.definition.label frame.definition.children .nil).staffGroup = _
  rw [Forest.staffGroup, if_neg group, items]
  rfl

theorem draftDeclares (title : Option String) (boxes : List Box) (systems : List StaffSystem)
    (largest : StaffGroup) (ids : IdSupply) :
    ((draft title boxes systems false largest).run ids).1.declared = [.nested largest .nil] := by
  obtain ⟨frame, zones, left, ran, drafted, zonesOfBoxes, -⟩ :=
    draftUnlinked title boxes systems largest ids
  obtain ⟨scoreDefs, -⟩ :=
    Frame.documentDefinition drafted (plainZones zonesOfBoxes) (List.forall_mem_nil _)
  rw [ran, declared, scoreDefs, List.map_singleton, Frame.definitionRead drafted]

theorem draftLegible (title : Option String) (boxes : List Box) (systems : List StaffSystem)
    (largest : StaffGroup) (ids : IdSupply) (indent : Nat) :
    ∀ e ∈ ((draft title boxes systems false largest).run ids).1.root.elements,
      e.Legible indent := by
  obtain ⟨frame, zones, left, ran, drafted, zonesOfBoxes, -⟩ :=
    draftUnlinked title boxes systems largest ids
  rw [ran]
  exact fun e member => (Frame.elementsUnlinked drafted zonesOfBoxes e member).legible indent

theorem draftSameText (title : Option String) (boxes : List Box) (systems others : List StaffSystem)
    (largest otherLargest : StaffGroup) (indent : Nat) (ids : IdSupply) :
    Xml.text ((draft title boxes systems false largest).run ids).1 indent =
        Xml.text ((draft title boxes others false otherLargest).run ids).1 indent ↔
      largest = otherLargest := by
  constructor
  · intro same
    have read := Xml.documentCut (draftLegible title boxes systems largest ids indent)
      (draftLegible title boxes others otherLargest ids indent) same
    have groups := congrArg declared read
    rw [declaredShown, declaredShown, draftDeclares, draftDeclares] at groups
    cases groups
    rfl
  · rintro rfl
    rfl

end Document

theorem largestOfHint {hints : List SystemHint} {patterns : List SystemPattern}
    (compiled : (SystemPattern.ofHints hints).result = .ok patterns) {top : SystemHint}
    (first : FirstMost (fun hint => hint.layout.staves) top hints) (some : 1 ≤ top.repeats)
    {largest : StaffSystem}
    (found : (StaffSystem.largest (StaffSystem.onPage patterns)).result = .ok largest) :
    (SystemPattern.ofHint top).result = .ok ⟨largest.group, top.repeats⟩ := by
  have staves (hint : SystemHint) (pattern : SystemPattern)
      (made : (SystemPattern.ofHint hint).result = .ok pattern) :
      hint.layout.staves = (StaffGroup.staves ∘ SystemPattern.group) pattern := by
    rw [Function.comp_apply, StaffGroup.staves, (compiledOfHint made).numbers, List.length_range']
  obtain ⟨pattern, made, firstPattern⟩ := first.related (patternsPaired compiled) staves
  have same := (compiledOfHint made).repeats
  have expected : FirstMost StaffGroup.staves pattern.group
      ((StaffSystem.onPage patterns).map StaffSystem.group) := by
    rw [StaffSystem.onPageGroups]
    exact firstPattern.repeated (same ▸ some)
  obtain ⟨before, after, split, below, above⟩ := StaffSystem.largestFirst found
  have selected : FirstMost StaffGroup.staves largest.group
      ((StaffSystem.onPage patterns).map StaffSystem.group) := by
    rw [split]
    exact (FirstMost.prepend below (.here above)).map
  rw [made, selected.unique expected, ← same]

/- Layouts with some put in that change nothing: smaller ones before the first largest, and no larger
ones behind it. How many systems have a layout is not told, so that their number may change as well. -/
inductive Inessential (layouts : List Layout) : List Layout → Prop
  | none : Inessential layouts layouts
  | before {front back behind : List Layout} {top small : Layout}
      (rest : Inessential layouts (front ++ back ++ top :: behind))
      (smaller : ∀ layout ∈ front ++ back, layout.staves < top.staves)
      (most : ∀ layout ∈ behind, layout.staves ≤ top.staves) (added : small.staves < top.staves) :
      Inessential layouts (front ++ small :: back ++ top :: behind)
  | behind {front back behind : List Layout} {top other : Layout}
      (rest : Inessential layouts (front ++ top :: (back ++ behind)))
      (smaller : ∀ layout ∈ front, layout.staves < top.staves)
      (most : ∀ layout ∈ back ++ behind, layout.staves ≤ top.staves)
      (added : other.staves ≤ top.staves) :
      Inessential layouts (front ++ top :: (back ++ other :: behind))

theorem Inessential.first {layouts others : List Layout} (inessential : Inessential layouts others)
    {top : Layout} (first : FirstMost Layout.staves top layouts) :
    FirstMost Layout.staves top others := by
  have inserted {p : Layout → Prop} {front behind : List Layout} {layout : Layout}
      (others : ∀ other ∈ front ++ behind, p other) (here : p layout) :
      ∀ other ∈ front ++ layout :: behind, p other := by
    obtain ⟨inFront, inBehind⟩ := List.forall_mem_append.mp others
    exact List.forall_mem_append.mpr ⟨inFront, List.forall_mem_cons.mpr ⟨here, inBehind⟩⟩
  induction inessential with
  | none => exact first
  | before rest smaller most added ih =>
    cases ih.unique (.prepend smaller (.here most))
    exact .prepend (inserted smaller added) (.here most)
  | behind rest smaller most added ih =>
    cases ih.unique (.prepend smaller (.here most))
    exact .prepend smaller (.here (inserted most added))

namespace Document

theorem ofHintUnlinked {text : String} {hints : List SystemHint}
    (read : SystemHint.allOfText text = .ok hints) (some : Text.isBlankText text.toList = false)
    (boxes : List Box) (title : Option String) (indent : Nat) (ids : IdSupply) :
    ∃ top pattern systems,
      hints.argmax (fun hint => hint.layout.staves) = Option.some top ∧
      FirstMost Layout.staves top.layout (hints.map SystemHint.layout) ∧
      (SystemPattern.ofHint top).result = .ok pattern ∧
      (ofHint text boxes ⟨title, indent, false⟩ ids).result =
        .ok ((draft title boxes systems false pattern.group).run ids) := by
  have present : hints ≠ [] := by
    rintro rfl
    rw [readNothing.mp read] at some
    contradiction
  obtain ⟨top, greatest⟩ := Option.ne_none_iff_exists'.mp
    (mt (List.argmax_eq_none (f := fun hint : SystemHint => hint.layout.staves)).mp present)
  obtain ⟨patterns, compiled, limited⟩ := limitedPatterns read
  obtain ⟨largest, found, made⟩ := ofHintsDrafted compiled
    (mt (systemsOfLimited limited).mp present) boxes ⟨title, indent, false⟩ ids
  have first : FirstMost (Layout.staves ∘ SystemHint.layout) top hints := .ofArgmax greatest
  have repeats : 1 ≤ top.repeats := (Hint.writtenOfRead read top first.mem).2.systems.1
  exact ⟨top, _, _, greatest, first.map, largestOfHint compiled first repeats found,
    (ofHintOnward read _ _ _).trans made⟩

theorem unlinkedByLargest {text other : String} {hints others : List SystemHint}
    (read : SystemHint.allOfText text = .ok hints)
    (otherRead : SystemHint.allOfText other = .ok others)
    (some : Text.isBlankText text.toList = false)
    (otherSome : Text.isBlankText other.toList = false) (boxes : List Box)
    (title : Option String) (indent : Nat) {ids supply : IdSupply}
    (distinct : Function.Injective ids.name) (otherDistinct : Function.Injective supply.name) :
    ∃ first left second rest top pattern otherTop otherPattern,
      (ofHint text boxes ⟨title, indent, false⟩ ids).result = .ok (first, left) ∧
      (ofHint other boxes ⟨title, indent, false⟩ supply).result = .ok (second, rest) ∧
      hints.argmax (fun hint => hint.layout.staves) = Option.some top ∧
      (SystemPattern.ofHint top).result = .ok pattern ∧
      others.argmax (fun hint => hint.layout.staves) = Option.some otherTop ∧
      (SystemPattern.ofHint otherTop).result = .ok otherPattern ∧
      (Xml.text first.renamed indent = Xml.text second.renamed indent ↔
        pattern.group = otherPattern.group) ∧
      (Inessential (hints.map SystemHint.layout) (others.map SystemHint.layout) →
        Xml.text first.renamed indent = Xml.text second.renamed indent) := by
  obtain ⟨top, pattern, systems, greatest, first, compiled, made⟩ :=
    ofHintUnlinked read some boxes title indent ids
  obtain ⟨otherTop, otherPattern, otherSystems, otherGreatest, otherFirst, otherCompiled, otherMade⟩ :=
    ofHintUnlinked otherRead otherSome boxes title indent supply
  have texts := draftSameText title boxes systems otherSystems pattern.group otherPattern.group
    indent ⟨plainId, 0⟩
  rw [← draftRenamed title boxes systems false pattern.group distinct,
    ← draftRenamed title boxes otherSystems false otherPattern.group otherDistinct] at texts
  refine ⟨_, _, _, _, top, pattern, otherTop, otherPattern, made, otherMade, greatest, compiled,
    otherGreatest, otherCompiled, texts, fun inessential => texts.mpr ?_⟩
  obtain ⟨⟨last, numbered⟩, -⟩ := patternNumbered compiled
  obtain ⟨⟨otherLast, otherNumbered⟩, -⟩ := patternNumbered otherCompiled
  rw [(inessential.first first).unique otherFirst, otherNumbered] at numbered
  exact (Prod.mk.inj (Option.some.inj numbered)).1.symm

theorem unlinkedByLargestInTies :
    (∃ first left second rest,
      (ofHint "(2) ((1) 1)" [unitBox] ⟨none, 2, false⟩ (.ofSeed 0)).result = .ok (first, left) ∧
      (ofHint "((1) 1) (2)" [unitBox] ⟨none, 2, false⟩ (.ofSeed 1)).result = .ok (second, rest) ∧
      Xml.text first.renamed 2 ≠ Xml.text second.renamed 2) ∧
    ∃ first left second rest,
      (ofHint "(2) ((1) 1)" [unitBox] ⟨none, 2, false⟩ (.ofSeed 0)).result = .ok (first, left) ∧
      (ofHint "(1)x7 (2)x3 ((1) 1)" [unitBox] ⟨none, 2, false⟩ (.ofSeed 1)).result =
        .ok (second, rest) ∧
      Xml.text first.renamed 2 = Xml.text second.renamed 2 := by
  let flat (repeats : Nat) (source : String) : SystemHint := ⟨source, .leaf 2 .nil, repeats⟩
  let braced : SystemHint := ⟨"((1) 1)", .nested (.leaf 1 .nil) (.leaf 1 .nil), 1⟩
  have read : SystemHint.allOfText "(2) ((1) 1)" = .ok [flat 1 "(2)", braced] := by decide +kernel
  have swapped : SystemHint.allOfText "((1) 1) (2)" = .ok [braced, flat 1 "(2)"] := by
    decide +kernel
  have around : SystemHint.allOfText "(1)x7 (2)x3 ((1) 1)" =
      .ok [⟨"(1)x7", .leaf 1 .nil, 7⟩, flat 3 "(2)x3", braced] := by decide +kernel
  have distinct (seed : Nat) : Function.Injective (IdSupply.ofSeed seed).name :=
    IdSupply.uuidDistinct seed
  constructor
  · obtain ⟨first, left, second, rest, top, pattern, otherTop, otherPattern, made, otherMade,
      greatest, compiled, otherGreatest, otherCompiled, texts, -⟩ :=
      unlinkedByLargest read swapped (by decide) (by decide) [unitBox] none 2 (distinct 0) (distinct 1)
    cases greatest
    cases otherGreatest
    cases compiled
    cases otherCompiled
    exact ⟨first, left, second, rest, made, otherMade, mt texts.mp (by decide)⟩
  · obtain ⟨first, left, second, rest, top, pattern, otherTop, otherPattern, made, otherMade,
      -, -, -, -, -, same⟩ :=
      unlinkedByLargest read around (by decide) (by decide) [unitBox] none 2 (distinct 0) (distinct 1)
    refine ⟨first, left, second, rest, made, otherMade, same ?_⟩
    exact @Inessential.before _ [] [] _ _ _ .none (by decide) (by decide) (by decide)

end Document
end ScorePage
