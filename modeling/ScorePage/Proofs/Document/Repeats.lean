import ScorePage.Proofs.Document.Linking
import ScorePage.Proofs.Document.Renaming
import ScorePage.Proofs.Hint.Joining
import ScorePage.Xml

/-! Repeated systems. A document depends on the groups of the systems of a page and not on the
patterns that they come from, so a number of systems behind a group is as good as copies of it. -/
namespace ScorePage

namespace StaffSystem

def unplaced (system : StaffSystem) : StaffSystem := { system with pattern := 0 }

theorem unplacedSame {systems others : List StaffSystem}
    (groups : systems.map StaffSystem.group = others.map StaffSystem.group) :
    systems.map unplaced = others.map unplaced := by
  have made := congrArg (List.map (StaffSystem.mk 0)) groups
  rw [List.map_map, List.map_map] at made
  exact made

theorem recordsUnplaced (position bar : Nat) (systems : List StaffSystem) :
    recordsFrom position bar (systems.map unplaced) =
      (recordsFrom position bar systems).map (Prod.map id unplaced) := by
  induction systems generalizing position bar with
  | nil => rfl
  | cons system systems ih =>
    have staves : system.unplaced.staves = system.staves := rfl
    rw [List.map_cons, recordsFrom, recordsFrom, staves, ih, ih]
    split <;> rfl

theorem largestUnplaced (systems : List StaffSystem) :
    (largest (systems.map unplaced)).result = (largest systems).result.map unplaced := by
  rw [largest, largest, Outcome.bindResultOf rfl, Outcome.bindResultOf rfl, records, records,
    recordsUnplaced, List.getLast?_map]
  cases (recordsFrom 1 0 systems).getLast? <;> rfl

end StaffSystem

namespace Link

theorem dealUnplaced {α : Type} (position : Nat) (systems : List StaffSystem) (items : List α) :
    dealFrom position (systems.map StaffSystem.unplaced) items = dealFrom position systems items := by
  induction systems generalizing position items with
  | nil => rfl
  | cons system systems ih =>
    have staves : system.unplaced.staves = system.staves := rfl
    have group : system.unplaced.group = system.group := rfl
    rw [List.map_cons, dealFrom, dealFrom, staves, group, ih]

theorem totalUnplaced (systems : List StaffSystem) :
    totalStaves (systems.map StaffSystem.unplaced) = totalStaves systems := by
  rw [totalStaves, List.map_map]
  rfl

end Link

namespace Document

def ofSystems (systems : List StaffSystem) (boxes : List Box) (options : Options)
    (ids : IdSupply) : Except Fault (Document × IdSupply) :=
  (StaffSystem.largest systems).result.map fun largest =>
    (draft options.title boxes systems (Link.wanted options systems boxes.length)
      largest.group).run ids

theorem ofHintsCompiled {hints : List SystemHint} {patterns : List SystemPattern}
    (compiled : (SystemPattern.ofHints hints).result = .ok patterns) (boxes : List Box)
    (options : Options) (ids : IdSupply) :
    (ofHints hints boxes options ids).result =
      ofSystems (StaffSystem.onPage patterns) boxes options ids := by
  by_cases none : StaffSystem.onPage patterns = []
  · rw [ofHintsNoSystem compiled none, none]
    rfl
  · obtain ⟨largest, found, drafted⟩ := ofHintsDrafted compiled none boxes options ids
    rw [drafted, ofSystems, found]
    rfl

theorem ofSystemsUnplaced (systems : List StaffSystem) (boxes : List Box) (options : Options)
    (ids : IdSupply) :
    ofSystems (systems.map StaffSystem.unplaced) boxes options ids =
      ofSystems systems boxes options ids := by
  have linked : Link.wanted options (systems.map StaffSystem.unplaced) boxes.length =
      Link.wanted options systems boxes.length := by rw [Link.wanted, Link.totalUnplaced]; rfl
  have drafts (linked : Bool) (group : StaffGroup) :
      draft options.title boxes (systems.map StaffSystem.unplaced) linked group =
        draft options.title boxes systems linked group := by
    unfold draft
    simp only [Link.deal, Link.dealUnplaced]
  rw [ofSystems, ofSystems, StaffSystem.largestUnplaced, linked]
  simp only [drafts]
  cases (StaffSystem.largest systems).result <;> rfl

theorem ofSystemsSame {systems others : List StaffSystem}
    (groups : systems.map StaffSystem.group = others.map StaffSystem.group) (boxes : List Box)
    (options : Options) (ids : IdSupply) :
    ofSystems systems boxes options ids = ofSystems others boxes options ids := by
  rw [← ofSystemsUnplaced, StaffSystem.unplacedSame groups, ofSystemsUnplaced]

theorem ofSystemsSome {systems : List StaffSystem} (some : systems ≠ []) (boxes : List Box)
    (options : Options) : ∃ linked largest, ∀ ids, ofSystems systems boxes options ids =
      .ok ((draft options.title boxes systems linked largest).run ids) := by
  obtain ⟨largest, found⟩ := StaffSystem.largestSome some
  refine ⟨Link.wanted options systems boxes.length, largest.group, fun ids => ?_⟩
  rw [ofSystems, found]
  rfl

theorem repeatedGroups (before after : List SystemPattern) (group : StaffGroup) (repeats : Nat) :
    (StaffSystem.onPage (before ++ [⟨group, repeats⟩] ++ after)).map StaffSystem.group =
      (StaffSystem.onPage (before ++ List.replicate repeats ⟨group, 1⟩ ++ after)).map
        StaffSystem.group := by
  have copies : (List.replicate repeats (SystemPattern.mk group 1)).flatMap
      (fun pattern => List.replicate pattern.repeats pattern.group) =
        List.replicate repeats group := by
    rw [List.flatMap_replicate]
    exact List.flatten_replicate_singleton
  simp only [StaffSystem.onPageGroups, List.flatMap_append, copies, List.flatMap_singleton]

theorem sameGroupsSameText {text other : String} {hints others : List SystemHint}
    {patterns further : List SystemPattern} (read : SystemHint.allOfText text = .ok hints)
    (otherRead : SystemHint.allOfText other = .ok others)
    (compiled : (SystemPattern.ofHints hints).result = .ok patterns)
    (otherCompiled : (SystemPattern.ofHints others).result = .ok further)
    (groups : (StaffSystem.onPage patterns).map StaffSystem.group =
      (StaffSystem.onPage further).map StaffSystem.group)
    (some : StaffSystem.onPage patterns ≠ []) (boxes : List Box) (options : Options)
    {ids supply : IdSupply} (distinct : Function.Injective ids.name)
    (otherDistinct : Function.Injective supply.name) :
    ∃ first left second rest, (ofHint text boxes options ids).result = .ok (first, left) ∧
      (ofHint other boxes options supply).result = .ok (second, rest) ∧
      Xml.text first.renamed options.indent = Xml.text second.renamed options.indent := by
  obtain ⟨linked, largest, made⟩ := ofSystemsSome some boxes options
  generalize page : StaffSystem.onPage patterns = systems at groups made
  rcases firstMade : (draft options.title boxes systems linked largest).run ids with ⟨first, left⟩
  rcases secondMade : (draft options.title boxes systems linked largest).run supply with
    ⟨second, rest⟩
  have plain := draftRenamed options.title boxes systems linked largest distinct
  have otherPlain := draftRenamed options.title boxes systems linked largest otherDistinct
  rw [firstMade] at plain
  rw [secondMade] at otherPlain
  refine ⟨first, left, second, rest, ?_, ?_, ?_⟩
  · rw [ofHintOnward read, ofHintsCompiled compiled, page, made, firstMade]
  · rw [ofHintOnward otherRead, ofHintsCompiled otherCompiled, ofSystemsSame groups.symm, made,
      secondMade]
  · rw [plain, otherPlain]

theorem patternsAround {hints others middle : List SystemHint}
    {patterns further inner : List SystemPattern}
    (compiled : (SystemPattern.ofHints hints).result = .ok patterns)
    (middleCompiled : (SystemPattern.ofHints middle).result = .ok inner)
    (otherCompiled : (SystemPattern.ofHints others).result = .ok further) :
    (SystemPattern.ofHints (hints ++ middle ++ others)).result =
      .ok (patterns ++ inner ++ further) := by
  rw [ofHintsOk] at compiled middleCompiled otherCompiled ⊢
  simp only [List.map_append, compiled, middleCompiled, otherCompiled]

open Hint in
theorem repeatsAbbreviate {before after source : String} {hints others : List SystemHint}
    {hint : SystemHint} {repeats : Nat} (beforeRead : SystemHint.allOfText before = .ok hints)
    (afterRead : SystemHint.allOfText after = .ok others)
    (read : SystemHint.ofText source = .ok hint)
    (single : ∀ c ∈ source.toList, isTimes c = false)
    (sized : 1 ≤ repeats ∧ repeats ≤ maxRepeats) (boxes : List Box) (options : Options)
    {ids supply : IdSupply} (distinct : Function.Injective ids.name)
    (otherDistinct : Function.Injective supply.name) :
    ∃ first left second rest,
      (ofHint (before ++ " " ++ (source ++ "x" ++ toString repeats) ++ " " ++ after)
        boxes options ids).result = .ok (first, left) ∧
      (ofHint (before ++ " " ++ " ".intercalate (List.replicate repeats source) ++ " " ++ after)
        boxes options supply).result = .ok (second, rest) ∧
      Xml.text first.renamed options.indent = Xml.text second.renamed options.indent := by
  obtain ⟨once, repeatedRead⟩ := repeatsRead read single sized
  obtain ⟨-, -, limits⟩ := ofTextExact.mp read
  obtain ⟨patterns, compiled, -⟩ := limitedPatterns beforeRead
  obtain ⟨further, otherCompiled, -⟩ := limitedPatterns afterRead
  have enough : 0 + hint.layout.staves ≤ Layout.lastStaffNumber := by
    rw [Nat.zero_add]
    exact Nat.le_trans limits.total (by decide)
  obtain ⟨group, numbered⟩ := Layout.numberable enough
  let short : SystemHint := ⟨source ++ "x" ++ toString repeats, hint.layout, repeats⟩
  have pattern : (SystemPattern.ofHint short).result = .ok ⟨group, repeats⟩ :=
    patternOfHint numbered
  have abbreviated : (SystemPattern.ofHints [short]).result = .ok [⟨group, repeats⟩] := by
    rw [ofHintsOk, List.map_singleton, pattern, List.map_singleton]
  have written : (SystemPattern.ofHints (List.replicate repeats hint)).result =
      .ok (List.replicate repeats ⟨group, 1⟩) := by
    rw [ofHintsOk, List.map_replicate, patternOfHint numbered, List.map_replicate, once]
  have some : StaffSystem.onPage (patterns ++ [⟨group, repeats⟩] ++ further) ≠ [] := by
    intro none
    have zero : repeats = 0 := StaffSystem.onPageEmpty.mp none ⟨group, repeats⟩ (by simp)
    omega
  exact sameGroupsSameText (readJoined (readJoined beforeRead (pieceRead repeatedRead)) afterRead)
    (readJoined (readJoined beforeRead (copiesRead read repeats)) afterRead)
    (patternsAround compiled abbreviated otherCompiled)
    (patternsAround compiled written otherCompiled) (repeatedGroups patterns further group repeats)
    some boxes options distinct otherDistinct

def oneStaff : SystemHint := ⟨"(1)", .leaf 1 .nil, 1⟩

theorem oneStaffWritten :
    Hint.PieceText oneStaff.source.toList oneStaff.layout oneStaff.repeats ∧
      Hint.WithinLimits oneStaff.layout oneStaff.repeats := by
  have one : Hint.Numeral ['1'] 1 := ⟨by decide, List.all_eq_true.mp rfl, rfl⟩
  have items : Hint.ItemsText (['1'] ++ [] ++ []) (.leaf 1 .nil) := .count one rfl (by simp) .nil
  have whole : Hint.PieceText (Hint.enclosed [] ['1']) (.leaf 1 .nil) 1 := .once (.mk rfl items)
  exact ⟨whole, by decide, by decide, by decide⟩

theorem repeatsAbbreviateBehindLarger :
    ∃ first left second rest,
      (ofHint "(2 (1\t1))X02 (1)x3 \n" (List.replicate 11 unitBox) { linkStaves := true }
        (.ofSeed 0)).result = .ok (first, left) ∧
      (ofHint "(2 (1\t1))X02 (1) (1) (1) \n" (List.replicate 11 unitBox) { linkStaves := true }
        (.ofSeed 1)).result = .ok (second, rest) ∧
      Xml.text first.renamed 2 = Xml.text second.renamed 2 := by
  have before : SystemHint.allOfText Hint.twoGroups.source = .ok [Hint.twoGroups] :=
    Hint.pieceRead (Hint.ofTextExact.mpr ⟨rfl, Hint.twoGroupsWritten⟩)
  have after : SystemHint.allOfText "\n" = .ok [] := readNothing.mpr (by decide)
  have read : SystemHint.ofText "(1)" = .ok oneStaff :=
    Hint.ofTextExact.mpr ⟨rfl, oneStaffWritten⟩
  have single : ∀ c ∈ "(1)".toList, Hint.isTimes c = false := by simp [Hint.isTimes]
  have sized : 1 ≤ 3 ∧ 3 ≤ Hint.maxRepeats := by decide
  exact repeatsAbbreviate before after read single sized (List.replicate 11 unitBox)
    { linkStaves := true } (IdSupply.uuidDistinct 0) (IdSupply.uuidDistinct 1)

end Document
end ScorePage
