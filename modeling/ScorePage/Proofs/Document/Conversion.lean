import ScorePage.Document
import ScorePage.Proofs.Hint.RoundTrip
import ScorePage.Proofs.Link
import ScorePage.Proofs.Systems

/-! When a hint has a document. The limits on what a piece of a hint may say are all that the later
steps need: staves can be numbered, there is a largest system, and no system asks for staves of the
image that are not there. -/
namespace ScorePage

structure Limited (hint : SystemHint) (pattern : SystemPattern) : Prop where
  numbers : pattern.group.numbers = List.range' 1 hint.layout.staves
  staves : hint.layout.staves ≤ Hint.maxStaves
  repeats : pattern.repeats = hint.repeats
  some : 1 ≤ pattern.repeats
  few : pattern.repeats ≤ Hint.maxRepeats

def Link.wanted (options : Options) (systems : List StaffSystem) (boxes : Nat) : Bool :=
  options.linkStaves && decide (totalStaves systems = boxes)

/- No system asks for items behind the last one, and none is given fewer than it has staves. -/
structure Link.Inside (systems : List StaffSystem) (count : Nat) : Prop where
  slices : ∀ place system, systems[place]? = some system →
    offset systems place + system.staves ≤ count
  complete : ∀ (dealt : List (Box × Element)), dealt.length = count →
    ∀ link ∈ deal systems dealt, link.items.length = link.group.staves

theorem Link.insideOfWanted {options : Options} {systems : List StaffSystem} {count : Nat}
    (linked : wanted options systems count = true) : Inside systems count := by
  have matched : totalStaves systems = count :=
    of_decide_eq_true (Bool.and_eq_true_iff.mp linked).2
  constructor
  · intro place system found
    exact matched ▸ sliceBound found
  · intro dealt length link member
    exact dealtComplete (matched.trans length.symm) member

theorem limitedOfCompiled {hints : List SystemHint} {patterns : List SystemPattern}
    (compiled : List.Forall₂ Compiled hints patterns)
    (limits : ∀ hint ∈ hints, Hint.WithinLimits hint.layout hint.repeats) :
    List.Forall₂ Limited hints patterns := by
  induction compiled with
  | nil => exact .nil
  | cons head tail ih =>
    obtain ⟨first, others⟩ := List.forall_mem_cons.mp limits
    refine .cons ⟨head.numbers, first.total, head.repeats, ?_, ?_⟩ (ih others)
    · rw [head.repeats]
      exact first.systems.1
    · rw [head.repeats]
      exact first.systems.2

theorem systemsOfLimited {hints : List SystemHint} {patterns : List SystemPattern}
    (limited : List.Forall₂ Limited hints patterns) :
    StaffSystem.onPage patterns = [] ↔ hints = [] := by
  rw [StaffSystem.onPageEmpty]
  cases limited with
  | nil => simp
  | cons head tail =>
    constructor
    · intro silent
      have some := head.some
      have none := silent _ List.mem_cons_self
      omega
    · intro none
      contradiction

theorem limitedPatterns {hint : String} {hints : List SystemHint}
    (read : SystemHint.allOfText hint = .ok hints) :
    ∃ patterns, (SystemPattern.ofHints hints).result = .ok patterns ∧
      List.Forall₂ Limited hints patterns := by
  have written := Hint.writtenOfRead read
  have limits : ∀ hint ∈ hints, Hint.WithinLimits hint.layout hint.repeats :=
    fun hint member => (written hint member).2
  have numberable : ∀ hint ∈ hints, hint.layout.staves ≤ Layout.lastStaffNumber := by
    intro hint member
    exact Nat.le_trans (limits hint member).total (by decide)
  obtain ⟨patterns, compiled⟩ := hintsCompile numberable
  exact ⟨patterns, compiled, limitedOfCompiled (compiledOfHints compiled) limits⟩

namespace Document

theorem ofHintsDrafted {hints : List SystemHint} {patterns : List SystemPattern}
    (compiled : (SystemPattern.ofHints hints).result = .ok patterns)
    (some : StaffSystem.onPage patterns ≠ []) (boxes : List Box) (options : Options)
    (ids : IdSupply) :
    ∃ largest, (StaffSystem.largest (StaffSystem.onPage patterns)).result = .ok largest ∧
      (ofHints hints boxes options ids).result =
        .ok ((draft options.title boxes (StaffSystem.onPage patterns)
          (Link.wanted options (StaffSystem.onPage patterns) boxes.length)
          largest.group).run ids) := by
  obtain ⟨largest, found⟩ := StaffSystem.largestSome some
  refine ⟨largest, found, ?_⟩
  rw [ofHints, Outcome.bindResultOf compiled, Outcome.bindResultOf found, Outcome.bindResultOf rfl,
    Link.wanted]
  cases options.linkStaves with
  | false => rfl
  | true =>
    dsimp only
    rw [if_pos rfl, Outcome.bindResultOf (Link.possibleResult _ _)]
    rfl

theorem ofHintsNoSystem {hints : List SystemHint} {patterns : List SystemPattern}
    (compiled : (SystemPattern.ofHints hints).result = .ok patterns)
    (none : StaffSystem.onPage patterns = []) (boxes : List Box) (options : Options)
    (ids : IdSupply) : (ofHints hints boxes options ids).result = .error .noSystems := by
  rw [ofHints, Outcome.bindResultOf compiled, none, Outcome.bindResult, StaffSystem.largestNone]
  rfl

theorem ofHintsMade {hints : List SystemHint} {boxes : List Box} {options : Options}
    {ids : IdSupply} {made : Document × IdSupply}
    (result : (ofHints hints boxes options ids).result = .ok made) :
    ∃ patterns largest, (SystemPattern.ofHints hints).result = .ok patterns ∧
      (StaffSystem.largest (StaffSystem.onPage patterns)).result = .ok largest ∧
      (draft options.title boxes (StaffSystem.onPage patterns)
        (Link.wanted options (StaffSystem.onPage patterns) boxes.length)
        largest.group).run ids = made := by
  cases compiled : (SystemPattern.ofHints hints).result with
  | error fault =>
    rw [ofHints, Outcome.bindResult, compiled] at result
    contradiction
  | ok patterns =>
    by_cases none : StaffSystem.onPage patterns = []
    · rw [ofHintsNoSystem compiled none] at result
      contradiction
    · obtain ⟨largest, found, drafted⟩ := ofHintsDrafted compiled none boxes options ids
      exact ⟨patterns, largest, rfl, found, Except.ok.inj (drafted.symm.trans result)⟩

theorem ofHintOnward {hint : String} {hints : List SystemHint}
    (read : SystemHint.allOfText hint = .ok hints) (boxes : List Box) (options : Options)
    (ids : IdSupply) :
    (ofHint hint boxes options ids).result = (ofHints hints boxes options ids).result := by
  rw [ofHint, read]
  exact Outcome.bindResultOf rfl _

theorem ofHintRead {hint : String} {hints : List SystemHint}
    (read : SystemHint.allOfText hint = .ok hints) (boxes : List Box) (options : Options)
    (ids : IdSupply) :
    ∃ patterns, (SystemPattern.ofHints hints).result = .ok patterns ∧
      List.Forall₂ Limited hints patterns ∧
      (hints = [] → (ofHint hint boxes options ids).result = .error .noSystems) ∧
      (hints ≠ [] → ∃ largest, (ofHint hint boxes options ids).result =
          .ok ((draft options.title boxes (StaffSystem.onPage patterns)
            (Link.wanted options (StaffSystem.onPage patterns) boxes.length) largest).run ids)) ∧
      (Link.wanted options (StaffSystem.onPage patterns) boxes.length = true →
        Link.Inside (StaffSystem.onPage patterns) boxes.length) := by
  obtain ⟨patterns, compiled, limited⟩ := limitedPatterns read
  have onward := ofHintOnward read boxes options ids
  refine ⟨patterns, compiled, limited, ?_, ?_, Link.insideOfWanted⟩
  · intro none
    rw [onward]
    exact ofHintsNoSystem compiled ((systemsOfLimited limited).mpr none) boxes options ids
  · intro some
    obtain ⟨largest, -, drafted⟩ :=
      ofHintsDrafted compiled (mt (systemsOfLimited limited).mp some) boxes options ids
    exact ⟨largest.group, onward.trans drafted⟩

theorem ofHintRefused {hint : String} {fault : Hint.Fault}
    (refused : SystemHint.allOfText hint = .error fault) (boxes : List Box) (options : Options)
    (ids : IdSupply) : (ofHint hint boxes options ids).result = .error (.hint fault) := by
  rw [ofHint, refused]
  rfl

theorem readNothing {hint : String} :
    SystemHint.allOfText hint = .ok [] ↔ Text.isBlankText hint.toList = true := by
  rw [Hint.allOfTextOk, List.map_nil, List.map_eq_nil_iff, Hint.piecesNone]

variable (hint : String) (boxes : List Box) (options : Options) (ids : IdSupply)

theorem ofHintCases :
    (∃ fault, SystemHint.allOfText hint = .error fault ∧
      (ofHint hint boxes options ids).result = .error (.hint fault)) ∨
    (SystemHint.allOfText hint = .ok [] ∧
      (ofHint hint boxes options ids).result = .error .noSystems) ∨
    (∃ first others made, SystemHint.allOfText hint = .ok (first :: others) ∧
      (ofHint hint boxes options ids).result = .ok made) := by
  cases read : SystemHint.allOfText hint with
  | error fault => exact .inl ⟨fault, rfl, ofHintRefused read boxes options ids⟩
  | ok hints =>
    obtain ⟨patterns, -, -, silent, drafted, -⟩ := ofHintRead read boxes options ids
    cases hints with
    | nil => exact .inr (.inl ⟨rfl, silent rfl⟩)
    | cons first others =>
      obtain ⟨largest, made⟩ := drafted (List.cons_ne_nil first others)
      exact .inr (.inr ⟨first, others, _, rfl, made⟩)

theorem refusedFirst (fault : Hint.Fault) :
    (ofHint hint boxes options ids).result = .error (.hint fault) ↔
      Result.FirstRefused SystemHint.ofText (Hint.pieces hint) fault := by
  rw [← Result.mapMError]
  change _ ↔ SystemHint.allOfText hint = .error fault
  obtain ⟨found, read, result⟩ | ⟨read, result⟩ | ⟨first, others, made, read, result⟩ :=
    ofHintCases hint boxes options ids
  · simp [read, result]
  · simp [read, result]
  · simp [read, result]

theorem silentOnly :
    (ofHint hint boxes options ids).result = .error .noSystems ↔
      Text.isBlankText hint.toList = true := by
  rw [← readNothing]
  obtain ⟨found, read, result⟩ | ⟨read, result⟩ | ⟨first, others, made, read, result⟩ :=
    ofHintCases hint boxes options ids
  · simp [read, result]
  · simp [read, result]
  · simp [read, result]

theorem madeOnly :
    (∃ made, (ofHint hint boxes options ids).result = .ok made) ↔
      Text.isBlankText hint.toList = false ∧
        ∀ piece ∈ Hint.pieces hint, ∃ read, SystemHint.ofText piece = .ok read := by
  rw [← Result.mapMSome, ← Bool.not_eq_true, ← readNothing]
  change _ ↔ _ ∧ ∃ hints, SystemHint.allOfText hint = .ok hints
  obtain ⟨found, read, result⟩ | ⟨read, result⟩ | ⟨first, others, made, read, result⟩ :=
    ofHintCases hint boxes options ids
  · simp [read, result]
  · simp [read, result]
  · simp [read, result]

theorem outcomeOfHint (hint : String) (boxes : List Box) (options : Options) (ids : IdSupply) :
    (∀ fault, (ofHint hint boxes options ids).result = .error (.hint fault) ↔
      Result.FirstRefused SystemHint.ofText (Hint.pieces hint) fault) ∧
    ((∃ fault, (ofHint hint boxes options ids).result = .error (.hint fault)) ↔
      ∃ piece ∈ Hint.pieces hint, ∃ fault, SystemHint.ofText piece = .error fault) ∧
    ((ofHint hint boxes options ids).result = .error .noSystems ↔
      Text.isBlankText hint.toList = true) ∧
    ((∃ made, (ofHint hint boxes options ids).result = .ok made) ↔
      Text.isBlankText hint.toList = false ∧
        ∀ piece ∈ Hint.pieces hint, ∃ read, SystemHint.ofText piece = .ok read) ∧
    (∀ hints, SystemHint.allOfText hint = .ok hints →
      ∃ patterns, (SystemPattern.ofHints hints).result = .ok patterns ∧
        List.Forall₂ Limited hints patterns ∧
        (hints ≠ [] → ∃ largest, (ofHint hint boxes options ids).result =
          .ok ((draft options.title boxes (StaffSystem.onPage patterns)
            (Link.wanted options (StaffSystem.onPage patterns) boxes.length) largest).run ids)) ∧
        (Link.wanted options (StaffSystem.onPage patterns) boxes.length = true →
          Link.Inside (StaffSystem.onPage patterns) boxes.length)) := by
  refine ⟨refusedFirst hint boxes options ids, ?_, silentOnly hint boxes options ids,
    madeOnly hint boxes options ids, ?_⟩
  · rw [← Result.mapMRefused]
    exact exists_congr (refusedFirst hint boxes options ids)
  · intro hints read
    obtain ⟨patterns, compiled, limited, -, drafted, inside⟩ := ofHintRead read boxes options ids
    exact ⟨patterns, compiled, limited, drafted, inside⟩

end Document
end ScorePage
