import ScorePage.Proofs.Systems
import ScorePage.Proofs.Largest

/-! The system that stands for a page, chosen in one sweep over all systems, and what the sweep
reports. Seen from the patterns it is the first of the largest that are used at all. -/
namespace ScorePage.StaffSystem

theorem recordsMember {position bar : Nat} {systems : List StaffSystem}
    {record : Nat × StaffSystem} :
    record ∈ recordsFrom position bar systems ↔ bar ≤ record.2.staves ∧
      ∃ before after, systems = before ++ record.2 :: after ∧
        record.1 = position + before.length ∧
        ∀ other ∈ before, other.staves < record.2.staves := by
  induction systems generalizing position bar with
  | nil => simp [recordsFrom]
  | cons system systems ih =>
    constructor
    · intro member
      rw [recordsFrom] at member
      split at member
      · rename_i enough
        rcases List.mem_cons.mp member with rfl | member
        · exact ⟨enough, [], systems, rfl, rfl, List.forall_mem_nil _⟩
        · obtain ⟨larger, before, after, rfl, placed, below⟩ := ih.mp member
          refine ⟨by omega, system :: before, after, rfl, ?_,
            List.forall_mem_cons.mpr ⟨larger, below⟩⟩
          rw [placed, List.length_cons]
          omega
      · rename_i small
        obtain ⟨larger, before, after, rfl, placed, below⟩ := ih.mp member
        refine ⟨larger, system :: before, after, rfl, ?_,
          List.forall_mem_cons.mpr ⟨by omega, below⟩⟩
        rw [placed, List.length_cons]
        omega
    · rintro ⟨larger, before, after, same, placed, below⟩
      rw [recordsFrom]
      cases before with
      | nil =>
        obtain ⟨rfl, -⟩ := List.cons.inj same
        rw [if_pos larger]
        exact List.mem_cons.mpr (.inl (Prod.ext placed rfl))
      | cons first before =>
        obtain ⟨rfl, rest⟩ := List.cons.inj same
        obtain ⟨smaller, below⟩ := List.forall_mem_cons.mp below
        have further : record.1 = position + 1 + before.length := by
          rw [placed, List.length_cons]
          omega
        split
        · exact List.mem_cons_of_mem _ (ih.mpr ⟨smaller, before, after, rest, further, below⟩)
        · exact ih.mpr ⟨larger, before, after, rest, further, below⟩

theorem recordsRising (position bar : Nat) (systems : List StaffSystem) :
    (recordsFrom position bar systems).Pairwise fun record next =>
      record.1 < next.1 ∧ record.2.staves < next.2.staves := by
  induction systems generalizing position bar with
  | nil => exact .nil
  | cons system systems ih =>
    rw [recordsFrom]
    split
    · refine .cons (fun next member => ?_) (ih _ _)
      obtain ⟨larger, before, _, -, placed, -⟩ := recordsMember.mp member
      exact ⟨by omega, larger⟩
    · exact ih _ _

theorem largestRecord (systems : List StaffSystem) (system : StaffSystem) :
    (largest systems).result = .ok system ↔
      (records systems).getLast?.map Prod.snd = some system := by
  rw [largest, Outcome.bindResultOf rfl]
  cases (records systems).getLast? with
  | none => simp [Outcome.fail]
  | some record => simp [Outcome.ok]

theorem largestLog (systems : List StaffSystem) :
    (largest systems).log =
      (records systems).map fun record => .largestSoFar record.1 record.2.staves := by
  rw [largest, Outcome.bindLog rfl]
  cases (records systems).getLast? with
  | none => exact List.append_nil _
  | some record => exact List.append_nil _

def ofEntry (entry : SystemPattern × Nat) : StaffSystem := ⟨entry.2, entry.1.group⟩

theorem onPageUsed (patterns : List SystemPattern) :
    onPage patterns = (patterns.zipIdx.filter fun entry => 0 < entry.1.repeats).flatMap
      fun entry => List.replicate entry.1.repeats (ofEntry entry) := by
  change patterns.zipIdx.flatMap (fun entry => List.replicate entry.1.repeats (ofEntry entry)) = _
  induction patterns.zipIdx with
  | nil => rfl
  | cons entry entries ih =>
    rw [List.flatMap_cons, ih]
    by_cases used : 0 < entry.1.repeats
    · rw [List.filter_cons_of_pos (by simpa using used), List.flatMap_cons]
    · rw [List.filter_cons_of_neg (by simpa using used), Nat.eq_zero_of_not_pos used]
      rfl

/- The pattern at a place is the first of the largest, those left aside that no system has. -/
def FirstUsed (patterns : List SystemPattern) (place : Nat) (pattern : SystemPattern) : Prop :=
  FirstMost (fun entry => entry.1.group.staves) (pattern, place)
    (patterns.zipIdx.filter fun entry => 0 < entry.1.repeats)

theorem largestOfFirst {patterns : List SystemPattern} {place : Nat} {pattern : SystemPattern}
    (first : FirstUsed patterns place pattern) :
    (largest (onPage patterns)).result = .ok ⟨place, pattern.group⟩ := by
  have used : 0 < pattern.repeats := by
    simpa using (List.mem_filter.mp first.mem).2
  have expected : FirstMost staves ⟨place, pattern.group⟩ (onPage patterns) := by
    rw [onPageUsed]
    have first : FirstMost (staves ∘ ofEntry) (pattern, place) _ := first
    exact first.repeated used
  have some : onPage patterns ≠ [] := List.ne_nil_of_mem expected.mem
  obtain ⟨system, found⟩ := largestSome some
  obtain ⟨before, after, split, below, above⟩ := largestFirst found
  have selected : FirstMost staves system (onPage patterns) := by
    rw [split]
    exact .prepend below (.here above)
  rw [found, selected.unique expected]

theorem largestUsed {patterns : List SystemPattern} {system : StaffSystem} :
    (largest (onPage patterns)).result = .ok system ↔
      ∃ place pattern, FirstUsed patterns place pattern ∧ system = ⟨place, pattern.group⟩ := by
  constructor
  · intro found
    have used : (patterns.zipIdx.filter fun entry => 0 < entry.1.repeats) ≠ [] := by
      intro none
      rw [onPageUsed, none] at found
      contradiction
    obtain ⟨⟨pattern, place⟩, first⟩ := FirstMost.present (fun entry => entry.1.group.staves) used
    have same := found.symm.trans (largestOfFirst first)
    exact ⟨place, pattern, first, Except.ok.inj same⟩
  · rintro ⟨place, pattern, first, rfl⟩
    exact largestOfFirst first

theorem largestFails {patterns : List SystemPattern} {fault : Fault} :
    (largest (onPage patterns)).result = .error fault ↔
      fault = .noSystems ∧ ∀ pattern ∈ patterns, pattern.repeats = 0 := by
  rw [← onPageEmpty]
  by_cases some : onPage patterns = []
  · rw [some, largestNone]
    simp [eq_comm]
  · obtain ⟨system, found⟩ := largestSome some
    simp [found, some]

theorem selectedWithRecords (patterns : List SystemPattern) :
    (onPage patterns).map StaffSystem.group =
      patterns.flatMap (fun pattern => List.replicate pattern.repeats pattern.group) ∧
    (∀ fault, (largest (onPage patterns)).result = .error fault ↔
      fault = .noSystems ∧ ∀ pattern ∈ patterns, pattern.repeats = 0) ∧
    (∀ system, (largest (onPage patterns)).result = .ok system ↔
      ∃ place pattern, FirstUsed patterns place pattern ∧ system = ⟨place, pattern.group⟩) ∧
    ∃ leaders : List (Nat × StaffSystem),
      ((largest (onPage patterns)).log.map fun event => (event.level, event.message)) =
        leaders.map (fun (position, system) => (.debug,
          s!"system {position} is the largest so far with {system.staves} staves")) ∧
      (∀ position system, (position, system) ∈ leaders ↔
        ∃ before after, onPage patterns = before ++ system :: after ∧
          position = before.length + 1 ∧ ∀ other ∈ before, other.staves < system.staves) ∧
      leaders.Pairwise (fun leader next => leader.1 < next.1 ∧ leader.2.staves < next.2.staves) ∧
      ∀ system, (largest (onPage patterns)).result = .ok system ↔
        leaders.getLast?.map Prod.snd = some system := by
  refine ⟨onPageGroups patterns, fun fault => largestFails, fun system => largestUsed,
    records (onPage patterns), ?_, fun position system => ?_, recordsRising 1 0 _, largestRecord _⟩
  · rw [largestLog, List.map_map]
    rfl
  · rw [records, recordsMember]
    simp only [Nat.zero_le, true_and, Nat.add_comm 1]

end ScorePage.StaffSystem
