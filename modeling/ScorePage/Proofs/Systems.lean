import ScorePage.StaffSystem
import Mathlib.Data.List.Forall2
import ScorePage.Proofs.Numbering
import ScorePage.Proofs.Outcome

/-! The systems of a page from the hints for them: when there are patterns for the hints, what the
patterns are, and when there is a largest system. -/
namespace ScorePage

structure Compiled (hint : SystemHint) (pattern : SystemPattern) : Prop where
  numbers : pattern.group.numbers = List.range' 1 hint.layout.staves
  repeats : pattern.repeats = hint.repeats

theorem patternNumbered {hint : SystemHint} {pattern : SystemPattern}
    (ok : (SystemPattern.ofHint hint).result = .ok pattern) :
    (∃ last, hint.layout.number 0 = some (pattern.group, last)) ∧ pattern.repeats = hint.repeats := by
  unfold SystemPattern.ofHint at ok
  split at ok
  · contradiction
  · rename_i group last numbered
    cases ok
    exact ⟨⟨last, numbered⟩, rfl⟩

theorem compiledOfHint {hint : SystemHint} {pattern : SystemPattern}
    (ok : (SystemPattern.ofHint hint).result = .ok pattern) : Compiled hint pattern := by
  obtain ⟨⟨last, numbered⟩, repeats⟩ := patternNumbered ok
  exact ⟨(Layout.numberConsecutive numbered).2, repeats⟩

theorem patternOfHint {hint : SystemHint} {group : StaffGroup} {last : Nat}
    (numbered : hint.layout.number 0 = some (group, last)) :
    (SystemPattern.ofHint hint).result = .ok ⟨group, hint.repeats⟩ := by
  rw [SystemPattern.ofHint, numbered]

theorem ofHintsOk {hints : List SystemHint} {patterns : List SystemPattern} :
    (SystemPattern.ofHints hints).result = .ok patterns ↔
      hints.map (fun hint => (SystemPattern.ofHint hint).result) = patterns.map .ok := by
  rw [SystemPattern.ofHints, Outcome.mapMResult, Result.mapMOk]

theorem patternsPaired {hints : List SystemHint} {patterns : List SystemPattern}
    (ok : (SystemPattern.ofHints hints).result = .ok patterns) :
    List.Forall₂ (fun hint pattern => (SystemPattern.ofHint hint).result = .ok pattern)
      hints patterns := by
  have results := ofHintsOk.mp ok
  rw [← List.forall₂_eq_eq_eq, List.forall₂_map_left_iff, List.forall₂_map_right_iff] at results
  exact results

theorem compiledOfHints {hints : List SystemHint} {patterns : List SystemPattern}
    (ok : (SystemPattern.ofHints hints).result = .ok patterns) :
    List.Forall₂ Compiled hints patterns :=
  (patternsPaired ok).imp fun _ _ => compiledOfHint

theorem hintsCompile {hints : List SystemHint}
    (numberable : ∀ hint ∈ hints, hint.layout.staves ≤ Layout.lastStaffNumber) :
    ∃ patterns, (SystemPattern.ofHints hints).result = .ok patterns := by
  simp only [ofHintsOk]
  induction hints with
  | nil => exact ⟨[], rfl⟩
  | cons hint hints ih =>
    obtain ⟨enough, others⟩ := List.forall_mem_cons.mp numberable
    obtain ⟨patterns, found⟩ := ih others
    rw [← Nat.zero_add hint.layout.staves] at enough
    obtain ⟨group, numbered⟩ := Layout.numberable enough
    refine ⟨⟨group, hint.repeats⟩ :: patterns, ?_⟩
    rw [List.map_cons, List.map_cons, found, patternOfHint numbered]

namespace StaffSystem

theorem onPageEmpty {patterns : List SystemPattern} :
    onPage patterns = [] ↔ ∀ pattern ∈ patterns, pattern.repeats = 0 := by
  simp only [onPage, List.flatMap_eq_nil_iff, List.replicate_eq_nil_iff]
  constructor
  · intro none pattern member
    obtain ⟨place, found⟩ := List.mem_iff_getElem?.mp member
    exact none (pattern, place) (List.mem_zipIdx_iff_getElem?.mpr found)
  · intro none placed member
    exact none placed.1 (List.fst_mem_of_mem_zipIdx member)

theorem onPageGroups (patterns : List SystemPattern) :
    (onPage patterns).map StaffSystem.group =
      patterns.flatMap fun pattern => List.replicate pattern.repeats pattern.group := by
  have places := List.zipIdx_map_fst 0 patterns
  calc (onPage patterns).map StaffSystem.group
    _ = (patterns.zipIdx.map Prod.fst).flatMap fun pattern =>
          List.replicate pattern.repeats pattern.group := by
        rw [onPage, List.map_flatMap, List.flatMap_map]
        simp
    _ = _ := by rw [places]

theorem onPageNumbered {hints : List SystemHint} {patterns : List SystemPattern}
    (compiled : List.Forall₂ Compiled hints patterns) :
    ∀ system ∈ onPage patterns, system.group.numbers = List.range' 1 system.staves := by
  have numbered : ∀ pattern ∈ patterns,
      pattern.group.numbers = List.range' 1 (StaffGroup.staves pattern.group) := by
    induction compiled with
    | nil => intro pattern member; contradiction
    | cons head tail ih =>
      refine List.forall_mem_cons.mpr ⟨?_, ih⟩
      rw [StaffGroup.staves, head.numbers, List.length_range']
  intro system member
  obtain ⟨placed, place, repeated⟩ := List.mem_flatMap.mp member
  have same := List.eq_of_mem_replicate repeated
  rw [same]
  exact numbered placed.1 (List.fst_mem_of_mem_zipIdx place)

theorem largestNone : (largest []).result = .error .noSystems := rfl

theorem largestSome {systems : List StaffSystem} (some : systems ≠ []) :
    ∃ system, (largest systems).result = .ok system := by
  obtain ⟨first, others, rfl⟩ := List.exists_cons_of_ne_nil some
  have reported : records (first :: others) ≠ [] := by simp [records, recordsFrom]
  obtain ⟨last, found⟩ := Option.ne_none_iff_exists'.mp (mt List.getLast?_eq_none_iff.mp reported)
  exact ⟨last.2, by
    rw [largest, Outcome.bindResultOf rfl, found]
    rfl⟩

theorem largestReported {kind : Event → Bool}
    (ignored : ∀ position staves, kind (.largestSoFar position staves) = false)
    (systems : List StaffSystem) : (largest systems).reported kind = [] := by
  unfold largest
  refine Outcome.bindSilent ?_ fun _ => ?_
  · rw [Outcome.reported, List.filter_eq_nil_iff]
    intro event member
    obtain ⟨record, _, rfl⟩ := List.mem_map.mp member
    exact Bool.eq_false_iff.mp (ignored _ _)
  · split <;> rfl

theorem recordsNone {position bar : Nat} {systems : List StaffSystem}
    (none : recordsFrom position bar systems = []) : ∀ system ∈ systems, system.staves < bar := by
  induction systems generalizing position with
  | nil => intro system member; contradiction
  | cons system systems ih =>
    rw [recordsFrom] at none
    split at none
    · contradiction
    · rename_i below
      exact List.forall_mem_cons.mpr ⟨Nat.lt_of_not_le below, ih none⟩

/- The last record is the first of the systems with the most staves. By induction on the systems: a
record raises the bar above itself, so that what is found behind it is larger. -/
theorem recordsLast {position bar : Nat} {systems : List StaffSystem} {found : Nat × StaffSystem}
    (last : (recordsFrom position bar systems).getLast? = some found) :
    bar ≤ found.2.staves ∧ ∃ before after, systems = before ++ found.2 :: after ∧
      found.1 = position + before.length ∧
      (∀ system ∈ before, system.staves < found.2.staves) ∧
      ∀ system ∈ after, system.staves ≤ found.2.staves := by
  induction systems generalizing position bar with
  | nil => contradiction
  | cons system systems ih =>
    rw [recordsFrom] at last
    split at last
    · rename_i enough
      rw [List.getLast?_cons] at last
      cases later : (recordsFrom (position + 1) (system.staves + 1) systems).getLast? with
      | none =>
        rw [later] at last
        cases last
        refine ⟨enough, [], systems, rfl, rfl, by simp, ?_⟩
        intro other member
        exact Nat.le_of_lt_succ (recordsNone (List.getLast?_eq_none_iff.mp later) other member)
      | some record =>
        rw [later] at last
        cases last
        obtain ⟨larger, before, after, rfl, placed, below, above⟩ := ih later
        refine ⟨by omega, system :: before, after, rfl, ?_,
          List.forall_mem_cons.mpr ⟨larger, below⟩, above⟩
        rw [placed, List.length_cons]
        omega
    · rename_i small
      obtain ⟨larger, before, after, rfl, placed, below, above⟩ := ih last
      refine ⟨larger, system :: before, after, rfl, ?_,
        List.forall_mem_cons.mpr ⟨by omega, below⟩, above⟩
      rw [placed, List.length_cons]
      omega

theorem largestFirst {systems : List StaffSystem} {system : StaffSystem}
    (found : (largest systems).result = .ok system) :
    ∃ before after, systems = before ++ system :: after ∧
      (∀ other ∈ before, other.staves < system.staves) ∧
      ∀ other ∈ after, other.staves ≤ system.staves := by
  rw [largest, Outcome.bindResultOf rfl] at found
  split at found
  · contradiction
  · rename_i position record last
    cases found
    obtain ⟨-, before, after, same, -, below, above⟩ := recordsLast last
    exact ⟨before, after, same, below, above⟩

theorem largestMost {systems : List StaffSystem} {system : StaffSystem}
    (found : (largest systems).result = .ok system) :
    (systems.map staves).max? = some system.staves := by
  obtain ⟨before, after, rfl, below, above⟩ := largestFirst found
  rw [List.max?_eq_some_iff]
  constructor
  · simp
  · simp only [List.map_append, List.map_cons, List.mem_append, List.mem_cons, List.mem_map]
    rintro _ (⟨other, member, rfl⟩ | rfl | ⟨other, member, rfl⟩)
    · exact Nat.le_of_lt (below other member)
    · exact Nat.le_refl _
    · exact above other member

end StaffSystem
end ScorePage
