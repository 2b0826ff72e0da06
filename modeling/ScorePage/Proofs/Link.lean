import ScorePage.Link

/-! Which of the dealt items belongs to which system. A running offset counts the staves of all
systems before; each system takes the slice that begins there. -/
namespace ScorePage.Link

variable {α : Type}

def offset (systems : List StaffSystem) (place : Nat) : Nat := totalStaves (systems.take place)

def sounding (systems : List StaffSystem) : List (StaffSystem × Nat) :=
  systems.zipIdx.filter fun placed => 0 < placed.1.staves

def slice (items : List α) (start count : Nat) : List α := (items.drop start).take count

theorem sliceLength {items : List α} {start count : Nat} (inside : start + count ≤ items.length) :
    (slice items start count).length = count := by
  rw [slice, List.length_take, List.length_drop]
  omega

theorem sliceMap {β : Type} (f : α → β) (items : List α) (start count : Nat) :
    (slice items start count).map f = slice (items.map f) start count := by
  rw [slice, slice, List.map_take, List.map_drop]

def items (link : Link α) : List α := link.first :: link.others

def view (link : Link α) : Nat × StaffGroup × List α := (link.position, link.group, link.items)

def share (systems : List StaffSystem) (dealt : List α) (placed : StaffSystem × Nat) :
    Nat × StaffGroup × List α :=
  (placed.2 + 1, placed.1.group, slice dealt (offset systems placed.2) placed.1.staves)

theorem totalNil : totalStaves [] = 0 := rfl

theorem totalCons (system : StaffSystem) (systems : List StaffSystem) :
    totalStaves (system :: systems) = system.staves + totalStaves systems := rfl

theorem totalAppend (systems others : List StaffSystem) :
    totalStaves (systems ++ others) = totalStaves systems + totalStaves others := by
  simp only [totalStaves, ← List.sum_eq_foldr, List.map_append, List.sum_append]

theorem sliceBound {systems : List StaffSystem} {place : Nat} {system : StaffSystem}
    (found : systems[place]? = some system) :
    offset systems place + system.staves ≤ totalStaves systems := by
  obtain ⟨inside, rfl⟩ := List.getElem?_eq_some_iff.mp found
  have parts := totalAppend (systems.take place) (systems.drop place)
  rw [List.take_append_drop, List.drop_eq_getElem_cons inside, totalCons] at parts
  rw [offset]
  omega

theorem soundingBound {systems : List StaffSystem} {placed : StaffSystem × Nat}
    (sounds : placed ∈ sounding systems) :
    offset systems placed.2 + placed.1.staves ≤ totalStaves systems :=
  sliceBound (List.mem_zipIdx_iff_getElem?.mp (List.mem_filter.mp sounds).1)

theorem possibleResult (systems : List StaffSystem) (boxes : Nat) :
    (possible systems boxes).result = .ok (decide (totalStaves systems = boxes)) := by
  unfold possible
  split
  · rename_i matched
    rw [decide_eq_true matched]
  · rename_i unmatched
    rw [decide_eq_false unmatched]

theorem dealtBehind (before systems : List StaffSystem) (dealt : List α)
    (enough : totalStaves (before ++ systems) ≤ dealt.length) :
    (dealFrom (before.length + 1) systems (dealt.drop (totalStaves before))).map view =
      ((systems.zipIdx before.length).filter fun placed => 0 < placed.1.staves).map
        (share (before ++ systems) dealt) := by
  -- By induction on the systems still to come; `before` are those that have had their slice.
  induction systems generalizing before with
  | nil => rfl
  | cons system systems ih =>
    have joined : before ++ system :: systems = (before ++ [system]) ++ systems := by simp
    have total : totalStaves (before ++ [system]) = totalStaves before + system.staves := by
      simp [totalAppend, totalCons, totalNil]
    have start : offset (before ++ system :: systems) before.length = totalStaves before := by
      rw [offset, List.take_left]
    have further := ih (before ++ [system]) (joined ▸ enough)
    rw [total, ← joined, List.length_append, List.length_singleton, ← List.drop_drop] at further
    rw [totalAppend, totalCons] at enough
    rw [dealFrom, List.zipIdx_cons, List.filter_cons]
    by_cases silent : system.staves = 0
    · simp only [silent, List.take_zero, Nat.lt_irrefl, decide_false, Bool.false_eq_true, if_false]
      rw [silent] at further
      exact further
    · have some : 0 < system.staves := Nat.pos_of_ne_zero silent
      have sliced : (dealt.drop (totalStaves before)).take system.staves ≠ [] := by
        rw [← List.length_pos_iff, List.length_take, List.length_drop]
        omega
      obtain ⟨first, others, taken⟩ := List.exists_cons_of_ne_nil sliced
      have head : slice dealt (offset (before ++ system :: systems) before.length) system.staves =
          first :: others := by rw [start, slice, taken]
      simp only [taken, some, decide_true, if_true, List.map_cons, further, share, head]
      rfl

theorem dealtSlices {systems : List StaffSystem} {dealt : List α}
    (enough : totalStaves systems ≤ dealt.length) :
    (deal systems dealt).map view = (sounding systems).map (share systems dealt) :=
  dealtBehind [] systems dealt enough

theorem dealtWhole (position : Nat) {systems : List StaffSystem} {dealt : List α}
    (matched : totalStaves systems = dealt.length) :
    (dealFrom position systems dealt).flatMap items = dealt := by
  induction systems generalizing position dealt with
  | nil => exact (List.eq_nil_of_length_eq_zero matched.symm).symm
  | cons system systems ih =>
    have rest : totalStaves systems = (dealt.drop system.staves).length := by
      rw [totalCons] at matched
      rw [List.length_drop]
      omega
    have further := ih (position + 1) rest
    rw [dealFrom]
    split
    · rename_i silent
      have whole := List.take_append_drop system.staves dealt
      rw [silent, List.nil_append] at whole
      exact further.trans whole
    · rename_i first others taken
      rw [List.flatMap_cons, further, items, ← taken, List.take_append_drop]

theorem linkSource {position : Nat} {systems : List StaffSystem} {dealt : List α} {link : Link α}
    (member : link ∈ dealFrom position systems dealt) :
    (∃ system ∈ systems, link.group = system.group) ∧ ∀ item ∈ link.items, item ∈ dealt := by
  induction systems generalizing position dealt with
  | nil => contradiction
  | cons system systems ih =>
    have later (member : link ∈ dealFrom (position + 1) systems (dealt.drop system.staves)) :
        (∃ other ∈ system :: systems, link.group = other.group) ∧
          ∀ item ∈ link.items, item ∈ dealt := by
      obtain ⟨⟨other, listed, group⟩, inside⟩ := ih member
      exact ⟨⟨other, List.mem_cons_of_mem _ listed, group⟩,
        fun item taken => List.mem_of_mem_drop (inside item taken)⟩
    rw [dealFrom] at member
    split at member
    · exact later member
    · rename_i first others taken
      rcases List.mem_cons.mp member with rfl | member
      · refine ⟨⟨system, List.mem_cons_self, rfl⟩, ?_⟩
        intro item listed
        rw [items, ← taken] at listed
        exact List.mem_of_mem_take listed
      · exact later member

theorem dealtComplete {systems : List StaffSystem} {dealt : List α}
    (matched : totalStaves systems = dealt.length) {link : Link α}
    (member : link ∈ deal systems dealt) : link.items.length = link.group.staves := by
  have viewed : link.view ∈ (sounding systems).map (share systems dealt) := by
    rw [← dealtSlices (Nat.le_of_eq matched)]
    exact List.mem_map_of_mem member
  obtain ⟨placed, sounds, same⟩ := List.mem_map.mp viewed
  simp only [share, view, Prod.mk.injEq] at same
  obtain ⟨-, group, slices⟩ := same
  rw [← slices, ← group]
  exact sliceLength (matched ▸ soundingBound sounds)

theorem slicesWhole {systems : List StaffSystem} {dealt : List α}
    (matched : totalStaves systems = dealt.length) :
    (sounding systems).flatMap (fun placed =>
      slice dealt (offset systems placed.2) placed.1.staves) = dealt := by
  have slices := congrArg (List.flatMap fun shared => shared.2.2)
    (dealtSlices (Nat.le_of_eq matched))
  rw [List.flatMap_map, List.flatMap_map] at slices
  exact slices.symm.trans (dealtWhole 1 matched)

end ScorePage.Link
