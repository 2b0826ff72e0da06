import Mathlib.Data.List.Lex
import ScorePage.Proofs.Element

/-! Places in a tree. A place says, from the top down, which child to go to; ordered as words, places
are in document order. What a search finds is told by its places. -/
namespace ScorePage

def Element.at? (e : Element) : (place : List Nat) → Option Element
  | [] => some e
  | i :: inner => (e.children.toList[i]?).bind fun child => child.at? inner

def Forest.at? (forest : Forest) : (place : List Nat) → Option Element
  | [] => none
  | i :: inner => (forest.toList[i]?).bind fun child => child.at? inner

def Forest.placed (i : Nat) : Forest → List (List Nat × Element)
  | .nil => []
  | .cons label children rest =>
      ([i], ⟨label, children⟩) ::
        ((children.placed 0).map (fun (inner, e) => (i :: inner, e)) ++ rest.placed (i + 1))

def Element.placed (e : Element) : List (List Nat × Element) := ([], e) :: e.children.placed 0

def Ascending (placed : List (List Nat × Element)) : Prop :=
  placed.Pairwise fun earlier later => earlier.1 < later.1

namespace Forest

theorem placedElements (i : Nat) (forest : Forest) :
    (forest.placed i).map Prod.snd = forest.elements := by
  induction forest generalizing i with
  | nil => rfl
  | cons label children rest childrenIh restIh =>
    rw [placed, elements, List.map_cons, List.map_append, List.map_map, restIh, ← childrenIh 0]
    rfl

theorem placedExact {i : Nat} {forest : Forest} {place : List Nat} {e : Element} :
    (place, e) ∈ forest.placed i ↔
      ∃ k inner, place = (i + k) :: inner ∧ forest.at? (k :: inner) = some e := by
  induction forest generalizing i place with
  | nil => simp [placed, at?, toList]
  | cons label children rest childrenIh restIh =>
    rw [placed, List.mem_cons, List.mem_append, restIh]
    constructor
    · rintro (here | inside | ⟨k, inner, rfl, found⟩)
      · cases here
        exact ⟨0, [], rfl, rfl⟩
      · obtain ⟨⟨inner, d⟩, listed, same⟩ := List.mem_map.mp inside
        cases same
        obtain ⟨k, further, rfl, found⟩ := childrenIh.mp listed
        rw [Nat.zero_add]
        exact ⟨0, k :: further, rfl, found⟩
      · exact ⟨k + 1, inner, by rw [Nat.add_assoc, Nat.add_comm 1], found⟩
    · rintro ⟨k, inner, rfl, found⟩
      cases k with
      | zero =>
        cases inner with
        | nil =>
          cases Option.some.inj found
          exact .inl rfl
        | cons k further =>
          have listed := childrenIh.mpr ⟨k, further, by rw [Nat.zero_add], found⟩
          exact .inr (.inl (List.mem_map_of_mem listed))
      | succ k => exact .inr (.inr ⟨k, inner, by rw [Nat.add_assoc, Nat.add_comm 1], found⟩)

theorem placedAscending (i : Nat) (forest : Forest) : Ascending (forest.placed i) := by
  induction forest generalizing i with
  | nil => exact .nil
  | cons label children rest childrenIh restIh =>
    have inside {inner : List Nat × Element} (listed : inner ∈ (children.placed 0).map
        fun (inner, e) => (i :: inner, e)) : ∃ k further, inner.1 = i :: k :: further := by
      obtain ⟨⟨place, d⟩, member, rfl⟩ := List.mem_map.mp listed
      obtain ⟨k, further, rfl, -⟩ := placedExact.mp member
      exact ⟨_, further, rfl⟩
    have behind {later : List Nat × Element} (listed : later ∈ rest.placed (i + 1)) :
        ∃ k further, later.1 = k :: further ∧ i < k := by
      obtain ⟨k, further, place, -⟩ := placedExact.mp listed
      exact ⟨_, further, place, by omega⟩
    rw [Ascending, placed, List.pairwise_cons, List.pairwise_append]
    refine ⟨fun next listed => ?_, ?_, restIh (i + 1), fun inner listed next later => ?_⟩
    · rcases List.mem_append.mp listed with listed | listed
      · obtain ⟨k, further, place⟩ := inside listed
        rw [place]
        exact List.cons_lt_cons_iff.mpr (.inr ⟨rfl, List.nil_lt_cons k further⟩)
      · obtain ⟨k, further, place, larger⟩ := behind listed
        rw [place]
        exact List.cons_lt_cons_iff.mpr (.inl larger)
    · rw [List.pairwise_map]
      exact (childrenIh 0).imp fun ordered => List.cons_lt_cons_iff.mpr (.inr ⟨rfl, ordered⟩)
    · obtain ⟨_, _, place⟩ := inside listed
      obtain ⟨_, further, otherPlace, larger⟩ := behind later
      rw [place, otherPlace]
      exact List.cons_lt_cons_iff.mpr (.inl larger)

end Forest

namespace Element

theorem insideExact {e d : Element} {place : List Nat} :
    (place, d) ∈ e.children.placed 0 ↔ place ≠ [] ∧ e.at? place = some d := by
  rw [Forest.placedExact]
  constructor
  · rintro ⟨k, inner, rfl, found⟩
    rw [Nat.zero_add]
    exact ⟨List.cons_ne_nil k inner, found⟩
  · rintro ⟨some, found⟩
    obtain ⟨k, inner, rfl⟩ := List.exists_cons_of_ne_nil some
    exact ⟨k, inner, by rw [Nat.zero_add], found⟩

theorem placedExact {e d : Element} {place : List Nat} :
    (place, d) ∈ e.placed ↔ e.at? place = some d := by
  rw [placed, List.mem_cons, insideExact]
  constructor
  · rintro (here | ⟨-, found⟩)
    · cases here
      rfl
    · exact found
  · intro found
    cases place with
    | nil =>
      cases Option.some.inj found
      exact .inl rfl
    | cons k inner => exact .inr ⟨List.cons_ne_nil k inner, found⟩

theorem placedAscending (e : Element) : Ascending e.placed := by
  refine .cons (fun next listed => ?_) (e.children.placedAscending 0)
  obtain ⟨k, further, place, -⟩ := Forest.placedExact.mp listed
  rw [place]
  exact List.nil_lt_cons _ further

theorem placedElements (e : Element) : e.placed.map Prod.snd = e.elements := by
  rw [placed, List.map_cons, Forest.placedElements, elements]

theorem firstPlaced {placed : List (List Nat × Element)} (ascending : Ascending placed)
    (property : Element → Bool) {place : List Nat} {d : Element} :
    placed.find? (fun entry => property entry.2) = some (place, d) ↔
      (place, d) ∈ placed ∧ property d = true ∧
        ∀ earlier other, (earlier, other) ∈ placed → earlier < place → property other = false := by
  rw [List.find?_eq_some_iff_append]
  constructor
  · rintro ⟨has, before, after, rfl, lacking⟩
    obtain ⟨-, behind, -⟩ := List.pairwise_append.mp ascending
    refine ⟨by simp, has, fun earlier other listed lower => ?_⟩
    rcases List.mem_append.mp listed with listed | listed
    · simpa using lacking _ listed
    · rcases List.mem_cons.mp listed with same | listed
      · cases same
        exact absurd lower (lt_irrefl place)
      · exact absurd lower (lt_asymm ((List.pairwise_cons.mp behind).1 _ listed))
  · rintro ⟨listed, has, lacking⟩
    obtain ⟨before, after, rfl⟩ := List.append_of_mem listed
    obtain ⟨-, -, lower⟩ := List.pairwise_append.mp ascending
    refine ⟨has, before, after, rfl, fun entry earlier => ?_⟩
    have lacks := lacking entry.1 entry.2 (List.mem_append_left _ earlier)
      (lower entry earlier _ List.mem_cons_self)
    rw [lacks]
    rfl

theorem findPlaced (id : String) (e : Element) :
    e.find? id = (e.placed.find? fun entry => entry.2.label.id = id).map Prod.snd := by
  rw [findElements, ← placedElements, List.find?_map]
  rfl

theorem foundFirst {e d : Element} {id : String} :
    e.find? id = some d ↔ ∃ place, e.at? place = some d ∧ d.label.id = id ∧
      ∀ earlier < place, ∀ other, e.at? earlier = some other → other.label.id ≠ id := by
  rw [findPlaced, Option.map_eq_some_iff]
  constructor
  · rintro ⟨⟨place, _⟩, found, rfl⟩
    obtain ⟨listed, named, lacking⟩ := (firstPlaced e.placedAscending (·.label.id = id)).mp found
    refine ⟨place, placedExact.mp listed, of_decide_eq_true named, ?_⟩
    intro earlier lower other there
    exact of_decide_eq_false (lacking earlier other (placedExact.mpr there) lower)
  · rintro ⟨place, there, named, lacking⟩
    refine ⟨(place, d), (firstPlaced e.placedAscending (·.label.id = id)).mpr
      ⟨placedExact.mpr there, decide_eq_true named, ?_⟩, rfl⟩
    intro earlier other listed lower
    exact decide_eq_false (lacking earlier lower other (placedExact.mp listed))

theorem foundNowhere {e : Element} {id : String} :
    e.find? id = none ↔ ∀ place d, e.at? place = some d → d.label.id ≠ id := by
  simp only [findPlaced, Option.map_eq_none_iff, List.find?_eq_none, decide_eq_true_eq, Prod.forall,
    placedExact]

def placesOf (name : String) (e : Element) : List (List Nat) :=
  ((e.children.placed 0).filter fun entry => entry.2.label.name = name).map Prod.fst

theorem placesExact {e : Element} {name : String} {place : List Nat} :
    place ∈ e.placesOf name ↔
      place ≠ [] ∧ ∃ d, e.at? place = some d ∧ d.label.name = name := by
  simp only [placesOf, List.mem_map, List.mem_filter, Prod.exists, decide_eq_true_eq, insideExact]
  constructor
  · rintro ⟨_, d, ⟨⟨below, there⟩, named⟩, rfl⟩
    exact ⟨below, d, there, named⟩
  · rintro ⟨below, d, there, named⟩
    exact ⟨place, d, ⟨⟨below, there⟩, named⟩, rfl⟩

theorem placesAscending (name : String) (e : Element) : (e.placesOf name).Pairwise (· < ·) := by
  rw [placesOf, List.pairwise_map]
  exact (e.children.placedAscending 0).filter _

theorem descendantsPlaced (name : String) (e : Element) :
    (e.descendants name).map some = (e.placesOf name).map e.at? := by
  rw [descendantsElements, ← Forest.placedElements 0, List.filter_map, List.map_map, placesOf,
    List.map_map]
  refine List.map_congr_left fun entry listed => ?_
  exact (insideExact.mp (List.mem_filter.mp listed).1).2.symm

theorem addDescendants (e child : Element) (name : String) :
    (e.add child).descendants name =
      e.descendants name ++ child.elements.filter fun d => d.label.name = name := by
  rw [descendantsElements, descendantsElements, addElements, List.filter_append]

theorem searchesByPlace (e : Element) :
    (∀ name, ∃ places : List (List Nat),
      places.Pairwise (· < ·) ∧
      (∀ place, place ∈ places ↔
        place ≠ [] ∧ ∃ d, e.at? place = some d ∧ d.label.name = name) ∧
      (e.descendants name).map some = places.map e.at?) ∧
    (∀ id d, e.find? id = some d ↔ ∃ place, e.at? place = some d ∧ d.label.id = id ∧
      ∀ earlier < place, ∀ other, e.at? earlier = some other → other.label.id ≠ id) ∧
    (∀ id, e.find? id = none ↔ ∀ place d, e.at? place = some d → d.label.id ≠ id) ∧
    ∀ child name, (e.add child).descendants name = e.descendants name ++
      (if child.label.name = name then [child] else []) ++ child.descendants name := by
  refine ⟨fun name => ?_, fun id d => foundFirst, fun id => foundNowhere, fun child name => ?_⟩
  · exact ⟨e.placesOf name, e.placesAscending name, fun place => placesExact, e.descendantsPlaced name⟩
  · rw [addDescendants, elements, List.filter_cons, ← descendantsElements]
    by_cases named : child.label.name = name <;> simp [named]

end Element
end ScorePage
