import ScorePage.Proofs.Document.Linking

/-! Ids and references. No two elements of a document share an id, and what a staff or the beginning
of a system refers to is a zone of the surface; the search by id leads from the reference to it. -/
namespace ScorePage

namespace Element

theorem onlyOne {es : List Element} (distinct : (es.map (·.label.id)).Nodup) {e : Element}
    (member : e ∈ es) : es.filter (fun d => d.label.id = e.label.id) = [e] := by
  induction es with
  | nil => contradiction
  | cons first others ih =>
    obtain ⟨fresh, distinct⟩ := List.nodup_cons.mp distinct
    rcases List.mem_cons.mp member with rfl | member
    · have none : others.filter (fun d => d.label.id = e.label.id) = [] := by
        rw [List.filter_eq_nil_iff]
        intro d listed same
        exact fresh (List.mem_map.mpr ⟨d, listed, of_decide_eq_true same⟩)
      rw [List.filter_cons_of_pos (by simp), none]
    · have other : first.label.id ≠ e.label.id := by
        intro same
        exact fresh (List.mem_map.mpr ⟨e, member, same.symm⟩)
      rw [List.filter_cons_of_neg (by simpa using other), ih distinct member]

end Element

namespace Document
open Draft

structure ZoneOf (root surface : Element) (id : String) (zone : Element) : Prop where
  child : zone ∈ surface.children.toList
  named : zone.label.name = "zone"
  only : root.elements.filter (fun e => e.label.id = id) = [zone]
  found : root.find? id = some zone

theorem zoneOfChild {root surface zone : Element} {zones : List Element}
    (distinct : (idsOf root.elements).Nodup) (zonesFound : root.descendants "zone" = zones)
    (children : surface.children.toList = zones) (member : zone ∈ zones) :
    ZoneOf root surface zone.label.id zone := by
  have listed : zone ∈ root.descendants "zone" := zonesFound ▸ member
  rw [Element.descendantsElements] at listed
  obtain ⟨inside, named⟩ := List.mem_filter.mp listed
  have only := Element.onlyOne distinct (List.mem_cons_of_mem root inside)
  refine ⟨children ▸ member, of_decide_eq_true named, only, ?_⟩
  rw [Element.findElements, ← List.head?_filter, only]
  rfl

section

variable {boxes : List Box} {systems : List StaffSystem} {linked : Bool}
  {staffZones systemZones : List Element} {parts : List (List Element)}
  (filling : Filling boxes (if linked then Link.deal systems (boxes.zip staffZones) else [])
    staffZones systemZones parts)
include filling

theorem staffSource {staff : Element} (member : staff ∈ parts.flatten)
    (named : staff.label.name = "staff") : ∃ system ∈ systems, ∃ number ∈ system.group.numbers,
      ∃ zone ∈ staffZones, staff.unnamed = staffFor number zone.label.id := by
  obtain ⟨link, listed, ⟨zone, _, shape⟩ | ⟨number, counted, item, dealt, shape⟩⟩ :=
    filling.entryMade member
  · have other := named.symm.trans (nameOfUnnamed shape)
    exact absurd other (by simp [systemBreakFor])
  · split at listed
    · obtain ⟨⟨system, placed, group⟩, inside⟩ := Link.linkSource listed
      exact ⟨system, placed, number, group ▸ counted, item.2,
        (List.of_mem_zip (inside item dealt)).2, shape⟩
    · contradiction

theorem breakSource {start : Element} (member : start ∈ parts.flatten)
    (named : start.label.name = "sb") :
    ∃ position, ∃ zone ∈ systemZones, start.unnamed = systemBreakFor position zone.label.id := by
  obtain ⟨link, _, ⟨zone, listed, shape⟩ | ⟨number, _, item, _, shape⟩⟩ := filling.entryMade member
  · exact ⟨link.position, zone, listed, shape⟩
  · have other := named.symm.trans (nameOfUnnamed shape)
    exact absurd other (by simp [staffFor])

end

theorem referencesResolve {hints : List SystemHint} {boxes : List Box} {options : Options}
    {document : Document} {ids left : IdSupply}
    (made : (ofHints hints boxes options ids).result = .ok (document, left))
    (distinct : (ids.names (left.next - ids.next)).Nodup) :
    (idsOf document.root.elements).Nodup ∧
    ∃ surface, document.root.descendants "surface" = [surface] ∧
      (∀ staff ∈ document.root.descendants "staff", ∃ id zone,
        staff.attribute? "facs" = some id ∧ ZoneOf document.root surface id zone) ∧
      (∀ start ∈ document.root.descendants "sb", ∃ id zone,
        start.attribute? "systemref" = some id ∧ ZoneOf document.root surface id zone) := by
  obtain ⟨patterns, largest, -, -, run⟩ := ofHintsMade made
  obtain ⟨frame, staffZones, systemZones, parts, rest, ran, drafted, filling, given⟩ :=
    draftFramed options.title boxes (StaffSystem.onPage patterns)
      (Link.wanted options (StaffSystem.onPage patterns) boxes.length) largest.group ids
  cases run.symm.trans ran
  have count : left.next - ids.next = (idsOf (frame.document (staffZones ++ systemZones)
      parts.flatten).root.elements).length := by
    rw [given.left]
    exact Nat.add_sub_cancel_left _ _
  rw [count, ← given.next] at distinct
  have searches := filledSearches drafted filling.zonesPlain filling.entriesPlain
  have children : (frame.surface.addAll (staffZones ++ systemZones)).children.toList =
      staffZones ++ systemZones := by
    rw [Element.addAllToList, childrenOfUnnamed drafted.surface]
    rfl
  have resolved {zone : Element} (member : zone ∈ staffZones ++ systemZones) :=
    zoneOfChild distinct searches.zones children member
  refine ⟨distinct, _, searches.surfaces, ?_, ?_⟩
  · intro staff listed
    rw [searches.staves] at listed
    obtain ⟨entry, named⟩ := List.mem_filter.mp listed
    obtain ⟨_, _, _, _, zone, member, shape⟩ := staffSource filling entry (of_decide_eq_true named)
    exact ⟨_, zone, congrArg (Element.attribute? "facs") shape,
      resolved (List.mem_append_left _ member)⟩
  · intro start listed
    rw [searches.systemBreaks] at listed
    obtain ⟨entry, named⟩ := List.mem_filter.mp listed
    obtain ⟨_, zone, member, shape⟩ := breakSource filling entry (of_decide_eq_true named)
    exact ⟨_, zone, congrArg (Element.attribute? "systemref") shape,
      resolved (List.mem_append_right _ member)⟩

def silenceMade : Except Fault (Document × IdSupply) :=
  (ofHints silenceBetween [unitBox, unitBox, unitBox] { linkStaves := true } (.ofSeed 0)).result

theorem silenceLinked : ∃ document left, silenceMade = .ok (document, left) ∧
    (document.root.descendants "staff").length = 3 ∧
    (document.root.descendants "sb").length = 2 ∧
    (document.root.descendants "section").map (fun e => (e.descendants "staff").length) = [3] := by
  have counted : (silenceMade.toOption.map fun made =>
      ((made.1.root.descendants "staff").length, (made.1.root.descendants "sb").length,
        (made.1.root.descendants "section").map fun e => (e.descendants "staff").length)) =
      some (3, 2, [3]) := by decide +kernel
  cases made : silenceMade with
  | error fault =>
    rw [made] at counted
    contradiction
  | ok page =>
    rw [made] at counted
    obtain ⟨staves, others⟩ := Prod.mk.inj (Option.some.inj counted)
    obtain ⟨starts, inSection⟩ := Prod.mk.inj others
    exact ⟨page.1, page.2, rfl, staves, starts, inSection⟩

theorem referencesResolveAroundSilence :
    ∃ document left, silenceMade = .ok (document, left) ∧
      (idsOf document.root.elements).Nodup ∧
      ∃ surface staff start, document.root.descendants "surface" = [surface] ∧
        staff ∈ document.root.descendants "staff" ∧ start ∈ document.root.descendants "sb" ∧
        (∃ id zone, staff.attribute? "facs" = some id ∧ ZoneOf document.root surface id zone) ∧
        ∃ id zone, start.attribute? "systemref" = some id ∧
          ZoneOf document.root surface id zone := by
  obtain ⟨document, left, made, staves, starts, -⟩ := silenceLinked
  obtain ⟨staff, staffListed⟩ := List.exists_mem_of_length_pos (by rw [staves]; decide)
  obtain ⟨start, startListed⟩ := List.exists_mem_of_length_pos (by rw [starts]; decide)
  obtain ⟨distinct, surface, surfaces, staffResolves, startResolves⟩ :=
    referencesResolve made (IdSupply.namesDistinct (IdSupply.uuidDistinct 0) _)
  exact ⟨document, left, made, distinct, surface, staff, start, surfaces, staffListed, startListed,
    staffResolves staff staffListed, startResolves start startListed⟩

end Document
end ScorePage
