import ScorePage.Proofs.Decimal
import ScorePage.Proofs.Draft

/-! Staff groups read off the elements that declare them. -/
namespace ScorePage

def Forest.staffGroup : Forest → StaffGroup
  | .nil => .nil
  | .cons label children rest =>
      if label.name = "staffDef" then
        .leaf (Nat.ofDigitChars 10 ((Attributes.get? "n" label.attributes).getD "").toList 0)
          rest.staffGroup
      else .nested children.staffGroup rest.staffGroup

/- A `staffDef` has to spell its number in digits, and any other element to be a `staffGrp`. -/
def Forest.staffItems? : Forest → Option StaffGroup
  | .nil => some .nil
  | .cons label children rest =>
      if label.name = "staffDef" then do
        let text ← Attributes.get? "n" label.attributes
        let number ← Decimal.digits? text.toList
        let others ← rest.staffItems?
        some (.leaf number others)
      else if label.name = "staffGrp" then do
        let inner ← children.staffItems?
        let others ← rest.staffItems?
        some (.nested inner others)
      else none

def Element.staffGroup? (e : Element) : Option StaffGroup :=
  if e.label.name = "staffGrp" then e.children.staffItems? else none

def Nest.innerGroups {α : Type} : Nest α → List (Nest α)
  | .nil => []
  | .leaf _ rest => rest.innerGroups
  | .nested inner rest => inner :: (inner.innerGroups ++ rest.innerGroups)

def Nest.groups {α : Type} (group : Nest α) : List (Nest α) := group :: group.innerGroups

theorem Forest.staffGroupOfItems {forest : Forest} {group : StaffGroup}
    (read : forest.staffItems? = some group) : forest.staffGroup = group := by
  induction forest generalizing group with
  | nil => exact Option.some.inj read
  | cons label children rest childrenIh restIh =>
    rw [staffItems?] at read
    rw [staffGroup]
    split at read
    · rename_i staff
      simp only [bind, Option.bind_eq_some_iff] at read
      obtain ⟨text, told, number, digits, others, further, same⟩ := read
      cases same
      rw [if_pos staff, restIh further, told, Option.getD_some, Decimal.digitsValue digits]
    · rename_i other
      split at read
      · simp only [bind, Option.bind_eq_some_iff] at read
        obtain ⟨inner, inside, others, further, same⟩ := read
        cases same
        rw [if_neg other, childrenIh inside, restIh further]
      · contradiction

namespace Draft

theorem numberTextRead (number : Nat) :
    Decimal.digits? (toString number).toList = some number := by
  change Decimal.digits? (String.ofList (Nat.toDigits 10 number)).toList = some number
  rw [String.toList_ofList, Decimal.digitsRead Nat.toDigits_ne_nil (Text.numberDigits number),
    Nat.ofDigitChars_ten_toDigits]

theorem groupNoStaff : "staffGrp" ≠ "staffDef" := by decide

theorem staffItemsLeaf (number : Nat) (rest : StaffGroup) (ids : IdSupply) :
    ((staffItems (.leaf number rest)).run ids).1 =
      .cons ⟨"staffDef", ids.name ids.next, [("n", toString number)], none⟩ .nil
        ((staffItems rest).run (ids.after 1)).1 := rfl

theorem staffItemsNested (inner rest : StaffGroup) (ids : IdSupply) :
    ((staffItems (.nested inner rest)).run ids).1 =
      .cons ⟨"staffGrp", ids.name ids.next, [], none⟩ ((staffItems inner).run (ids.after 1)).1
        ((staffItems rest).run ((staffItems inner).run (ids.after 1)).2).1 := rfl

theorem staffGroupMade (group : StaffGroup) (ids : IdSupply) :
    ((staffGroup group).run ids).1 =
      ⟨⟨"staffGrp", ids.name ids.next, [], none⟩, ((staffItems group).run (ids.after 1)).1⟩ := rfl

theorem staffItemsSpelled (group : StaffGroup) (ids : IdSupply) :
    ((staffItems group).run ids).1.staffItems? = some group := by
  induction group generalizing ids with
  | nil => rfl
  | leaf number rest ih =>
    rw [staffItemsLeaf, Forest.staffItems?, if_pos rfl, ih]
    change (Decimal.digits? (toString number).toList).bind (fun n => some (Nest.leaf n rest)) = _
    rw [numberTextRead, Option.bind_some]
  | nested inner rest innerIh restIh =>
    rw [staffItemsNested, Forest.staffItems?, if_neg groupNoStaff, if_pos rfl, innerIh, restIh]
    rfl

theorem staffItemsRead (group : StaffGroup) (ids : IdSupply) :
    ((staffItems group).run ids).1.staffGroup = group :=
  Forest.staffGroupOfItems (staffItemsSpelled group ids)

theorem staffItemsNumbers (group : StaffGroup) (ids : IdSupply) :
    (((staffItems group).run ids).1.named "staffDef").map (Element.attribute? "n") =
      group.numbers.map fun number => some (toString number) := by
  induction group generalizing ids with
  | nil => rfl
  | leaf number rest ih =>
    have others := ih (ids.after 1)
    exact congrArg (some (toString number) :: ·) others
  | nested inner rest innerIh restIh =>
    have first := innerIh (ids.after 1)
    have second := restIh ((staffItems inner).run (ids.after 1)).2
    rw [StaffGroup.numbers] at first second ⊢
    rw [Nest.leaves, List.map_append, ← first, ← second, ← List.map_append]
    rfl

theorem staffItemsGroups (group : StaffGroup) (ids : IdSupply) :
    (((staffItems group).run ids).1.named "staffGrp").map Element.staffGroup? =
      group.innerGroups.map some := by
  induction group generalizing ids with
  | nil => rfl
  | leaf number rest ih =>
    rw [staffItemsLeaf, Forest.named, if_neg groupNoStaff.symm]
    exact ih _
  | nested inner rest innerIh restIh =>
    rw [staffItemsNested, Forest.named, if_pos rfl, Nest.innerGroups, List.map_cons, List.map_append,
      innerIh, restIh, List.map_cons, List.map_append, Element.staffGroup?, if_pos rfl,
      staffItemsSpelled]

def Declares (group : StaffGroup) (e : Element) : Prop :=
  e.label.text = none ∧ (e.label.name = "staffGrp" ∧ e.label.attributes = [] ∨
    e.label.name = "staffDef" ∧ ∃ number ∈ group.numbers,
      e.label.attributes = [("n", toString number)])

theorem Declares.more {group other : StaffGroup} {e : Element} (declares : Declares group e)
    (inside : ∀ number ∈ group.numbers, number ∈ other.numbers) : Declares other e := by
  obtain ⟨silent, shape | ⟨named, number, listed, shape⟩⟩ := declares
  · exact ⟨silent, .inl shape⟩
  · exact ⟨silent, .inr ⟨named, number, inside number listed, shape⟩⟩

theorem staffItemsDeclare (group : StaffGroup) (ids : IdSupply) :
    ∀ e ∈ ((staffItems group).run ids).1.elements, Declares group e := by
  induction group generalizing ids with
  | nil => nofun
  | leaf number rest ih =>
    rw [staffItemsLeaf, Forest.elements]
    refine List.forall_mem_cons.mpr ⟨⟨rfl, .inr ⟨rfl, number, List.mem_cons_self, rfl⟩⟩, ?_⟩
    intro e member
    exact (ih _ e member).more fun _ => List.mem_cons_of_mem _
  | nested inner rest innerIh restIh =>
    rw [staffItemsNested, Forest.elements]
    refine List.forall_mem_cons.mpr ⟨⟨rfl, .inl ⟨rfl, rfl⟩⟩, ?_⟩
    intro e member
    rcases List.mem_append.mp member with member | member
    · exact (innerIh _ e member).more fun _ => List.mem_append_left _
    · exact (restIh _ e member).more fun _ => List.mem_append_right _

theorem staffGroupDeclares (group : StaffGroup) (ids : IdSupply) :
    ∀ e ∈ ((staffGroup group).run ids).1.elements, Declares group e := by
  rw [staffGroupMade, Element.elements]
  exact List.forall_mem_cons.mpr ⟨⟨rfl, .inl ⟨rfl, rfl⟩⟩, staffItemsDeclare group _⟩

theorem staffGroupDeclared (group : StaffGroup) (ids : IdSupply) :
    ∃ e left, (staffGroup group).run ids = (e, left) ∧ e.staffGroup? = some group ∧
      (e.descendants "staffDef").map (Element.attribute? "n") =
        group.numbers.map (fun number => some (toString number)) ∧
      (e.elements.filter fun d => d.label.name = "staffGrp").map Element.staffGroup? =
        group.groups.map some ∧
      ∀ d ∈ e.elements, Declares group d := by
  refine ⟨((staffGroup group).run ids).1, ((staffGroup group).run ids).2, rfl, ?_, ?_, ?_,
    staffGroupDeclares group ids⟩
  · rw [staffGroupMade, Element.staffGroup?, if_pos rfl, staffItemsSpelled]
  · rw [staffGroupMade]
    exact staffItemsNumbers group _
  · rw [staffGroupMade, Element.elements, List.filter_cons_of_pos (by rfl), ← Forest.namedElements,
      List.map_cons, staffItemsGroups, Element.staffGroup?, if_pos rfl, staffItemsSpelled, Nest.groups,
      List.map_cons]

end Draft
end ScorePage
