import ScorePage.Proofs.Document.Renaming
import ScorePage.Proofs.Element.Attributes
import ScorePage.Proofs.Xml.Tag

/-! Documents without links. None of their elements refers to another one, so that such a document is
known up to its ids from its shape, which is the same for every supply of ids. -/
namespace ScorePage
open Draft

structure Element.Unlinked (e : Element) : Prop where
  name : Xml.PlainName e.label.name
  keys : ∀ key ∈ e.label.attributes.map Prod.fst, Xml.PlainName key ∧ key ∉ referenceKeys
  text : e.label.text = none ∨ e.children = .nil

theorem Element.Unlinked.noReference {e : Element} (unlinked : e.Unlinked) {key : String}
    (reference : key ∈ referenceKeys) : e.attribute? key = none :=
  Attributes.getNone.mpr fun used => (unlinked.keys key used).2 reference

/- The shape of a document is what is left without ids. -/
def noId (_ : String) : String := ""

theorem Label.renamedUnlinked (f : String → String) {label : Label}
    (keys : ∀ key ∈ label.attributes.map Prod.fst, key ∉ referenceKeys) :
    label.renamed f = { label with id := f label.id } := by
  have kept : (label.renamed f).attributes = label.attributes := by
    conv_rhs => rw [← List.map_id label.attributes]
    refine List.map_congr_left ?_
    rintro ⟨key, value⟩ member
    have other : key ∉ referenceKeys := keys key (List.mem_map_of_mem member)
    simp [renamedValue, other]
  change { label with id := f label.id, attributes := (label.renamed f).attributes } = _
  rw [kept]

theorem Label.renamedSame {f g : String → String} {label other : Label}
    (keys : ∀ key ∈ label.attributes.map Prod.fst, key ∉ referenceKeys)
    (otherKeys : ∀ key ∈ other.attributes.map Prod.fst, key ∉ referenceKeys)
    (shape : label.renamed noId = other.renamed noId) (ids : f label.id = g other.id) :
    label.renamed f = other.renamed g := by
  rw [renamedUnlinked _ keys, renamedUnlinked _ otherKeys] at shape ⊢
  simp only [Label.mk.injEq] at shape ⊢
  exact ⟨shape.1, ids, shape.2.2⟩

namespace Forest

theorem elementsRenamed (f : String → String) (forest : Forest) :
    (forest.renamed f).elements = forest.elements.map (Element.renamed f) := by
  induction forest with
  | nil => rfl
  | cons label children rest childrenIh restIh =>
    simp [renamed, elements, childrenIh, restIh, Element.renamed]

theorem shapeLength {forest other : Forest} (shape : forest.renamed noId = other.renamed noId) :
    forest.elements.length = other.elements.length := by
  have lengths := congrArg (List.length ∘ elements) shape
  simpa [elementsRenamed] using lengths

theorem renamedSame {f g : String → String} {forest other : Forest}
    (unlinked : ∀ e ∈ forest.elements, e.Unlinked)
    (otherUnlinked : ∀ e ∈ other.elements, e.Unlinked)
    (shape : forest.renamed noId = other.renamed noId)
    (ids : (idsOf forest.elements).map f = (idsOf other.elements).map g) :
    forest.renamed f = other.renamed g := by
  -- By induction on one forest; the shape tells the other one, and where its ids go.
  induction forest generalizing other with
  | nil =>
    cases other with
    | nil => rfl
    | cons => cases shape
  | cons label children rest childrenIh restIh =>
    cases other with
    | nil => cases shape
    | cons otherLabel otherChildren otherRest =>
      simp only [renamed, cons.injEq] at shape ⊢
      obtain ⟨labels, childShapes, restShapes⟩ := shape
      simp only [elements, idsOf, List.map_cons, List.map_append] at ids
      obtain ⟨here, behind⟩ := List.cons.inj ids
      obtain ⟨within, after⟩ := List.append_inj behind (by simp [shapeLength childShapes])
      obtain ⟨first, unlinked⟩ := List.forall_mem_cons.mp unlinked
      obtain ⟨otherFirst, otherUnlinked⟩ := List.forall_mem_cons.mp otherUnlinked
      obtain ⟨inner, outer⟩ := List.forall_mem_append.mp unlinked
      obtain ⟨otherInner, otherOuter⟩ := List.forall_mem_append.mp otherUnlinked
      exact ⟨Label.renamedSame (fun key used => (first.keys key used).2)
          (fun key used => (otherFirst.keys key used).2) labels here,
        childrenIh inner otherInner childShapes within, restIh outer otherOuter restShapes after⟩

end Forest

namespace Document

theorem renamedOfShape {document other : Document}
    (distinct : (idsOf document.root.elements).Nodup)
    (otherDistinct : (idsOf other.root.elements).Nodup)
    (unlinked : ∀ e ∈ document.root.elements, e.Unlinked)
    (otherUnlinked : ∀ e ∈ other.root.elements, e.Unlinked)
    (shape : document.renamedBy noId = other.renamedBy noId) :
    document.renamed = other.renamed := by
  have whole (document : Document) :
      (Forest.cons document.root.label document.root.children .nil).elements =
        document.root.elements := by
    simp [Forest.elements, Element.elements]
  have shapes : (Forest.cons document.root.label document.root.children .nil).renamed noId =
      (Forest.cons other.root.label other.root.children .nil).renamed noId := by
    have roots := congrArg Document.root shape
    simpa [renamedBy, Element.renamed, Forest.renamed] using roots
  have lengths := Forest.shapeLength shapes
  have numbered {document : Document} (distinct : (idsOf document.root.elements).Nodup) :
      (idsOf document.root.elements).map
          (fun id => plainId ((idsOf document.root.elements).idxOf id)) =
        (List.range' 0 document.root.elements.length).map plainId := by
    have places := congrArg (List.map plainId) (placesInOrder distinct)
    rw [List.map_map, idsOf, List.length_map] at places
    exact places
  rw [whole, whole] at lengths
  have same : (Forest.cons document.root.label document.root.children .nil).renamed
        (fun id => plainId ((idsOf document.root.elements).idxOf id)) =
      (Forest.cons other.root.label other.root.children .nil).renamed
        (fun id => plainId ((idsOf other.root.elements).idxOf id)) := by
    refine Forest.renamedSame (whole document ▸ unlinked) (whole other ▸ otherUnlinked) shapes ?_
    rw [whole, whole, numbered distinct, numbered otherDistinct, lengths]
  simp only [Forest.renamed, Forest.cons.injEq] at same
  rw [renamed, renamed, renamedBy, renamedBy, Element.renamed, Element.renamed, same.1, same.2.1]

end Document

namespace Draft

theorem Declares.unlinked {group : StaffGroup} {e : Element} (declares : Declares group e) :
    e.Unlinked := by
  obtain ⟨silent, ⟨named, shape⟩ | ⟨named, number, -, shape⟩⟩ := declares
  · refine ⟨named ▸ (by decide : Xml.PlainName "staffGrp"), ?_, .inl silent⟩
    rw [shape]
    exact List.forall_mem_nil _
  · refine ⟨named ▸ (by decide : Xml.PlainName "staffDef"), ?_, .inl silent⟩
    rw [shape]
    exact (by decide : ∀ key ∈ ["n"], Xml.PlainName key ∧ key ∉ referenceKeys)

theorem staffGroupUnlinked (group : StaffGroup) (ids : IdSupply) :
    ∀ e ∈ ((staffGroup group).run ids).1.elements, e.Unlinked :=
  fun e member => (staffGroupDeclares group ids e member).unlinked

end Draft

namespace Document

theorem headUnlinked (title : Option String) (ids : IdSupply) :
    ∀ e ∈ ((head title).run ids).1.elements, e.Unlinked := by
  have made (name id : String) (plain : Xml.PlainName name) (text : Option String)
      (children : Forest) (silent : text = none ∨ children = .nil) :
      Element.Unlinked ⟨⟨name, id, [], text⟩, children⟩ := ⟨plain, List.forall_mem_nil _, silent⟩
  cases title with
  | none =>
    exact List.forall_mem_singleton.mpr (made "meiHead" _ (by decide) none .nil (.inl rfl))
  | some text =>
    refine List.forall_mem_cons.mpr ⟨made "meiHead" _ (by decide) none _ (.inl rfl), ?_⟩
    refine List.forall_mem_cons.mpr ⟨made "fileDesc" _ (by decide) none _ (.inl rfl), ?_⟩
    refine List.forall_mem_cons.mpr ⟨made "titleStmt" _ (by decide) none _ (.inl rfl), ?_⟩
    exact List.forall_mem_singleton.mpr (made "title" _ (by decide) text .nil (.inr rfl))

theorem unlinkedOfUnnamed {e shape filled : Element} (made : e.unnamed = shape)
    (same : filled.label = e.label) (name : Xml.PlainName shape.label.name)
    (keys : ∀ key ∈ shape.label.attributes.map Prod.fst, Xml.PlainName key ∧ key ∉ referenceKeys)
    (silent : shape.label.text = none) : filled.Unlinked := by
  subst made
  constructor
  · rw [same]
    exact name
  · rw [same]
    exact keys
  · rw [same]
    exact .inl silent

theorem zoneUnlinked {boxes : List Box} {zones : List Element}
    (zonesOfBoxes : zones.map Element.unnamed = boxes.map zoneFor) {zone : Element}
    (member : zone ∈ zones) : zone.Unlinked ∧ zone.children = .nil := by
  have made : zone.unnamed ∈ boxes.map zoneFor := zonesOfBoxes ▸ List.mem_map_of_mem member
  obtain ⟨box, _, shape⟩ := List.mem_map.mp made
  refine ⟨unlinkedOfUnnamed shape.symm rfl ?_ ?_ rfl, childrenOfUnnamed shape.symm⟩
  · exact (by decide : Xml.PlainName "zone")
  · exact (by decide : ∀ key ∈ ["ulx", "uly", "lrx", "lry"],
      Xml.PlainName key ∧ key ∉ referenceKeys)

theorem plainZones {boxes : List Box} {zones : List Element}
    (zonesOfBoxes : zones.map Element.unnamed = boxes.map zoneFor) :
    ∀ zone ∈ zones, Plain ["zone"] zone := by
  refine plainOfUnnamed zonesOfBoxes fun shape member => ?_
  obtain ⟨box, _, rfl⟩ := List.mem_map.mp member
  exact ⟨rfl, .head _⟩

namespace Frame

variable {frame : Frame} {title : Option String} {largest : StaffGroup} {boxes : List Box}
  {zones : List Element}

theorem bareUnlinked {e filled : Element} {name : String} (made : e.unnamed = bare name "")
    (same : filled.label = e.label) (plain : Xml.PlainName name) : filled.Unlinked :=
  unlinkedOfUnnamed made same plain (List.forall_mem_nil _) rfl

theorem elementsUnlinked (drafted : frame.Drafted title largest)
    (zonesOfBoxes : zones.map Element.unnamed = boxes.map zoneFor) :
    ∀ e ∈ (frame.document zones []).root.elements, e.Unlinked := by
  obtain ⟨headIds, headDrafted⟩ := drafted.head
  obtain ⟨groupIds, groupDrafted⟩ := drafted.definition
  have zonesInside : ∀ e ∈ zones.flatMap Element.elements, e.Unlinked := by
    rw [Element.childlessElements fun zone member => (zoneUnlinked zonesOfBoxes member).2]
    exact fun zone member => (zoneUnlinked zonesOfBoxes member).1
  rw [Element.elements, documentElements drafted]
  simp only [List.forall_mem_cons, List.forall_mem_append, List.flatMap_nil]
  refine ⟨?_, headDrafted ▸ headUnlinked title headIds, ?_, ⟨⟨?_, ?_, zonesInside⟩, ?_, ?_, ?_, ?_,
    groupDrafted ▸ staffGroupUnlinked largest groupIds, ?_, List.forall_mem_nil _⟩⟩
  · exact unlinkedOfUnnamed drafted.root rfl (by decide : Xml.PlainName "mei")
      (by decide : ∀ key ∈ ["meiversion"], Xml.PlainName key ∧ key ∉ referenceKeys) rfl
  · exact bareUnlinked drafted.music rfl (by decide)
  · exact bareUnlinked drafted.facsimile rfl (by decide)
  · exact bareUnlinked drafted.surface rfl (by decide)
  · exact bareUnlinked drafted.body rfl (by decide)
  · exact bareUnlinked drafted.mdiv rfl (by decide)
  · exact bareUnlinked drafted.score rfl (by decide)
  · exact bareUnlinked drafted.scoreDef rfl (by decide)
  · exact bareUnlinked drafted.sect rfl (by decide)

def shape (title : Option String) (largest : StaffGroup) : Frame where
  root := (bare "mei" "").setAttribute "meiversion" version
  head := ((Document.head title).run ⟨noId ∘ toString, 0⟩).1
  music := bare "music" ""
  facsimile := bare "facsimile" ""
  surface := bare "surface" ""
  body := bare "body" ""
  mdiv := bare "mdiv" ""
  score := bare "score" ""
  scoreDef := bare "scoreDef" ""
  definition := ((staffGroup largest).run ⟨noId ∘ toString, 0⟩).1
  sect := bare "section" ""

theorem documentShape (drafted : frame.Drafted title largest)
    (zonesOfBoxes : zones.map Element.unnamed = boxes.map zoneFor) :
    (frame.document zones []).renamedBy noId =
      (shape title largest).document (boxes.map zoneFor) [] := by
  have unnamed {e made : Element} (same : e.unnamed = made) :
      e.renamed noId = made.renamed noId := by
    rw [← same]
    rfl
  have natural {draft : Draft Element}
      (renames : Natural noId (Element.renamed noId) draft draft) (ids : IdSupply) :
      ((draft.run ids).1).renamed noId = (draft.run ⟨noId ∘ toString, 0⟩).1 := by
    obtain ⟨count, -, same⟩ := renames ids ⟨noId ∘ toString, 0⟩
    rw [same (by simp [IdSupply.names, Function.comp_def, noId])]
  obtain ⟨headIds, headDrafted⟩ := drafted.head
  obtain ⟨groupIds, groupDrafted⟩ := drafted.definition
  have head : frame.head.renamed noId = (shape title largest).head := by
    rw [headDrafted]
    exact natural (headNatural title) headIds
  have definition : frame.definition.renamed noId = (shape title largest).definition := by
    rw [groupDrafted]
    exact natural (staffGroupNatural largest) groupIds
  have zonesRenamed : zones.map (Element.renamed noId) = boxes.map zoneFor := by
    have shapes := congrArg (List.map (Element.renamed noId)) zonesOfBoxes
    rw [List.map_map, List.map_map] at shapes
    exact shapes
  rw [renamedBy, document]
  simp only [image, notes, Element.renamedAdd, Element.renamedAddAll, unnamed drafted.root,
    unnamed drafted.music, unnamed drafted.facsimile, unnamed drafted.surface,
    unnamed drafted.body, unnamed drafted.mdiv, unnamed drafted.score, unnamed drafted.scoreDef,
    unnamed drafted.sect, head, definition, zonesRenamed, List.map_nil]
  rfl

end Frame

theorem draftUnlinked (title : Option String) (boxes : List Box) (systems : List StaffSystem)
    (largest : StaffGroup) (ids : IdSupply) :
    ∃ frame zones left,
      (draft title boxes systems false largest).run ids = (Frame.document frame zones [], left) ∧
      frame.Drafted title largest ∧
      zones.map Element.unnamed = boxes.map zoneFor ∧
      ids.Gives (idsOf (Frame.document frame zones []).root.elements) left := by
  obtain ⟨frame, staffZones, systemZones, parts, left, ran, drafted, filling, given⟩ :=
    draftFramed title boxes systems false largest ids
  have noZones : systemZones = [] := List.map_eq_nil_iff.mp filling.zonesOfLinks
  have noParts : parts = [] := List.map_eq_nil_iff.mp filling.partsOfLinks
  subst noZones noParts
  rw [List.append_nil, List.flatten_nil] at ran given
  exact ⟨frame, staffZones, left, ran, drafted, filling.zonesOfBoxes, given⟩

end Document
end ScorePage
