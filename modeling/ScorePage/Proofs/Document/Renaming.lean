import ScorePage.Proofs.Document.Frame

/-! Renaming of ids. Two supplies give the same document but for the ids of its elements and of what
refers to them; renamed by where they occur first, the ids are the same as well. -/
namespace ScorePage

def referenceKeys : List String := ["facs", "systemref"]

section

variable (f : String → String)

def renamedValue (key value : String) : String := if key ∈ referenceKeys then f value else value

def Label.renamed (label : Label) : Label :=
  { label with
    id := f label.id
    attributes := label.attributes.map fun (key, value) => (key, renamedValue f key value) }

def Forest.renamed : Forest → Forest
  | .nil => .nil
  | .cons label children rest => .cons (label.renamed f) children.renamed rest.renamed

def Element.renamed (e : Element) : Element := ⟨e.label.renamed f, e.children.renamed f⟩

theorem Attributes.renamedSet (key value : String) (attributes : List (String × String)) :
    (set key value attributes).map (fun (k, v) => (k, renamedValue f k v)) =
      set key (renamedValue f key value)
        (attributes.map fun (k, v) => (k, renamedValue f k v)) := by
  induction attributes with
  | nil => rfl
  | cons first rest ih =>
    obtain ⟨k, v⟩ := first
    by_cases same : k = key <;> simp [set, same, ih]

theorem Forest.renamedAppend (forest other : Forest) :
    (forest.append other).renamed f = (forest.renamed f).append (other.renamed f) := by
  induction forest with
  | nil => rfl
  | cons label children rest _ ih => simp [append, renamed, ih]

theorem Forest.renamedOfList (es : List Element) :
    (ofList es).renamed f = ofList (es.map (Element.renamed f)) := by
  induction es with
  | nil => rfl
  | cons e es ih => simp [ofList, renamed, ih, Element.renamed]

namespace Element

theorem renamedSetAttribute (key value : String) (e : Element) :
    (e.setAttribute key value).renamed f =
      (e.renamed f).setAttribute key (renamedValue f key value) := by
  simp [setAttribute, renamed, Label.renamed, Attributes.renamedSet]

theorem renamedAdd (e child : Element) :
    (e.add child).renamed f = (e.renamed f).add (child.renamed f) := by
  simp [add, renamed, Forest.renamedAppend, Forest.renamed]

theorem renamedAddAll (e : Element) (children : List Element) :
    (e.addAll children).renamed f = (e.renamed f).addAll (children.map (renamed f)) := by
  simp [addAll, renamed, Forest.renamedAppend, Forest.renamedOfList]

end Element

end

namespace Link

def mapItems {α β : Type} (g : α → β) (link : Link α) : Link β :=
  ⟨link.position, link.group, g link.first, link.others.map g⟩

theorem dealMapped {α β : Type} (g : α → β) (position : Nat) (systems : List StaffSystem)
    (dealt : List α) :
    dealFrom position systems (dealt.map g) = (dealFrom position systems dealt).map (mapItems g) := by
  induction systems generalizing position dealt with
  | nil => rfl
  | cons system systems ih =>
    simp only [dealFrom, ← List.map_drop, ← List.map_take, ih]
    cases dealt.take system.staves with
    | nil => rfl
    | cons first others => rfl

end Link

namespace Draft

variable {α β γ δ : Type} {f : String → String}

/- The other draft makes the same as the first, as `view` shows it, once `f` takes the ids that the
first one takes to those that are there for the other. -/
def Natural (f : String → String) (view : α → β) (draft : Draft α) (other : Draft β) : Prop :=
  ∀ ids supply : IdSupply, ∃ count, (draft.run ids).2 = ids.after count ∧
    ((ids.names count).map f = supply.names count →
      other.run supply = (view (draft.run ids).1, supply.after count))

theorem naturalPure {view : α → β} {value : α} {shown : β} (same : shown = view value) :
    Natural f view (pure value) (pure shown) :=
  fun _ _ => ⟨0, rfl, fun _ => by rw [runPure, runPure, same]; rfl⟩

theorem naturalBind {view : α → β} {shown : γ → δ} {first : Draft α} {second : Draft β}
    {next : α → Draft γ} {onward : β → Draft δ} (head : Natural f view first second)
    (tail : ∀ value, Natural f shown (next value) (onward (view value))) :
    Natural f shown (first >>= next) (second >>= onward) := by
  intro ids supply
  obtain ⟨m, left, same⟩ := head ids supply
  obtain ⟨n, rest, sameRest⟩ := tail (first.run ids).1 (ids.after m) (supply.after m)
  refine ⟨m + n, ?_, ?_⟩
  · rw [runBind, left, rest, IdSupply.afterAfter]
  · intro names
    rw [IdSupply.namesAdd, IdSupply.namesAdd, List.map_append] at names
    obtain ⟨front, back⟩ := List.append_inj names (by simp [IdSupply.names])
    rw [runBind, runBind, same front, left, sameRest back, IdSupply.afterAfter]

theorem naturalMapM {view : α → β} {shown : γ → δ} {g : α → Draft γ} {h : β → Draft δ}
    (each : ∀ x, Natural f shown (g x) (h (view x))) (xs : List α) :
    Natural f (List.map shown) (xs.mapM g) ((xs.map view).mapM h) := by
  induction xs with
  | nil => exact naturalPure rfl
  | cons x xs ih =>
    rw [List.map_cons, List.mapM_cons, List.mapM_cons]
    exact naturalBind (each x) fun _ => naturalBind ih fun _ => naturalPure rfl

theorem naturalSame {shown : γ → δ} {g : α → Draft γ} {h : α → Draft δ}
    (each : ∀ x, Natural f shown (g x) (h x)) (xs : List α) :
    Natural f (List.map shown) (xs.mapM g) (xs.mapM h) := by
  have mapped : Natural f (List.map shown) (xs.mapM g) ((xs.map id).mapM h) :=
    naturalMapM each xs
  rwa [List.map_id] at mapped

theorem elementNatural (name : String) :
    Natural f (Element.renamed f) (element name) (element name) := by
  intro ids supply
  refine ⟨1, rfl, ?_⟩
  intro names
  have given : f (ids.name ids.next) = supply.name supply.next := (List.cons.inj names).1
  change ((⟨{ name, id := supply.name supply.next }, .nil⟩ : Element), supply.after 1) = _
  rw [← given]
  rfl

theorem zoneNatural (box : Box) : Natural f (Element.renamed f) (zone box) (zone box) := by
  refine naturalBind (elementNatural "zone") fun e => naturalPure ?_
  simp [Element.renamedSetAttribute, renamedValue, referenceKeys]

theorem staffNatural (number : Nat) (zoneId : String) :
    Natural f (Element.renamed f) (staff number zoneId) (staff number (f zoneId)) := by
  refine naturalBind (elementNatural "staff") fun e => naturalPure ?_
  simp [Element.renamedSetAttribute, renamedValue, referenceKeys]

theorem systemBreakNatural (position : Nat) (zoneId : String) :
    Natural f (Element.renamed f) (systemBreak position zoneId)
      (systemBreak position (f zoneId)) := by
  refine naturalBind (elementNatural "sb") fun e => naturalPure ?_
  simp [Element.renamedSetAttribute, renamedValue, referenceKeys]

theorem staffItemsNatural (group : StaffGroup) :
    Natural f (Forest.renamed f) (staffItems group) (staffItems group) := by
  induction group with
  | nil => exact naturalPure rfl
  | leaf number rest ih =>
    refine naturalBind (elementNatural "staffDef") fun e => naturalBind ih fun others =>
      naturalPure ?_
    have plain : renamedValue f "n" (toString number) = toString number := by
      simp [renamedValue, referenceKeys]
    have labelled := congrArg Element.label (e.renamedSetAttribute f "n" (toString number))
    rw [plain] at labelled
    rw [← labelled]
    rfl
  | nested inner rest innerIh restIh =>
    exact naturalBind (elementNatural "staffGrp") fun e => naturalBind innerIh fun children =>
      naturalBind restIh fun others => naturalPure rfl

theorem staffGroupNatural (group : StaffGroup) :
    Natural f (Element.renamed f) (staffGroup group) (staffGroup group) :=
  naturalBind (elementNatural "staffGrp") fun _ => naturalBind (staffItemsNatural group) fun _ =>
    naturalPure rfl

end Draft

namespace Document
open Draft

variable {f : String → String}

def renamedBy (f : String → String) (document : Document) : Document :=
  ⟨document.root.renamed f⟩

def plainId (place : Nat) : String := "m-" ++ toString place

def renamed (document : Document) : Document :=
  document.renamedBy fun id => plainId ((idsOf document.root.elements).idxOf id)

theorem emptyNatural : Natural f (renamedBy f) empty empty := by
  refine naturalBind (elementNatural "mei") fun root => naturalPure ?_
  simp [renamedBy, Element.renamedSetAttribute, renamedValue, referenceKeys]

theorem headNatural (title : Option String) :
    Natural f (Element.renamed f) (head title) (head title) := by
  cases title with
  | none => exact naturalBind (elementNatural "meiHead") fun _ => naturalPure rfl
  | some text =>
    refine naturalBind (elementNatural "meiHead") fun head =>
      naturalBind (elementNatural "fileDesc") fun description =>
      naturalBind (elementNatural "titleStmt") fun statement =>
      naturalBind (elementNatural "title") fun title => naturalPure ?_
    simp only [Element.renamedAdd]
    rfl

def renamedItem (f : String → String) (item : Box × Element) : Box × Element :=
  Prod.map id (Element.renamed f) item

theorem systemZoneNatural (link : Link (Box × Element)) :
    Natural f (Element.renamed f) (systemZone link) (systemZone (link.mapItems (renamedItem f))) := by
  have boxes : systemBox (link.mapItems (renamedItem f)) = systemBox link := by
    simp [systemBox, Link.mapItems, renamedItem, Function.comp_def]
  change Natural f _ (zone (systemBox link)) (zone (systemBox (link.mapItems (renamedItem f))))
  rw [boxes]
  exact zoneNatural (systemBox link)

theorem linkedPartNatural (linked : Link (Box × Element) × Element) :
    Natural f (List.map (Element.renamed f)) (linkedPart linked)
      (linkedPart (Prod.map (Link.mapItems (renamedItem f)) (Element.renamed f) linked)) := by
  obtain ⟨link, zone⟩ := linked
  have numbered : link.group.numbers.zip ((link.first :: link.others).map (renamedItem f)) =
      (link.group.numbers.zip (link.first :: link.others)).map
        (Prod.map id (renamedItem f)) := by
    rw [← List.zip_map, List.map_id]
  let onZone (item : Nat × Box × Element) := staff item.1 item.2.2.label.id
  have each (item : Nat × Box × Element) : Natural f (Element.renamed f) (onZone item)
      (onZone (Prod.map id (renamedItem f) item)) := staffNatural item.1 item.2.2.label.id
  have staves := naturalMapM each (link.group.numbers.zip (link.first :: link.others))
  rw [← numbered] at staves
  exact naturalBind (systemBreakNatural link.position zone.label.id) fun _ =>
    naturalBind staves fun _ => naturalPure rfl

theorem linksRenamed (boxes : List Box) (systems : List StaffSystem) (linked : Bool)
    (staffZones : List Element) :
    (if linked then Link.deal systems (boxes.zip (staffZones.map (Element.renamed f))) else []) =
      (if linked then Link.deal systems (boxes.zip staffZones) else []).map
        (Link.mapItems (renamedItem f)) := by
  have zipped : boxes.zip (staffZones.map (Element.renamed f)) =
      (boxes.zip staffZones).map (renamedItem f) := by
    change _ = (boxes.zip staffZones).map (Prod.map id (Element.renamed f))
    rw [← List.zip_map, List.map_id]
  cases linked with
  | false => rfl
  | true =>
    rw [if_pos rfl, if_pos rfl, zipped]
    exact Link.dealMapped _ 1 systems _

theorem draftNatural (title : Option String) (boxes : List Box) (systems : List StaffSystem)
    (linked : Bool) (largest : StaffGroup) :
    Natural f (renamedBy f) (draft title boxes systems linked largest)
      (draft title boxes systems linked largest) := by
  refine naturalBind emptyNatural fun document => naturalBind (headNatural title) fun head =>
    naturalBind (elementNatural "music") fun music =>
    naturalBind (elementNatural "facsimile") fun facsimile =>
    naturalBind (elementNatural "surface") fun surface =>
    naturalBind (naturalSame zoneNatural boxes) fun staffZones => ?_
  dsimp only
  rw [linksRenamed]
  generalize (if linked then Link.deal systems (boxes.zip staffZones) else []) = links
  refine naturalBind (naturalMapM systemZoneNatural links) fun systemZones =>
    naturalBind (elementNatural "body") fun body => naturalBind (elementNatural "mdiv") fun mdiv =>
    naturalBind (elementNatural "score") fun score =>
    naturalBind (elementNatural "scoreDef") fun scoreDef =>
    naturalBind (staffGroupNatural largest) fun definition =>
    naturalBind (elementNatural "section") fun sect => ?_
  rw [List.zip_map]
  refine naturalBind (naturalMapM linkedPartNatural (links.zip systemZones)) fun parts =>
    naturalPure ?_
  simp only [renamedBy, Element.renamedAdd, Element.renamedAddAll, List.map_append,
    List.map_flatten]

theorem placesInOrder {ids : List String} (distinct : ids.Nodup) :
    ids.map (fun id => ids.idxOf id) = List.range' 0 ids.length := by
  apply List.ext_getElem
  · simp
  · intro place inside _
    rw [List.length_map] at inside
    simp [distinct.idxOf_getElem place inside]

theorem draftRenamed (title : Option String) (boxes : List Box) (systems : List StaffSystem)
    (linked : Bool) (largest : StaffGroup) {ids : IdSupply}
    (distinct : Function.Injective ids.name) :
    ((draft title boxes systems linked largest).run ids).1.renamed =
      ((draft title boxes systems linked largest).run ⟨plainId, 0⟩).1 := by
  obtain ⟨frame, staffZones, systemZones, parts, left, ran, -, -, given⟩ :=
    draftFramed title boxes systems linked largest ids
  generalize frame.document (staffZones ++ systemZones) parts.flatten = document at ran given
  let plain (id : String) := plainId ((idsOf document.root.elements).idxOf id)
  obtain ⟨count, rest, same⟩ := (draftNatural title boxes systems linked largest :
    Draft.Natural plain _ _ _) ids ⟨plainId, 0⟩
  rw [ran, given.left] at rest
  have taken : (idsOf document.root.elements).length = count :=
    Nat.add_left_cancel (congrArg IdSupply.next rest)
  have nodup : (idsOf document.root.elements).Nodup := by
    rw [given.next]
    exact IdSupply.namesDistinct distinct _
  have renames : (ids.names count).map plain = (IdSupply.mk plainId 0).names count := by
    rw [← taken, ← given.next, IdSupply.names, ← placesInOrder nodup, List.map_map]
    rfl
  rw [same renames, ran]
  rfl

end Document
end ScorePage
