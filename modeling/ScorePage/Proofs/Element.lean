import ScorePage.Element

/-! Element trees as lists in document order, an element standing before what is inside it. Searches
by name are filters of this list. -/
namespace ScorePage

namespace Forest

def elements : Forest → List Element
  | nil => []
  | cons label children rest => ⟨label, children⟩ :: (children.elements ++ rest.elements)

end Forest

namespace Element

def elements (e : Element) : List Element := e :: e.children.elements

def unnamed (e : Element) : Element := { e with label.id := "" }

end Element

namespace Forest

theorem elementsAppend (forest other : Forest) :
    (forest.append other).elements = forest.elements ++ other.elements := by
  induction forest with
  | nil => rfl
  | cons label children rest _ ih => simp [append, elements, ih]

theorem elementsOfList (es : List Element) : (ofList es).elements = es.flatMap Element.elements := by
  induction es with
  | nil => rfl
  | cons e es ih => simp [ofList, elements, ih, Element.elements]

theorem toListAppend (forest other : Forest) :
    (forest.append other).toList = forest.toList ++ other.toList := by
  induction forest with
  | nil => rfl
  | cons label children rest _ ih => simp [append, toList, ih]

theorem toListOfList (es : List Element) : (ofList es).toList = es := by
  induction es with
  | nil => rfl
  | cons e es ih => simp [ofList, toList, ih]

theorem namedElements (name : String) (forest : Forest) :
    forest.named name = forest.elements.filter fun e => e.label.name = name := by
  induction forest with
  | nil => rfl
  | cons label children rest childrenIh restIh =>
    rw [named, elements, List.filter_cons, List.filter_append, ← childrenIh, ← restIh]
    by_cases same : label.name = name <;> simp [same]

theorem foundElements (id : String) (forest : Forest) :
    forest.find? id = forest.elements.find? fun e => e.label.id = id := by
  induction forest with
  | nil => rfl
  | cons label children rest childrenIh restIh =>
    rw [find?, elements, List.find?_cons, List.find?_append, ← childrenIh, ← restIh]
    by_cases same : label.id = id
    · simp [same]
    · simp [same, Option.orElse_eq_or]

end Forest

namespace Element

theorem descendantsElements (name : String) (e : Element) :
    e.descendants name = e.children.elements.filter fun d => d.label.name = name :=
  Forest.namedElements name e.children

theorem findElements (id : String) (e : Element) :
    e.find? id = e.elements.find? fun d => d.label.id = id := by
  rw [find?, elements, List.find?_cons, Forest.foundElements]
  by_cases same : e.label.id = id <;> simp [same]

theorem addElements (e child : Element) :
    (e.add child).children.elements = e.children.elements ++ child.elements := by
  simp [add, Forest.elementsAppend, Forest.elements, elements]

theorem addAllElements (e : Element) (children : List Element) :
    (e.addAll children).children.elements =
      e.children.elements ++ children.flatMap elements := by
  rw [addAll, Forest.elementsAppend, Forest.elementsOfList]

theorem addAllToList (e : Element) (children : List Element) :
    (e.addAll children).children.toList = e.children.toList ++ children := by
  rw [addAll, Forest.toListAppend, Forest.toListOfList]

def values (name key : String) (es : List Element) : List (Option String) :=
  (es.filter fun e => e.label.name = name).map (attribute? key)

theorem valuesUnnamed (name key : String) (es : List Element) :
    values name key (es.map unnamed) = values name key es := by
  rw [values, values, List.filter_map, List.map_map]
  rfl

theorem valuesFlatMap {α : Type} (name key : String) (f : α → List Element) (xs : List α) :
    values name key (xs.flatMap f) = xs.flatMap fun x => values name key (f x) := by
  rw [values, List.filter_flatMap, List.map_flatMap]
  rfl

theorem childlessElements {es : List Element} (childless : ∀ e ∈ es, e.children = .nil) :
    es.flatMap elements = es := by
  induction es with
  | nil => rfl
  | cons e es ih =>
    obtain ⟨bare, childless⟩ := List.forall_mem_cons.mp childless
    rw [List.flatMap_cons, ih childless, elements, bare]
    rfl

end Element
end ScorePage
