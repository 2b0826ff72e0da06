/-! Ordered element trees. An element has a name, an id, attributes in the order in which their
keys were first set, maybe a text, and children. A forest is its first element followed by the
forest of the others, so that a function on trees is one recursion. -/
namespace ScorePage

structure Label where
  name : String
  id : String
  attributes : List (String × String) := []
  text : Option String := none
  deriving DecidableEq, Repr

inductive Forest where
  | nil
  | cons (label : Label) (children rest : Forest)
  deriving DecidableEq, Repr

structure Element where
  label : Label
  children : Forest := .nil
  deriving DecidableEq, Repr

namespace Forest

def append : Forest → Forest → Forest
  | nil, other => other
  | cons label children rest, other => cons label children (rest.append other)

def toList : Forest → List Element
  | nil => []
  | cons label children rest => ⟨label, children⟩ :: rest.toList

def ofList : List Element → Forest
  | [] => nil
  | ⟨label, children⟩ :: rest => cons label children (ofList rest)

def size : Forest → Nat
  | nil => 0
  | cons _ _ rest => rest.size + 1

def named (name : String) : Forest → List Element
  | nil => []
  | cons label children rest =>
      let others := children.named name ++ rest.named name
      if label.name = name then ⟨label, children⟩ :: others else others

def find? (id : String) : Forest → Option Element
  | nil => none
  | cons label children rest =>
      if label.id = id then some ⟨label, children⟩
      else (children.find? id).orElse fun _ => rest.find? id

end Forest

namespace Attributes

def set (key value : String) : List (String × String) → List (String × String)
  | [] => [(key, value)]
  | (k, v) :: rest => if k = key then (k, value) :: rest else (k, v) :: set key value rest

def get? (key : String) : List (String × String) → Option String
  | [] => none
  | (k, v) :: rest => if k = key then some v else get? key rest

end Attributes

namespace Element

def setAttribute (key value : String) (e : Element) : Element :=
  { e with label.attributes := Attributes.set key value e.label.attributes }

def attribute? (key : String) (e : Element) : Option String :=
  Attributes.get? key e.label.attributes

def setText (text : String) (e : Element) : Element := { e with label.text := some text }

def add (e child : Element) : Element :=
  { e with children := e.children.append (.cons child.label child.children .nil) }

def addAll (e : Element) (children : List Element) : Element :=
  { e with children := e.children.append (.ofList children) }

def child? (name : String) (e : Element) : Option Element :=
  e.children.toList.find? fun child => child.label.name = name

def descendants (name : String) (e : Element) : List Element := e.children.named name

def find? (id : String) (e : Element) : Option Element :=
  if e.label.id = id then some e else e.children.find? id

end Element
end ScorePage
