import ScorePage.Yaml.Contents

/-! The contents of a configuration with each alias replaced by what it stands for. An anchor is
given the number of different names anchored before it; of the nodes with one number the last
counts, also for an alias that comes before it. -/
namespace ScorePage.Yaml

structure Resolved where
  mark : Mark
  content : Content
  byAlias : Bool := false
  deriving DecidableEq, Repr

/-- How many different names are anchored so far, their numbers, the latest first, and the nodes
with their numbers, the latest first. -/
structure Anchors where
  different : Nat := 0
  names : List (List Char × Nat) := []
  targets : List (Nat × Resolved) := []

namespace Anchors

def add (a : Anchors) (anchor : Option (List Char)) (target : Resolved) : Anchors :=
  match anchor with
  | none => a
  | some name =>
      let isNew := (a.names.lookup name).isNone
      { different := if isNew then a.different + 1 else a.different
        names := (name, a.different) :: a.names
        targets := (a.different, target) :: a.targets }

def find? (a : Anchors) (name : List Char) : Option (Nat × Resolved) := do
  let number ← a.names.lookup name
  return (number, ← a.targets.lookup number)

end Anchors

inductive Numbered where
  | node (node : Resolved)
  | alias (number : Nat) (target : Resolved)

def numberAll (a : Anchors) : List Item → Anchors × List Numbered × Option Fault
  | [] => (a, [], none)
  | item :: rest =>
      match item.node with
      | .content content =>
          let (a, others, fault) := numberAll (a.add item.anchor ⟨item.mark, content, false⟩) rest
          (a, .node ⟨item.mark, content, false⟩ :: others, fault)
      | .alias name =>
          match a.find? name with
          | none => (a, [], some (.unknownAnchor item.mark))
          | some (number, target) =>
              let (a, others, fault) := numberAll a rest
              (a, .alias number target :: others, fault)

def Anchors.resolve (a : Anchors) : Numbered → Resolved
  | .node node => node
  | .alias number target => { (a.targets.lookup number).getD target with byAlias := true }

def Contents.resolved (contents : Contents) : List Resolved × Ending :=
  let (anchors, nodes, fault) := numberAll {} contents.items
  (nodes.map anchors.resolve, (fault.map Ending.broken).getD contents.ending)

end ScorePage.Yaml
