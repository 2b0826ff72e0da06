import ScorePage.Options
import ScorePage.Binary64.Text
import ScorePage.Text.Quoted
import ScorePage.Yaml.Fault

/-! What can be wrong with options that are given as text, by cause. -/
namespace ScorePage.Options

inductive Key where
  | title
  | indent
  | linkStaves
  deriving DecidableEq, Repr

namespace Key

def name : Key → String
  | title => "title"
  | indent => "indent"
  | linkStaves => "link-staves"

def all : List Key := [title, indent, linkStaves]

def ofName? (name : List Char) : Option Key := all.find? fun key => key.name.toList == name

def choices : String := ", ".intercalate (all.map fun key => "`" ++ key.name ++ "`")

end Key

inductive Found where
  | nothing
  | truth (value : Bool)
  | whole (value : Int)
  | wide (value : Int)
  | decimal (value : Binary64)
  | word (value : String)
  | list
  | mapping
  deriving DecidableEq, Repr

def pointed (x : Binary64) : List Char :=
  if x.isFinite && !x.text.contains '.' then x.text ++ ['.', '0'] else x.text

def Found.description : Found → String
  | nothing => "unit value"
  | truth value => s!"boolean `{value}`"
  | whole value => s!"integer `{value}`"
  | wide value =>
      let kind := if value < 0 then "i128" else "u128"
      s!"integer `{value}` as {kind}"
  | decimal value => s!"floating point `{String.ofList (pointed value)}`"
  | word value => s!"string {Text.quoted value}"
  | list => "sequence"
  | mapping => "map"

inductive Mismatch where
  | kind (found : Found) (expected : String)
  | spelling (text : String) (expected : String)
  | unknownKey (name : String)
  | repeatedKey (key : Key)
  deriving DecidableEq, Repr

def Mismatch.message : Mismatch → String
  | kind found expected => s!"invalid type: {found.description}, expected {expected}"
  | spelling text expected => s!"invalid value: string {Text.quoted text}, expected {expected}"
  | unknownKey name => s!"unknown field `{name}`, expected one of {Key.choices}"
  | repeatedKey key => s!"duplicate field `{key.name}`"

inductive Fault where
  | yaml (fault : Yaml.Fault)
  | mismatch (way : Option String) (here : Yaml.Mark) (mismatch : Mismatch)
  | indentTooLarge (indent : Nat)
  deriving DecidableEq, Repr

def Fault.reason : Fault → String
  | yaml fault => fault.message
  | mismatch none here m => s!"{m.message}{here.clause}"
  | mismatch (some way) here m => s!"{way}: {m.message}{here.clause}"
  | indentTooLarge indent => s!"indent must be between 0 and {largestIndent}, got {indent}"

def Fault.message (fault : Fault) : String := s!"Invalid configuration: {fault.reason}"

end ScorePage.Options
