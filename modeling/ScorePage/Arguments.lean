/-! The arguments of the program. They are read from left to right, and the first that decides on
the whole does so: a bad one, or a question for the version or for help. -/
namespace ScorePage

structure Arguments where
  bars : String
  staves : String
  hint : String
  output : String
  config : Option String
  linkStaves : Bool
  verbose : Bool
  deriving DecidableEq, Repr

namespace Arguments

inductive Key where
  | bars
  | staves
  | hint
  | output
  | config
  deriving DecidableEq, Repr

inductive Switch where
  | linkStaves
  | verbose
  | help
  | version
  deriving DecidableEq, Repr

inductive Named where
  | key (key : Key)
  | switch (switch : Switch)
  deriving DecidableEq, Repr

inductive Ending where
  | badUsage
  | help
  | version
  deriving DecidableEq, Repr

def longNames : List (String × Named) := [
  ("barfilein", .key .bars), ("stafffilein", .key .staves), ("staffgroups", .key .hint),
  ("fileout", .key .output), ("config", .key .config), ("link-staves", .switch .linkStaves),
  ("verbose", .switch .verbose), ("help", .switch .help), ("version", .switch .version)]

def shortNames : List (Char × Named) := [
  ('b', .key .bars), ('s', .key .staves), ('g', .key .hint), ('f', .key .output),
  ('c', .key .config), ('l', .switch .linkStaves), ('v', .switch .verbose), ('h', .switch .help),
  ('V', .switch .version)]

structure Given where
  values : List (Key × String) := []
  switches : List Switch := []

namespace Given

def value (g : Given) (key : Key) (text : String) : Except Ending Given :=
  if (g.values.lookup key).isSome || (text.isEmpty && key ≠ .hint) then .error .badUsage
  else .ok { g with values := (key, text) :: g.values }

def switch (g : Given) (switch : Switch) : Except Ending Given :=
  match switch with
  | .help => .error .help
  | .version => .error .version
  | _ =>
      if g.switches.contains switch then .error .badUsage
      else .ok { g with switches := switch :: g.switches }

def finish (g : Given) : Except Ending Arguments :=
  match g.values.lookup .bars, g.values.lookup .staves, g.values.lookup .hint,
      g.values.lookup .output with
  | some bars, some staves, some hint, some output => .ok {
      bars, staves, hint, output
      config := g.values.lookup .config
      linkStaves := g.switches.contains .linkStaves
      verbose := g.switches.contains .verbose }
  | _, _, _, _ => .error .badUsage

end Given

abbrev Waiting := Option Key

def readLong (g : Given) (text : List Char) : Except Ending (Given × Waiting) :=
  let name := text.takeWhile (· != '=')
  match longNames.lookup (String.ofList name), text.drop name.length with
  | none, _ => .error .badUsage
  | some (.key key), [] => .ok (g, some key)
  | some (.key key), _ :: value => do return (← g.value key (String.ofList value), none)
  | some (.switch switch), [] => do return (← g.switch switch, none)
  | some (.switch _), _ :: _ => .error .badUsage

def readShort (g : Given) : List Char → Except Ending (Given × Waiting)
  | [] => .ok (g, none)
  | c :: rest =>
      match shortNames.lookup c with
      | none => .error .badUsage
      | some (.switch switch) => do readShort (← g.switch switch) rest
      | some (.key key) =>
          match rest with
          | [] => .ok (g, some key)
          | '=' :: value => do return (← g.value key (String.ofList value), none)
          | value => do return (← g.value key (String.ofList value), none)

def isValue (argument : String) : Bool :=
  argument.toList.head? != some '-' || argument.length == 1

def readFrom (g : Given) (waiting : Waiting) : List String → Except Ending Arguments
  | [] => if waiting.isSome then .error .badUsage else g.finish
  | argument :: rest =>
      match waiting with
      | some key =>
          if isValue argument then do readFrom (← g.value key argument) none rest
          else .error .badUsage
      | none =>
          match argument.toList with
          | ['-', '-'] => if rest.isEmpty then g.finish else .error .badUsage
          | '-' :: '-' :: text => do
              let (g, waiting) ← readLong g text
              readFrom g waiting rest
          | '-' :: c :: text => do
              let (g, waiting) ← readShort g (c :: text)
              readFrom g waiting rest
          | _ => .error .badUsage

def read (arguments : List String) : Except Ending Arguments := readFrom {} none arguments

end Arguments
end ScorePage
