import ScorePage.Fault

/-! A file system: files and directories by their place, the list of names that leads to them from
the root. Paths are read from a working directory unless they begin with a slash. -/
namespace ScorePage

inductive Entry where
  | file (content : ByteArray)
  | directory

instance : DecidableEq Entry
  | .file a, .file b =>
      match ByteArray.instDecidableEq a b with
      | isTrue same => isTrue (congrArg Entry.file same)
      | isFalse other => isFalse fun same => other (Entry.file.inj same)
  | .file _, .directory => isFalse Entry.noConfusion
  | .directory, .file _ => isFalse Entry.noConfusion
  | .directory, .directory => isTrue rfl

abbrev Place := List String

structure Folder where
  base : Place
  entries : List (Place × Entry)

namespace Folder

def fresh : Folder := ⟨["work"], [(["work"], .directory)]⟩

def entry? (f : Folder) (place : Place) : Option Entry :=
  if place.isEmpty then some .directory else f.entries.lookup place

def setEntry (place : Place) (entry : Entry) : List (Place × Entry) → List (Place × Entry)
  | [] => [(place, entry)]
  | (p, e) :: rest => if p = place then (p, entry) :: rest else (p, e) :: setEntry place entry rest

def put (f : Folder) (place : Place) (entry : Entry) : Folder :=
  { f with entries := setEntry place entry f.entries }

def nextPlace (place : Place) (step : String) : Place :=
  if step = "" || step = "." then place
  else if step = ".." then place.dropLast
  else place ++ [step]

def longestPath : Nat := 4095

def longestName : Nat := 255

def walk (f : Folder) (place : Place) : List String → Except FileFault Place
  | [] => .ok place
  | step :: rest =>
      match f.entry? place with
      | none => .error .notFound
      | some (.file _) => .error .notADirectory
      | some .directory =>
          if longestName < step.utf8ByteSize then .error .nameTooLong
          else walk f (nextPlace place step) rest

def steps (path : String) : List String := (path.toList.splitOn '/').map String.ofList

def start (f : Folder) (path : String) : Place :=
  if path.toList.head? = some '/' then [] else f.base

def pathFault? (path : String) : Option FileFault :=
  if path.toList.contains '\x00' then some .nameWithNul
  else if path.isEmpty then some .notFound
  else if longestPath < path.utf8ByteSize then some .nameTooLong
  else none

def locate (f : Folder) (path : String) : Except FileFault Place :=
  match pathFault? path with
  | some fault => .error fault
  | none => f.walk (f.start path) (steps path)

def find (f : Folder) (path : String) : Except FileFault (Place × Entry) := do
  let place ← f.locate path
  match f.entry? place with
  | none => .error .notFound
  | some entry => .ok (place, entry)

def contains (f : Folder) (path : String) : Bool := (f.find path).toBool

def readText (f : Folder) (path : String) : Except FileFault String := do
  match ← f.find path with
  | (_, .directory) => .error .isADirectory
  | (_, .file content) =>
      match String.fromUTF8? content with
      | none => .error .notText
      | some text => .ok text

def stepsAbove? (path : String) : Option (List String) :=
  match (steps path).reverse with
  | "" :: others => some ((others.dropWhile String.isEmpty).drop 1).reverse
  | _ => none

/-- The place that a path gives to a file. A path that ends in a slash names a directory, be it
there or not. -/
def locateFile (f : Folder) (path : String) : Except FileFault Place :=
  match pathFault? path, stepsAbove? path with
  | some fault, _ => .error fault
  | none, none => f.walk (f.start path) (steps path)
  | none, some above => do
      let _ ← f.walk (f.start path) (above ++ [""])
      .error .isADirectory

def writeFile (f : Folder) (path : String) (content : ByteArray) : Except FileFault Folder := do
  let place ← f.locateFile path
  match f.entry? place with
  | some .directory => .error .isADirectory
  | _ => .ok (f.put place (.file content))

def makeDirectories (f : Folder) (place : Place) : List String → Folder
  | [] => f
  | step :: rest =>
      let next := nextPlace place step
      match f.entry? next with
      | none => (f.put next .directory).makeDirectories next rest
      | some .directory => f.makeDirectories next rest
      | some (.file _) => f

def makeDirectory (f : Folder) (path : String) : Folder :=
  f.makeDirectories (f.start path) (steps path)

def removeFile (f : Folder) (path : String) : Folder :=
  match f.find path with
  | .ok (place, .file _) => { f with entries := f.entries.filter fun e => e.1 != place }
  | _ => f

def placesAlong (f : Folder) (path : String) : List Place :=
  (steps path).foldl (fun places step => places ++ (places.getLast?.map (nextPlace · step)).toList)
    [f.start path]

end Folder
end ScorePage
