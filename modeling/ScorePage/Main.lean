import ScorePage.Program

/-! The command line. The files that the arguments can be about are read before the run, and those
that it changed are written after it. -/
namespace ScorePage.Main

def pathOf (place : Place) : String := "/" ++ "/".intercalate place

def pathsOf (arguments : List String) : List String :=
  match Arguments.read arguments with
  | .error _ => []
  | .ok a => [a.bars, a.staves, a.output] ++ a.config.toList

def readEntry (place : Place) : IO (Option Entry) := do
  try
    let real ← IO.FS.realPath (pathOf place)
    if (← real.metadata).type == .dir then return some .directory
    else return some (.file (← IO.FS.readBinFile real))
  catch _ => return none

def readFiles (arguments : List String) : IO Folder := do
  let here ← IO.currentDir
  let base := (Folder.steps here.toString).filter (!·.isEmpty)
  let mut files : Folder := ⟨base, []⟩
  for path in pathsOf arguments do
    for place in base :: files.placesAlong path do
      if let some entry ← readEntry place then files := files.put place entry
  return files

def writeFiles (before after : Folder) : IO Unit := do
  for (place, entry) in after.entries do
    match entry with
    | .file content =>
        if before.entry? place != some entry then IO.FS.writeBinFile (pathOf place) content
    | .directory => pure ()

end ScorePage.Main

open ScorePage ScorePage.Main in
def main (arguments : List String) : IO UInt32 := do
  let files ← readFiles arguments
  let ids := IdSupply.ofSeed (← IO.rand 0 (Nat.pow 2 64))
  let ending := Program.run arguments (← IO.getEnv "RUST_LOG") files ids
  writeFiles files ending.files
  IO.print ending.printed
  for line in ending.messages do IO.eprintln line
  return ending.exit.toUInt32
