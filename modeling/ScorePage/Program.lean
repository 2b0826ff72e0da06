import ScorePage.Arguments
import ScorePage.LogFilter
import ScorePage.PageFiles
import ScorePage.Text.Terminal

/-! The program as a whole: from its arguments, the wish for log lines and the files there are to
the exit code, the printed text and the files afterwards. -/
namespace ScorePage.Program

structure Ending where
  exit : Nat
  printed : String
  messages : List String
  files : Folder

def usage : String :=
  "Usage: omrmei [OPTIONS] --barfilein <BARFILEIN> --stafffilein <STAFFFILEIN> " ++
    "--staffgroups <STAFFGROUPS> --fileout <FILEOUT>\n"

def versionLine : String := "omrmei 0.1.0\n"

structure Failure where
  context : Option String
  fault : Fault

def Failure.message (f : Failure) : String :=
  match f.context with
  | none => s!"Error: {f.fault.message}"
  | some context => s!"Error: {context}: {f.fault.message}"

def configured (arguments : Arguments) : FileStep Failure Options :=
  match arguments.config with
  | none => return {}
  | some path => (PageFiles.loadOptions path).mapFault fun fault =>
      ⟨some s!"Failed to load config from {path}", fault⟩

def optionsFor (arguments : Arguments) : FileStep Failure Options := do
  let options ← configured arguments
  return { options with linkStaves := options.linkStaves || arguments.linkStaves }

def convert (arguments : Arguments) (page : PageFiles) (ids : IdSupply) : FileStep Failure Unit := do
  .note (.barFile page.bars)
  .note (.optionsInUse page.options)
  let _ ← (page.convertToFile arguments.hint arguments.output ids).mapFault fun fault =>
    ⟨some s!"Failed to convert to {arguments.output}", fault⟩
  .note (.pageFinished arguments.output)

def runWith (arguments : Arguments) (ids : IdSupply) : FileStep Failure Unit := do
  let options ← optionsFor arguments
  let page ← (PageFiles.find arguments.bars arguments.staves options).mapFault fun fault =>
    ⟨none, fault⟩
  convert arguments page ids

def logLine (event : Event) : String :=
  s!"{event.level.text} {event.target}: {Text.inert event.message}"

/-- Without a filter the run breaks off before it does anything, as the reader of the wish did. What
is then printed is up to the system that runs it. -/
def run (arguments : List String) (logWish : Option String) (files : Folder) (ids : IdSupply) :
    Ending :=
  match Arguments.read arguments with
  | .error .badUsage => ⟨2, "", [usage], files⟩
  | .error .help => ⟨0, usage, [], files⟩
  | .error .version => ⟨0, versionLine, [], files⟩
  | .ok arguments =>
      match LogFilter.forRun logWish arguments.verbose with
      | none => ⟨101, "", [], files⟩
      | some filter =>
          let left := runWith arguments ids files
          let shown := (left.log.filter filter.shows).map logLine
          match left.result with
          | .error failure => ⟨1, "", shown ++ [failure.message], left.files⟩
          | .ok () => ⟨0, "", shown, left.files⟩

end ScorePage.Program
