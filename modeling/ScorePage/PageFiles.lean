import ScorePage.Document
import ScorePage.Box.StaffData
import ScorePage.FileStep
import ScorePage.Options.Text
import ScorePage.Xml

/-! The files of a page: barline data, staff data, options and the written document. Barline data
have to exist and are not looked into. Staff data are read anew for every conversion. -/
namespace ScorePage

structure PageFiles where
  bars : String
  staves : String
  options : Options
  deriving DecidableEq, Repr

namespace PageFiles

def loadOptions (path : String) : FileStep Fault Options := do
  if !(← .contains path) then .fail (.inputNotFound path)
  else
    let content ← .readText path
    .ofExcept .options (Options.ofText content)

def readStaffFile (path : String) : FileStep Fault (List Box) := do
  let content ← .readText path
  let boxes ← .ofExcept id (Box.ofStaffData content)
  .note (.staffFileRead boxes.length path)
  return boxes

def find (bars staves : String) (options : Options) : FileStep Fault PageFiles := do
  if !(← .contains bars) then .fail (.inputNotFound bars)
  else if !(← .contains staves) then .fail (.inputNotFound staves)
  else return ⟨bars, staves, options⟩

def convert (page : PageFiles) (hint : String) (ids : IdSupply) :
    FileStep Fault (Document × IdSupply) := do
  let hints ← .ofExcept .hint (SystemHint.allOfText hint)
  let boxes ← readStaffFile page.staves
  .ofOutcome (Document.ofHints hints boxes page.options ids)

def convertToFile (page : PageFiles) (hint path : String) (ids : IdSupply) :
    FileStep Fault IdSupply := do
  let (document, ids) ← page.convert hint ids
  .writeFile path (Xml.text document page.options.indent).toUTF8
  .note (.documentWritten path)
  return ids

end PageFiles
end ScorePage
