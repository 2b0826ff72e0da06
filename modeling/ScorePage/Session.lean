import ScorePage.PageFiles

/-! A session: files, and maybe the page that conversions are about. -/
namespace ScorePage

structure Session where
  folder : Folder
  page : Option PageFiles
  ids : IdSupply

namespace Session

def start (ids : IdSupply) : Session := ⟨Folder.fresh, none, ids⟩

inductive OptionSource where
  | file (path : String)
  | text (content : String)
  | values (options : Options)

inductive Command where
  | write (path : String) (content : ByteArray)
  | makeDirectory (path : String)
  | remove (path : String)
  | read (path : String)
  | loadOptions (path : String)
  | readStaffFile (path : String)
  | choose (bars staves : String) (source : OptionSource)
  | convert (hint : String)
  | convertToFile (hint path : String)

inductive Reply where
  | done
  | content (text : Option String)
  | options (options : Options)
  | boxes (boxes : List Box)
  | page (page : PageFiles)
  | document (document : Document) (indent : Nat)
  | noPage

def OptionSource.load : OptionSource → FileStep Fault Options
  | .file path => PageFiles.loadOptions path
  | .text content => .ofExcept .options (Options.ofText content)
  | .values options => return options

/-- The session after a step, with the files that the step left behind. Only when the step came to
its end does anything else become of the session. -/
def after {α : Type} (s : Session) (step : FileStep Fault α) (next : Session → α → Session)
    (reply : α → Reply) : Session × Outcome Reply :=
  let left := step s.folder
  let now := { s with folder := left.files }
  match left.result with
  | .error fault => (now, ⟨left.log, .error fault⟩)
  | .ok value => (next now value, ⟨left.log, .ok (reply value)⟩)

/-- Makes a page the one that conversions are about. When its options cannot be had the page before
stays; when its files are missing there is none. -/
def choose (s : Session) (bars staves : String) (source : OptionSource) : Session × Outcome Reply :=
  let loaded := source.load s.folder
  let now := { s with folder := loaded.files }
  match loaded.result with
  | .error fault => (now, ⟨loaded.log, .error fault⟩)
  | .ok options =>
      let (chosen, found) := { now with page := none }.after (PageFiles.find bars staves options)
        (fun s page => { s with page := some page }) .page
      (chosen, ⟨loaded.log ++ found.log, found.result⟩)

def step (s : Session) : Command → Session × Outcome Reply
  | .write path content => s.after (.writeFile path content) (fun s _ => s) fun _ => .done
  | .makeDirectory path => ({ s with folder := s.folder.makeDirectory path }, .ok .done)
  | .remove path => ({ s with folder := s.folder.removeFile path }, .ok .done)
  | .read path => (s, .ok (.content (s.folder.readText path).toOption))
  | .loadOptions path => s.after (PageFiles.loadOptions path) (fun s _ => s) .options
  | .readStaffFile path => s.after (PageFiles.readStaffFile path) (fun s _ => s) .boxes
  | .choose bars staves source => s.choose bars staves source
  | .convert hint =>
      match s.page with
      | none => (s, .ok .noPage)
      | some page =>
          s.after (page.convert hint s.ids) (fun s (_, ids) => { s with ids })
            fun (document, _) => .document document page.options.indent
  | .convertToFile hint path =>
      match s.page with
      | none => (s, .ok .noPage)
      | some page =>
          s.after (page.convertToFile hint path s.ids) (fun s ids => { s with ids }) fun _ => .done

end Session
end ScorePage
