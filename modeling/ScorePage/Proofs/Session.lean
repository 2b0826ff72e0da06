import ScorePage.Proofs.Folder
import ScorePage.Proofs.PageFiles
import ScorePage.Session

/-! Sessions. The page that was chosen last stays, whatever commands follow and whatever others do to
the files; a conversion is about that page, with its staff file as it is at that moment. -/
namespace ScorePage.Session

inductive Change where
  | command (command : Command)
  | files (folder : Folder)

def change (s : Session) : Change → Session
  | .command command => (s.step command).1
  | .files folder => { s with folder }

def run (s : Session) (changes : List Change) : Session := changes.foldl change s

def Change.Keeps : Change → Prop
  | .command (.choose _ _ _) => False
  | _ => True

def Reply.renamed : Reply → Reply
  | .document made indent => .document made.renamed indent
  | reply => reply

structure Kept (s later : Session) : Prop where
  page : later.page = s.page
  names : later.ids.name = s.ids.name

def optionsOf (folder : Folder) : OptionSource → Except Fault Options
  | .file path => folder.optionsIn path
  | .text content => (Options.ofText content).mapError .options
  | .values options => .ok options

theorem loadMeets (source : OptionSource) (folder : Folder) :
    source.load folder = ⟨folder, [], optionsOf folder source⟩ := by
  cases source with
  | file path => exact PageFiles.loadOptionsMeets path folder
  | text content => rfl
  | values options => rfl

variable {s : Session}

theorem afterKept {α : Type} {step : FileStep Fault α} {next : Session → α → Session}
    {reply : α → Reply} (kept : ∀ folder value, (step s.folder).result = .ok value →
      s.Kept (next { s with folder } value)) : s.Kept (s.after step next reply).1 := by
  rw [after]
  split
  · exact ⟨rfl, rfl⟩
  · rename_i value found
    exact kept _ value found

theorem changeKept {change : Change} (keeps : change.Keeps) : s.Kept (s.change change) := by
  cases change with
  | files folder => exact ⟨rfl, rfl⟩
  | command command =>
    unfold Session.change step
    cases command with
    | write path content => exact afterKept fun _ _ _ => ⟨rfl, rfl⟩
    | makeDirectory path => exact ⟨rfl, rfl⟩
    | remove path => exact ⟨rfl, rfl⟩
    | read path => exact ⟨rfl, rfl⟩
    | loadOptions path => exact afterKept fun _ _ _ => ⟨rfl, rfl⟩
    | readStaffFile path => exact afterKept fun _ _ _ => ⟨rfl, rfl⟩
    | choose bars staves source => exact keeps.elim
    | convert hint =>
      cases chosen : s.page with
      | none => exact ⟨rfl, rfl⟩
      | some page => exact afterKept fun _ _ made => ⟨rfl, PageFiles.convertNames made⟩
    | convertToFile hint path =>
      cases chosen : s.page with
      | none => exact ⟨rfl, rfl⟩
      | some page => exact afterKept fun _ _ made => ⟨rfl, PageFiles.convertToFileNames made⟩

theorem runKept {changes : List Change} (keeps : ∀ change ∈ changes, change.Keeps) :
    s.Kept (s.run changes) := by
  induction changes generalizing s with
  | nil => exact ⟨rfl, rfl⟩
  | cons change changes ih =>
    obtain ⟨first, others⟩ := List.forall_mem_cons.mp keeps
    have here : s.Kept (s.change change) := changeKept first
    have rest : (s.change change).Kept (s.run (change :: changes)) := ih others
    exact ⟨rest.page.trans here.page, rest.names.trans here.names⟩

theorem choosePage {bars staves : String} {source : OptionSource} {page : PageFiles}
    (chosen : (s.step (.choose bars staves source)).2.result = .ok (.page page)) :
    optionsOf s.folder source = .ok page.options ∧ page.bars = bars ∧ page.staves = staves ∧
      (s.step (.choose bars staves source)).1.page = some page ∧
      (s.step (.choose bars staves source)).1.ids = s.ids := by
  rw [step, choose, loadMeets] at chosen ⊢
  cases given : optionsOf s.folder source with
  | error fault =>
    rw [given] at chosen
    contradiction
  | ok options =>
    rw [given] at chosen
    dsimp only [after] at chosen ⊢
    cases found : (PageFiles.find bars staves options s.folder).result with
    | error fault =>
      rw [found] at chosen
      contradiction
    | ok there =>
      rw [found] at chosen
      cases chosen
      cases PageFiles.findOk found
      exact ⟨rfl, rfl, rfl, rfl, rfl⟩

theorem convertOutcome {page : PageFiles} (chosen : s.page = some page) (hint : String) :
    (s.step (.convert hint)).2 = ⟨(page.convert hint s.ids s.folder).log,
      (page.convert hint s.ids s.folder).result.map fun made =>
        .document made.1 page.options.indent⟩ := by
  rw [step, chosen]
  dsimp only
  rw [after]
  cases (page.convert hint s.ids s.folder).result <;> rfl

theorem replyRenamed (result : Except Fault (Document × IdSupply)) (indent : Nat) :
    (result.map fun made => Reply.document made.1 indent).map Reply.renamed =
      (result.map fun made => made.1.renamed).map (Reply.document · indent) := by
  cases result <;> rfl

theorem replySilent (result : Except Fault (Document × IdSupply)) (indent : Nat) :
    (result.map fun made => Reply.document made.1 indent) = .error .noSystems ↔
      result = .error .noSystems := by
  cases result <;> simp [Except.map]

/- The reply that the library has for a hint and a staff file. The hint is read before the file, the
file before its lines, and the lines before systems are looked for. -/
structure LibraryReply (page : PageFiles) (folder : Folder) (hint : String) (supply : IdSupply)
    (reply : Except Fault Reply) : Prop where
  refused : ∀ fault, SystemHint.allOfText hint = .error fault → reply = .error (.hint fault)
  unread : ∀ hints fault, SystemHint.allOfText hint = .ok hints →
    folder.readText page.staves = .error fault → reply = .error (.file fault)
  unboxed : ∀ hints content fault, SystemHint.allOfText hint = .ok hints →
    folder.readText page.staves = .ok content → Box.ofStaffData content = .error fault →
    reply = .error fault ∧ ∃ line found, fault = .staffLine line found
  made : ∀ hints content boxes, SystemHint.allOfText hint = .ok hints →
    folder.readText page.staves = .ok content → Box.ofStaffData content = .ok boxes →
    reply.map Reply.renamed = (Document.ofHint hint boxes page.options supply).result.map fun made =>
      .document made.1.renamed page.options.indent
  silent : reply = .error .noSystems ↔ Text.isBlankText hint.toList = true ∧
    ∃ content boxes, folder.readText page.staves = .ok content ∧ Box.ofStaffData content = .ok boxes

theorem libraryReply {page : PageFiles} (chosen : s.page = some page)
    (distinct : Function.Injective s.ids.name) (hint : String) {supply : IdSupply}
    (otherDistinct : Function.Injective supply.name) :
    LibraryReply page s.folder hint supply (s.step (.convert hint)).2.result := by
  rw [convertOutcome chosen]
  constructor
  · intro fault refused
    rw [PageFiles.convertRefused refused]
    rfl
  · intro hints fault read unread
    rw [PageFiles.convertUnread read unread]
    rfl
  · intro hints content fault read held refused
    rw [PageFiles.convertUnboxed read held refused]
    exact ⟨rfl, Box.staffDataFault refused⟩
  · intro hints content boxes read held boxed
    rw [replyRenamed, PageFiles.convertBoxed read held boxed,
      Document.ofHintRenamed hint boxes page.options distinct otherDistinct]
    cases (Document.ofHint hint boxes page.options supply).result <;> rfl
  · rw [replySilent]
    exact PageFiles.convertSilent

theorem conversionFollowsLibrary (distinct : Function.Injective s.ids.name) {bars staves : String}
    {source : OptionSource} {page : PageFiles}
    (chosen : (s.step (.choose bars staves source)).2.result = .ok (.page page))
    {changes : List Change} (keeps : ∀ change ∈ changes, change.Keeps) {later : Session}
    (ran : (s.step (.choose bars staves source)).1.run changes = later) (hint : String)
    {supply : IdSupply} (otherDistinct : Function.Injective supply.name) :
    optionsOf s.folder source = .ok page.options ∧ page.bars = bars ∧ page.staves = staves ∧
      LibraryReply page later.folder hint supply (later.step (.convert hint)).2.result ∧
      (∀ made indent, (later.step (.convert hint)).2.result = .ok (.document made indent) →
        ∃ content boxes other rest, later.folder.readText staves = .ok content ∧
          Box.ofStaffData content = .ok boxes ∧
          (Document.ofHint hint boxes page.options supply).result = .ok (other, rest) ∧
          indent = page.options.indent ∧
          Xml.text made.renamed indent = Xml.text other.renamed page.options.indent) ∧
      (∀ (folder : Folder) (other : PageFiles), other.options = page.options →
        folder.readText other.staves = later.folder.readText staves →
        ((Session.mk folder (some other) supply).step (.convert hint)).2.result.map Reply.renamed =
          (later.step (.convert hint)).2.result.map Reply.renamed) ∧
      ∀ place old content, later.folder.find bars = .ok (place, .file old) →
        later.folder.locate staves ≠ .ok place →
        ((later.change (.files (later.folder.put place (.file content)))).step (.convert hint)).2 =
          (later.step (.convert hint)).2 := by
  obtain ⟨options, sameBars, rfl, holds, ids⟩ := choosePage chosen
  have kept : (s.step (.choose bars page.staves source)).1.Kept later := ran ▸ runKept keeps
  have current : later.page = some page := kept.page.trans holds
  have names : Function.Injective later.ids.name := by
    rw [kept.names, ids]
    exact distinct
  refine ⟨options, sameBars, rfl, libraryReply current names hint otherDistinct, ?_, ?_, ?_⟩
  · intro made indent reply
    rw [convertOutcome current] at reply
    obtain ⟨⟨document, left⟩, converted, same⟩ := Result.mapOk.mp reply
    cases same
    obtain ⟨content, boxes, held, boxed, drafted⟩ := PageFiles.convertMade converted
    have renamed := Document.ofHintRenamed hint boxes page.options names otherDistinct
    rw [drafted] at renamed
    obtain ⟨⟨other, rest⟩, otherDrafted, same⟩ := Result.mapOk.mp renamed.symm
    exact ⟨content, boxes, other, rest, held, boxed, otherDrafted, rfl, by rw [same]⟩
  · intro folder other sameOptions held
    rw [convertOutcome current, convertOutcome rfl, replyRenamed, replyRenamed, sameOptions,
      PageFiles.convertSame sameOptions held hint names otherDistinct]
  · intro place old content found elsewhere
    have held := Folder.readTextReplaced (Folder.entryOfFind found) content elsewhere
    have same : (later.change (.files (later.folder.put place (.file content)))).page = some page :=
      current
    rw [convertOutcome current, convertOutcome same]
    exact congrArg (fun left : Aftermath Fault (Document × IdSupply) => Outcome.mk left.log
      (left.result.map fun made => Reply.document made.1 page.options.indent))
      (PageFiles.convertHeld held)

def filled : Session :=
  (start (.ofSeed 0)).run [.command (.write "b" "".toUTF8),
    .command (.write "s" "x\t0\t0\t1\t1\ty\tz\n".toUTF8)]

def spoiled : Change := .command (.write "s" ⟨#[255]⟩)

theorem conversionFollowsSpoiledFile :
    (filled.step (.choose "b" "s" (.values {}))).2.result = .ok (.page ⟨"b", "s", {}⟩) ∧
    (((filled.step (.choose "b" "s" (.values {}))).1.run [spoiled]).step
      (.convert " ")).2.result = .error (.file .notText) ∧
    (((filled.step (.choose "b" "s" (.values {}))).1.run [spoiled, .files filled.folder]).step
      (.convert " ")).2.result = .error .noSystems ∧
    (((filled.step (.choose "b" "s" (.values {}))).1.run [spoiled, .files filled.folder]).step
      (.convert "(1)")).2.result.map Reply.renamed =
        (Document.ofHint "(1)" [Document.unitBox] {} (.ofSeed 1)).result.map fun made =>
          .document made.1.renamed 2 := by
  have distinct (seed : Nat) : Function.Injective (IdSupply.ofSeed seed).name :=
    IdSupply.uuidDistinct seed
  have present : (PageFiles.find "b" "s" {} filled.folder).result = .ok ⟨"b", "s", {}⟩ := by
    decide +kernel
  have chosen : (filled.step (.choose "b" "s" (.values {}))).2.result =
      .ok (.page ⟨"b", "s", {}⟩) := by
    rw [step, choose, loadMeets]
    dsimp only [optionsOf, after]
    rw [present]
  have names : Function.Injective filled.ids.name := distinct 0
  have blank : SystemHint.allOfText " " = .ok [] := Document.readNothing.mpr (by decide)
  have read : SystemHint.allOfText "(1)" = .ok [Document.oneStaff] := by decide +kernel
  have spoils : ∀ change ∈ [spoiled], change.Keeps := by simp [spoiled, Change.Keeps]
  have restores : ∀ change ∈ [spoiled, .files filled.folder], change.Keeps := by
    simp [spoiled, Change.Keeps]
  have held : filled.folder.readText "s" = .ok "x\t0\t0\t1\t1\ty\tz\n" := by decide +kernel
  have boxed : Box.ofStaffData "x\t0\t0\t1\t1\ty\tz\n" = .ok [Document.unitBox] := by
    decide +kernel
  refine ⟨chosen, ?_, ?_, ?_⟩
  · obtain ⟨-, -, -, library, -⟩ :=
      conversionFollowsLibrary names chosen spoils rfl " " (distinct 1)
    exact library.unread [] .notText blank (by decide +kernel)
  · obtain ⟨-, -, -, library, -⟩ :=
      conversionFollowsLibrary names chosen restores rfl " " (distinct 1)
    exact library.silent.mpr ⟨by decide, _, _, held, boxed⟩
  · obtain ⟨-, -, -, library, -⟩ :=
      conversionFollowsLibrary names chosen restores rfl "(1)" (distinct 1)
    exact library.made _ _ _ read held boxed

end ScorePage.Session
