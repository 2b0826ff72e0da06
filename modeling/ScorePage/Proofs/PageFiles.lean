import ScorePage.PageFiles
import ScorePage.Proofs.Document.Repeats
import ScorePage.Proofs.FileStep

/-! Conversions on files. What comes of one is decided by the hint, then by the text of the staff
file, then by what the text says; with boxes it is the document that the hint has for them. -/
namespace ScorePage

namespace Document

theorem ofSystemsRenamed (systems : List StaffSystem) (boxes : List Box) (options : Options)
    {ids supply : IdSupply} (distinct : Function.Injective ids.name)
    (otherDistinct : Function.Injective supply.name) :
    (ofSystems systems boxes options ids).map (fun made => made.1.renamed) =
      (ofSystems systems boxes options supply).map fun made => made.1.renamed := by
  rw [ofSystems, ofSystems]
  cases (StaffSystem.largest systems).result with
  | error fault => simp only [Except.map]
  | ok largest =>
    exact congrArg Except.ok ((draftRenamed options.title boxes systems _ largest.group distinct).trans
      (draftRenamed options.title boxes systems _ largest.group otherDistinct).symm)

theorem ofHintRenamed (hint : String) (boxes : List Box) (options : Options) {ids supply : IdSupply}
    (distinct : Function.Injective ids.name) (otherDistinct : Function.Injective supply.name) :
    (ofHint hint boxes options ids).result.map (fun made => made.1.renamed) =
      (ofHint hint boxes options supply).result.map fun made => made.1.renamed := by
  cases read : SystemHint.allOfText hint with
  | error fault => rw [ofHintRefused read, ofHintRefused read]
  | ok hints =>
    obtain ⟨patterns, compiled, -⟩ := limitedPatterns read
    rw [ofHintOnward read, ofHintOnward read, ofHintsCompiled compiled, ofHintsCompiled compiled]
    exact ofSystemsRenamed _ boxes options distinct otherDistinct

theorem ofHintsNames {hints : List SystemHint} {boxes : List Box} {options : Options}
    {ids left : IdSupply} {document : Document}
    (made : (ofHints hints boxes options ids).result = .ok (document, left)) :
    left.name = ids.name := by
  obtain ⟨patterns, largest, -, -, drafted⟩ := ofHintsMade made
  obtain ⟨frame, staffZones, systemZones, parts, rest, ran, -, -, given⟩ :=
    draftFramed options.title boxes (StaffSystem.onPage patterns)
      (Link.wanted options (StaffSystem.onPage patterns) boxes.length) largest.group ids
  cases ran.symm.trans drafted
  rw [given.left, IdSupply.after]

end Document

namespace Box

theorem staffDataFault {content : String} {fault : Fault}
    (refused : ofStaffData content = .error fault) : ∃ line found, fault = .staffLine line found := by
  obtain ⟨before, numbered, after, -, -, refused⟩ := Result.mapMError.mp refused
  obtain ⟨found, -, rfl⟩ := Result.mapErrorError.mp refused
  exact ⟨_, _, rfl⟩

end Box

def Folder.optionsIn (files : Folder) (path : String) : Except Fault Options :=
  if files.contains path then
    (files.readText path).mapError .file >>= fun content =>
      (Options.ofText content).mapError .options
  else .error (.inputNotFound path)

def Folder.boxesIn (files : Folder) (path : String) : Except Fault (List Box) :=
  (files.readText path).mapError .file >>= Box.ofStaffData

theorem Folder.optionsInOk {files : Folder} {path : String} {options : Options} :
    files.optionsIn path = .ok options ↔ files.contains path = true ∧
      ∃ content, files.readText path = .ok content ∧ Options.ofText content = .ok options := by
  rw [optionsIn]
  split
  · rename_i there
    simp only [Result.bindOk, Result.mapErrorOk, there, true_and]
  · rename_i absent
    simp only [absent, false_and, reduceCtorEq]

theorem Folder.boxesInOk {files : Folder} {path : String} {boxes : List Box} :
    files.boxesIn path = .ok boxes ↔
      ∃ content, files.readText path = .ok content ∧ Box.ofStaffData content = .ok boxes := by
  simp only [boxesIn, Result.bindOk, Result.mapErrorOk]

namespace PageFiles
open FileStep

variable {page : PageFiles} {files : Folder} {hint : String} {ids : IdSupply}

theorem readThen {ε α : Type} (told : ε → Fault) (read : String → Except ε α) (path : String)
    (files : Folder) :
    (readText path >>= fun content => ofExcept told (read content)) files =
      ⟨files, [], (files.readText path).mapError .file >>= fun content =>
        (read content).mapError told⟩ := by
  cases held : (files.readText path).mapError Fault.file with
  | error fault => exact bindFailed held
  | ok content => exact bindSeen content (congrArg (Aftermath.mk files []) held)

theorem loadOptionsMeets (path : String) (files : Folder) :
    loadOptions path files = ⟨files, [], files.optionsIn path⟩ := by
  rw [loadOptions, bindSeen (files.contains path) rfl, Folder.optionsIn]
  cases files.contains path with
  | false => rfl
  | true => exact readThen ..

theorem loadOptionsKeeps {path : String} : Keeps (loadOptions path) := fun files => by
  rw [loadOptionsMeets]

theorem findMeets (bars staves : String) (options : Options) (files : Folder) :
    find bars staves options files = ⟨files, [],
      if files.contains bars = false then .error (.inputNotFound bars)
      else if files.contains staves = false then .error (.inputNotFound staves)
      else .ok ⟨bars, staves, options⟩⟩ := by
  rw [find, bindSeen (files.contains bars) rfl]
  cases files.contains bars with
  | false => rfl
  | true =>
    refine (bindSeen (files.contains staves) rfl).trans ?_
    cases files.contains staves <;> rfl

theorem findKeeps {bars staves : String} {options : Options} : Keeps (find bars staves options) :=
  fun files => by rw [findMeets]

theorem findOk {bars staves : String} {options : Options}
    (found : (find bars staves options files).result = .ok page) : page = ⟨bars, staves, options⟩ := by
  rw [findMeets] at found
  dsimp only at found
  split at found
  · contradiction
  · split at found
    · contradiction
    · exact (Except.ok.inj found).symm

theorem readStaffFileKeeps {path : String} : Keeps (readStaffFile path) :=
  keepsBind (fun _ => rfl) fun _ => keepsBind (fun _ => rfl) fun _ => keepsBind (fun _ => rfl)
    fun _ _ => rfl

theorem readStaffFileResult (path : String) (files : Folder) :
    (readStaffFile path files).result = files.boxesIn path := by
  rw [readStaffFile, bindResult fun _ => rfl]
  refine congrArg (_ >>= ·) (funext fun content => ?_)
  rw [bindResult fun _ => rfl]
  change (Box.ofStaffData content).mapError id >>= _ = _
  cases Box.ofStaffData content <;> rfl

theorem convertKeeps : Keeps (page.convert hint ids) :=
  keepsBind (fun _ => rfl) fun _ => keepsBind readStaffFileKeeps fun _ _ => rfl

theorem convertRefused {fault : Hint.Fault} (refused : SystemHint.allOfText hint = .error fault) :
    (page.convert hint ids files).result = .error (.hint fault) := by
  rw [convert, refused]
  rfl

theorem convertOnward {hints : List SystemHint} (read : SystemHint.allOfText hint = .ok hints) :
    (page.convert hint ids files).result =
      files.boxesIn page.staves >>= fun boxes =>
        (Document.ofHints hints boxes page.options ids).result := by
  rw [convert, read, bindSeen hints rfl, bindResult readStaffFileKeeps,
    readStaffFileResult]
  rfl

theorem convertUnread {hints : List SystemHint} (read : SystemHint.allOfText hint = .ok hints)
    {fault : FileFault} (unread : files.readText page.staves = .error fault) :
    (page.convert hint ids files).result = .error (.file fault) := by
  rw [convertOnward read, Folder.boxesIn, unread]
  rfl

theorem convertUnboxed {hints : List SystemHint} (read : SystemHint.allOfText hint = .ok hints)
    {content : String} (held : files.readText page.staves = .ok content) {fault : Fault}
    (refused : Box.ofStaffData content = .error fault) :
    (page.convert hint ids files).result = .error fault := by
  have notBoxed : files.boxesIn page.staves = .error fault := by
    rw [Folder.boxesIn, held]
    exact refused
  rw [convertOnward read, notBoxed]
  rfl

theorem convertBoxed {hints : List SystemHint} (read : SystemHint.allOfText hint = .ok hints)
    {content : String} (held : files.readText page.staves = .ok content) {boxes : List Box}
    (boxed : Box.ofStaffData content = .ok boxes) :
    (page.convert hint ids files).result = (Document.ofHint hint boxes page.options ids).result := by
  rw [convertOnward read, Folder.boxesInOk.mpr ⟨content, held, boxed⟩, Document.ofHintOnward read]
  rfl

theorem readStaffFileHeld {path : String} {other : Folder}
    (held : other.readText path = files.readText path) :
    readStaffFile path other = { readStaffFile path files with files := other } := by
  have same : readText path other = { readText path files with files := other } := by
    rw [FileStep.readText, held, FileStep.readText]
  cases text : (readText path files).result with
  | error fault =>
    rw [readStaffFile, bindFailed text, bindFailed (by rw [same, text]), same]
  | ok content =>
    rw [readStaffFile, bindDone text, bindDone (by rw [same, text]), same]
    cases Box.ofStaffData content <;> rfl

theorem convertHeld {other : Folder}
    (held : other.readText page.staves = files.readText page.staves) :
    page.convert hint ids other = { page.convert hint ids files with files := other } := by
  rw [convert]
  cases SystemHint.allOfText hint with
  | error fault => rfl
  | ok hints =>
    rw [bindSeen hints rfl, bindSeen hints rfl]
    have same := readStaffFileHeld held
    cases found : (readStaffFile page.staves files).result with
    | error fault => rw [bindFailed found, bindFailed (by rw [same, found]), same]
    | ok boxes =>
      rw [bindDone found, bindDone (by rw [same, found]), same]
      rfl

theorem convertMade {made : Document × IdSupply}
    (converted : (page.convert hint ids files).result = .ok made) :
    ∃ content boxes, files.readText page.staves = .ok content ∧
      Box.ofStaffData content = .ok boxes ∧
      (Document.ofHint hint boxes page.options ids).result = .ok made := by
  cases read : SystemHint.allOfText hint with
  | error fault => cases (convertRefused read).symm.trans converted
  | ok hints =>
    have onward := converted
    rw [convertOnward read] at onward
    obtain ⟨boxes, found, -⟩ := Result.bindOk.mp onward
    obtain ⟨content, held, boxed⟩ := Folder.boxesInOk.mp found
    exact ⟨content, boxes, held, boxed, (convertBoxed read held boxed).symm.trans converted⟩

theorem convertNames {document : Document} {left : IdSupply}
    (made : (page.convert hint ids files).result = .ok (document, left)) :
    left.name = ids.name := by
  cases read : SystemHint.allOfText hint with
  | error fault => cases (convertRefused read).symm.trans made
  | ok hints =>
    rw [convertOnward read] at made
    obtain ⟨boxes, -, made⟩ := Result.bindOk.mp made
    exact Document.ofHintsNames made

/- The document is there in full before anything is written. -/
theorem convertToFileAtomic (path : String) : Atomic (page.convertToFile hint path ids) := by
  refine atomicBehind convertKeeps fun made => ?_
  exact atomicBefore (atomicWrite path _) fun _ _ => ⟨_, rfl⟩

theorem convertToFileResult (path : String) :
    (page.convertToFile hint path ids files).result =
      (page.convert hint ids files).result >>= fun made =>
        ((files.writeFile path (Xml.text made.1 page.options.indent).toUTF8).mapError .file).map
          fun _ => made.2 := by
  rw [convertToFile, bindResult convertKeeps]
  refine congrArg (_ >>= ·) (funext fun (document, left) => ?_)
  have wrote := writeResult path (Xml.text document page.options.indent).toUTF8 files
  dsimp only
  cases result : files.writeFile path (Xml.text document page.options.indent).toUTF8 with
  | error fault =>
    rw [result] at wrote
    rw [bindFailed wrote]
    rfl
  | ok written =>
    rw [result] at wrote
    rw [bindDone wrote]
    rfl

theorem convertToFileFiles {path : String} {document : Document} {left : IdSupply} {written : Folder}
    (converted : (page.convert hint ids files).result = .ok (document, left))
    (wrote : files.writeFile path (Xml.text document page.options.indent).toUTF8 = .ok written) :
    (page.convertToFile hint path ids files).files = written := by
  rw [convertToFile, bindDone converted, convertKeeps]
  dsimp only
  rw [bindDone (congrArg Aftermath.result (writeDone wrote)), writeDone wrote]
  rfl

theorem convertToFileOk {path : String} {left : IdSupply} :
    (page.convertToFile hint path ids files).result = .ok left ↔
      ∃ document written, (page.convert hint ids files).result = .ok (document, left) ∧
        files.writeFile path (Xml.text document page.options.indent).toUTF8 = .ok written := by
  rw [convertToFileResult, Result.bindOk]
  constructor
  · intro ⟨⟨document, rest⟩, converted, paired⟩
    obtain ⟨written, wrote, rfl⟩ := Result.mapOk.mp paired
    exact ⟨document, written, converted, Result.mapErrorOk.mp wrote⟩
  · intro ⟨document, written, converted, wrote⟩
    exact ⟨(document, left), converted, Result.mapOk.mpr ⟨_, Result.mapErrorOk.mpr wrote, rfl⟩⟩

theorem convertToFileNames {path : String} {left : IdSupply}
    (made : (page.convertToFile hint path ids files).result = .ok left) :
    left.name = ids.name := by
  obtain ⟨document, written, converted, -⟩ := convertToFileOk.mp made
  exact convertNames converted

theorem convertSame {other : PageFiles} {otherFiles : Folder} {supply : IdSupply}
    (options : other.options = page.options)
    (held : otherFiles.readText other.staves = files.readText page.staves) (hint : String)
    (distinct : Function.Injective ids.name) (otherDistinct : Function.Injective supply.name) :
    (other.convert hint supply otherFiles).result.map (fun made => made.1.renamed) =
      (page.convert hint ids files).result.map fun made => made.1.renamed := by
  cases read : SystemHint.allOfText hint with
  | error fault => rw [convertRefused read, convertRefused read]
  | ok hints =>
    cases there : files.readText page.staves with
    | error fault => rw [convertUnread read there, convertUnread read (held.trans there)]
    | ok content =>
      cases boxed : Box.ofStaffData content with
      | error fault =>
        rw [convertUnboxed read there boxed, convertUnboxed read (held.trans there) boxed]
      | ok boxes =>
        rw [convertBoxed read there boxed, convertBoxed read (held.trans there) boxed, options]
        exact Document.ofHintRenamed hint boxes page.options otherDistinct distinct

theorem convertSilent :
    (page.convert hint ids files).result = .error .noSystems ↔
      Text.isBlankText hint.toList = true ∧ ∃ content boxes,
        files.readText page.staves = .ok content ∧ Box.ofStaffData content = .ok boxes := by
  constructor
  · intro silent
    cases read : SystemHint.allOfText hint with
    | error fault => cases (convertRefused read).symm.trans silent
    | ok hints =>
      cases there : files.readText page.staves with
      | error fault => cases (convertUnread read there).symm.trans silent
      | ok content =>
        cases boxed : Box.ofStaffData content with
        | error fault =>
          cases (convertUnboxed read there boxed).symm.trans silent
          obtain ⟨line, found, same⟩ := Box.staffDataFault boxed
          cases same
        | ok boxes =>
          rw [convertBoxed read there boxed, Document.silentOnly] at silent
          exact ⟨silent, content, boxes, rfl, boxed⟩
  · rintro ⟨blank, content, boxes, there, boxed⟩
    rw [convertBoxed (Document.readNothing.mpr blank) there boxed, Document.silentOnly]
    exact blank

end PageFiles
end ScorePage
