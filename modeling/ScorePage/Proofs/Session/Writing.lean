import ScorePage.Proofs.Session

/-! What a session does to files. Only what comes from outside and a conversion to a file that
succeeds change any; and such a conversion leaves the whole text of its document at one place, and
everything else as it was. -/
namespace ScorePage

structure Folder.OnlyFile (before after : Folder) (place : Place) (text : String) : Prop where
  file : after.entry? place = some (.file text.toUTF8)
  others : ∀ other, other ≠ place → after.entry? other = before.entry? other
  base : after.base = before.base

theorem Folder.putOnlyFile {f : Folder} {place : Place} (free : f.entry? place ≠ some .directory)
    (text : String) : f.OnlyFile (f.put place (.file text.toUTF8)) place text := by
  have proper := properOfFree free
  refine ⟨?_, fun other elsewhere => ?_, rfl⟩
  · rw [entryPut f proper, if_pos rfl]
  · rw [entryPut f proper, if_neg elsewhere]

namespace Session

def Command.Looks : Command → Prop
  | .read _ | .loadOptions _ | .readStaffFile _ | .choose _ _ _ | .convert _ => True
  | _ => False

def Change.Foreign : Change → Prop
  | .command (.write _ _) | .command (.makeDirectory _) | .command (.remove _) | .files _ => True
  | _ => False

structure Writes (s : Session) (hint path : String) (document : Document) (indent : Nat)
    (place : Place) : Prop where
  made : (s.step (.convert hint)).2.result = .ok (.document document indent)
  located : s.folder.locateFile path = .ok place
  free : s.folder.entry? place ≠ some .directory

variable {s : Session}

theorem afterKeepsFolder {α : Type} {step : FileStep Fault α} {next : Session → α → Session}
    {reply : α → Reply} (keeps : step.Keeps)
    (same : ∀ now value, (next now value).folder = now.folder) :
    (s.after step next reply).1.folder = s.folder := by
  rw [after]
  split
  · exact keeps s.folder
  · exact (same _ _).trans (keeps s.folder)

theorem looksKeepsFolder {command : Command} (looks : command.Looks) :
    (s.step command).1.folder = s.folder := by
  cases command with
  | write path content => exact looks.elim
  | makeDirectory path => exact looks.elim
  | remove path => exact looks.elim
  | convertToFile hint path => exact looks.elim
  | read path => rfl
  | loadOptions path => exact afterKeepsFolder PageFiles.loadOptionsKeeps fun _ _ => rfl
  | readStaffFile path => exact afterKeepsFolder PageFiles.readStaffFileKeeps fun _ _ => rfl
  | choose bars staves source =>
    rw [step, choose, loadMeets]
    split
    · rfl
    · exact afterKeepsFolder PageFiles.findKeeps fun _ _ => rfl
  | convert hint =>
    rw [step]
    split
    · rfl
    · exact afterKeepsFolder PageFiles.convertKeeps fun _ _ => rfl

theorem changeNames (s : Session) (change : Change) : (s.change change).ids.name = s.ids.name := by
  by_cases keeps : change.Keeps
  · exact (changeKept keeps).names
  · cases change with
    | files folder => exact absurd trivial keeps
    | command command =>
      cases command with
      | choose bars staves source =>
        rw [Session.change, step, choose, loadMeets]
        split
        · rfl
        · dsimp only [after]
          split <;> rfl
      | _ => exact absurd trivial keeps

theorem runNames (s : Session) (changes : List Change) :
    (s.run changes).ids.name = s.ids.name := by
  induction changes generalizing s with
  | nil => rfl
  | cons change changes ih => exact (ih (s.change change)).trans (changeNames s change)

theorem Writes.unique {hint path : String} {document other : Document} {indent width : Nat}
    {place spot : Place} (writes : s.Writes hint path document indent place)
    (again : s.Writes hint path other width spot) :
    other = document ∧ width = indent ∧ spot = place := by
  cases writes.made.symm.trans again.made
  cases writes.located.symm.trans again.located
  exact ⟨rfl, rfl, rfl⟩

theorem documentMade {hint : String} {document : Document} {indent : Nat}
    (made : (s.step (.convert hint)).2.result = .ok (.document document indent)) :
    ∃ page left, s.page = some page ∧ page.options.indent = indent ∧
      (page.convert hint s.ids s.folder).result = .ok (document, left) := by
  cases chosen : s.page with
  | none =>
    rw [step, chosen] at made
    cases made
  | some page =>
    rw [convertOutcome chosen] at made
    obtain ⟨⟨drafted, left⟩, converted, same⟩ := Result.mapOk.mp made
    cases same
    exact ⟨page, left, rfl, rfl, converted⟩

theorem convertToFileCases (s : Session) (hint path : String) :
    (∃ document indent place, s.Writes hint path document indent place ∧
      (s.step (.convertToFile hint path)).2.result = .ok .done ∧
      (s.step (.convertToFile hint path)).1.folder =
        s.folder.put place (.file (Xml.text document indent).toUTF8)) ∨
    ((s.step (.convertToFile hint path)).2.result ≠ .ok .done ∧
      (s.step (.convertToFile hint path)).1 = s ∧
      ∀ document indent place, ¬ s.Writes hint path document indent place) := by
  cases chosen : s.page with
  | none =>
    right
    rw [step, chosen]
    refine ⟨?_, rfl, fun document indent place writes => ?_⟩
    · intro done
      cases done
    · obtain ⟨page, -, there, -⟩ := documentMade writes.made
      cases chosen.symm.trans there
  | some page =>
    cases result : (page.convertToFile hint path s.ids s.folder).result with
    | error fault =>
      right
      have kept := PageFiles.convertToFileAtomic path s.folder fault result
      rw [step, chosen]
      dsimp only
      rw [after, result]
      refine ⟨?_, ?_, fun document indent place writes => ?_⟩
      · intro done
        cases done
      · rw [kept]
      · obtain ⟨same, left, there, rfl, converted⟩ := documentMade writes.made
        cases chosen.symm.trans there
        have wrote : s.folder.writeFile path (Xml.text document page.options.indent).toUTF8 = .ok _ :=
          Folder.writeOk.mpr ⟨place, writes.located, writes.free, rfl⟩
        cases result.symm.trans (PageFiles.convertToFileOk.mpr ⟨document, _, converted, wrote⟩)
    | ok left =>
      left
      obtain ⟨document, written, converted, wrote⟩ := PageFiles.convertToFileOk.mp result
      have files := PageFiles.convertToFileFiles converted wrote
      obtain ⟨place, located, free, rfl⟩ := Folder.writeOk.mp wrote
      refine ⟨document, page.options.indent, place, ⟨?_, located, free⟩, ?_⟩
      · rw [convertOutcome chosen]
        exact Result.mapOk.mpr ⟨_, converted, rfl⟩
      · rw [step, chosen]
        dsimp only
        rw [after, result]
        exact ⟨rfl, files⟩

theorem convertToFileDone {hint path : String} :
    (s.step (.convertToFile hint path)).2.result = .ok .done ↔
      ∃ document indent place, s.Writes hint path document indent place := by
  obtain ⟨document, indent, place, writes, done, -⟩ | ⟨failed, -, none⟩ :=
    convertToFileCases s hint path
  · exact ⟨fun _ => ⟨document, indent, place, writes⟩, fun _ => done⟩
  · refine ⟨fun done => absurd done failed, fun ⟨document, indent, place, writes⟩ => ?_⟩
    exact absurd writes (none document indent place)

theorem convertToFileFailed {hint path : String}
    (failed : (s.step (.convertToFile hint path)).2.result ≠ .ok .done) :
    (s.step (.convertToFile hint path)).1 = s := by
  obtain ⟨_, _, _, _, done, _⟩ | ⟨_, same, _⟩ := convertToFileCases s hint path
  · exact absurd done failed
  · exact same

theorem Writes.folder {hint path : String} {document : Document} {indent : Nat} {place : Place}
    (writes : s.Writes hint path document indent place) :
    (s.step (.convertToFile hint path)).1.folder =
      s.folder.put place (.file (Xml.text document indent).toUTF8) := by
  obtain ⟨_, _, _, again, _, folder⟩ | ⟨_, _, none⟩ := convertToFileCases s hint path
  · obtain ⟨rfl, rfl, rfl⟩ := writes.unique again
    exact folder
  · exact absurd writes (none document indent place)

theorem Writes.otherIds {hint path : String} {document : Document} {indent : Nat} {place : Place}
    (writes : s.Writes hint path document indent place) (distinct : Function.Injective s.ids.name)
    {supply : IdSupply} (otherDistinct : Function.Injective supply.name) :
    ∃ other, ({ s with ids := supply }.step (.convert hint)).2.result = .ok (.document other indent) ∧
      other.renamed = document.renamed := by
  obtain ⟨page, left, chosen, rfl, converted⟩ := documentMade writes.made
  have renamed : (page.convert hint supply s.folder).result.map (fun made => made.1.renamed) =
      (page.convert hint s.ids s.folder).result.map fun made => made.1.renamed :=
    PageFiles.convertSame rfl rfl hint distinct otherDistinct
  rw [converted] at renamed
  obtain ⟨⟨other, rest⟩, otherConverted, same⟩ := Result.mapOk.mp renamed
  refine ⟨other, ?_, same⟩
  have elsewhere : ({ s with ids := supply } : Session).page = some page := chosen
  rw [convertOutcome elsewhere]
  exact Result.mapOk.mpr ⟨_, otherConverted, rfl⟩

theorem changeEntry {change : Change} (own : ¬ change.Foreign) (place : Place) :
    (s.change change).folder.entry? place = s.folder.entry? place ∨
    ∃ hint path document indent, change = .command (.convertToFile hint path) ∧
      s.Writes hint path document indent place ∧
      (s.change change).folder.entry? place = some (.file (Xml.text document indent).toUTF8) := by
  cases change with
  | files folder => exact absurd trivial own
  | command command =>
    rw [Session.change]
    by_cases looks : command.Looks
    · exact .inl (by rw [looksKeepsFolder looks])
    · cases command with
      | convertToFile hint path =>
        obtain ⟨document, indent, spot, writes, -, folder⟩ | ⟨-, same, -⟩ :=
          convertToFileCases s hint path
        · have only := Folder.putOnlyFile writes.free (Xml.text document indent)
          rw [folder]
          by_cases here : place = spot
          · subst here
            exact .inr ⟨hint, path, document, indent, rfl, writes, only.file⟩
          · exact .inl (only.others place here)
        · exact .inl (by rw [same])
      | write path content => exact absurd trivial own
      | makeDirectory path => exact absurd trivial own
      | remove path => exact absurd trivial own
      | _ => exact absurd trivial looks

theorem runEntry {changes : List Change} (own : ∀ change ∈ changes, ¬ change.Foreign)
    (place : Place) :
    (s.run changes).folder.entry? place = s.folder.entry? place ∨
    ∃ before hint path after document indent,
      changes = before ++ .command (.convertToFile hint path) :: after ∧
      (s.run before).Writes hint path document indent place ∧
      (s.run changes).folder.entry? place = some (.file (Xml.text document indent).toUTF8) := by
  induction changes generalizing s with
  | nil => exact .inl rfl
  | cons change changes ih =>
    obtain ⟨first, others⟩ := List.forall_mem_cons.mp own
    obtain kept | ⟨before, hint, path, after, document, indent, rfl, writes, held⟩ :=
      ih (s := s.change change) others
    · obtain still | ⟨hint, path, document, indent, rfl, writes, held⟩ :=
        changeEntry (s := s) first place
      · exact .inl (kept.trans still)
      · exact .inr ⟨[], hint, path, changes, document, indent, rfl, writes, kept.trans held⟩
    · exact .inr ⟨change :: before, hint, path, after, document, indent, rfl, writes, held⟩

theorem filesWrittenWhole {ids : IdSupply} (distinct : Function.Injective ids.name)
    {changes : List Change} {s : Session} (ran : (start ids).run changes = s) :
    (∀ command : Command, command.Looks → (s.step command).1.folder = s.folder) ∧
    (∀ hint path, (s.step (.convertToFile hint path)).2.result ≠ .ok .done →
      (s.step (.convertToFile hint path)).1 = s) ∧
    (∀ hint path, (s.step (.convertToFile hint path)).2.result = .ok .done ↔
      ∃ document indent place, s.Writes hint path document indent place) ∧
    (∀ hint path document indent place, s.Writes hint path document indent place →
      s.folder.OnlyFile (s.step (.convertToFile hint path)).1.folder place
        (Xml.text document indent) ∧
      (s.step (.convertToFile hint path)).1.folder.readText path = .ok (Xml.text document indent) ∧
      ∀ supply : IdSupply, Function.Injective supply.name → ∃ other,
        ({ s with ids := supply }.step (.convert hint)).2.result = .ok (.document other indent) ∧
        Xml.text other.renamed indent = Xml.text document.renamed indent) ∧
    ∀ further : List Change, (∀ change ∈ further, ¬ change.Foreign) → ∀ place,
      (s.run further).folder.entry? place = s.folder.entry? place ∨
      ∃ before hint path after document indent,
        further = before ++ .command (.convertToFile hint path) :: after ∧
        (s.run before).Writes hint path document indent place ∧
        (s.run further).folder.entry? place = some (.file (Xml.text document indent).toUTF8) := by
  have names : Function.Injective s.ids.name := by
    rw [← ran, runNames]
    exact distinct
  refine ⟨fun _ => looksKeepsFolder, fun _ _ => convertToFileFailed, fun _ _ => convertToFileDone,
    fun hint path document indent place writes => ⟨?_, ?_, ?_⟩, fun _ own => runEntry own⟩
  · rw [writes.folder]
    exact Folder.putOnlyFile writes.free _
  · rw [writes.folder]
    exact Folder.readTextWritten writes.located writes.free _
  · intro supply otherDistinct
    obtain ⟨other, made, same⟩ := writes.otherIds names otherDistinct
    exact ⟨other, made, by rw [same]⟩

def chosenPage : List Change := [.command (.write "b" "".toUTF8),
  .command (.write "s" "x\t0\t0\t1\t1\ty\tz\n".toUTF8), .command (.choose "b" "s" (.values {}))]

theorem stavesOverwritten :
    ∃ s, (start (.ofSeed 0)).run chosenPage = s ∧
    (s.step (.convertToFile "(1)" ".")).1 = s ∧
    ∃ document, (s.step (.convert "(1)")).2.result = .ok (.document document 2) ∧
      (s.step (.convertToFile "(1)" "s")).1.folder.readText "s" = .ok (Xml.text document 2) ∧
      ∀ place, place ≠ ["work", "s"] →
        (s.step (.convertToFile "(1)" "s")).1.folder.entry? place = s.folder.entry? place := by
  have distinct : Function.Injective (IdSupply.ofSeed 0).name := IdSupply.uuidDistinct 0
  obtain ⟨s, ran⟩ : ∃ s, (start (.ofSeed 0)).run chosenPage = s := ⟨_, rfl⟩
  obtain ⟨-, failed, done, wrote, -⟩ := filesWrittenWhole distinct ran
  have page : s.page = some ⟨"b", "s", {}⟩ := by rw [← ran]; decide +kernel
  have held : s.folder.readText "s" = .ok "x\t0\t0\t1\t1\ty\tz\n" := by
    rw [← ran]; decide +kernel
  have directory : s.folder.locateFile "." = .ok ["work"] := by rw [← ran]; decide +kernel
  have occupied : s.folder.entry? ["work"] = some .directory := by rw [← ran]; decide +kernel
  have staves : s.folder.locateFile "s" = .ok ["work", "s"] := by rw [← ran]; decide +kernel
  have free : s.folder.entry? ["work", "s"] ≠ some .directory := by rw [← ran]; decide +kernel
  have read : SystemHint.allOfText "(1)" = .ok [Document.oneStaff] := by decide +kernel
  have boxed : Box.ofStaffData "x\t0\t0\t1\t1\ty\tz\n" = .ok [Document.unitBox] := by
    decide +kernel
  obtain ⟨made, drafted⟩ : ∃ made,
      (Document.ofHint "(1)" [Document.unitBox] {} s.ids).result = .ok made := by
    obtain ⟨patterns, -, -, -, drafted, -⟩ := Document.ofHintRead read [Document.unitBox] {} s.ids
    obtain ⟨largest, made⟩ := drafted (List.cons_ne_nil _ _)
    exact ⟨_, made⟩
  have converted : (s.step (.convert "(1)")).2.result = .ok (.document made.1 2) := by
    rw [convertOutcome page, PageFiles.convertBoxed read held boxed, drafted]
    rfl
  obtain ⟨only, text, -⟩ := wrote "(1)" "s" made.1 2 _ ⟨converted, staves, free⟩
  refine ⟨s, ran, failed "(1)" "." fun finished => ?_, made.1, converted, text, only.others⟩
  obtain ⟨document, indent, place, writes⟩ := done "(1)" "." |>.mp finished
  cases directory.symm.trans writes.located
  exact writes.free occupied

end Session
end ScorePage
