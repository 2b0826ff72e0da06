import ScorePage.Program
import ScorePage.Proofs.LogFilter
import ScorePage.Proofs.Session.Writing

/-! How a run ends. A run has seven needs, each of which is met or not by the arguments and the files
there are; the first that is not met, in their order, is what the run fails for, and then no file
changes. When all are met the document is written, and nothing else changes. -/
namespace ScorePage.Program
open FileStep

inductive Need where
  | options
  | bars
  | staves
  | hint
  | boxes
  | systems
  | output
  deriving DecidableEq, Repr

def Need.inOrder : List Need := [.options, .bars, .staves, .hint, .boxes, .systems, .output]

def failureOf {ε α : Type} (context : Option String) (fault : ε → Fault) :
    Except ε α → Option Failure
  | .ok _ => none
  | .error found => some ⟨context, fault found⟩

def systemsOf (hint : String) : List StaffSystem :=
  match SystemHint.allOfText hint with
  | .error _ => []
  | .ok hints =>
      match (SystemPattern.ofHints hints).result with
      | .error _ => []
      | .ok patterns => StaffSystem.onPage patterns

def present (files : Folder) (path : String) : Option Failure :=
  if files.contains path then none else some ⟨none, .inputNotFound path⟩

/- What is wrong with a need, whatever may be wrong with others. Whether the output can be written
does not depend on what is written. -/
def unmet (a : Arguments) (files : Folder) : Need → Option Failure
  | .options =>
      a.config.bind fun path =>
        failureOf (some s!"Failed to load config from {path}") id (files.optionsIn path)
  | .bars => present files a.bars
  | .staves => present files a.staves
  | .hint => failureOf (some s!"Failed to convert to {a.output}") .hint (SystemHint.allOfText a.hint)
  | .boxes => failureOf (some s!"Failed to convert to {a.output}") id (files.boxesIn a.staves)
  | .systems =>
      if systemsOf a.hint = [] then some ⟨some s!"Failed to convert to {a.output}", .noSystems⟩
      else none
  | .output =>
      failureOf (some s!"Failed to convert to {a.output}") .file
        (files.writeFile a.output ByteArray.empty)

def optionsGiven (a : Arguments) (files : Folder) (options : Options) : Prop :=
  ∃ given, (∀ path, a.config = some path → files.contains path = true ∧
      ∃ content, files.readText path = .ok content ∧ Options.ofText content = .ok given) ∧
    (a.config = none → given = {}) ∧
    options = { given with linkStaves := given.linkStaves || a.linkStaves }

structure Finished (a : Arguments) (files : Folder) (ids : IdSupply) (options : Options)
    (boxes : List Box) (document : Document) (place : Place) : Prop where
  boxed : ∃ content, files.readText a.staves = .ok content ∧ Box.ofStaffData content = .ok boxes
  drafted : ∃ left, (Document.ofHint a.hint boxes options ids).result = .ok (document, left)
  located : files.locateFile a.output = .ok place
  free : files.entry? place ≠ some .directory

variable {a : Arguments} {files : Folder} {ids : IdSupply}

theorem failureOfError {ε α : Type} {context : Option String} {fault : ε → Fault}
    {result : Except ε α} {found : ε} (refused : result = .error found) :
    failureOf context fault result = some ⟨context, fault found⟩ := by
  rw [refused]
  rfl

theorem configuredKeeps (a : Arguments) : Keeps (configured a) := by
  rw [configured]
  split
  · exact fun _ => rfl
  · exact keepsMapFault PageFiles.loadOptionsKeeps _

theorem optionsForKeeps (a : Arguments) : Keeps (optionsFor a) :=
  keepsBind (configuredKeeps a) fun _ _ => rfl

theorem optionsCases (a : Arguments) (files : Folder) :
    (∃ failure, (optionsFor a files).result = .error failure ∧
      unmet a files .options = some failure) ∨
    (∃ options, (optionsFor a files).result = .ok options ∧ unmet a files .options = none ∧
      optionsGiven a files options) := by
  rw [optionsFor, bindResult (configuredKeeps a), unmet, configured]
  cases config : a.config with
  | none => exact .inr ⟨_, rfl, rfl, {}, by simp [config], fun _ => rfl, rfl⟩
  | some path =>
    have loaded := congrArg Aftermath.result (PageFiles.loadOptionsMeets path files)
    dsimp only [mapFault] at loaded ⊢
    rw [loaded, Option.bind_some]
    cases held : files.optionsIn path with
    | error fault => exact .inl ⟨_, rfl, rfl⟩
    | ok given =>
      refine .inr ⟨_, rfl, rfl, given, fun other same => ?_, by simp [config], rfl⟩
      cases config.symm.trans same
      exact Folder.optionsInOk.mp held

theorem inputCases (a : Arguments) (files : Folder) (options : Options) :
    (∃ fault, (PageFiles.find a.bars a.staves options files).result = .error fault ∧
      [Need.bars, .staves].findSome? (unmet a files) = some ⟨none, fault⟩) ∨
    ((PageFiles.find a.bars a.staves options files).result = .ok ⟨a.bars, a.staves, options⟩ ∧
      [Need.bars, .staves].findSome? (unmet a files) = none) := by
  simp only [PageFiles.findMeets, List.findSome?_cons, List.findSome?_nil, unmet, present]
  cases files.contains a.bars with
  | false => exact .inl ⟨_, rfl, rfl⟩
  | true =>
    cases files.contains a.staves with
    | false => exact .inl ⟨_, rfl, rfl⟩
    | true => exact .inr ⟨rfl, rfl⟩

theorem runBroken {arguments : List String} (read : Arguments.read arguments = .ok a)
    {logWish : Option String} (broken : LogFilter.BreaksOff logWish) (files : Folder)
    (ids : IdSupply) : run arguments logWish files ids = ⟨101, "", [], files⟩ := by
  rw [run, read]
  dsimp only
  rw [LogFilter.forRunBroken broken]

theorem Finished.otherIds {options : Options} {boxes : List Box} {document : Document}
    {place : Place} (finished : Finished a files ids options boxes document place)
    (distinct : Function.Injective ids.name) {supply : IdSupply}
    (otherDistinct : Function.Injective supply.name) :
    ∃ other left, (Document.ofHint a.hint boxes options supply).result = .ok (other, left) ∧
      other.renamed = document.renamed := by
  obtain ⟨left, drafted⟩ := finished.drafted
  have renamed := Document.ofHintRenamed a.hint boxes options otherDistinct distinct
  rw [drafted] at renamed
  obtain ⟨⟨other, rest⟩, otherDrafted, same⟩ := Result.mapOk.mp renamed
  exact ⟨other, rest, otherDrafted, same⟩

end ScorePage.Program
