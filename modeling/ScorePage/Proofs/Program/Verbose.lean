import ScorePage.Proofs.LogFilter
import ScorePage.Proofs.Program.Ending
import ScorePage.Proofs.Text.Terminal

/-! What a run tells of the staves of each pattern when more details are wanted. The events are there
for every hint, in order; whether they are shown is up to the one directive that decides on them. -/
namespace ScorePage

def Event.tellsStaves : Event → Bool
  | .stavesInSystem _ _ => true
  | _ => false

def SystemHint.told (hint : SystemHint) : Event := .stavesInSystem hint.layout.staves hint.repeats

theorem SystemPattern.ofHintTold {hint : SystemHint} {pattern : SystemPattern}
    (compiled : (ofHint hint).result = .ok pattern) :
    (ofHint hint).reported Event.tellsStaves = [hint.told] := by
  obtain ⟨⟨last, numbered⟩, -⟩ := patternNumbered compiled
  obtain ⟨rfl, -⟩ := Layout.numberConsecutive numbered
  rw [Outcome.reported, ofHint, numbered]
  dsimp only
  rw [Nat.zero_add]
  rfl

theorem SystemPattern.ofHintsTold {hints : List SystemHint} {patterns : List SystemPattern}
    (compiled : (ofHints hints).result = .ok patterns) :
    (ofHints hints).reported Event.tellsStaves = hints.map SystemHint.told := by
  unfold ofHints at compiled ⊢
  induction hints generalizing patterns with
  | nil => rfl
  | cons hint hints ih =>
    rw [List.mapM_cons, Outcome.bindResult] at compiled
    obtain ⟨pattern, first, compiled⟩ := Result.bindOk.mp compiled
    rw [Outcome.bindResult] at compiled
    obtain ⟨others, compiled, -⟩ := Result.bindOk.mp compiled
    rw [List.mapM_cons, Outcome.bindReported first, ofHintTold first,
      Outcome.bindFirst fun _ => rfl, ih compiled]
    rfl

theorem Link.possibleTold (systems : List StaffSystem) (boxes : Nat) :
    (possible systems boxes).reported Event.tellsStaves = [] := by
  unfold possible
  split
  · rw [Outcome.reported, List.filter_eq_nil_iff]
    intro event member
    obtain ⟨position, _, rfl⟩ := List.mem_map.mp member
    exact Bool.false_ne_true
  · rfl

theorem Document.ofHintsTold {hints : List SystemHint} {patterns : List SystemPattern}
    (compiled : (SystemPattern.ofHints hints).result = .ok patterns) (boxes : List Box)
    (options : Options) (ids : IdSupply) :
    (ofHints hints boxes options ids).reported Event.tellsStaves = hints.map SystemHint.told := by
  rw [ofHints, Outcome.bindReported compiled, SystemPattern.ofHintsTold compiled]
  refine (congrArg _ ?_).trans (List.append_nil _)
  refine Outcome.bindSilent (StaffSystem.largestReported (fun _ _ => rfl) _) fun largest => ?_
  refine Outcome.bindSilent rfl fun _ => ?_
  dsimp only
  split
  · exact Outcome.bindSilent (Link.possibleTold _ _) fun _ => rfl
  · exact Outcome.bindSilent rfl fun _ => rfl

namespace PageFiles
open FileStep

variable {page : PageFiles} {files : Folder} {hint : String} {hints : List SystemHint}

theorem readStaffFileTold {path : String} : Silent Event.tellsStaves (readStaffFile path) :=
  silentBind (fun _ => rfl) fun _ => silentBind (fun _ => rfl) fun _ =>
    silentBind (fun _ => rfl) fun _ _ => rfl

theorem convertToFileTold (read : SystemHint.allOfText hint = .ok hints) {boxes : List Box}
    (found : files.boxesIn page.staves = .ok boxes) (path : String) (ids : IdSupply) :
    (page.convertToFile hint path ids files).log.filter Event.tellsStaves =
      hints.map SystemHint.told := by
  obtain ⟨patterns, compiled, -⟩ := limitedPatterns read
  have loaded : (readStaffFile page.staves files).result = .ok boxes :=
    (readStaffFileResult page.staves files).trans found
  rw [convertToFile, logBefore, convert, read, bindSeen hints rfl,
    logBehind readStaffFileTold loaded, readStaffFileKeeps]
  · exact Document.ofHintsTold compiled ..
  · rintro ⟨document, left⟩
    exact silentBind (silentWrite path _) fun _ => silentBind (fun _ => rfl) fun _ _ => rfl

end PageFiles

namespace Program
open FileStep

def staffLine : List Char := "INFO omrmei::staffgrp: ".toList

def tellsStaves (line : String) : Bool := staffLine.isPrefixOf line.toList

def lineHead (level : Level) (target : String) : List Char :=
  level.text.toList ++ ' ' :: (target.toList ++ [':', ' '])

theorem logLineHead (event : Event) :
    (logLine event).toList =
      lineHead event.level event.target ++ (Text.inert event.message).toList := by
  rw [logLine, lineHead]
  simp only [String.toList_append, toString, List.append_assoc, List.cons_append, List.nil_append]
  rfl

theorem prefixApart {text head rest : List Char} (apart : ¬ text <+: head)
    (otherwise : ¬ head <+: text) : ¬ text <+: head ++ rest := by
  intro begins
  rcases List.prefix_or_prefix_of_prefix begins (List.prefix_append head rest) with shorter | longer
  · exact apart shorter
  · exact otherwise longer

theorem lineTells (event : Event) : tellsStaves (logLine event) = event.tellsStaves := by
  rw [tellsStaves, logLineHead]
  cases event with
  | stavesInSystem =>
    have head : lineHead .info "omrmei::staffgrp" = staffLine := by decide
    simp only [Event.level, Event.target, head]
    exact List.isPrefixOf_iff_prefix.mpr (List.prefix_append ..)
  | _ =>
    simp only [Event.level, Event.target]
    refine Bool.eq_false_iff.mpr fun begins => ?_
    exact prefixApart (by decide) (by decide) (List.isPrefixOf_iff_prefix.mp begins)

theorem failureTells (failure : Failure) : tellsStaves failure.message = false := by
  have begins : ∃ rest, failure.message.toList = "Error: ".toList ++ rest := by
    rw [Failure.message]
    cases failure.context <;> simp only [String.toList_append, toString, List.append_assoc] <;>
      exact ⟨_, rfl⟩
  obtain ⟨rest, same⟩ := begins
  rw [tellsStaves, same, Bool.eq_false_iff, Ne, List.isPrefixOf_iff_prefix]
  exact prefixApart (by decide) (by decide)

variable {a : Arguments} {files : Folder} {hints : List SystemHint}

theorem convertTold (read : SystemHint.allOfText a.hint = .ok hints) (page : PageFiles)
    {boxes : List Box} (found : files.boxesIn page.staves = .ok boxes) (ids : IdSupply) :
    (convert a page ids files).log.filter Event.tellsStaves = hints.map SystemHint.told := by
  rw [convert, logBehind (fun _ => rfl) rfl, logBehind (fun _ => rfl) rfl,
    logBefore fun _ _ => rfl]
  exact PageFiles.convertToFileTold read found a.output ids

theorem optionsForTold : Silent Event.tellsStaves (optionsFor a) := by
  refine silentBind ?_ fun _ _ => rfl
  rw [configured]
  split
  · exact fun _ => rfl
  · intro files
    rw [mapFault, PageFiles.loadOptionsMeets]
    rfl

theorem runWithTold (read : SystemHint.allOfText a.hint = .ok hints)
    (met : ∀ need ∈ [Need.options, .bars, .staves, .boxes], unmet a files need = none)
    (ids : IdSupply) :
    (runWith a ids files).log.filter Event.tellsStaves = hints.map SystemHint.told := by
  simp only [List.forall_mem_cons] at met
  obtain ⟨loaded, bars, staves, boxed, -⟩ := met
  obtain ⟨failure, -, missing⟩ | ⟨options, accepted, -, -⟩ := optionsCases a files
  · rw [loaded] at missing
    contradiction
  obtain ⟨fault, -, missing⟩ | ⟨there, -⟩ := inputCases a files options
  · rw [List.findSome?_cons, bars, List.findSome?_cons, staves] at missing
    contradiction
  rw [runWith, logBehind optionsForTold accepted, optionsForKeeps]
  have looked : Silent Event.tellsStaves (mapFault (Failure.mk none)
      (PageFiles.find a.bars a.staves options)) := fun files => by
    rw [mapFault, PageFiles.findMeets]
    rfl
  rw [logBehind looked (mapFaultDone there), keepsMapFault PageFiles.findKeeps]
  cases found : files.boxesIn a.staves with
  | error fault =>
    rw [unmet, failureOfError found] at boxed
    contradiction
  | ok boxes => exact convertTold read ⟨a.bars, a.staves, options⟩ found ids

theorem runTold {arguments : List String} (accepted : Arguments.read arguments = .ok a)
    {logWish : Option String} {filter : LogFilter}
    (made : LogFilter.forRun logWish a.verbose = some filter) (files : Folder) (ids : IdSupply) :
    (run arguments logWish files ids).messages.filter tellsStaves =
      (((runWith a ids files).log.filter Event.tellsStaves).filter filter.shows).map logLine := by
  have lines (log : List Event) (shows : Event → Bool) :
      ((log.filter shows).map logLine).filter tellsStaves =
        ((log.filter Event.tellsStaves).filter shows).map logLine := by
    rw [List.filter_map, List.filter_filter, List.filter_filter]
    congr 2
    funext event
    rw [Function.comp_apply, lineTells, Bool.and_comm]
  rw [run, accepted]
  dsimp only
  rw [made]
  dsimp only
  cases (runWith a ids files).result with
  | error failure =>
    dsimp only
    rw [List.filter_append, lines, List.filter_singleton, failureTells]
    exact List.append_nil _
  | ok done => exact lines ..

def stavesLine (hint : SystemHint) : String :=
  s!"INFO omrmei::staffgrp: number of staves in system: {hint.layout.staves} x {hint.repeats} system(s)"

theorem stavesLineShown (hint : SystemHint) : logLine hint.told = stavesLine hint := by
  have text : hint.told.message =
    s!"number of staves in system: {hint.layout.staves} x {hint.repeats} system(s)" := rfl
  have plain : hint.told.message.toList.all Text.isPlain = true := by
    simp only [text, String.toList_append, List.all_append, Text.plainNumber, Bool.and_true]
    decide
  have head : "INFO" ++ " " ++ "omrmei::staffgrp" ++ ": " ++ "number of staves in system: " =
    "INFO omrmei::staffgrp: number of staves in system: " := by decide
  unfold logLine stavesLine
  rw [Text.inertPlain plain, text]
  -- level and target are fixed texts here, and so part of the first piece of the line
  change "INFO" ++ " " ++ "omrmei::staffgrp" ++ ": " ++ ("number of staves in system: " ++ _ ++ _ ++
    _ ++ _) = "INFO omrmei::staffgrp: number of staves in system: " ++ _ ++ _ ++ _ ++ _
  rw [← head]
  simp only [String.append_assoc]

/- Whether the lines on staves are kept back though more details are wanted: of the directives that
are asked for and fit these lines, one that is more specific than `details` decides and says so. -/
def Silenced (logWish : Option String) : Prop :=
  ∃ d, (LogFilter.asked logWish).Overrules (.stavesInSystem 0 0) d ∧
    d.limit < LogFilter.details.limit

theorem stavesShown (hint : SystemHint) (logWish : Option String) :
    ((LogFilter.asked logWish).add LogFilter.details).shows hint.told = true ↔
      ¬ Silenced logWish := by
  have numberless : ((LogFilter.asked logWish).add LogFilter.details).shows hint.told =
      ((LogFilter.asked logWish).add LogFilter.details).shows (.stavesInSystem 0 0) := rfl
  rw [numberless, LogFilter.detailsShow (LogFilter.apartAsked logWish) (by decide) rfl, Silenced]
  simp only [not_exists, not_and, Nat.not_lt]

theorem silencedBy {logWish : Option String} (silenced : Silenced logWish) :
    ∃ text filter d target, logWish = some text ∧ LogFilter.ofText? text = some filter ∧
      d ∈ filter ∧ d.limit < 3 ∧ d.target = some target ∧ "omrmei".toList <+: target ∧
      target <+: "omrmei::staffgrp".toList ∧ (target = "omrmei".toList → d.fields ≠ []) := by
  obtain ⟨d, overrules, low⟩ := silenced
  have reach := Directive.lessSpecific.mp overrules.above
  have own : LogFilter.details.reach = "omrmei".toList.length + 1 := rfl
  have bare : LogFilter.details.fields.length = 0 := rfl
  rw [own, bare] at reach
  cases named : d.target with
  | none =>
    rw [Directive.reach, named] at reach
    simp at reach
  | some target =>
    have inside := Directive.fitsTarget overrules.fits named
    have length : d.reach = target.length + 1 := by rw [Directive.reach, named]; rfl
    rw [length] at reach
    -- both are beginnings of the same target, and `target` is not the shorter one
    have begins : "omrmei".toList <+: target :=
      List.prefix_of_prefix_length_le (by decide : _ <+: "omrmei::staffgrp".toList) inside (by omega)
    have fields : target = "omrmei".toList → d.fields ≠ [] := by
      rintro rfl none
      rw [none, List.length_nil] at reach
      omega
    have member := overrules.member
    unfold LogFilter.asked at member
    cases read : logWish.bind LogFilter.ofText? with
    | none =>
      rw [read, Option.getD_none, LogFilter.warnings, List.mem_singleton] at member
      cases member
      exact absurd rfl (fields (Option.some.inj named).symm)
    | some filter =>
      rw [read, Option.getD_some] at member
      obtain ⟨text, rfl, read⟩ := Option.bind_eq_some_iff.mp read
      exact ⟨text, filter, d, target, rfl, read, member, low, named, begins, inside, fields⟩

theorem stavesToldUnlessSilenced {arguments : List String}
    (accepted : Arguments.read arguments = .ok a) (verbose : a.verbose = true)
    (met : ∀ need ∈ [Need.options, .bars, .staves, .boxes], unmet a files need = none)
    (read : SystemHint.allOfText a.hint = .ok hints) (logWish : Option String) (ids : IdSupply) :
    (¬ LogFilter.BreaksOff logWish → ¬ Silenced logWish →
      (run arguments logWish files ids).messages.filter tellsStaves = hints.map stavesLine) ∧
    (LogFilter.BreaksOff logWish ∨ Silenced logWish →
      (run arguments logWish files ids).messages.filter tellsStaves = []) ∧
    (Silenced logWish → ∃ text filter d target, logWish = some text ∧
      LogFilter.ofText? text = some filter ∧ d ∈ filter ∧ d.limit < 3 ∧ d.target = some target ∧
      "omrmei".toList <+: target ∧ target <+: "omrmei::staffgrp".toList ∧
      (target = "omrmei".toList → d.fields ≠ [])) := by
  have lines (answered : ¬ LogFilter.BreaksOff logWish) :
      (run arguments logWish files ids).messages.filter tellsStaves =
        ((hints.map SystemHint.told).filter
          ((LogFilter.asked logWish).add LogFilter.details).shows).map logLine := by
    have made := LogFilter.forRunAnswered answered a.verbose
    rw [verbose, if_pos rfl, ← verbose] at made
    rw [runTold accepted made, runWithTold read met]
  refine ⟨fun answered unsilenced => ?_, fun kept => ?_, silencedBy⟩
  · rw [lines answered, List.filter_eq_self.mpr, List.map_map]
    · exact List.map_congr_left fun hint _ => stavesLineShown hint
    · intro event member
      obtain ⟨hint, -, rfl⟩ := List.mem_map.mp member
      exact (stavesShown hint logWish).mpr unsilenced
  · by_cases broken : LogFilter.BreaksOff logWish
    · rw [runBroken accepted broken]
      rfl
    · have silenced := kept.resolve_left broken
      rw [lines broken, List.filter_eq_nil_iff.mpr, List.map_nil]
      intro event member
      obtain ⟨hint, -, rfl⟩ := List.mem_map.mp member
      exact fun shown => (stavesShown hint logWish).mp shown silenced

def emptyPage : Folder :=
  (Folder.fresh.put ["work", "b"] (.file "".toUTF8)).put ["work", "s"] (.file "".toUTF8)

theorem stavesToldInSpite :
    Arguments.read ["-b", "b", "-s", "s", "-g", "(3) (2)x4", "-f", ".", "-v"] =
      .ok ⟨"b", "s", "(3) (2)x4", ".", none, false, true⟩ ∧
    (run ["-b", "b", "-s", "s", "-g", "(3) (2)x4", "-f", ".", "-v"] (some "off,omrmei=error")
      emptyPage (.ofSeed 0)).messages.filter tellsStaves =
      ["INFO omrmei::staffgrp: number of staves in system: 3 x 1 system(s)",
       "INFO omrmei::staffgrp: number of staves in system: 2 x 4 system(s)"] := by
  have accepted : Arguments.read ["-b", "b", "-s", "s", "-g", "(3) (2)x4", "-f", ".", "-v"] =
      .ok ⟨"b", "s", "(3) (2)x4", ".", none, false, true⟩ := by decide +kernel
  have met : ∀ need ∈ [Need.options, .bars, .staves, .boxes],
      unmet ⟨"b", "s", "(3) (2)x4", ".", none, false, true⟩ emptyPage need = none := by
    decide +kernel
  have read : SystemHint.allOfText "(3) (2)x4" =
      .ok [⟨"(3)", .leaf 3 .nil, 1⟩, ⟨"(2)x4", .leaf 2 .nil, 4⟩] := by decide +kernel
  obtain ⟨told, -, silencers⟩ :=
    stavesToldUnlessSilenced accepted rfl met read (some "off,omrmei=error") (.ofSeed 0)
  have answered : ¬ LogFilter.BreaksOff (some "off,omrmei=error") := by decide +kernel
  refine ⟨accepted, (told answered fun silenced => ?_).trans (by decide +kernel)⟩
  obtain ⟨text, filter, d, target, same, parsed, member, -, named, -, -, fields⟩ := silencers silenced
  cases same
  have directives : LogFilter.ofText? "off,omrmei=error" =
      some [⟨none, [], 0⟩, ⟨some "omrmei".toList, [], 1⟩] := by decide +kernel
  cases parsed.symm.trans directives
  rcases List.mem_cons.mp member with rfl | member
  · contradiction
  · rw [List.mem_singleton.mp member] at named fields
    exact fields (Option.some.inj named).symm rfl

theorem stavesUntold :
    Arguments.read ["-b", "b", "-s", "s", "-g", "(1)", "-f", "o", "-v"] =
      .ok ⟨"b", "s", "(1)", "o", none, false, true⟩ ∧
    (∀ need ∈ Need.inOrder, unmet ⟨"b", "s", "(1)", "o", none, false, true⟩ emptyPage need = none) ∧
    SystemHint.allOfText "(1)" = .ok [⟨"(1)", .leaf 1 .nil, 1⟩] ∧
    (run ["-b", "b", "-s", "s", "-g", "(1)", "-f", "o", "-v"] (some "omrmei::staffgrp=off")
      emptyPage (.ofSeed 0)).messages = ["INFO omrmei: Wrote MEI to o"] ∧
    stavesLine ⟨"(1)", .leaf 1 .nil, 1⟩ ∉
      (run ["-b", "b", "-s", "s", "-g", "(1)", "-f", "o", "-v"] (some "omrmei::staffgrp=off")
        emptyPage (.ofSeed 0)).messages := by
  decide +kernel

end Program
end ScorePage
