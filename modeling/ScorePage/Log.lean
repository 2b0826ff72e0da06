import ScorePage.Fault
import ScorePage.Text.Quoted

/-! The events that a run reports, with their level, the part of the program that reports them and
their text. -/
namespace ScorePage

inductive Level where
  | error
  | warn
  | info
  | debug
  | trace
  deriving DecidableEq, Repr

namespace Level

def rank : Level → Nat
  | error => 1
  | warn => 2
  | info => 3
  | debug => 4
  | trace => 5

def text : Level → String
  | error => "ERROR"
  | warn => "WARN"
  | info => "INFO"
  | debug => "DEBUG"
  | trace => "TRACE"

end Level

inductive Event where
  | stavesInSystem (staves repeats : Nat)
  | largestSoFar (position staves : Nat)
  | pageSummary (systems staves : Nat)
  | boxesUnmatched (boxes staves : Nat)
  | systemWithoutStaves (position : Nat)
  | staffFileRead (boxes : Nat) (path : String)
  | documentWritten (path : String)
  | barFile (path : String)
  | optionsInUse (options : Options)
  | pageFinished (path : String)
  deriving DecidableEq, Repr

namespace Event

def level : Event → Level
  | stavesInSystem .. | pageFinished .. => .info
  | boxesUnmatched .. => .warn
  | _ => .debug

def target : Event → String
  | stavesInSystem .. => "omrmei::staffgrp"
  | largestSoFar .. => "omrmei::system"
  | pageSummary .. | boxesUnmatched .. | systemWithoutStaves .. => "omrmei::converter"
  | staffFileRead .. => "omrmei::bbox"
  | documentWritten .. => "omrmei::writer"
  | barFile .. | optionsInUse .. | pageFinished .. => "omrmei"

def optionsText (options : Options) : String :=
  let title := match options.title with
    | none => "None"
    | some title => "Some(" ++ Text.quoted title ++ ")"
  "ConvertOptions \x7b title: " ++ title ++ s!", indent: {options.indent}" ++
    s!", link_staves: {options.linkStaves} " ++ "\x7d"

def message : Event → String
  | stavesInSystem staves repeats =>
      s!"number of staves in system: {staves} x {repeats} system(s)"
  | largestSoFar position staves =>
      s!"system {position} is the largest so far with {staves} staves"
  | pageSummary systems staves =>
      s!"{systems} systems on the page, encoding a staff group of {staves} staves"
  | boxesUnmatched boxes staves =>
      s!"staff file has {boxes} bounding boxes but the systems contain {staves} staves; " ++
        "not linking staves to zones"
  | systemWithoutStaves position => s!"system {position} has no staves, skipping"
  | staffFileRead boxes path => s!"read {boxes} staff bounding boxes from {path}"
  | documentWritten path => s!"wrote MEI document to {path}"
  | barFile path => s!"bar file: {path}"
  | optionsInUse options => "options: " ++ optionsText options
  | pageFinished path => s!"Wrote MEI to {path}"

end Event
end ScorePage
