import ScorePage.Hint.Fault
import ScorePage.Options.Fault

/-! Everything that can end a conversion, by cause. -/
namespace ScorePage

inductive StaffLineFault where
  | coordinateCount (found : Nat)
  | notACoordinate (field : List Char)
  deriving DecidableEq, Repr

def StaffLineFault.message : StaffLineFault → String
  | coordinateCount found => s!"expected 4 coordinates, found {found}"
  | notACoordinate field => s!"'{String.ofList field}' is not a pixel coordinate"

inductive FileFault where
  | notFound
  | notADirectory
  | isADirectory
  | notText
  | nameTooLong
  | nameWithNul
  deriving DecidableEq, Repr

def FileFault.message : FileFault → String
  | notFound => "No such file or directory (os error 2)"
  | notADirectory => "Not a directory (os error 20)"
  | isADirectory => "Is a directory (os error 21)"
  | notText => "stream did not contain valid UTF-8"
  | nameTooLong => "File name too long (os error 36)"
  | nameWithNul => "file name contained an unexpected NUL byte"

inductive Fault where
  | inputNotFound (path : String)
  | hint (fault : Hint.Fault)
  | noSystems
  | staffLine (line : Nat) (fault : StaffLineFault)
  | options (fault : Options.Fault)
  | file (fault : FileFault)
  deriving DecidableEq, Repr

def Fault.message : Fault → String
  | inputNotFound path => s!"The input file does not exist: {path}"
  | hint fault => fault.message
  | noSystems => "The staff group hint does not describe any systems"
  | staffLine line fault => s!"Staff data error at line {line}: {fault.message}"
  | options fault => fault.message
  | file fault => fault.message

end ScorePage
