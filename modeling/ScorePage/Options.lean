/-! Conversion options. -/
namespace ScorePage

structure Options where
  title : Option String := none
  indent : Nat := 2
  linkStaves : Bool := false
  deriving DecidableEq, Repr

def Options.largestIndent : Nat := 16

end ScorePage
