import Mathlib.Data.List.Basic
import ScorePage.Text.Bytes

/-! Where a text can be cut: at the places that are ends of some of its beginnings, and at no other. -/
namespace ScorePage.Text

end ScorePage.Text
