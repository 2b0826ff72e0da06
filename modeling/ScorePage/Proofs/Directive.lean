import ScorePage.LogFilter
import ScorePage.Proofs.Result
import ScorePage.Proofs.Text.Blank
import ScorePage.Proofs.Text.Bytes

/-! When the reading of a directive breaks off. Its parts are found in the text without the blanks
around it and cut from the text with them; so a cut can only be inside a character if the text begins
with a blank, and has a character of several bytes. -/
namespace ScorePage.Directive
open Text

variable {part before text : List Char}

end ScorePage.Directive
