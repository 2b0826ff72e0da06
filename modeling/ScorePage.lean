import ScorePage.Box.StaffData
import ScorePage.Xml
import ScorePage.Session
import ScorePage.Main
import ScorePage.Proofs.Hint.Spelling
import ScorePage.Proofs.Hint.Reading
import ScorePage.Proofs.Hint.Accepted
import ScorePage.Proofs.Hint.Cutting
import ScorePage.Proofs.Hint.RoundTrip
import ScorePage.Proofs.Numbering
import ScorePage.Proofs.Outcome
import ScorePage.Proofs.Systems
import ScorePage.Proofs.Element
import ScorePage.Proofs.Link
import ScorePage.Proofs.Draft
import ScorePage.Proofs.Document.Frame
import ScorePage.Proofs.Document.Conversion
import ScorePage.Proofs.Document.Linking
import ScorePage.Proofs.Document.References
import ScorePage.Proofs.Document.Definition
import ScorePage.Proofs.Document.Renaming
import ScorePage.Proofs.Hint.Joining
import ScorePage.Proofs.Document.Repeats
import ScorePage.Proofs.Xml.Layout
import ScorePage.Proofs.Xml.Lossless
import ScorePage.Proofs.Xml.Indentation
import ScorePage.Proofs.Document.Unlinked
import ScorePage.Proofs.Document.Addition
import ScorePage.Proofs.StaffDefinition
import ScorePage.Proofs.Largest
import ScorePage.Proofs.Document.Representative
import ScorePage.Proofs.PageFiles
import ScorePage.Proofs.Folder
import ScorePage.Proofs.Session
import ScorePage.Proofs.Session.Writing
import ScorePage.Proofs.Program.Ending
import ScorePage.Proofs.LogFilter
import ScorePage.Proofs.Program.Verbose
import ScorePage.Proofs.Binary64.Rounding
import ScorePage.Proofs.Decimal
import ScorePage.Proofs.Binary64.Text
import ScorePage.Proofs.Box.StaffData
import ScorePage.Proofs.Selection
import ScorePage.Proofs.Hint.Runs
import ScorePage.Proofs.Hint.Scanning
import ScorePage.Proofs.Hint.DeadEnd
import ScorePage.Proofs.Hint.Parting
import ScorePage.Proofs.Text.Endings
import ScorePage.Proofs.Box.Lines
import ScorePage.Proofs.Box.Coordinates
import ScorePage.Proofs.Binary64.Order
import ScorePage.Proofs.Box.Hull
import ScorePage.Proofs.Element.Places
import ScorePage.Proofs.Element.Attributes
