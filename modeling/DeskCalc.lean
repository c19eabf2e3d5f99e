import DeskCalc.Main
import DeskCalc.Proofs.Machine.Failure
import DeskCalc.Proofs.Session.Delivery
import DeskCalc.Proofs.Session.Growth
import DeskCalc.Proofs.Token.Spans
import DeskCalc.Proofs.Keyboard.Reading
import DeskCalc.Proofs.Prompt.Requests
import DeskCalc.Proofs.Machine.Lines
import DeskCalc.Proofs.Machine.Dimensions
import DeskCalc.Proofs.Session.Interruption
import DeskCalc.Proofs.Session.Submitting
import DeskCalc.Proofs.Text.Escape
import DeskCalc.Proofs.Text.Markup
import DeskCalc.Proofs.CommandLine.Agreement
import DeskCalc.Proofs.CommandLine.Document
import DeskCalc.Proofs.CommandLine.Level
import DeskCalc.Proofs.Prompt.Answers
import DeskCalc.Proofs.Prompt.Conversation
import DeskCalc.Proofs.Session.Boundary
import DeskCalc.Proofs.Token.Spelling
import DeskCalc.Proofs.Report.RoundTrip
import DeskCalc.Proofs.Machine.Printing
import DeskCalc.Proofs.Session.Printing
import DeskCalc.Proofs.Machine.Locality
import DeskCalc.Proofs.Machine.Arithmetic
import DeskCalc.Proofs.Number.Numeral
import DeskCalc.Proofs.Units.Reading
import DeskCalc.Proofs.Engine.Loading
import DeskCalc.Proofs.Editor.Tracking
import DeskCalc.Proofs.Session.Refusal
import DeskCalc.Proofs.Session.Selection
import DeskCalc.Proofs.Machine.Silence
import DeskCalc.Proofs.Transcript.Generation
