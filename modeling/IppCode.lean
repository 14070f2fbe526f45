import IppCode.Command.World
import IppCode.Main
import IppCode.Proofs.Markup.RoundTrip
import IppCode.Proofs.Scan.Answers
import IppCode.Proofs.Validation.Diagnosis
import IppCode.Proofs.Validation.Viability
import IppCode.Transfer.Delivery
import IppCode.Proofs.Scan.Append
import IppCode.Proofs.Validation.Continuation
import IppCode.Proofs.Grammar.Status
import IppCode.Proofs.Validation.Point
import IppCode.Proofs.Validation.HoldOver
import IppCode.Proofs.Validation.Agreement
import IppCode.Proofs.Validation.Composition
import IppCode.Proofs.Grammar.Layout
import IppCode.Proofs.Grammar.Printing
import IppCode.Proofs.Markup.Recovery
import IppCode.Proofs.Validation.Recasing
import IppCode.Proofs.Input.Delivered
import IppCode.Proofs.Scan.Protocol
import IppCode.Proofs.Command.Emission
import IppCode.Proofs.Markup.Characters
import IppCode.Proofs.Document.History
import IppCode.Proofs.Output.Limited
import IppCode.Proofs.Scan.TokenText
import IppCode.Proofs.Scan.Spans
import IppCode.Proofs.Validation.Report
import IppCode.Proofs.Words.Constant
import IppCode.Proofs.Scan.Bounds
import IppCode.Proofs.Scan.Restart
import IppCode.Proofs.Validation.Rounds
import IppCode.Proofs.Words.Vocabulary
