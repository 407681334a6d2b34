import ShapeCheck.Batch
import ShapeCheck.Binary64.Notation
import ShapeCheck.Calendar
import ShapeCheck.Checker.Build
import ShapeCheck.Checker.Run
import ShapeCheck.Failure.Stored
import ShapeCheck.FailureLog
import ShapeCheck.Json.Printer
import ShapeCheck.Json.Reader
import ShapeCheck.Keyed
import ShapeCheck.Log.Console
import ShapeCheck.Log.Logged
import ShapeCheck.Log.Threshold
import ShapeCheck.Proofs.Acceptance
import ShapeCheck.Proofs.Agreement
import ShapeCheck.Proofs.Ancestry
import ShapeCheck.Proofs.ArrayKeys
import ShapeCheck.Proofs.BrokenRules
import ShapeCheck.Proofs.Concatenation
import ShapeCheck.Proofs.DecimalText
import ShapeCheck.Proofs.Degradation
import ShapeCheck.Proofs.ExpectedTypes
import ShapeCheck.Proofs.InsertionOrder
import ShapeCheck.Proofs.JsonRoundTrip
import ShapeCheck.Proofs.Locality
import ShapeCheck.Proofs.LogLevels
import ShapeCheck.Proofs.LogLines
import ShapeCheck.Proofs.Misuse
import ShapeCheck.Proofs.Monotonicity
import ShapeCheck.Proofs.Nearest
import ShapeCheck.Proofs.NonFailure
import ShapeCheck.Proofs.NumberLayout
import ShapeCheck.Proofs.NumberText
import ShapeCheck.Proofs.OnceOnly
import ShapeCheck.Proofs.Provenance
import ShapeCheck.Proofs.RoundingOfIntegers
import ShapeCheck.Proofs.RoundingOfNumbers
import ShapeCheck.Proofs.RuleQueries
import ShapeCheck.Proofs.Rulings
import ShapeCheck.Proofs.SameValue
import ShapeCheck.Proofs.Settlement
import ShapeCheck.Proofs.ShortestDecimal
import ShapeCheck.Proofs.ShortestRoundTrip
import ShapeCheck.Proofs.SymbolsAsText
import ShapeCheck.Text.Blank
import ShapeCheck.Text.Quoted
import ShapeCheck.Value.Fresh
import ShapeCheck.Value.Render
