import EventScript.Csv.Table
import EventScript.Json.Writing
import EventScript.Main
import EventScript.Proofs.CommandLine.Arguments
import EventScript.Proofs.CommandLine.Consent
import EventScript.Proofs.CommandLine.Ending
import EventScript.Proofs.CommandLine.Prompt
import EventScript.Proofs.CommandLine.Run
import EventScript.Proofs.Compile.AllOrNothing
import EventScript.Proofs.Compile.CsvFiles
import EventScript.Proofs.Compile.Ending
import EventScript.Proofs.Compile.Independence
import EventScript.Proofs.Compile.Outcomes
import EventScript.Proofs.Compile.Preservation
import EventScript.Proofs.Compile.Verdicts
import EventScript.Proofs.Csv.Boundary
import EventScript.Proofs.Csv.Limit
import EventScript.Proofs.Except
import EventScript.Proofs.Failure
import EventScript.Proofs.FileTree.Places
import EventScript.Proofs.Json.Integers
import EventScript.Proofs.Json.Literals
import EventScript.Proofs.Number.Chunks
import EventScript.Proofs.Number.Decimal
import EventScript.Proofs.Number.Digits
import EventScript.Proofs.Number.Double
import EventScript.Proofs.Number.Written
import EventScript.Proofs.Output
import EventScript.Proofs.Path
import EventScript.Proofs.Row.Grammar
import EventScript.Proofs.Row.Integers
import EventScript.Proofs.Row.Rendering
import EventScript.Proofs.Row.Spelling
import EventScript.Proofs.Row.Verdict
import EventScript.Proofs.Script.Canonical
import EventScript.Proofs.Script.Faults
import EventScript.Proofs.Script.Residue
import EventScript.Proofs.Script.RoundTrip
import EventScript.Proofs.Script.Truncation
import EventScript.Proofs.Script.Verdict
import EventScript.Proofs.Source.Agreement
import EventScript.Proofs.Source.CsvText
import EventScript.Proofs.Source.JsonText
import EventScript.Proofs.Source.Keys
import EventScript.Proofs.Source.Settling
import EventScript.Proofs.Text.Basic
import EventScript.Proofs.Text.Strict
import EventScript.Script.Decoding
