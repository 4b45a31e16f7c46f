import CallScript.Number.Shortest
import CallScript.Text.Quoted
import CallScript.Text.Digit
import CallScript.Text.Word
import CallScript.Text.Blank
import CallScript.Value.Shown
import CallScript.Number.Reading
import CallScript.Number.Places
import CallScript.Value.Order
import CallScript.Number.ComplexPower
import CallScript.Template.Filled
import CallScript.Value.Arithmetic
import CallScript.Syntax.Reading
import CallScript.Syntax.Script
import CallScript.Syntax.Literal
import CallScript.Syntax.Outline
import CallScript.Failure
import CallScript.Journal
import CallScript.Bundle
import CallScript.Loading
import CallScript.Text.Case
import CallScript.Pattern.Tree
import CallScript.Pattern.Reading
import CallScript.Pattern.Split
import CallScript.Digest.Sha1
import CallScript.Number.Mean
import CallScript.Calling
import CallScript.Evaluation
import CallScript.Analysis
import CallScript.Validation
import CallScript.Settings
import CallScript.Session
import CallScript.Json.Reading
import CallScript.Text.Utf8
import CallScript.CommandLine.Arguments
import CallScript.CommandLine
import CallScript.Service.Address
import CallScript.Service
import CallScript.Text.CharacterName.Table
import CallScript.Text.CharacterName
import CallScript.Text.Pieces
import CallScript.Function.Reading
import CallScript.Main
import CallScript.Proofs.History
import CallScript.Proofs.Placement
import CallScript.Proofs.Written
import CallScript.Proofs.Ledger
import CallScript.Proofs.Isolation
import CallScript.Proofs.Documenting
import CallScript.Proofs.Completion
import CallScript.Proofs.Concatenation
import CallScript.Proofs.Refusals
import CallScript.Proofs.Mentions
import CallScript.Proofs.Confinement
import CallScript.Proofs.Accepted
import CallScript.Proofs.Fallbacks
import CallScript.Proofs.Touched
import CallScript.Proofs.Attempts
import CallScript.Proofs.Failing
import CallScript.Proofs.Operators
import CallScript.Proofs.Origins
import CallScript.Proofs.Layout
import CallScript.Proofs.Oblivious
import CallScript.Proofs.Reads
import CallScript.Proofs.Repeated
import CallScript.Proofs.Occurrences
import CallScript.Proofs.Faults
import CallScript.Proofs.Magnitudes
import CallScript.Proofs.Conversions
import CallScript.Proofs.Redocumenting
import CallScript.Proofs.Scrubbing
import CallScript.Proofs.Listings
import CallScript.Proofs.Views
