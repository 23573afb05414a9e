import AsmLint.Main
import AsmLint.CommandLine.Outcome
import AsmLint.Recording.Suite
import AsmLint.Session
import AsmLint.Proofs.Text.Lines
import AsmLint.Proofs.Text.Utf8
import AsmLint.Proofs.Statement
import AsmLint.Proofs.Source.Bytes
import AsmLint.Proofs.Verdict
import AsmLint.Proofs.Check
import AsmLint.Proofs.Report.Blocks
import AsmLint.Proofs.Report.Reading
import AsmLint.Proofs.CommandLine.ByteSource
import AsmLint.Proofs.Text.Decoding
import AsmLint.Proofs.Check.Parts
import AsmLint.Proofs.CommandLine.Given
import AsmLint.Proofs.Verdict.Grammar
import AsmLint.Proofs.CommandLine.LineSource
import AsmLint.Proofs.CommandLine.ExitStatus
import AsmLint.Proofs.Report.Diagnostics
import AsmLint.Proofs.Check.Canonical
import AsmLint.Proofs.Source.Written
import AsmLint.Proofs.Text.Replacing
import AsmLint.Proofs.CommandLine.LineLength
import AsmLint.Proofs.Text.ReportLines
import AsmLint.Proofs.Recording.Comparison
import AsmLint.Proofs.Text.StrictReading
import AsmLint.Proofs.CommandLine.SoleArgument
import AsmLint.Proofs.Source.Resolving
import AsmLint.Proofs.Recording.Directory
import AsmLint.Proofs.Recording.Replay
import AsmLint.Proofs.Recording.Suite
import AsmLint.Proofs.CommandLine.Arrangement
import AsmLint.Proofs.Statement.Layout
import AsmLint.Proofs.Statement.Truncation
import AsmLint.Proofs.Statement.Cutting
import AsmLint.Proofs.Check.TokenLimit
import AsmLint.Proofs.Report.Notes
import AsmLint.Proofs.Recording.Difference
import AsmLint.Proofs.Check.Rejecting
import AsmLint.Proofs.Source.Pulling
import AsmLint.Proofs.Numeral.Spelling
import AsmLint.Proofs.Text.LowerCase
import AsmLint.Proofs.Recording.TestName
import AsmLint.Proofs.Recording.Listing
import AsmLint.Proofs.Recording.Sibling
