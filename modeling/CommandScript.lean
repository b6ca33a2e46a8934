import CommandScript.CommandLine.Report
import CommandScript.Lexer.Stream
import CommandScript.Lowering
import CommandScript.Main
import CommandScript.Memory.Request
import CommandScript.Proofs.Lexer.Line
import CommandScript.Proofs.Lexer.Relay
import CommandScript.Proofs.Lexer.Sticky
import CommandScript.Proofs.Lexer.Writing
import CommandScript.Proofs.Lowering.Compound
import CommandScript.Proofs.Lowering.Measured
import CommandScript.Proofs.Lowering.ParamScope
import CommandScript.Proofs.Memory.Closure
import CommandScript.Proofs.Memory.Failure
import CommandScript.Proofs.Memory.Issue
import CommandScript.Proofs.Memory.Lexical
import CommandScript.Proofs.Memory.Unobserved
import CommandScript.Proofs.LongestMatch
import CommandScript.Proofs.Lexer.Failure
import CommandScript.Proofs.Lexer.Terminator
import CommandScript.Proofs.Lexer.Gap
import CommandScript.Proofs.Lexer.Name
import CommandScript.Proofs.Lexer.PlainCommand
import CommandScript.Proofs.Memory.Constant
import CommandScript.Proofs.Memory.Tracing
import CommandScript.Proofs.Lexer.Number
import CommandScript.Lexer.Machine
import CommandScript.Proofs.Lexer.Machine
import CommandScript.Proofs.Lexer.Lazy
import CommandScript.Proofs.Memory.Balance
import CommandScript.Proofs.Location
import CommandScript.Proofs.Lexer.LineFeed
import CommandScript.Proofs.CommandLine.Listing
import CommandScript.Proofs.Tree.Layout
import CommandScript.Lexer.Checked
import CommandScript.Proofs.Lexer.Range
import CommandScript.Proofs.Lowering.Generated
