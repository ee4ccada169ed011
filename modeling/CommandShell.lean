import CommandShell.Main
import CommandShell.Builtin
import CommandShell.Proofs.Recording.Story
import CommandShell.Proofs.Recording.Cleanup
import CommandShell.Proofs.Recording.Failure
import CommandShell.Proofs.Recording.Evaluation
import CommandShell.Proofs.Parsing.Arena
import CommandShell.Proofs.Parsing.Grammar
import CommandShell.Proofs.Lexing.Scanner
import CommandShell.Proofs.Lexing.Rendering
import CommandShell.Proofs.Recording.Waiting
import CommandShell.Proofs.Recording.Scoping
import CommandShell.Proofs.Lexing.Lines
import CommandShell.Proofs.Parsing.Writing
import CommandShell.Proofs.Reading.Scopes
import CommandShell.Proofs.Reading.Turns
import CommandShell.Proofs.Parsing.Balance
import CommandShell.Proofs.Recording.Isolation
import CommandShell.Proofs.Processes.Family
import CommandShell.Proofs.Processes.Running
import CommandShell.Proofs.Processes.Accounting
import CommandShell.Proofs.Processes.System
import CommandShell.Proofs.Processes.Holdings
import CommandShell.Proofs.Processes.Commands
import CommandShell.Proofs.Processes.Operations
import CommandShell.Proofs.Processes.Serving
import CommandShell.Proofs.Processes.Agreement
import CommandShell.Proofs.Executing.Grouping
import CommandShell.Proofs.Executing.Emptiness
import CommandShell.Proofs.Recording.Subshells
import CommandShell.Proofs.Recording.Wiring
import CommandShell.Proofs.Parsing.Separators
import CommandShell.Proofs.Reading.Continuation
import CommandShell.Proofs.Recording.Stacking
import CommandShell.Proofs.Reading.Pieces
import CommandShell.Proofs.Reading.Sources
import CommandShell.Proofs.Streams.Registry
import CommandShell.Proofs.Executing.ExitCode
import CommandShell.Proofs.Parsing.Tree
import CommandShell.Proofs.Parsing.Visits
