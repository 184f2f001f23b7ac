import UnifyMachine.Compile.Allocation
import UnifyMachine.Compile.Code
import UnifyMachine.Machine.Cell
import UnifyMachine.Machine.Cursor
import UnifyMachine.Machine.Error
import UnifyMachine.Machine.Exec
import UnifyMachine.Machine.Heap
import UnifyMachine.Machine.Instruction
import UnifyMachine.Machine.State
import UnifyMachine.Main
import UnifyMachine.Syntax.Diagnostic
import UnifyMachine.Syntax.Grammar
import UnifyMachine.Syntax.Operator
import UnifyMachine.Syntax.Reader
import UnifyMachine.Syntax.Resolve
import UnifyMachine.Syntax.Scanner
import UnifyMachine.Syntax.Token
import UnifyMachine.Term.Basic
import UnifyMachine.Term.Decimal
import UnifyMachine.Term.Outline
import UnifyMachine.Term.Render
import UnifyMachine.Text.Alphabetic
import UnifyMachine.Text.Blank
import UnifyMachine.Text.CodePointSet
import UnifyMachine.Text.Lexical
import UnifyMachine.Text.Lowercase
import UnifyMachine.Text.Numeric
import UnifyMachine.Text.Printable
import UnifyMachine.Text.Screen
import UnifyMachine.Text.Uppercase
import UnifyMachine.Toplevel.Answer
import UnifyMachine.Toplevel.CommandLine
import UnifyMachine.Toplevel.Session
import UnifyMachine.Proofs.Machine.Logic
import UnifyMachine.Proofs.Machine.HeapShape
import UnifyMachine.Proofs.Machine.Dereference
import UnifyMachine.Proofs.Machine.Invariant
import UnifyMachine.Proofs.Machine.Runs
import UnifyMachine.Proofs.Machine.CyclicTerms
import UnifyMachine.Proofs.Machine.Steps
import UnifyMachine.Proofs.Compile.Walk
import UnifyMachine.Proofs.Compile.Allocation
import UnifyMachine.Proofs.Machine.Progress
import UnifyMachine.Proofs.Compile.Building
import UnifyMachine.Proofs.Compile.Matching
import UnifyMachine.Proofs.Toplevel.UnitRun
import UnifyMachine.Proofs.Term.Trees
import UnifyMachine.Proofs.Machine.Models
import UnifyMachine.Proofs.Compile.Layout
import UnifyMachine.Proofs.Compile.ProgramMeaning
import UnifyMachine.Proofs.Compile.QueryMeaning
import UnifyMachine.Proofs.Compile.QueryCells
import UnifyMachine.Proofs.Compile.Rereading
import UnifyMachine.Proofs.Machine.Unification
import UnifyMachine.Proofs.Toplevel.ReadingBack
import UnifyMachine.Proofs.Toplevel.Reification
import UnifyMachine.Proofs.Syntax.CommentNames
import UnifyMachine.Proofs.Toplevel.UnitMeaning
import UnifyMachine.Proofs.Syntax.InfixChains
import UnifyMachine.Proofs.Term.Numerals
import UnifyMachine.Proofs.Machine.Footprint
import UnifyMachine.Proofs.Machine.Sequencing
import UnifyMachine.Proofs.Machine.CursorProtocol
