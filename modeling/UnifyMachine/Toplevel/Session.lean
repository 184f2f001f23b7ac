import UnifyMachine.Toplevel.Answer
import UnifyMachine.Compile.Code
import UnifyMachine.Machine.Exec
import UnifyMachine.Syntax.Diagnostic

/-!
# Running queries against program terms

A query is answered against each program term in turn. The two are compiled into one unit and
run on a fresh machine: first the query's instructions build the query term, then the program
term's instructions match against it. The answer is `yes` with the bindings of the named
variables, `no` when the match failed, or the error that stopped a run, with the stage it
stopped in.

A session holds the program terms, the machine limits and whether to print the compiled code
and the final machine state. What it prints for a query is a sequence of lines per program
term, each group ended by a full stop. It prints in colour: the program term in dark grey, `yes`
in green, and `no` and errors in red.

A term is printed as it is, so a control sequence in a name reaches the screen. One left open
runs on past the term to the first letter after it, which may be the final letter of the next
colour or lie in the next line; a screen then shows what is left of that line joined to the
line of the term.
-/

namespace UnifyMachine.Toplevel

open Machine Compile Syntax Text

/-- The lines of a text: cut after each newline, without the newline or a carriage return just
before it, and with no empty last line. -/
def textLines (text : String) : List String :=
  (splitAfterNewlines text.toList).map fun piece => String.ofList (stripLineEnd piece)

/-- The lines of a text cut at newlines only: a carriage return stays in its line, also just
before a newline. There is no empty last line. -/
def newlinePieces (text : String) : List String :=
  (splitAfterNewlines text.toList).map fun piece => String.ofList (dropNewline piece)

/-- The characters of `cs` before its first ` = `, and those after it, if it has one. -/
def cutAtEquals : List Char → Option (List Char × List Char)
  | [] => none
  | ' ' :: '=' :: ' ' :: rest => some ([], rest)
  | c :: rest => (cutAtEquals rest).map fun (before, after) => (c :: before, after)

/-- The lines of an answer as a screen shows them. -/
def Answer.shownLines (a : Answer) : List String :=
  textLines (shown a.render)

/-- The bindings of an answer as a screen shows them: each line after the first, cut at newlines
only, then cut at its first ` = ` into the name and the term. A name holds no space, so the
first ` = ` of a line is the one after its name, also when the line ends with what is left of a
later line. A carriage return that a control sequence left at the end of a line stays in the
term. -/
def Answer.shownBindings (a : Answer) : List (String × String) :=
  ((newlinePieces (shown a.render)).drop 1).map fun line =>
    match cutAtEquals line.toList with
    | some (name, term) => (String.ofList name, String.ofList term)
    | none => (line, "")

/-- Lines with a full stop after the last one. -/
def withFullStop : List String → List String
  | [] => ["."]
  | [l] => [l ++ "."]
  | l :: rest => l :: withFullStop rest

/-- How a completed run of a unit ended. -/
inductive Outcome where
  /-- The program term matched; the bindings of the named variables. -/
  | yes (answer : Answer)
  /-- The program term did not match. -/
  | no
deriving Inhabited

/-- Why running a unit stopped. -/
inductive RunError where
  /-- Building the query term raised an error. -/
  | buildQuery (e : MachineError)
  /-- Matching the program term raised an error. -/
  | unifyProgram (e : MachineError)
  /-- A variable's register could not be read. -/
  | capture (e : MachineError)
  /-- A variable's term could not be read from the heap. -/
  | answer (e : HeapError)
deriving Inhabited

namespace RunError

/-- The stage a run stopped in, for the errors of the runs themselves. -/
def context? : RunError → Option String
  | .buildQuery _ => some "Failed to build the query"
  | .unifyProgram _ => some "Failed to unify the program"
  | _ => none

/-- The kind of the underlying error. -/
def kind : RunError → String
  | .buildQuery e | .unifyProgram e | .capture e => e.kind
  | .answer e => e.kind

/-- The message of the underlying error. -/
def message : RunError → String
  | .buildQuery e | .unifyProgram e | .capture e => e.message
  | .answer e => e.message

/-- The error as printed: the stage, if any, then the message. -/
def text (e : RunError) : String :=
  match e.context? with
  | some c => c ++ ": " ++ e.message
  | none => e.message

end RunError

/-- A run of a unit: the machine after the query's instructions, the machine after the program
term's instructions if they ran, and the result. -/
structure UnitRun where
  afterQuery : State
  afterProgram : Option State
  result : Except RunError Outcome
deriving Inhabited

/-- Runs a compiled unit on a fresh machine with the given limits. The query's variables are
read before the program term runs, since the program term may bind them further; the answer is
read only when the program term matched. -/
def runUnit (config : Config) (unit : CompiledUnit) : UnitRun :=
  let (m1, r1) := (State.new unit.registerCount config).run unit.query.code
  match r1 with
  | .error e => ⟨m1, none, .error (.buildQuery e)⟩
  | .ok () =>
    match capture m1 unit.query.vars with
    | .error e => ⟨m1, none, .error (.capture e)⟩
    | .ok queryVars =>
      let (m2, r2) := m1.run unit.program.code
      match r2 with
      | .error e => ⟨m1, some m2, .error (.unifyProgram e)⟩
      | .ok () =>
        if m2.hasFailed then ⟨m1, some m2, .ok .no⟩
        else
          match capture m2 unit.program.vars with
          | .error e => ⟨m1, some m2, .error (.capture e)⟩
          | .ok programVars =>
            match Answer.read m2 (queryVars ++ programVars) with
            | .ok a => ⟨m1, some m2, .ok (.yes a)⟩
            | .error e => ⟨m1, some m2, .error (.answer e)⟩

/-- The machine after a program term that ran to its end, matched or not. -/
def UnitRun.settled? (r : UnitRun) : Option State :=
  match r.result with
  | .error (.buildQuery _) | .error (.unifyProgram _) => none
  | _ => r.afterProgram

/-- The result as printed, without the full stop. -/
def UnitRun.verdict (r : UnitRun) : String :=
  match r.result with
  | .ok (.yes a) => a.render
  | .ok .no => paint Colour.red "no"
  | .error e => paint Colour.red e.text

/-- The lines of the result as a screen shows them, the last one ended by a full stop. -/
def UnitRun.shownVerdict (r : UnitRun) : List String :=
  match r.result with
  | .ok (.yes a) => withFullStop a.shownLines
  | .ok .no => ["no."]
  | .error e => [e.text ++ "."]

/-- The program terms, the machine limits, and what to print besides the answers. -/
structure Session where
  program : List Term
  config : Config
  showCode : Bool
  dumpMachine : Bool
deriving Inhabited

namespace Session

/-- What is printed for a query against one program term: the term itself when there are
several, the compiled code if asked for, the machine after the program term if asked for and if
it ran to its end, and the verdict with a full stop. -/
def answerTerm (s : Session) (query program : Term) : String :=
  let unit := compile query program
  let run := runUnit s.config unit
  let header :=
    if 1 < s.program.length then paint Colour.darkGrey ("% " ++ program.render) ++ "\n" else ""
  let code := if s.showCode then unit.listing ++ "\n" else ""
  let dump := match s.dumpMachine, run.settled? with
    | true, some m => m.dumpText ++ "\n"
    | _, _ => ""
  header ++ code ++ dump ++ run.verdict ++ ".\n"

/-- What is printed for a query against every program term. -/
def answer (s : Session) (query : Term) : String :=
  String.join (s.program.map (s.answerTerm query))

/-- The lines of the answers to a query against every program term: the term itself when there
are several, then the result as a screen shows it. -/
def transcript (s : Session) (query : Term) : List String :=
  s.program.flatMap fun program =>
    let header := if 1 < s.program.length then ["% " ++ program.render] else []
    header ++ (runUnit s.config (compile query program)).shownVerdict

/-- What is printed for a query source: the report and a newline if it cannot be read, or else
the answers. A syntax error whose report has no fixed text is returned instead. -/
def respond (s : Session) (source : String) : Except (SyntaxError × Report) String :=
  match readTerm OperatorTable.standard source with
  | .ok query => .ok (s.answer query)
  | .error e =>
    match e.report "<query>" source with
    | .drawn text => .ok (text ++ "\n")
    | r => .error (e, r)

end Session

end UnifyMachine.Toplevel
