import UnifyMachine.Toplevel.Session

/-!
# The command line

The program is given the path of a file of program terms, queries to run, and options. It reads
every term of the file, stopping at the first that cannot be read, and then answers each query
in order. Without queries it reads queries from its input, one per line after a `?- ` prompt,
skipping blank lines, until the input ends.

The text a syntax error prints is not always determined: a report listing what would have been
accepted lists it in no fixed order. A command line whose output would contain such a report has
no determined outcome.
-/

namespace UnifyMachine.Toplevel

open Machine Syntax Text

/-- The name of the program file the command lines here are given. -/
def programFile : String := "program.pl"

/-- The arguments of a command line: the path of the program file, the queries, and the
options. -/
structure CommandLine where
  program : String := programFile
  queries : List String := []
  showCode : Bool := false
  dumpMachine : Bool := false
  heapCapacity : Option Nat := none
  maxSteps : Option Nat := none
deriving Inhabited

/-- How a command line ended: its exit status and what it wrote to its two outputs. -/
structure Exit where
  status : Nat
  stdout : String
  stderr : String
deriving DecidableEq, Inhabited

/-- The message for a program file that does not exist. -/
def missingFileMessage (path : String) : String :=
  "Failed to open " ++ path ++ ": No such file or directory (os error 2)"

/-- The terms of a program source, or the first syntax error in it. -/
def readProgram (source : String) : Except SyntaxError (List Term) :=
  (readClauses OperatorTable.standard source).mapM id

/-- A text without white space at either end. -/
def trimBlank (s : String) : String :=
  String.ofList ((s.toList.dropWhile isBlank).reverse.dropWhile isBlank).reverse

/-- The queries read from an input: each line, trimmed, the blank ones left out. -/
def inputQueries (input : String) : List String :=
  ((splitAfterNewlines input.toList).map fun l => trimBlank (String.ofList l)).filter
    (!·.isEmpty)

/-- A syntax error with its report, if the report has no fixed text. -/
def undetermined (e : SyntaxError) (r : Report) : Option (SyntaxError × Report) :=
  match r with
  | .drawn _ => none
  | _ => some (e, r)

/-- The first query source, in order, whose syntax error has a report with no fixed text. -/
def undeterminedQuery? : List String → Option (SyntaxError × Report)
  | [] => none
  | q :: rest =>
    match readTerm OperatorTable.standard q with
    | .error e =>
      match undetermined e (e.report "<query>" q) with
      | some u => some u
      | none => undeterminedQuery? rest
    | .ok _ => undeterminedQuery? rest

namespace CommandLine

/-- The session a command line sets up for the program terms. -/
def session (cl : CommandLine) (terms : List Term) : Session :=
  { program := terms
    config := { heapCapacity := cl.heapCapacity, maxSteps := cl.maxSteps }
    showCode := cl.showCode
    dumpMachine := cl.dumpMachine }

/-- The queries a command line answers: those it was given, or else those read from its
input. -/
def queriesFrom (cl : CommandLine) (input : String) : List String :=
  if cl.queries.isEmpty then inputQueries input else cl.queries

/-- The first syntax error of the program source or of a query that would print a report with
no fixed text. -/
def undetermined? (cl : CommandLine) (program : Option String) (input : String) :
    Option (SyntaxError × Report) :=
  let inProgram := match program with
    | some source =>
      match readProgram source with
      | .error e => undetermined e (e.report cl.program source)
      | .ok _ => none
    | none => none
  inProgram.or (undeterminedQuery? (cl.queriesFrom input))

/-- What the prompt loop prints for the lines of its input: each line after a prompt, its
answer if it is not blank, and a last prompt and newline when the input ends. -/
def promptLoop (s : Session) (lines : List String) : Except (SyntaxError × Report) String := do
  let answers ← lines.mapM fun line =>
    let query := trimBlank line
    if query.isEmpty then pure "" else s.respond query
  pure (String.join (answers.map ("?- " ++ ·)) ++ "?- \n")

/-- The run of a command line on a program file (`none` if it does not exist) and an input,
or the syntax error whose report has no fixed text. -/
def execute (cl : CommandLine) (program : Option String) (input : String) :
    Except (SyntaxError × Report) Exit :=
  match program with
  | none => .ok ⟨1, "", "Error: " ++ missingFileMessage cl.program ++ "\n"⟩
  | some source =>
    match readProgram source with
    | .error e =>
      match e.report cl.program source with
      | .drawn text => .ok ⟨1, "", "Error: " ++ text ++ "\n"⟩
      | r => .error (e, r)
    | .ok terms =>
      let s := cl.session terms
      if cl.queries.isEmpty then
        (promptLoop s ((splitAfterNewlines input.toList).map String.ofList)).map
          fun out => ⟨0, out, ""⟩
      else
        (cl.queries.mapM s.respond).map fun outs => ⟨0, String.join outs, ""⟩

/-- The outcome of a command line: its run, unless some syntax error it would report has a
report with no fixed text. -/
def outcome (cl : CommandLine) (program : Option String) (input : String) :
    Except (SyntaxError × Report) Exit :=
  match cl.undetermined? program input with
  | some u => .error u
  | none => cl.execute program input

/-- The rest of an argument after a prefix, if it has the prefix. -/
def afterPrefix? (pre arg : String) : Option String :=
  if arg.startsWith pre then some (String.ofList (arg.toList.drop pre.length)) else none

/-- A count given as an argument. -/
def countArgument (name value : String) : Except String Nat :=
  match value.toNat? with
  | some n => .ok n
  | none => .error ("invalid value '" ++ value ++ "' for '--" ++ name ++ " <" ++
      name.toUpper ++ ">'")

/-- Reads arguments into a command line: the path of the program file, then in any order
queries (`-q Q`, `--query Q` or `--query=Q`), the flags `--show-code` and `--dump-machine`, and
the limits `--heap-capacity N` and `--max-steps N` (also with `=`). -/
def readArguments (cl : CommandLine) (path : Option String) :
    List String → Except String (CommandLine × Option String)
  | [] => .ok (cl, path)
  | "--show-code" :: rest => readArguments { cl with showCode := true } path rest
  | "--dump-machine" :: rest => readArguments { cl with dumpMachine := true } path rest
  | "-q" :: q :: rest | "--query" :: q :: rest =>
    readArguments { cl with queries := cl.queries ++ [q] } path rest
  | "--heap-capacity" :: n :: rest => do
    let n ← countArgument "heap-capacity" n
    readArguments { cl with heapCapacity := some n } path rest
  | "--max-steps" :: n :: rest => do
    let n ← countArgument "max-steps" n
    readArguments { cl with maxSteps := some n } path rest
  | arg :: rest =>
    match afterPrefix? "--query=" arg, afterPrefix? "--heap-capacity=" arg,
        afterPrefix? "--max-steps=" arg with
    | some q, _, _ => readArguments { cl with queries := cl.queries ++ [q] } path rest
    | _, some n, _ => do
      let n ← countArgument "heap-capacity" n
      readArguments { cl with heapCapacity := some n } path rest
    | _, _, some n => do
      let n ← countArgument "max-steps" n
      readArguments { cl with maxSteps := some n } path rest
    | none, none, none =>
      if arg.startsWith "-" ∨ path.isSome then .error ("unexpected argument '" ++ arg ++ "' found")
      else readArguments cl (some arg) rest

/-- The command line that arguments ask for; the path of the program file is required. -/
def parse (args : List String) : Except String CommandLine := do
  match ← readArguments {} none args with
  | (cl, some path) => pure { cl with program := path }
  | (_, none) => throw "the following required arguments were not provided: <PROGRAM>"

end CommandLine

end UnifyMachine.Toplevel
