import UnifyMachine.Toplevel.CommandLine

/-!
# The program

Loads the program terms of a file and answers queries against them: those given on the command
line, or else those typed after the prompt, until the input ends.
-/

open UnifyMachine UnifyMachine.Syntax UnifyMachine.Toplevel

/-- The text printed for a query; a report with no fixed text is shown by its message. -/
def answerText (s : Session) (query : String) : String :=
  match s.respond query with
  | .ok text => text
  | .error (e, _) => "Error: " ++ e.message ++ "\n"

/-- Prompts for queries and answers them until the input ends. -/
partial def promptLoop (s : Session) (stdin stdout : IO.FS.Stream) : IO Unit := do
  stdout.putStr "?- "
  stdout.flush
  let line ← stdin.getLine
  if line.isEmpty then
    stdout.putStr "\n"
    stdout.flush
  else
    let query := trimBlank line
    unless query.isEmpty do
      stdout.putStr (answerText s query)
      stdout.flush
    promptLoop s stdin stdout

/-- The text of a file, or nothing if there is no such file. -/
def readSource (path : String) : IO (Except String (Option String)) := do
  try
    pure (.ok (some (← IO.FS.readFile path)))
  catch e =>
    match e with
    | .noFileOrDirectory .. => pure (.ok none)
    | other => pure (.error ("Failed to open " ++ path ++ ": " ++ toString other))

/-- Runs the command line. -/
def main (args : List String) : IO UInt32 := do
  match CommandLine.parse args with
  | .error msg =>
    IO.eprintln ("error: " ++ msg)
    pure 2
  | .ok cl =>
    match ← readSource cl.program with
    | .error msg =>
      IO.eprintln ("Error: " ++ msg)
      pure 1
    | .ok none =>
      IO.eprintln ("Error: " ++ missingFileMessage cl.program)
      pure 1
    | .ok (some source) =>
      match readProgram source with
      | .error e =>
        let text := ((e.report cl.program source).text?).getD ("Error: " ++ e.message ++ "\n")
        IO.eprintln ("Error: " ++ text)
        pure 1
      | .ok terms =>
        let s := cl.session terms
        if cl.queries.isEmpty then
          promptLoop s (← IO.getStdin) (← IO.getStdout)
        else
          for q in cl.queries do
            IO.print (answerText s q)
        pure 0
