import UnifyMachine.Machine.Cursor
import UnifyMachine.Machine.Error

/-!
# Machine states

A machine holds its status, the cursor of the structure being read or written, a fixed number
of registers (each empty or holding a heap address), the heap, and the number of instructions
it has executed, which counts across runs against an optional limit.
-/

namespace UnifyMachine.Machine

/-- Whether the machine is running, has succeeded, or has failed to unify. -/
inductive Status where
  | running
  | succeeded
  | failed
deriving DecidableEq, Inhabited

/-- The written name of a status. -/
def Status.render : Status → String
  | .running => "running"
  | .succeeded => "succeeded"
  | .failed => "failed"

/-- The limits a machine is created with. -/
structure Config where
  /-- The most cells the heap may hold. -/
  heapCapacity : Option Nat := none
  /-- The most instructions the machine may execute over all its runs. -/
  maxSteps : Option Nat := none
  /-- The most address pairs one unification may take. -/
  unifyBudget : Nat := 4294967296
deriving Inhabited

/-- The state of the machine. -/
structure State where
  status : Status
  cursor : Option Cursor
  registers : Array (Option Nat)
  heap : Heap
  steps : Nat
  maxSteps : Option Nat
  unifyBudget : Nat
deriving Inhabited

namespace State

/-- A running machine with `registerCount` empty registers and an empty heap. -/
def new (registerCount : Nat) (config : Config) : State :=
  { status := .running
    cursor := none
    registers := Array.replicate registerCount none
    heap := Heap.empty config.heapCapacity
    steps := 0
    maxSteps := config.maxSteps
    unifyBudget := config.unifyBudget }

/-- Whether the machine has stopped running, by succeeding or failing. -/
def isFinished (m : State) : Bool :=
  m.status != .running

/-- Whether the machine has failed to unify. -/
def hasFailed (m : State) : Bool :=
  m.status == .failed

/-- The address in register `x`, if any. -/
def register (m : State) (x : Nat) : Except MachineError (Option Nat) :=
  match m.registers[x]? with
  | some v => .ok v
  | none => .error (.indexOutOfRange x m.registers.size)

/-- What the term at an address is, once dereferenced. -/
def lookup (m : State) (a : Nat) : Except HeapError (Nat × Value) :=
  m.heap.getValue a

/-- Why a walk along argument indices stopped before its end. -/
inductive WalkStop where
  /-- The term before has no argument of this index: it is not a structure, or has fewer
  arguments. -/
  | noTerm (index : Nat)
  /-- The heap could not be read. -/
  | fault (e : HeapError)
deriving DecidableEq, Inhabited

/-- The largest argument index a walk follows, plus one. -/
def walkIndexLimit : Nat := 1000000

/-- The terms met walking from the term `current` along argument indices: for each index, the
argument of that index of the structure before it. -/
def walkFrom (m : State) (current : Nat × Value) :
    List Nat → List (Nat × Value) × Option WalkStop
  | [] => ([], none)
  | i :: rest =>
    match current.2 with
    | .struct f first =>
      if i < f.arity ∧ i < walkIndexLimit then
        match m.lookup (first + i) with
        | .ok next =>
          let (more, stop) := m.walkFrom next rest
          (next :: more, stop)
        | .error e => ([], some (.fault e))
      else ([], some (.noTerm i))
    | .unbound _ => ([], some (.noTerm i))

/-- The terms met walking from address `a` along argument indices: the term at `a`, then one
term per index, up to where the walk stopped, if it did. -/
def walk (m : State) (a : Nat) (path : List Nat) : List (Nat × Value) × Option WalkStop :=
  match m.lookup a with
  | .ok found =>
    let (more, stop) := m.walkFrom found path
    (found :: more, stop)
  | .error e => ([], some (.fault e))

/-- The line of register `x` in a dump: the cell at its address, not dereferenced, or `_`. -/
def registerLine (m : State) (x : Nat) : String :=
  let cell := match m.registers[x]? with
    | some (some a) => (m.heap.cells[a]?).map Cell.render
    | _ => none
  registerName x ++ " = " ++ cell.getD "_"

/-- The dump of a machine, line by line: status, heap top, cursor, registers and heap. -/
def dump (m : State) : List String :=
  ["Status: " ++ m.status.render,
   "H: " ++ toString m.heap.top,
   "Structure: " ++ Cursor.render m.cursor,
   "Registers:"] ++
  (List.range m.registers.size).map m.registerLine ++
  ["Heap:"] ++ m.heap.listing

/-- The dump as text, each line ended by a newline. -/
def dumpText (m : State) : String :=
  String.join (m.dump.map fun l => l ++ "\n")

end State

end UnifyMachine.Machine
