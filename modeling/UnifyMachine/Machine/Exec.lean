import UnifyMachine.Machine.State
import UnifyMachine.Machine.Instruction

/-!
# Executing instructions

Each instruction runs as a step that may change the machine, fail to unify, or stop with an
error; what it changed before an error stays changed. A failure to unify clears the cursor and
marks the machine failed, and a failed machine ignores further runs. Before each instruction
the step limit is checked; at the end of a run no structure may be left half visited.
-/

namespace UnifyMachine.Machine

/-- Why a step stopped: a failure to unify, or an error. -/
inductive Halt where
  | failed
  | error (e : MachineError)
deriving DecidableEq, Inhabited

/-- A step of the machine that keeps its changes when it stops. -/
abbrev Exec := EStateM Halt State

namespace Exec

/-- Stops with an error. -/
def raise (e : MachineError) : Exec α :=
  throw (.error e)

/-- The value of a heap access, or its fault as an error. -/
def fromHeap (r : Except HeapError α) : Exec α :=
  match r with
  | .ok a => pure a
  | .error e => raise (.heap e)

/-- Runs a heap change that yields an address, and keeps the changed heap. -/
def onHeap (f : Heap → Except HeapError (Heap × Nat)) : Exec Nat := do
  let m ← get
  let (h, a) ← fromHeap (f m.heap)
  set { m with heap := h }
  pure a

/-- The content of register `x`. -/
def registerGet (x : Nat) : Exec (Option Nat) := do
  match (← get).register x with
  | .ok v => pure v
  | .error e => raise e

/-- The address in register `x`, which must have been written. -/
def registerLoad (x : Nat) : Exec Nat := do
  match ← registerGet x with
  | some a => pure a
  | none => raise (.noValue x)

/-- Puts an address in register `x`. -/
def registerStore (x : Nat) (a : Nat) : Exec Unit := do
  let m ← get
  if x < m.registers.size then set { m with registers := m.registers.modify x fun _ => some a }
  else raise (.indexOutOfRange x m.registers.size)

/-- Checks that no structure is being read or written. -/
def verifyNotActive : Exec Unit := do
  if (← get).cursor.isSome then raise .currentlyActive

/-- Starts reading or writing `count` arguments from `firstTerm`. -/
def startVisit (mode : Mode) (firstTerm count : Nat) : Exec Unit := do
  verifyNotActive
  modify fun m => { m with cursor := Cursor.start mode firstTerm count }

/-- The mode of the structure being visited. -/
def currentMode : Exec Mode := do
  match (← get).cursor with
  | some c => pure c.mode
  | none => raise .notActive

/-- Visits the next argument with `action`, given its index and address; the cursor moves on
only if the action succeeds. -/
def visitNext (action : Nat → Nat → Exec Nat) : Exec Nat := do
  match (← get).cursor with
  | none => raise .notActive
  | some c =>
    if c.index = c.count then raise (.noMoreTerms c.count)
    else
      let r ← action c.index c.next
      modify fun m => { m with cursor := c.advance }
      pure r

/-- The address of the next argument, read. -/
def readNext : Exec Nat :=
  visitNext fun _ a => pure a

/-- Writes the next argument with a heap change, which must put it where it belongs. -/
def writeNext (write : Heap → Except HeapError (Heap × Nat)) : Exec Nat :=
  visitNext fun index expected => do
    let found ← onHeap write
    if found = expected then pure found else raise (.termOutOfPlace index expected found)

/-- Forgets the structure being read or written, if any. -/
def resetCursor : Exec Unit :=
  modify fun m => { m with cursor := none }

/-- Gives up on the current unification: the cursor is cleared and the step fails. -/
def backtrack : Exec α := do
  resetCursor
  throw .failed

/-- Builds a new structure `f` and starts writing its arguments; its address. -/
def newStructure (f : Functor) : Exec Nat := do
  verifyNotActive
  let a ← onHeap fun h => h.newStructure f
  match ← fromHeap ((← get).heap.getValue a) with
  | (_, .struct g first) => startVisit .write first g.arity
  | (d, .unbound _) => raise (.heap (.notAStructure d))
  pure a

/-- Unifies the terms at two addresses; a clash fails the step. -/
def unifyAt (a1 a2 : Nat) : Exec Unit := do
  let m ← get
  let (h, outcome) := m.heap.unify m.unifyBudget a1 a2
  set { m with heap := h }
  match outcome with
  | .unified => pure ()
  | .clash => backtrack
  | .fault e => raise (.heap e)
  | .unfinished => raise (.unificationUnfinished m.unifyBudget)

/-- Writes a new unbound variable as the next argument and puts it in register `x`. -/
def writeVariable (x : Nat) : Exec Unit := do
  let a ← writeNext Heap.newVariable
  registerStore x a

/-- Writes a copy of register `x`'s cell as the next argument. -/
def writeValue (x : Nat) : Exec Unit := do
  let a ← registerLoad x
  discard <| writeNext fun h => h.pushCopy a

/-- The step of one instruction. -/
def execute : Instruction → Exec Unit
  | .putStructure f x => do
    let a ← newStructure f
    registerStore x a
  | .setVariable x => writeVariable x
  | .setValue x => writeValue x
  | .getStructure f x => do
    let r ← registerLoad x
    match ← fromHeap ((← get).heap.getValue r) with
    | (_, .unbound v) =>
      let s ← newStructure f
      let h ← fromHeap ((← get).heap.bind v s)
      modify fun m => { m with heap := h }
    | (_, .struct g first) =>
      if g = f then startVisit .read first g.arity else backtrack
  | .unifyVariable x => do
    match ← currentMode with
    | .read =>
      let a ← readNext
      registerStore x a
    | .write => writeVariable x
  | .unifyValue x => do
    match ← currentMode with
    | .read =>
      let a ← readNext
      let r ← registerLoad x
      unifyAt r a
    | .write => writeValue x

end Exec

namespace State

/-- The step limit, if the machine has reached it. -/
def stepLimitReached (m : State) : Option Nat :=
  match m.maxSteps with
  | some limit => if limit ≤ m.steps then some limit else none
  | none => none

/-- Runs instructions from a running machine, counting each against the step limit. -/
def runFrom (m : State) : List Instruction → State × Except MachineError Unit
  | [] =>
    if m.cursor.isSome then (m, .error .currentlyActive)
    else ({ m with status := .succeeded }, .ok ())
  | i :: rest =>
    match m.stepLimitReached with
    | some limit => (m, .error (.stepLimitExceeded limit))
    | none =>
      match (Exec.execute i).run { m with steps := m.steps + 1 } with
      | .ok () m' => m'.runFrom rest
      | .error .failed m' => ({ m' with status := .failed }, .ok ())
      | .error (.error e) m' => (m', .error e)

/-- Runs a list of instructions. A failed machine stays as it is; any other starts running. -/
def run (m : State) (code : List Instruction) : State × Except MachineError Unit :=
  if m.status = .failed then (m, .ok ())
  else { m with status := .running }.runFrom code

end State

end UnifyMachine.Machine
