import UnifyMachine.Compile.Allocation
import UnifyMachine.Machine.Instruction

/-!
# Compiling terms to instructions

A query term is compiled into instructions that build it on the heap, each structure after its
structure arguments, so that every argument cell can be written from a register. A program term
is compiled into instructions that match it against the term in `X0`, one structure register at
a time in register order. In both, the first occurrence of a variable creates it and later
occurrences refer to it.
-/

namespace UnifyMachine.Compile

open Machine

/-- The instructions of a term, its variables with their registers in the order the term names
them, and the number of registers it needs. -/
structure CompiledTerm where
  code : List Instruction
  vars : List (String × Nat)
  registerCount : Nat
deriving DecidableEq, Inhabited

/-- A query and a program term compiled to run one after the other on the same machine. -/
structure CompiledUnit where
  query : CompiledTerm
  program : CompiledTerm
deriving DecidableEq, Inhabited

/-- The instructions emitted so far and the variable registers already created. -/
structure QueryState where
  code : Array Instruction
  seen : List Nat

namespace QueryState

/-- Appends an instruction. -/
def emit (st : QueryState) (i : Instruction) : QueryState :=
  { st with code := st.code.push i }

/-- Appends the instruction that writes the argument in register `r`: a new variable on the
first occurrence of a variable, a copy of the register's cell otherwise. -/
def writeArgument (a : Allocation) (st : QueryState) (r : Nat) : QueryState :=
  match a.entry? r with
  | some (.var _) =>
    if st.seen.contains r then st.emit (.setValue r)
    else { st.emit (.setVariable r) with seen := r :: st.seen }
  | _ => st.emit (.setValue r)

end QueryState

/-- The argument registers of the structure in register `x`. -/
def Allocation.argumentsOf (a : Allocation) (x : Nat) : List Nat :=
  match a.entry? x with
  | some (.compound _ _ args) => args
  | _ => []

mutual
/-- Appends the instructions that build the argument `t`, held in register `x`: nothing for a
variable, a structure without arguments for an atom or a number. -/
def buildArgument (a : Allocation) (st : QueryState) (x : Nat) : Term → QueryState
  | .var _ => st
  | .atom name => st.emit (.putStructure ⟨name, 0⟩ x)
  | .number d => st.emit (.putStructure ⟨d.render, 0⟩ x)
  | .compound name args => buildCompound a st x name args
termination_by t => 2 * sizeOf t + 1

/-- Appends the instructions that build the compound term `name(args)` in register `x`: its
structure arguments first, then the structure and its argument cells. -/
def buildCompound (a : Allocation) (st : QueryState) (x : Nat) (name : String)
    (args : List Term) : QueryState :=
  let regs := a.argumentsOf x
  let st := buildArguments a st args regs
  let st := st.emit (.putStructure ⟨name, args.length⟩ x)
  regs.foldl (QueryState.writeArgument a) st
termination_by 2 * sizeOf args + 1

/-- Appends the instructions that build each argument in its register. -/
def buildArguments (a : Allocation) (st : QueryState) : List Term → List Nat → QueryState
  | t :: ts, r :: rs => buildArguments a (buildArgument a st r t) ts rs
  | _, _ => st
termination_by ts _ => 2 * sizeOf ts
end

/-- The variables of `t` with their registers, in the order the term names them. -/
def variableRegisters (a : Allocation) (t : Term) : List (String × Nat) :=
  t.variableNames.map fun name => (name, (a.varRegister? name).getD 0)

/-- Compiles a query term: the instructions that build it with its root in `X0`. A bare atom,
number or variable builds nothing. -/
def compileQuery (t : Term) : CompiledTerm :=
  let a := allocate t
  let st : QueryState := ⟨#[], []⟩
  let st := match t with
    | .compound name args => buildCompound a st 0 name args
    | _ => st
  ⟨st.code.toList, variableRegisters a t, a.registerCount⟩

/-- The instructions that match the structure register `x` with entry `e`, given the variable
registers already met; and the registers met afterwards. -/
def matchRegister (a : Allocation) (x : Nat) (e : RegisterEntry) (seen : List Nat) :
    List Instruction × List Nat :=
  match e with
  | .compound name arity args =>
    let step := fun (acc : List Instruction × List Nat) (r : Nat) =>
      match a.entry? r with
      | some (.var _) =>
        if acc.2.contains r then (acc.1 ++ [.unifyValue r], acc.2)
        else (acc.1 ++ [.unifyVariable r], r :: acc.2)
      | _ => (acc.1 ++ [.unifyVariable r], acc.2)
    args.foldl step ([.getStructure ⟨name, arity⟩ x], seen)
  | _ => ([], seen)

/-- Compiles a program term: for each structure register in ascending order, `get_structure`
and one instruction per argument; a variable met for the first time is taken into its register,
a variable met before is unified with it. -/
def compileProgram (t : Term) : CompiledTerm :=
  let a := allocate t
  let step := fun (acc : List Instruction × List Nat) (x : Nat) =>
    let (code, seen) := matchRegister a x (a.entries[x]?.getD .constant) acc.2
    (acc.1 ++ code, seen)
  let (code, _) := (List.range a.registerCount).foldl step ([], [])
  ⟨code, variableRegisters a t, a.registerCount⟩

/-- Compiles a query and a program term. -/
def compile (query program : Term) : CompiledUnit :=
  ⟨compileQuery query, compileProgram program⟩

namespace CompiledTerm

/-- The listing of a compiled term: one instruction per line, each line ended. -/
def listing (c : CompiledTerm) : String :=
  String.join (c.code.map fun i => i.render ++ "\n")

end CompiledTerm

namespace CompiledUnit

/-- The query's instructions followed by the program's. -/
def code (u : CompiledUnit) : List Instruction :=
  u.query.code ++ u.program.code

/-- The registers a machine needs to run both parts. -/
def registerCount (u : CompiledUnit) : Nat :=
  max u.query.registerCount u.program.registerCount

/-- The listing of a unit: all instructions, one per line, with no newline after the last. -/
def listing (u : CompiledUnit) : String :=
  "\n".intercalate (u.code.map Instruction.render)

end CompiledUnit

end UnifyMachine.Compile
