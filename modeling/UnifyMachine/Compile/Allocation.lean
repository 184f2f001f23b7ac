import UnifyMachine.Term.Render

/-!
# Register allocation

Before a term is compiled, each of its parts gets a register. Register `X0` holds the whole
term. A parent-first walk of the term then meets its compound terms, and each one gives
registers to its direct arguments in order: a variable keeps the register its name already
has, or takes the next free one; an atom, a number or a compound argument always takes the next
free one. Atoms and numbers in argument position become structures without arguments, named by
their text. The walk keeps a stack of the structure registers whose arguments still need
registers; a compound term it meets takes its own register from the top of that stack.
-/

namespace UnifyMachine.Compile

/-- What a register holds. -/
inductive RegisterEntry where
  /-- A structure with its name, arity and the registers of its arguments. -/
  | compound (name : String) (arity : Nat) (args : List Nat)
  /-- A variable of the term. -/
  | var (name : String)
  /-- A whole term that is an atom or a number. -/
  | constant
deriving DecidableEq, Inhabited

/-- The registers of a term: the entry of each register, and the register of each variable. -/
structure Allocation where
  entries : Array RegisterEntry
  vars : List (String × Nat)
deriving Inhabited

namespace Allocation

/-- No register allocated yet. -/
def empty : Allocation := ⟨#[], []⟩

/-- The number of registers allocated. -/
def registerCount (a : Allocation) : Nat := a.entries.size

/-- The entry of register `x`. -/
def entry? (a : Allocation) (x : Nat) : Option RegisterEntry := a.entries[x]?

/-- The register of a variable. -/
def varRegister? (a : Allocation) (name : String) : Option Nat := a.vars.lookup name

/-- Puts an entry in the next free register. -/
def push (a : Allocation) (e : RegisterEntry) : Allocation × Nat :=
  ({ a with entries := a.entries.push e }, a.entries.size)

/-- The register of a variable: the one it already has, or the next free one. -/
def allocVar (a : Allocation) (name : String) : Allocation × Nat :=
  match a.varRegister? name with
  | some x => (a, x)
  | none =>
    let (a, x) := a.push (.var name)
    ({ a with vars := a.vars ++ [(name, x)] }, x)

/-- The register of one argument of a compound term. -/
def allocArgument (a : Allocation) : Term → Allocation × Nat
  | .var name => a.allocVar name
  | .atom name => a.push (.compound name 0 [])
  | .number d => a.push (.compound d.render 0 [])
  | .compound name args => a.push (.compound name args.length [])

/-- The registers of the arguments of a compound term, left to right. -/
def allocArguments (a : Allocation) : List Term → Allocation × List Nat
  | [] => (a, [])
  | t :: ts =>
    let (a, x) := a.allocArgument t
    let (a, xs) := a.allocArguments ts
    (a, x :: xs)

/-- Records the argument registers of the structure in register `x`. -/
def setArguments (a : Allocation) (x : Nat) (args : List Nat) : Allocation :=
  { a with entries := a.entries.modify x fun
    | .compound name arity _ => .compound name arity args
    | e => e }

end Allocation

/-- The registers of the compound terms among the arguments `args`, whose registers are `regs`,
left to right: the structures whose own arguments still need registers. -/
def structureRegisters : List Term → List Nat → List Nat
  | .compound _ _ :: args, r :: regs => r :: structureRegisters args regs
  | _ :: args, _ :: regs => structureRegisters args regs
  | _, _ => []

/-- Why a term's registers could not be allocated: register `x` was to hold a structure and does
not, or a compound term found no structure register left for it. -/
inductive AllocationError where
  | unresolvedRegister (x : Nat)
deriving DecidableEq

/-- The allocation part way through the walk of a term: the registers so far, the stack of
structure registers whose arguments still need registers (its top first), and the register that
could not be resolved, once one could not. -/
structure AllocationWalk where
  alloc : Allocation
  pending : List Nat
  unresolved : Option Nat

namespace AllocationWalk

/-- What the walk does at each term it meets. A compound term takes the top of the stack, gives
its arguments registers and records them there, then puts the registers of its compound
arguments on the stack, the first one on top. The register taken must hold a structure, and a
compound term must find one on the stack (else `root` is reported); once either fails, the walk
does nothing more. -/
def visit (root : Nat) (w : AllocationWalk) : Term → AllocationWalk
  | .compound _ args =>
    match w.unresolved, w.pending with
    | some _, _ => w
    | none, [] => { w with unresolved := some root }
    | none, x :: rest =>
      let (a, regs) := w.alloc.allocArguments args
      match a.entries[x]? with
      | some (.compound ..) => ⟨a.setArguments x regs, structureRegisters args regs ++ rest, none⟩
      | _ => ⟨a, rest, some x⟩
  | _ => w

end AllocationWalk

/-- Register `X0`, holding the whole term: a constant, a variable, or a structure whose arguments
are still to get registers. -/
def Allocation.root (t : Term) : Allocation × Nat :=
  match t with
  | .atom _ | .number _ => Allocation.empty.push .constant
  | .var name => Allocation.empty.allocVar name
  | .compound name args => Allocation.empty.push (.compound name args.length [])

/-- The walk over a whole term, from `X0` alone on the stack. -/
def AllocationWalk.run (t : Term) : AllocationWalk :=
  let (a, root) := Allocation.root t
  t.walk (visit root) ⟨a, [root], none⟩

/-- The register allocation of a term, or the register the walk could not resolve. -/
def Allocation.new (t : Term) : Except AllocationError Allocation :=
  let w := AllocationWalk.run t
  match w.unresolved with
  | none => .ok w.alloc
  | some x => .error (.unresolvedRegister x)

/-- The registers compiling a term uses: those the walk gives it. -/
def allocate (t : Term) : Allocation :=
  (AllocationWalk.run t).alloc

/-- The listing line of one register, names unquoted: `X0 = f(X1, X2)`, `X1 = a`, `X2 = Y` or
`X0 = constant`. -/
def RegisterEntry.render (x : Nat) : RegisterEntry → String
  | .compound name _ [] => "X" ++ toString x ++ " = " ++ name
  | .compound name _ args =>
    "X" ++ toString x ++ " = " ++ name ++ "(" ++
      ", ".intercalate (args.map fun r => "X" ++ toString r) ++ ")"
  | .var name => "X" ++ toString x ++ " = " ++ name
  | .constant => "X" ++ toString x ++ " = constant"

/-- The listing of an allocation, one line per register. -/
def Allocation.listing (a : Allocation) : List String :=
  (List.range a.registerCount).map fun x => (a.entries[x]?.getD .constant).render x

end UnifyMachine.Compile
