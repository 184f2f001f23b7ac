import UnifyMachine.Machine.Cell

/-!
# Instructions

The six instructions of the unification machine. The first three build a query term on the
heap, writing a structure's argument cells one after another; the last three match a program
term against what is already there, reading the arguments of an existing structure or, when
they meet an unbound variable, building the structure in its place.
-/

namespace UnifyMachine.Machine

/-- An instruction; registers are given by their index. -/
inductive Instruction where
  /-- Builds a structure `f` and puts its address in a register. -/
  | putStructure (f : Functor) (x : Nat)
  /-- Writes a new unbound variable as the next argument and puts it in a register. -/
  | setVariable (x : Nat)
  /-- Writes a copy of a register's cell as the next argument. -/
  | setValue (x : Nat)
  /-- Matches the term in a register against the structure `f`. -/
  | getStructure (f : Functor) (x : Nat)
  /-- Takes the next argument into a register (or writes a new variable there). -/
  | unifyVariable (x : Nat)
  /-- Unifies the next argument with a register's term (or writes a copy of it). -/
  | unifyValue (x : Nat)
deriving DecidableEq, Inhabited

/-- The written form of an instruction, such as `put_structure f/2 X0`. -/
def Instruction.render : Instruction → String
  | .putStructure f x => "put_structure " ++ f.render ++ " " ++ registerName x
  | .setVariable x => "set_variable " ++ registerName x
  | .setValue x => "set_value " ++ registerName x
  | .getStructure f x => "get_structure " ++ f.render ++ " " ++ registerName x
  | .unifyVariable x => "unify_variable " ++ registerName x
  | .unifyValue x => "unify_value " ++ registerName x

end UnifyMachine.Machine
