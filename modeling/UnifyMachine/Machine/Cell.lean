/-!
# Heap cells

The machine's heap is a sequence of cells, each addressed by its index. A cell is a reference
to another cell (an unbound variable refers to itself), a structure pointer to a functor cell,
or a functor cell `f/n`, which is followed by the `n` argument cells of its structure.
-/

namespace UnifyMachine.Machine

/-- A name with an arity. Two functors are equal when both the name and the arity agree. -/
structure Functor where
  name : String
  arity : Nat
deriving DecidableEq, Inhabited

/-- The written form `name/arity`, the name unquoted. -/
def Functor.render (f : Functor) : String :=
  f.name ++ "/" ++ toString f.arity

/-- A heap cell. -/
inductive Cell where
  /-- A reference to the cell at an address; a cell that refers to itself is unbound. -/
  | ref (address : Nat)
  /-- A pointer to the functor cell of a structure. -/
  | str (address : Nat)
  /-- The functor cell that heads a structure. -/
  | functor (f : Functor)
deriving DecidableEq, Inhabited

/-- The written form of a cell: `REF a`, `STR a` or `f/n`. -/
def Cell.render : Cell → String
  | .ref a => "REF " ++ toString a
  | .str a => "STR " ++ toString a
  | .functor f => f.render

/-- The written name of register `x`. -/
def registerName (x : Nat) : String :=
  "X" ++ toString x

end UnifyMachine.Machine
