import UnifyMachine.Machine.Cell

/-!
# The heap

The heap is a growing array of cells, optionally bounded by a capacity. Cells are only ever
appended, and the only cells ever overwritten are unbound variables, which become references
when they are bound.

Dereferencing follows references until it reaches an unbound variable or a structure pointer.
Unification works through a stack of address pairs: a pair of equal addresses is done, a pair
with an unbound variable binds it, and two structures must have equal functors, after which
their argument pairs are pushed, the first pair on top. There is no occurs check, so terms may
become cyclic, and unifying two distinct cyclic terms need not end; the unifier therefore runs
on a budget of pairs and says so when the budget runs out.
-/

namespace UnifyMachine.Machine

/-- Faults of heap access. -/
inductive HeapError where
  /-- A cell was to be added to a heap already at its capacity. -/
  | heapOverflow (capacity : Nat)
  /-- An address at or beyond the top of the heap. -/
  | addressOutOfRange (address top : Nat)
  /-- A functor cell where a term was expected. -/
  | notATerm (address : Nat)
  /-- A structure pointer that does not lead to a functor cell. -/
  | notAStructure (address : Nat)
  /-- A binding between two cells neither of which is an unbound variable. -/
  | noFreeVariable (a1 a2 : Nat)
  /-- A chain of references longer than the heap, which can only go round in a cycle. -/
  | referenceCycle (address : Nat)
deriving DecidableEq, Inhabited

/-- The heap: its cells and its capacity, if bounded. -/
structure Heap where
  cells : Array Cell
  capacity : Option Nat
deriving Inhabited

/-- What a term address holds once dereferenced. -/
inductive Value where
  /-- The unbound variable at this address. -/
  | unbound (address : Nat)
  /-- A structure: its functor and the address of its first argument. -/
  | struct (f : Functor) (firstTerm : Nat)
deriving DecidableEq, Inhabited

/-- How a unification ended. -/
inductive Unification where
  /-- The two terms are now equal. -/
  | unified
  /-- Two structures with different functors met. -/
  | clash
  /-- The heap could not be accessed as expected. -/
  | fault (e : HeapError)
  /-- The budget of pairs ran out before the stack was empty. -/
  | unfinished
deriving DecidableEq, Inhabited

namespace Heap

/-- An empty heap with the given capacity. -/
def empty (capacity : Option Nat) : Heap := ⟨#[], capacity⟩

/-- The address of the next cell to be added, which is the number of cells. -/
def top (h : Heap) : Nat := h.cells.size

/-- Checks that `count` more cells fit. -/
def reserve (h : Heap) (count : Nat) : Except HeapError Unit :=
  match h.capacity with
  | some c => if c < h.top + count then .error (.heapOverflow c) else .ok ()
  | none => .ok ()

/-- Appends a cell; the new heap and the cell's address. -/
def push (h : Heap) (c : Cell) : Except HeapError (Heap × Nat) := do
  h.reserve 1
  pure ({ h with cells := h.cells.push c }, h.top)

/-- The cell at an address. -/
def load (h : Heap) (a : Nat) : Except HeapError Cell :=
  match h.cells[a]? with
  | some c => .ok c
  | none => .error (.addressOutOfRange a h.top)

/-- Overwrites the cell at an address. -/
def store (h : Heap) (a : Nat) (c : Cell) : Except HeapError Heap :=
  if ha : a < h.cells.size then .ok { h with cells := h.cells.set a c ha }
  else .error (.addressOutOfRange a h.top)

/-- Appends a new unbound variable. -/
def newVariable (h : Heap) : Except HeapError (Heap × Nat) :=
  h.push (.ref h.top)

/-- Appends a structure pointer and the functor cell it points to, after checking that both
fit; the address of the pointer. -/
def newStructure (h : Heap) (f : Functor) : Except HeapError (Heap × Nat) := do
  h.reserve 2
  let (h, a) ← h.push (.str (h.top + 1))
  let (h, _) ← h.push (.functor f)
  pure (h, a)

/-- Appends a copy of the cell at an address, not dereferenced. -/
def pushCopy (h : Heap) (a : Nat) : Except HeapError (Heap × Nat) := do
  let c ← h.load a
  h.push c

/-- Follows references from `a`, at most `fuel` of them. -/
def derefWithin (h : Heap) : Nat → Nat → Except HeapError Nat
  | fuel, a =>
    match h.load a with
    | .error e => .error e
    | .ok (.ref r) =>
      if r = a then .ok a
      else match fuel with
        | 0 => .error (.referenceCycle a)
        | fuel + 1 => h.derefWithin fuel r
    | .ok (.str _) => .ok a
    | .ok (.functor _) => .error (.notATerm a)

/-- The address reached by following references from `a`: an unbound variable or a structure
pointer. A chain without a cycle has fewer links than the heap has cells. -/
def deref (h : Heap) (a : Nat) : Except HeapError Nat :=
  h.derefWithin h.top a

/-- The dereferenced address of `a` and what it holds. -/
def getValue (h : Heap) (a : Nat) : Except HeapError (Nat × Value) := do
  let a ← h.deref a
  match ← h.load a with
  | .ref r => pure (a, .unbound r)
  | .str fa =>
    match ← h.load fa with
    | .functor f => pure (a, .struct f (fa + 1))
    | _ => throw (.notAStructure a)
  | .functor _ => throw (.notATerm a)

/-- Whether the cell at `a` is an unbound variable. -/
def isFree (h : Heap) (a : Nat) : Except HeapError Bool := do
  match ← h.load a with
  | .ref r => pure (r == a)
  | _ => pure false

/-- Binds one of two dereferenced addresses to the other: of two unbound variables the higher
is bound to the lower, otherwise the unbound one to the other. -/
def bind (h : Heap) (a1 a2 : Nat) : Except HeapError Heap := do
  let free1 ← h.isFree a1
  let free2 ← h.isFree a2
  match free1, free2 with
  | true, true => h.store (max a1 a2) (.ref (min a1 a2))
  | true, false => h.store a1 (.ref a2)
  | false, true => h.store a2 (.ref a1)
  | false, false => throw (.noFreeVariable a1 a2)

/-- The address pairs of the arguments of two structures, first arguments first. -/
def argumentPairs (first1 first2 arity : Nat) : List (Nat × Nat) :=
  (List.range arity).map fun i => (first1 + i, first2 + i)

/-- Unifies the pairs on the stack `pdl`, the top first, taking at most `budget` pairs. -/
def unifyPairs (h : Heap) : Nat → List (Nat × Nat) → Heap × Unification
  | _, [] => (h, .unified)
  | 0, _ :: _ => (h, .unfinished)
  | budget + 1, (a1, a2) :: rest =>
    match h.getValue a1 with
    | .error e => (h, .fault e)
    | .ok (a1, v1) =>
      match h.getValue a2 with
      | .error e => (h, .fault e)
      | .ok (a2, v2) =>
        if a1 = a2 then h.unifyPairs budget rest
        else
          match v1, v2 with
          | .struct f1 t1, .struct f2 t2 =>
            if f1 ≠ f2 then (h, .clash)
            else if t1 = t2 then h.unifyPairs budget rest
            else h.unifyPairs budget (argumentPairs t1 t2 f1.arity ++ rest)
          | _, _ =>
            match h.bind a1 a2 with
            | .ok h' => h'.unifyPairs budget rest
            | .error e => (h, .fault e)

/-- Unifies the terms at two addresses within a budget of pairs. Bindings made before a clash
stay in place. -/
def unify (h : Heap) (budget a1 a2 : Nat) : Heap × Unification :=
  h.unifyPairs budget [(a1, a2)]

/-- The heap listing: one line per cell, `address cell`. -/
def listing (h : Heap) : List String :=
  (List.range h.top).map fun a => toString a ++ " " ++ (h.cells[a]?.getD (.ref a)).render

end Heap

end UnifyMachine.Machine
