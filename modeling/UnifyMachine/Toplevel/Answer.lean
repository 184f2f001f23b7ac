import UnifyMachine.Machine.State
import UnifyMachine.Term.Render
import UnifyMachine.Text.Screen

/-!
# Answers

After a successful run, the named variables of the query and of the program term are read back
from the machine as terms. A name used in both keeps its first entry, the query's.

Each unbound variable and each structure has an identity: the variable's address, or the
address of the structure's first argument (several structure cells may point at one functor).
The first name whose register leads to an identity names it; an unnamed identity is written
`_G` followed by its address. A structure met again inside itself, which unification without an
occurs check can create, is written as the name of its identity, which cuts the cycle.
-/

namespace UnifyMachine.Toplevel

open Machine

/-- What a dereferenced term is known by. -/
inductive Identity where
  /-- An unbound variable, by its address. -/
  | var (address : Nat)
  /-- A structure, by the address of its first argument. -/
  | struct (firstTerm : Nat)
deriving DecidableEq, Inhabited

/-- The identity of a dereferenced value. -/
def Identity.of : Value → Identity
  | .unbound a => .var a
  | .struct _ t => .struct t

/-- The name of an identity that no variable names. -/
def Identity.defaultName : Identity → String
  | .var a | .struct a => "_G" ++ toString a

/-- The first variable name recorded for each identity. -/
abbrev Names := List (Identity × String)

/-- The name of an identity: the recorded one, or its default name. -/
def nameOf (names : Names) (id : Identity) : String :=
  (names.lookup id).getD id.defaultName

/-- The term at address `a`, with `parents` the identities of the structures it lies inside.
Each level inside a structure adds a distinct structure identity, and there are fewer of those
than heap cells, so `fuel` as large as the heap is never used up. -/
def reify (m : State) (names : Names) : Nat → Nat → List Identity → Except HeapError Term
  | fuel, a, parents => do
    let (_, v) ← m.lookup a
    let id := Identity.of v
    match v with
    | .unbound _ => pure (.var (nameOf names id))
    | .struct f first =>
      if parents.contains id then pure (.var (nameOf names id))
      else if f.arity = 0 then pure (.atom f.name)
      else
        match fuel with
        | 0 => pure (.var (nameOf names id))
        | fuel + 1 => do
          let args ← (List.range f.arity).mapM fun i =>
            reify m names fuel (first + i) (id :: parents)
          pure (.compound f.name args)

/-- The addresses held by the registers of named variables, each `none` if never written. -/
def capture (m : State) (vars : List (String × Nat)) :
    Except MachineError (List (String × Option Nat)) :=
  vars.mapM fun (name, x) => do pure (name, ← m.register x)

/-- The entries with the first of each name. -/
def firstOfEachName (entries : List (String × Option Nat)) : List (String × Option Nat) :=
  entries.foldl (fun kept e => if kept.any (·.1 == e.1) then kept else kept ++ [e]) []

/-- Records, for each entry with an address, its name for the identity it leads to, unless that
identity is named already. -/
def recordNames (m : State) (entries : List (String × Option Nat)) : Except HeapError Names :=
  entries.foldlM (fun names e =>
    match e.2 with
    | none => pure names
    | some a => do
      let (_, v) ← m.lookup a
      let id := Identity.of v
      pure (if (names.lookup id).isSome then names else names ++ [(id, e.1)])) []

/-- The named variables of a run and their terms. -/
structure Answer where
  bindings : List (String × Term)
deriving Inhabited

namespace Answer

/-- The answer read from a machine for the variable entries of the query, then of the program
term. An entry without an address stands for itself. -/
def read (m : State) (entries : List (String × Option Nat)) : Except HeapError Answer := do
  let entries := firstOfEachName entries
  let names ← recordNames m entries
  let bindings ← entries.mapM fun e =>
    match e.2 with
    | some a => do pure (e.1, ← reify m names (m.heap.top + 1) a [])
    | none => pure (e.1, .var e.1)
  pure ⟨bindings⟩

/-- Whether a binding says something: a variable bound only to itself does not. -/
def Binding.informative (b : String × Term) : Bool :=
  match b.2 with
  | .var v => v != b.1
  | _ => true

/-- The bindings that say something. -/
def informative (a : Answer) : List (String × Term) :=
  a.bindings.filter Binding.informative

/-- The answer as printed: `yes` in green, then one line `Name = term` per binding that says
something. -/
def render (a : Answer) : String :=
  Text.paint Text.Colour.green "yes" ++ String.join (a.informative.map fun b => "\n" ++ b.1 ++ " = " ++ b.2.render)

end Answer

end UnifyMachine.Toplevel
