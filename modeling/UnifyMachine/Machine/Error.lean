import UnifyMachine.Machine.Heap

/-!
# Machine errors

The ways an instruction can go wrong, as opposed to failing to unify. Each error has a kind,
the name under which it is reported, and a message.
-/

namespace UnifyMachine.Machine

/-- An error that stops a run. -/
inductive MachineError where
  /-- A fault of heap access. -/
  | heap (e : HeapError)
  /-- A register index at or beyond the number of registers. -/
  | indexOutOfRange (register count : Nat)
  /-- A register read before anything was put in it. -/
  | noValue (register : Nat)
  /-- An argument instruction with no structure being read or written. -/
  | notActive
  /-- A structure started while another is being read or written. -/
  | currentlyActive
  /-- An argument instruction after the last argument. -/
  | noMoreTerms (count : Nat)
  /-- An argument cell written somewhere other than where the next argument belongs. -/
  | termOutOfPlace (index expected found : Nat)
  /-- The instruction limit has been reached. -/
  | stepLimitExceeded (limit : Nat)
  /-- A unification ran out of its budget of pairs. -/
  | unificationUnfinished (budget : Nat)
deriving DecidableEq, Inhabited

namespace HeapError

/-- The kind of a heap fault. -/
def kind : HeapError → String
  | .heapOverflow _ => "HeapOverflow"
  | .addressOutOfRange _ _ => "AddressOutOfRange"
  | .notATerm _ => "NotATerm"
  | .notAStructure _ => "NotAStructure"
  | .noFreeVariable _ _ => "NoFreeVariable"
  | .referenceCycle _ => "ReferenceCycle"

/-- The message of a heap fault. -/
def message : HeapError → String
  | .heapOverflow c => "heap overflow: all " ++ toString c ++ " cells are in use"
  | .addressOutOfRange a top =>
    "address " ++ toString a ++ " is beyond the top of the heap at " ++ toString top
  | .notATerm a => "the cell at " ++ toString a ++ " is a functor, not a term"
  | .notAStructure a => "the cell at " ++ toString a ++ " is not a structure"
  | .noFreeVariable a1 a2 =>
    "cannot bind " ++ toString a1 ++ " to " ++ toString a2 ++ ": neither is an unbound variable"
  | .referenceCycle a => "the references from " ++ toString a ++ " go round in a cycle"

end HeapError

namespace MachineError

/-- The kind of an error. -/
def kind : MachineError → String
  | .heap e => e.kind
  | .indexOutOfRange _ _ => "IndexOutOfRange"
  | .noValue _ => "NoValue"
  | .notActive => "NotActive"
  | .currentlyActive => "CurrentlyActive"
  | .noMoreTerms _ => "NoMoreTerms"
  | .termOutOfPlace _ _ _ => "TermOutOfPlace"
  | .stepLimitExceeded _ => "StepLimitExceeded"
  | .unificationUnfinished _ => "UnificationUnfinished"

/-- The message of an error. -/
def message : MachineError → String
  | .heap e => e.message
  | .indexOutOfRange x n =>
    "register " ++ registerName x ++ " does not exist, there are " ++ toString n ++ " registers"
  | .noValue x => "register " ++ registerName x ++ " has no value"
  | .notActive => "no structure is being read or written"
  | .currentlyActive => "a structure is already being read or written"
  | .noMoreTerms n => "all " ++ toString n ++ " terms of the structure have been visited"
  | .termOutOfPlace i expected found =>
    "term " ++ toString i ++ " was written at " ++ toString found ++ " rather than " ++
      toString expected
  | .stepLimitExceeded n => "exceeded the limit of " ++ toString n ++ " instructions"
  | .unificationUnfinished b => "unification did not finish within " ++ toString b ++ " pairs"

end MachineError

end UnifyMachine.Machine
