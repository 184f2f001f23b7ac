/-!
# Reading and writing the arguments of a structure

After `put_structure` or `get_structure`, the following instructions visit the structure's
arguments one by one: in write mode they append new argument cells, in read mode they take the
existing ones. The cursor records the mode, where the arguments start, how many there are and
which comes next; it disappears once the last argument has been visited, and a structure
without arguments never has one.
-/

namespace UnifyMachine.Machine

/-- Whether the arguments of a structure are being read or written. -/
inductive Mode where
  | read
  | write
deriving DecidableEq, Inhabited

/-- The written name of a mode. -/
def Mode.render : Mode → String
  | .read => "read"
  | .write => "write"

/-- The position in the arguments of the structure being read or written. -/
structure Cursor where
  mode : Mode
  /-- The address of the first argument. -/
  firstTerm : Nat
  /-- The number of arguments, never zero. -/
  count : Nat
  /-- How many arguments have been visited. -/
  index : Nat
deriving DecidableEq, Inhabited

namespace Cursor

/-- The address of the next argument. -/
def next (c : Cursor) : Nat :=
  c.firstTerm + c.index

/-- The cursor after visiting one more argument; none after the last. -/
def advance (c : Cursor) : Option Cursor :=
  if c.index + 1 = c.count then none else some { c with index := c.index + 1 }

/-- The cursor that starts visiting `count` arguments from `firstTerm`; none if there are no
arguments. -/
def start (mode : Mode) (firstTerm count : Nat) : Option Cursor :=
  if count = 0 then none else some ⟨mode, firstTerm, count, 0⟩

/-- The written state: `no active structure`, or the mode and the next argument's address. -/
def render : Option Cursor → String
  | none => "no active structure"
  | some c => c.mode.render ++ " mode, S = " ++ toString c.next

end Cursor

end UnifyMachine.Machine
