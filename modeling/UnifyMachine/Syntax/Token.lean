import UnifyMachine.Term.Decimal

/-!
# Tokens, spans and failures

The vocabulary shared by the scanner, the clause grammar and the error reports. A span is a
range of character offsets into the source. A failure is placed at a position (a character
offset while scanning, a token index while reading a clause); of two failures the one further
on is the one reported, and on a tie the one met later wins.
-/

namespace UnifyMachine.Syntax

/-- The characters from offset `start` up to, not including, offset `stop`. -/
structure Span where
  start : Nat
  stop : Nat
deriving DecidableEq, Inhabited

/-- A token of the term language. -/
inductive Token where
  /-- A name not followed directly by an opening bracket. -/
  | name (text : String)
  /-- A name followed directly by an opening bracket, which belongs to the token. -/
  | functor (text : String)
  /-- A variable name. -/
  | var (text : String)
  /-- A number literal. -/
  | number (value : Decimal)
  | openParen
  | closeParen
  | openList
  | closeList
  | openCurly
  | closeCurly
  | comma
  | bar
  /-- A full stop followed by layout or by the end of the source. -/
  | stop
deriving DecidableEq, Inhabited

/-- A rule of the grammar refuses what it has read, with its message and the span it blames. -/
structure Rejection where
  message : String
  span : Span
deriving DecidableEq, Inhabited

/-- What kind of failure occurred. -/
inductive Fault where
  /-- The token at the failure position, or the end of the input there, does not fit. -/
  | unexpected
  /-- A rule refused what it read. -/
  | rejected (r : Rejection)
deriving DecidableEq, Inhabited

/-- A failure and the position at which it happened. -/
structure Failure where
  pos : Nat
  fault : Fault
deriving DecidableEq, Inhabited

namespace Failure

/-- An unexpected token, or end of input, at `pos`. -/
def unexpectedAt (pos : Nat) : Failure :=
  ⟨pos, .unexpected⟩

/-- Of a failure met later (`newer`) and one met earlier, the one further on; the later one on
a tie. -/
def furthest (newer older : Failure) : Failure :=
  if older.pos ≤ newer.pos then newer else older

/-- `newer`, unless an earlier failure lies further on. -/
def overOpt (newer : Failure) : Option Failure → Failure
  | none => newer
  | some older => newer.furthest older

end Failure

/-- Adds a failure that may have been met later to the furthest failure met so far. -/
def mergeAlt (older newer : Option Failure) : Option Failure :=
  match newer with
  | none => older
  | some f => some (f.overOpt older)

end UnifyMachine.Syntax
