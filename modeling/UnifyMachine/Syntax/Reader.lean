import UnifyMachine.Syntax.Grammar
import UnifyMachine.Syntax.Scanner

/-!
# Reading terms from a source

A source holds clauses, each ended by a full stop. It is scanned into tokens as a whole; if that
fails, the scanning failure is the only thing the source yields. Otherwise the tokens are cut
after each full stop, each piece is read as one clause, and a clause that cannot be read does
not keep the clauses after it from being read. A source meant to hold exactly one term must
hold exactly one clause.
-/

namespace UnifyMachine.Syntax

/-- Why a source could not be read. -/
inductive SyntaxError where
  /-- A character or token that fits nowhere. -/
  | unexpectedToken
  /-- The source ends where more was needed. -/
  | unexpectedEnd
  /-- A rule refused what it read. -/
  | rejected (r : Rejection)
deriving DecidableEq, Inhabited

/-- The message of a syntax error. -/
def SyntaxError.message : SyntaxError → String
  | .unexpectedToken => "Unexpected token"
  | .unexpectedEnd => "Unexpected end of input"
  | .rejected r => r.message

/-- A failure at position `pos` of an input of length `size`: an unexpected token before the
end, an unexpected end at it. -/
def SyntaxError.ofFailure (size : Nat) (f : Failure) : SyntaxError :=
  match f.fault with
  | .rejected r => .rejected r
  | .unexpected => if f.pos < size then .unexpectedToken else .unexpectedEnd

/-- Cuts a token list after each full stop; the last piece may lack one. -/
def cutClauses (tokens : List (Token × Span)) : List (List (Token × Span)) :=
  go tokens []
where
  /-- The pieces of `tokens`, the first continuing `current` (reversed). -/
  go : List (Token × Span) → List (Token × Span) → List (List (Token × Span))
    | [], [] => []
    | [], current => [current.reverse]
    | t :: rest, current =>
      if t.1 == .stop then (t :: current).reverse :: go rest [] else go rest (t :: current)

/-- What reading each clause of a source gives, in order: a single syntax error if the source
cannot be scanned. -/
def readClauses (ops : OperatorTable) (source : String) : List (Except SyntaxError Term) :=
  let chars := source.toList.toArray
  match scan chars with
  | .error pos => [.error (SyntaxError.ofFailure chars.size ⟨pos, .unexpected⟩)]
  | .ok tokens =>
    (cutClauses tokens.toList).map fun piece =>
      let s : TokenStream := ⟨piece.toArray, chars.size, ops⟩
      (clause s).mapError (SyntaxError.ofFailure s.size)

/-- The one term that a source holds. A source without clauses lacks a term, and a second
clause that reads is refused by name; both point at the end of the source. -/
def readTerm (ops : OperatorTable) (source : String) : Except SyntaxError Term :=
  let stop := source.length
  match readClauses ops source with
  | [] => .error (.rejected ⟨"Expected a term", ⟨stop, stop⟩⟩)
  | .error e :: _ => .error e
  | [.ok t] => .ok t
  | .ok _ :: .error e :: _ => .error e
  | .ok _ :: .ok extra :: _ =>
    .error (.rejected ⟨"Expected a single term, found " ++ extra.render ++ " as well", ⟨stop, stop⟩⟩)

end UnifyMachine.Syntax
