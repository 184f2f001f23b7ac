import UnifyMachine.Term.Decimal

/-!
# Terms

The first-order terms that queries and programs are written in: atoms, numbers, variables and
compound terms. Names are compared by their text alone. The variables of a term are listed in
the order in which a left-to-right, parent-first walk meets them for the first time; compiling
and answering both use that order.
-/

namespace UnifyMachine

/-- A first-order term. -/
inductive Term where
  /-- A constant written as a name, such as `a` or `'[]'`. -/
  | atom (name : String)
  /-- A number literal. -/
  | number (value : Decimal)
  /-- A variable, such as `X` or `_`. -/
  | var (name : String)
  /-- A name applied to a list of arguments, possibly empty: `f(a, X)` or `f()`. -/
  | compound (name : String) (args : List Term)
deriving Inhabited

namespace Term

/-- The name of the list cell functor. -/
def listCell : String := "."

/-- The name of the empty list. -/
def emptyList : String := "[]"

/-- The name of the functor that braces build. -/
def curlyBrackets : String := "{}"

/-- The list cell with head `head` and tail `tail`. -/
def cons (head tail : Term) : Term :=
  .compound listCell [head, tail]

mutual
/-- Adds the variables of a term, in walk order, to those already met. -/
def gatherVars (seen : List String) : Term → List String
  | .var name => if seen.contains name then seen else seen ++ [name]
  | .compound _ args => gatherVarsList seen args
  | _ => seen

/-- Adds the variables of a list of terms, left to right, to those already met. -/
def gatherVarsList (seen : List String) : List Term → List String
  | [] => seen
  | t :: ts => gatherVarsList (gatherVars seen t) ts
end

/-- The distinct variable names of a term, in the order a parent-first walk meets them. -/
def variableNames (t : Term) : List String :=
  gatherVars [] t

mutual
/-- The parent-first walk of a term: `pre` meets the term, then each argument of a compound
term is walked in turn, left to right. The state `s` is passed from call to call. -/
def walk {σ : Type} (pre : σ → Term → σ) (s : σ) : Term → σ
  | .compound name args => walkList pre (pre s (.compound name args)) args
  | t => pre s t

/-- Walks the terms of a list in turn, left to right. -/
def walkList {σ : Type} (pre : σ → Term → σ) (s : σ) : List Term → σ
  | [] => s
  | t :: ts => walkList pre (walk pre s t) ts
end

end Term

end UnifyMachine
