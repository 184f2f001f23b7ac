import UnifyMachine.Syntax.Operator
import UnifyMachine.Syntax.Token
import UnifyMachine.Term.Render

/-!
# Resolving operators

Between brackets, a clause is first read as a flat sequence of items: operand terms, names,
commas and bars. Operator priorities then decide how the sequence groups into one term. A
comma acts as the infix operator `,` and a bar as the infix operator `|`.

The reading is by precedence climbing. A primary is an operand, a negative number literal, a
prefix operator applied to what follows it, or a bare name as an atom. After a primary, infix
and postfix operators are taken as long as their priority fits under the current limit and the
left side fits under their left limit. Items left over when nothing more fits are a priority
clash.
-/

namespace UnifyMachine.Syntax

/-- An element of the flat sequence read between brackets. -/
inductive Item where
  /-- A term that needs no operator resolution: a compound, a bracketed term, a list, a
  variable or a number. -/
  | operand (term : Term) (span : Span)
  /-- A bare name: an operator or an atom. -/
  | name (text : String) (span : Span)
  | comma (span : Span)
  | bar (span : Span)
deriving Inhabited

namespace Item

/-- The source span of an item. -/
def span : Item → Span
  | .operand _ s | .name _ s | .comma s | .bar s => s

/-- The name an item has when it stands where an operator is expected. -/
def operatorName : Item → String
  | .name n _ => n
  | .comma _ => ","
  | .bar _ => "|"
  | .operand _ _ => ""

end Item

/-- A term read from the front of `items`, its priority, and the items after it. -/
abbrev Reading (items : List Item) :=
  Except Rejection (Term × Nat × { rest : List Item // rest.length ≤ items.length })

/-- Whether the items start a term: an operand, or a name that is a prefix operator or no
operator at all. -/
def startsTerm (ops : OperatorTable) : List Item → Bool
  | .operand _ _ :: _ => true
  | .name n _ :: _ => (ops.prefixOp n).isSome || !ops.isOperator n
  | _ => false

/-- An operator definition, kept when its priority fits under `limit` and the left side's
priority `lp` fits under its left limit. -/
def fitting (limit lp : Nat) (op : Option Operator) : Option Operator :=
  op.filter fun o => o.priority ≤ limit && lp ≤ o.left

/-- The number literal after a name `-` that ends where the literal starts, and the items after
the literal. -/
def negativeLiteral (n : String) (s : Span) :
    (rest : List Item) → Option (Decimal × { r : List Item // r.length < rest.length })
  | .operand (.number d) s' :: rest' =>
    if n = "-" ∧ s'.start = s.stop then some (d, ⟨rest', by simp⟩) else none
  | _ => none

mutual
/-- A primary term at the front of `items`, under the priority limit `limit`. Nothing there, a
comma or a bar means a term is missing. A `-` written directly against a number literal makes a
negative number. A prefix operator that fits applies to the term that follows, if one does;
any other name is an atom. -/
def primary (ops : OperatorTable) (whole : Span) (limit : Nat) : (items : List Item) → Reading items
  | [] => .error ⟨"Expected a term", ⟨whole.stop, whole.stop⟩⟩
  | .operand t _ :: rest => .ok (t, 0, ⟨rest, by simp⟩)
  | .comma s :: _ => .error ⟨"Expected a term", s⟩
  | .bar s :: _ => .error ⟨"Expected a term", s⟩
  | .name n s :: rest =>
    match negativeLiteral n s rest with
    | some (d, ⟨rest', h⟩) => .ok (.number d.negate, 0, ⟨rest', by simp; omega⟩)
    | none =>
      match prefixed ops whole limit n rest with
      | .ok (t, p, ⟨rest', h⟩) => .ok (t, p, ⟨rest', by simp; omega⟩)
      | .error e => .error e
termination_by items => 4 * items.length + 1

/-- The name `n` at the front, followed by `rest`: a prefix operator application if `n` is a
prefix operator that fits and a term follows, otherwise the atom `n`. -/
def prefixed (ops : OperatorTable) (whole : Span) (limit : Nat) (n : String)
    (rest : List Item) : Except Rejection (Term × Nat × { r : List Item // r.length ≤ rest.length }) :=
  match ops.prefixOp n with
  | some op =>
    if op.priority ≤ limit && startsTerm ops rest then
      match expr ops whole op.right rest with
      | .ok (t, _, ⟨rest', h⟩) => .ok (.compound n [t], op.priority, ⟨rest', h⟩)
      | .error e => .error e
    else .ok (.atom n, 0, ⟨rest, by simp⟩)
  | none => .ok (.atom n, 0, ⟨rest, by simp⟩)
termination_by 4 * rest.length + 3

/-- A term at the front of `items` under the priority limit `limit`: a primary, then the
operators that follow it. -/
def expr (ops : OperatorTable) (whole : Span) (limit : Nat) (items : List Item) : Reading items :=
  match primary ops whole limit items with
  | .error e => .error e
  | .ok (left, lp, ⟨rest, h⟩) =>
    match operators ops whole limit left lp rest with
    | .ok (t, p, ⟨rest', h'⟩) => .ok (t, p, ⟨rest', by omega⟩)
    | .error e => .error e
termination_by 4 * items.length + 2

/-- Infix and postfix operators after the term `left` of priority `lp`, while they fit; an
operand where an operator should stand is an error. -/
def operators (ops : OperatorTable) (whole : Span) (limit : Nat) (left : Term) (lp : Nat) :
    (items : List Item) → Reading items
  | [] => .ok (left, lp, ⟨[], by simp⟩)
  | .operand _ s :: _ => .error ⟨"Expected an operator", s⟩
  | item :: more =>
    let name := item.operatorName
    match fitting limit lp (ops.infixOp name) with
    | some op =>
      match expr ops whole op.right more with
      | .ok (right, _, ⟨rest, h⟩) =>
        match operators ops whole limit (.compound name [left, right]) op.priority rest with
        | .ok (t, p, ⟨rest', h'⟩) => .ok (t, p, ⟨rest', by simp; omega⟩)
        | .error e => .error e
      | .error e => .error e
    | none =>
      match fitting limit lp (ops.postfixOp name) with
      | some op =>
        match operators ops whole limit (.compound name [left]) op.priority more with
        | .ok (t, p, ⟨rest', h'⟩) => .ok (t, p, ⟨rest', by simp; omega⟩)
        | .error e => .error e
      | none => .ok (left, lp, ⟨item :: more, by simp⟩)
termination_by items => 4 * items.length
end

/-- The term that all of `items` make up, under the priority limit `limit`; `whole` is the span
of the sequence. Items left over are a priority clash. -/
def resolve (ops : OperatorTable) (items : List Item) (limit : Nat) (whole : Span) :
    Except Rejection Term :=
  match expr ops whole limit items with
  | .ok (t, _, ⟨[], _⟩) => .ok t
  | .ok (_, _, ⟨item :: _, _⟩) => .error ⟨"Operator priority clash", item.span⟩
  | .error e => .error e

/-- The groups of items between commas; a sequence with `k` commas has `k + 1` groups. -/
def splitOnCommas : List Item → List (List Item)
  | [] => [[]]
  | .comma _ :: rest => [] :: splitOnCommas rest
  | item :: rest =>
    match splitOnCommas rest with
    | g :: gs => (item :: g) :: gs
    | [] => [[item]]

/-- The arguments of a compound term: each group between commas resolved under the argument
priority. An empty group is a missing term. -/
def arguments (ops : OperatorTable) (items : List Item) (whole : Span) :
    Except Rejection (List Term) :=
  (splitOnCommas items).mapM fun group => resolve ops group argumentPriority whole

/-- The items before the first bar and those after it, if there is a bar. -/
def splitAtBar : List Item → Option (List Item × List Item)
  | [] => none
  | .bar _ :: rest => some ([], rest)
  | item :: rest => (splitAtBar rest).map fun (before, after) => (item :: before, after)

/-- The list that the items between square brackets denote: the elements before the first bar,
ending in the tail after it, or in the empty list. The tail is resolved first. -/
def listTerm (ops : OperatorTable) (items : List Item) (whole : Span) : Except Rejection Term :=
  match splitAtBar items with
  | some (elements, tailItems) => do
    let tail ← resolve ops tailItems argumentPriority whole
    let heads ← arguments ops elements whole
    pure (heads.foldr Term.cons tail)
  | none => do
    let heads ← arguments ops items whole
    pure (heads.foldr Term.cons (.atom Term.emptyList))

end UnifyMachine.Syntax
