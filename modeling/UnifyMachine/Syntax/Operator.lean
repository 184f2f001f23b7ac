/-!
# Operators

An operator has a priority and a limit for the priority of each argument. Its type, in the
usual notation (`xfx`, `xfy`, `yfx`, `fy`, `fx`, `xf`, `yf`), fixes those limits: an `x`
argument must bind tighter than the operator (priority minus one), a `y` argument may bind as
tightly (the priority itself). A name may be an operator in each of the three placements at
once, as `-` is both prefix and infix.
-/

namespace UnifyMachine.Syntax

/-- The highest priority a term may have. -/
def maxPriority : Nat := 1200

/-- The priority limit of arguments and list elements, just below the comma. -/
def argumentPriority : Nat := 999

/-- The priority of an operator and the limits for its left and right arguments (zero where it
has no argument). -/
structure Operator where
  priority : Nat
  left : Nat
  right : Nat
deriving DecidableEq, Inhabited

/-- Where an operator stands relative to its arguments. -/
inductive Placement where
  | before
  | between
  | after
deriving DecidableEq, Inhabited

/-- The seven operator types. -/
inductive OperatorType where
  | xfx | xfy | yfx | fy | fx | xf | yf
deriving DecidableEq, Inhabited

namespace OperatorType

/-- Where an operator of this type stands. -/
def placement : OperatorType → Placement
  | .fy | .fx => .before
  | .xfx | .xfy | .yfx => .between
  | .xf | .yf => .after

/-- The operator of this type at priority `p`. -/
def operator (k : OperatorType) (p : Nat) : Operator :=
  let x := p - 1
  match k with
  | .xfx => ⟨p, x, x⟩
  | .xfy => ⟨p, x, p⟩
  | .yfx => ⟨p, p, x⟩
  | .fy => ⟨p, 0, p⟩
  | .fx => ⟨p, 0, x⟩
  | .xf => ⟨p, x, 0⟩
  | .yf => ⟨p, p, 0⟩

end OperatorType

/-- Operator definitions, at most one per name and placement. -/
structure OperatorTable where
  entries : List (String × Placement × Operator)
deriving Inhabited

namespace OperatorTable

/-- The table with no operators. -/
def empty : OperatorTable := ⟨[]⟩

/-- Defines `name` as an operator of type `k` at priority `p`, replacing its definition in the
same placement; priority zero removes that definition, and priorities above the maximum are
lowered to it. -/
def add (t : OperatorTable) (p : Nat) (k : OperatorType) (name : String) : OperatorTable :=
  let others := t.entries.filter fun e => !(e.1 == name && e.2.1 == k.placement)
  if p = 0 then ⟨others⟩ else ⟨others ++ [(name, k.placement, k.operator (min p maxPriority))]⟩

/-- The definition of `name` in placement `pl`. -/
def lookup (t : OperatorTable) (name : String) (pl : Placement) : Option Operator :=
  (t.entries.find? fun e => e.1 == name && e.2.1 == pl).map fun e => e.2.2

/-- The definition of `name` as a prefix operator. -/
def prefixOp (t : OperatorTable) (name : String) : Option Operator :=
  t.lookup name .before

/-- The definition of `name` as an infix operator. -/
def infixOp (t : OperatorTable) (name : String) : Option Operator :=
  t.lookup name .between

/-- The definition of `name` as a postfix operator. -/
def postfixOp (t : OperatorTable) (name : String) : Option Operator :=
  t.lookup name .after

/-- Whether `name` is an operator in some placement. -/
def isOperator (t : OperatorTable) (name : String) : Bool :=
  (t.prefixOp name).isSome || (t.infixOp name).isSome || (t.postfixOp name).isSome

/-- The standard operators, by priority and type. -/
def standardDefinitions : List (Nat × OperatorType × List String) :=
  [ (1200, .xfx, ["-->", ":-"]),
    (1200, .fx, [":-", "?-"]),
    (1150, .fx, ["dynamic", "discontiguous", "initialization", "meta_predicate",
      "module_transparent", "multifile", "public", "thread_local", "thread_initialization",
      "volatile"]),
    (1100, .xfy, [";", "|"]),
    (1050, .xfy, ["->", "*->"]),
    (1000, .xfy, [","]),
    (990, .xfx, [":="]),
    (900, .fy, ["\\+"]),
    (700, .xfx, ["<", "=", "=..", "=@=", "\\=@=", "=:=", "=<", "==", "=\\=", ">", ">=", "@<",
      "@=<", "@>", "@>=", "\\=", "\\==", "as", "is", ">:<", ":<"]),
    (600, .xfy, [":"]),
    (500, .yfx, ["+", "-", "/\\", "\\/", "xor"]),
    (500, .fx, ["?"]),
    (400, .yfx, ["*", "/", "//", "div", "rdiv", "<<", ">>", "mod", "rem"]),
    (200, .xfx, ["**"]),
    (200, .xfy, ["^"]),
    (200, .fy, ["+", "-", "\\"]),
    (100, .yfx, ["."]),
    (1, .fx, ["$"]) ]

/-- The standard operator table. -/
def standard : OperatorTable :=
  standardDefinitions.foldl
    (fun t d => d.2.2.foldl (fun t name => t.add d.1 d.2.1 name) t) empty

end OperatorTable

end UnifyMachine.Syntax
