import UnifyMachine.Syntax.Resolve

/-!
# Resolving a chain of infix operators

A chain is a sequence of operands separated by infix operators: commas, bars, or names with an
infix definition. Its groupings are the binary trees over it in which every operator of priority
`q` and argument limits `l` and `r` takes a left side of priority at most `l` and a right side
of priority at most `r`, an operand having priority zero (`Grouping`).

The resolver reads a chain in one pass: an operand, then operators while they fit under the
current limit and their left limit admits what has been read, each followed by its right side
read under its right limit. Under two conditions on the table it finds exactly the groupings
whose priority fits the bound, and there is at most one. The first is that no operator is
postfix. The second is that no two infix operators `o₁` and `o₂` let `o₁` stand as the left
side of `o₂` while `o₂` could stand as the right side of `o₁`, as an `xfy` and a `yfx` operator
of one priority would (`InfixProper`). The standard table meets both.

The proof of completeness follows the grouping. Reading its left side and then its operator
lands the loop where the grouping puts them; its right side, read under the operator's right
limit, stops exactly before whatever the grouping places above it: either that operator does
not fit under the current limit, or it takes the whole grouping as its left side, and then, by
the second condition, it does not fit under the right limit of any operator on the way down.
Uniqueness then follows, since the resolver is a function.
-/

namespace UnifyMachine.Syntax

/-- Whether an item is an operand. -/
def Item.isOperand : Item → Bool
  | .operand _ _ => true
  | _ => false

/-- An item that stands as an infix operator: a comma, a bar, or a name that has an infix
definition. -/
def Item.IsInfixIn (ops : OperatorTable) : Item → Prop
  | .comma _ | .bar _ => True
  | .name n _ => (ops.infixOp n).isSome
  | .operand _ _ => False

/-- Operands separated by infix operators: `o₀ op₁ o₁ … opₖ oₖ`. -/
inductive InfixChain (ops : OperatorTable) : List Item → Prop
  | operand (t : Term) (s : Span) : InfixChain ops [.operand t s]
  | cons (t : Term) (s : Span) {op : Item} {rest : List Item} :
      op.IsInfixIn ops → InfixChain ops rest → InfixChain ops (.operand t s :: op :: rest)

/-- `t`, of priority `p`, groups the items: an operand alone, of priority zero; or an infix
operator item joining a grouping of the items before it, whose priority fits under its left
limit, and one of the items after it, whose priority fits under its right limit. -/
inductive Grouping (ops : OperatorTable) : List Item → Term → Nat → Prop
  | operand (t : Term) (s : Span) : Grouping ops [.operand t s] t 0
  | join {left right : List Item} {op : Item} {o : Operator} {tl tr : Term} {pl pr : Nat} :
      op.isOperand = false → ops.infixOp op.operatorName = some o →
      Grouping ops left tl pl → pl ≤ o.left → Grouping ops right tr pr → pr ≤ o.right →
      Grouping ops (left ++ op :: right) (.compound op.operatorName [tl, tr]) o.priority

/-- What the resolver needs of a table to read chains of infix operators: no postfix operator,
argument limits no higher than the priority, and no two infix operators each of which could
stand as an argument of the other, the first on the left of the second and the second on the
right of the first. -/
structure InfixProper (ops : OperatorTable) : Prop where
  no_postfix : ∀ n, ops.postfixOp n = none
  left_le : ∀ n o, ops.infixOp n = some o → o.left ≤ o.priority
  right_le : ∀ n o, ops.infixOp n = some o → o.right ≤ o.priority
  apart : ∀ n₁ n₂ o₁ o₂, ops.infixOp n₁ = some o₁ → ops.infixOp n₂ = some o₂ →
    o₁.priority ≤ o₂.left → o₂.priority ≤ o₁.right → False

/-! ## The resolver, step by step -/

/-- A reading with the items after it as a plain list. -/
def Reading.outcome {items : List Item} (r : Reading items) :
    Except Rejection (Term × Nat × List Item) :=
  r.map fun x => (x.1, x.2.1, x.2.2.val)

section Steps

variable {ops : OperatorTable} {whole : Span}

theorem expr_operand (L : Nat) (t : Term) (s : Span) (rest : List Item) :
    (expr ops whole L (.operand t s :: rest)).outcome =
      (operators ops whole L t 0 rest).outcome := by
  rw [expr, primary]
  simp only
  cases operators ops whole L t 0 rest with
  | error e => rfl
  | ok r => rfl

theorem operators_nil (L : Nat) (left : Term) (lp : Nat) :
    (operators ops whole L left lp []).outcome = .ok (left, lp, []) := by
  rw [operators]
  rfl

theorem operators_fit {L lp : Nat} {left : Term} {op : Item} {more : List Item} {o : Operator}
    (hop : op.isOperand = false) (ho : ops.infixOp op.operatorName = some o)
    (hq : o.priority ≤ L) (hl : lp ≤ o.left) :
    (operators ops whole L left lp (op :: more)).outcome =
      (expr ops whole o.right more).outcome >>= fun r =>
        (operators ops whole L (.compound op.operatorName [left, r.1]) o.priority r.2.2).outcome := by
  have hfit : fitting L lp (ops.infixOp op.operatorName) = some o := by
    simp [fitting, ho, hq, hl]
  cases op with
  | operand => cases hop
  | name n s | comma s | bar s =>
    rw [operators]
    rotate_left
    · intro _ _ h
      cases h
    simp only [hfit]
    rcases expr ops whole o.right more with e | ⟨right, pr, rest, hrest⟩
    · rfl
    · change _ = (operators ops whole L (.compound _ [left, right]) o.priority rest).outcome
      simp only
      split
      all_goals
        rename_i heq
        rw [heq]
        rfl

theorem operators_stop (hops : InfixProper ops) {L lp : Nat} {left : Term} {op : Item}
    {more : List Item} (hop : op.isOperand = false)
    (hno : fitting L lp (ops.infixOp op.operatorName) = none) :
    (operators ops whole L left lp (op :: more)).outcome = .ok (left, lp, op :: more) := by
  cases op with
  | operand => cases hop
  | name n s | comma s | bar s =>
    rw [operators]
    rotate_left
    · intro _ _ h
      cases h
    rw [hno]
    simp only [hops.no_postfix, fitting, Option.filter_none]
    rfl

theorem resolve_eq_outcome (items : List Item) (L : Nat) :
    resolve ops items L whole =
      match (expr ops whole L items).outcome with
      | .ok (t, _, []) => .ok t
      | .ok (_, _, item :: _) => .error ⟨"Operator priority clash", item.span⟩
      | .error e => .error e := by
  rw [resolve]
  cases expr ops whole L items with
  | error e => rfl
  | ok r =>
    obtain ⟨t, p, rest, h⟩ := r
    cases rest <;> rfl

end Steps

/-! ## Groupings -/

section Groupings

variable {ops : OperatorTable}

theorem Grouping.head {C : List Item} {t : Term} {p : Nat} (hg : Grouping ops C t p) :
    ∃ o s D, C = .operand o s :: D := by
  induction hg with
  | operand t s => exact ⟨t, s, [], rfl⟩
  | join _ _ _ _ _ _ ihl _ =>
    obtain ⟨o, s, D, rfl⟩ := ihl
    exact ⟨o, s, _, List.cons_append ..⟩

/-- What may follow a grouping of priority `p` read under the limit `L` for the operators to
close there: nothing, or an infix operator that does not fit under `L` or that takes the
grouping as its left side. -/
def Closes (ops : OperatorTable) (L p : Nat) (X : List Item) : Prop :=
  X = [] ∨ ∃ op rest o, X = op :: rest ∧ op.isOperand = false ∧
    ops.infixOp op.operatorName = some o ∧ (L < o.priority ∨ p ≤ o.left)

/-- What may follow a grouping read under the limit `L` for the reading to stop there: nothing,
or an infix operator that does not fit under `L`. -/
def StopsAt (ops : OperatorTable) (L : Nat) (X : List Item) : Prop :=
  X = [] ∨ ∃ op rest o, X = op :: rest ∧ op.isOperand = false ∧
    ops.infixOp op.operatorName = some o ∧ L < o.priority

variable {whole : Span}

/-- The operator loop, started after the first operand of `C`, reaches the grouping `t` at the
end of `C`, whatever follows that lets the operators close there. -/
def LoopReaches (ops : OperatorTable) (whole : Span) (C : List Item) (t : Term) (p : Nat) :
    Prop :=
  ∀ L X, p ≤ L → Closes ops L p X → ∀ o₀ s₀ D, C = .operand o₀ s₀ :: D →
    (operators ops whole L o₀ 0 (D ++ X)).outcome = (operators ops whole L t p X).outcome

theorem LoopReaches.expr_eq (hops : InfixProper ops) {C : List Item} {t : Term} {p : Nat}
    (hg : Grouping ops C t p) (hloop : LoopReaches ops whole C t p) {L : Nat} {X : List Item}
    (hp : p ≤ L) (hX : StopsAt ops L X) :
    (expr ops whole L (C ++ X)).outcome = .ok (t, p, X) := by
  obtain ⟨o₀, s₀, D, rfl⟩ := hg.head
  have hcloses : Closes ops L p X := by
    rcases hX with rfl | ⟨op, rest, o, rfl, hop, ho, hlt⟩
    · exact .inl rfl
    · exact .inr ⟨op, rest, o, rfl, hop, ho, .inl hlt⟩
  rw [List.cons_append, expr_operand, hloop L X hp hcloses o₀ s₀ D rfl]
  rcases hX with rfl | ⟨op, rest, o, rfl, hop, ho, hlt⟩
  · exact operators_nil L t p
  · exact operators_stop hops hop (by simp [fitting, ho, Nat.not_le.2 hlt])

theorem Grouping.loopReaches (hops : InfixProper ops) {C : List Item} {t : Term} {p : Nat}
    (hg : Grouping ops C t p) : LoopReaches ops whole C t p := by
  induction hg with
  | operand t s =>
    intro L X _ _ o₀ s₀ D hC
    simp only [List.cons.injEq, Item.operand.injEq] at hC
    obtain ⟨⟨rfl, -⟩, rfl⟩ := hC
    rfl
  | @join left right op o tl tr pl pr hop ho hl hpl hr hpr ihl ihr =>
    intro L X hq hX o₀ s₀ D hC
    obtain ⟨o', s', Dl, rfl⟩ := hl.head
    rw [List.cons_append] at hC
    obtain ⟨⟨rfl, rfl⟩, rfl⟩ := by simpa using hC
    have hplL : pl ≤ L := Nat.le_trans hpl (Nat.le_trans (hops.left_le _ _ ho) hq)
    -- what follows the right side stops its reading under the right limit
    have hstop : StopsAt ops o.right X := by
      rcases hX with rfl | ⟨op', rest, o₂, rfl, hop', ho₂, hfit⟩
      · exact .inl rfl
      · refine .inr ⟨op', rest, o₂, rfl, hop', ho₂, ?_⟩
        rcases hfit with hlt | hle
        · exact Nat.lt_of_le_of_lt (Nat.le_trans (hops.right_le _ _ ho) hq) hlt
        · exact Nat.lt_of_not_le fun h => hops.apart _ _ _ _ ho ho₂ hle h
    have hright := LoopReaches.expr_eq hops hr ihr hpr hstop
    rw [List.append_assoc, List.cons_append,
      ihl L (op :: (right ++ X)) hplL (.inr ⟨op, _, o, rfl, hop, ho, .inr hpl⟩) o' s' Dl rfl,
      operators_fit hop ho hq hpl, hright]
    rfl

/-- A grouping read under a limit it fits resolves to itself. -/
theorem Grouping.resolves (hops : InfixProper ops) {items : List Item} {t : Term} {p P : Nat}
    (hg : Grouping ops items t p) (hp : p ≤ P) : resolve ops items P whole = .ok t := by
  have hread : (expr ops whole P (items ++ [])).outcome = .ok (t, p, []) :=
    LoopReaches.expr_eq hops hg (hg.loopReaches hops) hp (.inl rfl)
  rw [List.append_nil] at hread
  rw [resolve_eq_outcome, hread]

/-- At most one term groups a sequence of items, with one priority: each is what the resolver
reads under a limit both fit. -/
theorem Grouping.unique (hops : InfixProper ops) {items : List Item} {t₁ t₂ : Term} {p₁ p₂ : Nat}
    (h₁ : Grouping ops items t₁ p₁) (h₂ : Grouping ops items t₂ p₂) : t₁ = t₂ ∧ p₁ = p₂ := by
  have e₁ : (expr ops default (max p₁ p₂) (items ++ [])).outcome = .ok (t₁, p₁, []) :=
    LoopReaches.expr_eq hops h₁ (h₁.loopReaches hops) (Nat.le_max_left p₁ p₂) (.inl rfl)
  have e₂ : (expr ops default (max p₁ p₂) (items ++ [])).outcome = .ok (t₂, p₂, []) :=
    LoopReaches.expr_eq hops h₂ (h₂.loopReaches hops) (Nat.le_max_right p₁ p₂) (.inl rfl)
  rw [e₁] at e₂
  simp only [Except.ok.injEq, Prod.mk.injEq] at e₂
  exact ⟨e₂.1, e₂.2.1⟩

end Groupings

/-! ## Soundness -/

section Soundness

variable {ops : OperatorTable} {whole : Span}

theorem Item.IsInfixIn.isOperand {op : Item} (h : op.IsInfixIn ops) : op.isOperand = false := by
  cases op with
  | operand => exact h.elim
  | _ => rfl

/-- What the operator loop may find in front of it in a chain: nothing, or an infix operator
followed by a chain. -/
def ChainTail (ops : OperatorTable) : List Item → Prop
  | [] => True
  | op :: rest => op.IsInfixIn ops ∧ InfixChain ops rest

theorem InfixChain.head {items : List Item} (h : InfixChain ops items) :
    ∃ t s rest, items = .operand t s :: rest ∧ ChainTail ops rest := by
  cases h with
  | operand t s => exact ⟨t, s, [], rfl, trivial⟩
  | cons t s hop hrest => exact ⟨t, s, _, rfl, hop, hrest⟩

/-- Reading a chain groups a front part of it under the limit and leaves a chain tail. -/
def ReadsGrouping (ops : OperatorTable) (whole : Span) (items : List Item) : Prop :=
  InfixChain ops items → ∀ L t p rest, (expr ops whole L items).outcome = .ok (t, p, rest) →
    ∃ C, items = C ++ rest ∧ Grouping ops C t p ∧ p ≤ L ∧ ChainTail ops rest

/-- The operator loop over a chain tail, after a grouping under the limit, extends it over a
front part of the tail and leaves a chain tail. -/
def LoopGroups (ops : OperatorTable) (whole : Span) (items : List Item) : Prop :=
  ChainTail ops items → ∀ C₀ left lp L t p rest, Grouping ops C₀ left lp → lp ≤ L →
    (operators ops whole L left lp items).outcome = .ok (t, p, rest) →
    ∃ D, items = D ++ rest ∧ Grouping ops (C₀ ++ D) t p ∧ p ≤ L ∧ ChainTail ops rest

theorem loopGroups_nil : LoopGroups ops whole [] := by
  intro _ C₀ left lp L t p rest hg hlp hout
  rw [operators_nil] at hout
  simp only [Except.ok.injEq, Prod.mk.injEq] at hout
  obtain ⟨rfl, rfl, rfl⟩ := hout
  exact ⟨[], rfl, by simpa using hg, hlp, trivial⟩

theorem loopGroups_cons (hops : InfixProper ops) {op : Item} {more : List Item}
    (hexpr : ReadsGrouping ops whole more)
    (hloop : ∀ rest, rest.length ≤ more.length → LoopGroups ops whole rest) :
    LoopGroups ops whole (op :: more) := by
  rintro ⟨hop, hchain⟩ C₀ left lp L t p rest hg hlp hout
  cases hf : fitting L lp (ops.infixOp op.operatorName) with
  | none =>
    rw [operators_stop hops hop.isOperand hf] at hout
    simp only [Except.ok.injEq, Prod.mk.injEq] at hout
    obtain ⟨rfl, rfl, rfl⟩ := hout
    exact ⟨[], rfl, by simpa using hg, hlp, hop, hchain⟩
  | some o =>
    obtain ⟨ho, hfits⟩ := Option.filter_eq_some_iff.1 hf
    simp only [Bool.and_eq_true, decide_eq_true_eq] at hfits
    rw [operators_fit hop.isOperand ho hfits.1 hfits.2] at hout
    cases he : (expr ops whole o.right more).outcome with
    | error e =>
      rw [he] at hout
      cases hout
    | ok r =>
      obtain ⟨right, pr, rest₁⟩ := r
      rw [he] at hout
      obtain ⟨R, rfl, hgR, hpr, htail₁⟩ := hexpr hchain _ _ _ _ he
      obtain ⟨D, rfl, hg', hp', htail⟩ :=
        hloop rest₁ (by simp) htail₁ (C₀ ++ op :: R) _ _ L t p rest
          (.join hop.isOperand ho hg hfits.2 hgR hpr) hfits.1 hout
      exact ⟨op :: (R ++ D), by simp, by simpa using hg', hp', htail⟩

/-- Reading a chain and the operator loop over a chain tail are sound, by induction on the
number of items. -/
theorem chain_sound (hops : InfixProper ops) :
    ∀ n (items : List Item), items.length ≤ n →
      ReadsGrouping ops whole items ∧ LoopGroups ops whole items := by
  intro n
  induction n with
  | zero =>
    intro items hn
    rw [List.eq_nil_of_length_eq_zero (Nat.le_zero.1 hn)]
    exact ⟨fun h => absurd h (by rintro (_ | _)), loopGroups_nil⟩
  | succ n ih =>
    intro items hn
    refine ⟨fun hc L t p rest hout => ?_, ?_⟩
    · obtain ⟨t₀, s₀, more, rfl, htail⟩ := hc.head
      rw [expr_operand] at hout
      obtain ⟨D, rfl, hg, hp, hrest⟩ := (ih more (by simpa using hn)).2 htail [.operand t₀ s₀]
        t₀ 0 L t p rest (.operand t₀ s₀) (Nat.zero_le L) hout
      exact ⟨.operand t₀ s₀ :: D, rfl, hg, hp, hrest⟩
    · cases items with
      | nil => exact loopGroups_nil
      | cons op more =>
        exact loopGroups_cons hops (ih more (by simpa using hn)).1 fun rest hr =>
          (ih rest (by simp at hn; omega)).2

/-- A chain the resolver reads to a term is grouped by it, under the bound. -/
theorem resolve_sound (hops : InfixProper ops) {items : List Item} (hc : InfixChain ops items)
    {P : Nat} {t : Term} (hr : resolve ops items P whole = .ok t) :
    ∃ p ≤ P, Grouping ops items t p := by
  rw [resolve_eq_outcome] at hr
  cases hout : (expr ops whole P items).outcome with
  | error e =>
    rw [hout] at hr
    cases hr
  | ok r =>
    obtain ⟨t', p, rest⟩ := r
    rw [hout] at hr
    cases rest with
    | cons item more => cases hr
    | nil =>
      cases hr
      obtain ⟨C, hC, hg, hp, -⟩ := (chain_sound hops _ items (Nat.le_refl _)).1 hc P t p [] hout
      rw [List.append_nil] at hC
      exact ⟨p, hp, hC ▸ hg⟩

end Soundness

/-! ## The standard table -/

theorem OperatorTable.lookup_mem {t : OperatorTable} {name : String} {pl : Placement}
    {o : Operator} (h : t.lookup name pl = some o) : ∃ e ∈ t.entries, e.2.1 = pl ∧ e.2.2 = o := by
  obtain ⟨e, he, rfl⟩ := Option.map_eq_some_iff.1 h
  have hmatch := List.find?_some he
  simp only [Bool.and_eq_true, beq_iff_eq] at hmatch
  exact ⟨e, List.mem_of_find?_eq_some he, hmatch.2, rfl⟩

/-- The standard table has no postfix operator, its infix operators' limits are no higher than
their priorities, and no `xfy` operator shares a priority with a `yfx` one. -/
theorem standard_infixProper : InfixProper OperatorTable.standard := by
  have hpost : OperatorTable.standard.entries.all (fun e => e.2.1 != .after) = true := by
    decide +kernel
  have hlimits : OperatorTable.standard.entries.all (fun e => e.2.1 != .between ||
      (decide (e.2.2.left ≤ e.2.2.priority) && decide (e.2.2.right ≤ e.2.2.priority))) = true := by
    decide +kernel
  have hapart : (OperatorTable.standard.entries.all fun e₁ =>
      OperatorTable.standard.entries.all fun e₂ => !(e₁.2.1 == .between && e₂.2.1 == .between &&
        decide (e₁.2.2.priority ≤ e₂.2.2.left) && decide (e₂.2.2.priority ≤ e₁.2.2.right))) =
      true := by
    decide +kernel
  -- an infix definition is an entry placed between its arguments
  have hinfix : ∀ {n o}, OperatorTable.standard.infixOp n = some o →
      ∃ e ∈ OperatorTable.standard.entries, e.2.1 = .between ∧ e.2.2 = o :=
    OperatorTable.lookup_mem
  refine ⟨fun n => ?_, fun n o ho => ?_, fun n o ho => ?_, fun n₁ n₂ o₁ o₂ h₁ h₂ hl hr => ?_⟩
  · cases hn : OperatorTable.standard.postfixOp n with
    | none => rfl
    | some o =>
      obtain ⟨e, he, hpl, -⟩ := OperatorTable.lookup_mem hn
      have := List.all_eq_true.1 hpost e he
      simp [hpl] at this
  · obtain ⟨e, he, hpl, rfl⟩ := hinfix ho
    have := List.all_eq_true.1 hlimits e he
    simp only [hpl, bne_self_eq_false, Bool.false_or, Bool.and_eq_true,
      decide_eq_true_eq] at this
    exact this.1
  · obtain ⟨e, he, hpl, rfl⟩ := hinfix ho
    have := List.all_eq_true.1 hlimits e he
    simp only [hpl, bne_self_eq_false, Bool.false_or, Bool.and_eq_true,
      decide_eq_true_eq] at this
    exact this.2
  · obtain ⟨e₁, he₁, hpl₁, rfl⟩ := hinfix h₁
    obtain ⟨e₂, he₂, hpl₂, rfl⟩ := hinfix h₂
    have := List.all_eq_true.1 (List.all_eq_true.1 hapart e₁ he₁) e₂ he₂
    simp [hpl₁, hpl₂, hl, hr] at this

/-- Under the standard table and any priority bound, a chain of operands and infix operators
resolves to `t` exactly when `t` groups the chain with a priority within the bound; and at most
one term groups a chain. -/
theorem standard_resolve_chain_iff_grouping {items : List Item}
    (hc : InfixChain OperatorTable.standard items) (P : Nat) (whole : Span) (t : Term) :
    (resolve OperatorTable.standard items P whole = .ok t ↔
      ∃ p ≤ P, Grouping OperatorTable.standard items t p) ∧
    ∀ t₁ t₂ p₁ p₂, Grouping OperatorTable.standard items t₁ p₁ →
      Grouping OperatorTable.standard items t₂ p₂ → t₁ = t₂ ∧ p₁ = p₂ :=
  ⟨⟨resolve_sound standard_infixProper hc, fun ⟨_, hp, hg⟩ => hg.resolves standard_infixProper hp⟩,
    fun _ _ _ _ h₁ h₂ => h₁.unique standard_infixProper h₂⟩

/-- `a - b = c , d` is a chain, which resolves under the bound 1200 to
`','('='('-'(a, b), c), d)`. -/
theorem standard_resolve_sample_chain :
    let items := [Item.operand (.atom "a") ⟨0, 1⟩, .name "-" ⟨2, 3⟩,
      .operand (.atom "b") ⟨4, 5⟩, .name "=" ⟨6, 7⟩, .operand (.atom "c") ⟨8, 9⟩,
      .comma ⟨9, 10⟩, .operand (.atom "d") ⟨11, 12⟩]
    let t := Term.compound "," [.compound "=" [.compound "-" [.atom "a", .atom "b"], .atom "c"],
      .atom "d"]
    InfixChain OperatorTable.standard items ∧
      ((resolve OperatorTable.standard items 1200 ⟨0, 12⟩ = .ok t ↔
        ∃ p ≤ 1200, Grouping OperatorTable.standard items t p) ∧
      ∀ t₁ t₂ p₁ p₂, Grouping OperatorTable.standard items t₁ p₁ →
        Grouping OperatorTable.standard items t₂ p₂ → t₁ = t₂ ∧ p₁ = p₂) := by
  intro items t
  have hc : InfixChain OperatorTable.standard items :=
    .cons _ _ (show (OperatorTable.standard.infixOp "-").isSome = true by decide +kernel)
      (.cons _ _ (show (OperatorTable.standard.infixOp "=").isSome = true by decide +kernel)
        (.cons _ _ trivial (.operand _ _)))
  exact ⟨hc, standard_resolve_chain_iff_grouping hc 1200 ⟨0, 12⟩ t⟩

end UnifyMachine.Syntax
