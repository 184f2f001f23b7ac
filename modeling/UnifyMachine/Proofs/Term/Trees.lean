import UnifyMachine.Machine.Cell
import UnifyMachine.Term.Basic

/-!
# Terms as trees

A term denotes a tree with a functor at each inner node, as many children as the functor's
arity, and variables at leaves; atoms and numbers are functors of arity zero named by their
text, like structures without arguments. A heap shares structures and binds variables without
an occurs check, so the terms it holds may be cyclic: their trees are infinite, and a tree is
therefore given by the node it has at each path of argument indices. Two terms unify when some
assignment of trees to their variables makes their trees equal.
-/

namespace UnifyMachine

open Machine

/-- What a tree has at a position: a functor, or a variable. -/
inductive Node (V : Type) where
  | fn (f : Functor)
  | var (v : V)

/-- A possibly infinite tree: the node at each path of argument indices, `none` off the tree. -/
def Tree (V : Type) : Type := List Nat → Option (Node V)

namespace Tree

variable {V W : Type}

/-- The tree with no node. -/
def empty : Tree V := fun _ => none

/-- The subtree at argument `i`. -/
def child (t : Tree V) (i : Nat) : Tree V := fun path => t (i :: path)

/-- The tree with `f` at its root and `children i` as argument `i`, for `i` below the arity. -/
def node (f : Functor) (children : Nat → Tree V) : Tree V
  | [] => some (.fn f)
  | i :: path => if i < f.arity then children i path else none

/-- The tree that is the variable `v`. -/
def leaf (v : V) : Tree V
  | [] => some (.var v)
  | _ :: _ => none

/-- The tree with each variable `v` replaced by `τ v`. -/
def subst (τ : V → Tree W) : Tree V → Tree W
  | t, [] =>
    match t [] with
    | some (.fn f) => some (.fn f)
    | some (.var v) => τ v []
    | none => none
  | t, i :: path =>
    match t [] with
    | some (.fn _) => subst τ (t.child i) path
    | some (.var v) => τ v (i :: path)
    | none => none

@[ext] theorem ext {t u : Tree V} (h : ∀ path, t path = u path) : t = u := funext h

@[simp] theorem node_nil (f : Functor) (children : Nat → Tree V) :
    node f children [] = some (.fn f) := rfl

@[simp] theorem leaf_nil (v : V) : leaf v [] = some (.var v) := rfl

theorem child_node (f : Functor) (children : Nat → Tree V) {i : Nat} (hi : i < f.arity) :
    (node f children).child i = children i := by
  ext path
  simp [child, node, hi]

/-- Two nodes are equal exactly when their functors are and their children below the arity. -/
theorem node_eq_node {f g : Functor} {ts us : Nat → Tree V} :
    node f ts = node g us ↔ f = g ∧ ∀ i < f.arity, ts i = us i := by
  constructor
  · intro h
    have hroot : f = g := by
      have := congrFun h []
      simp only [node_nil, Option.some.injEq, Node.fn.injEq] at this
      exact this
    subst hroot
    refine ⟨rfl, fun i hi => ?_⟩
    rw [← child_node f ts hi, ← child_node f us hi, h]
  · rintro ⟨rfl, hts⟩
    ext path
    cases path with
    | nil => rfl
    | cons i path =>
        simp only [node]
        split
        · rw [hts i (by assumption)]
        · rfl

theorem node_ne_leaf (f : Functor) (ts : Nat → Tree V) (v : V) : node f ts ≠ leaf v := by
  intro h
  have := congrFun h []
  simp at this

@[simp] theorem subst_empty (τ : V → Tree W) : subst τ (empty : Tree V) = empty := by
  funext path
  cases path <;> rfl

@[simp] theorem subst_leaf (τ : V → Tree W) (v : V) : subst τ (leaf v) = τ v := by
  funext path
  cases path <;> rfl

@[simp] theorem subst_node (τ : V → Tree W) (f : Functor) (ts : Nat → Tree V) :
    subst τ (node f ts) = node f fun i => subst τ (ts i) := by
  funext path
  cases path with
  | nil => rfl
  | cons i path =>
      show subst τ ((node f ts).child i) path = node f (fun i => subst τ (ts i)) (i :: path)
      by_cases hi : i < f.arity
      · rw [child_node f ts hi]
        simp [node, hi]
      · have hchild : (node f ts).child i = empty := by
          ext p
          simp [child, node, hi, empty]
        rw [hchild, subst_empty]
        simp [node, hi, empty]

end Tree

namespace Term

variable {V W : Type}

mutual
/-- The tree of a term, its variables read in `σ`. -/
def tree (σ : String → Tree V) : Term → Tree V
  | .atom name => Tree.node ⟨name, 0⟩ fun _ => Tree.empty
  | .number d => Tree.node ⟨d.render, 0⟩ fun _ => Tree.empty
  | .var name => σ name
  | .compound name args => Tree.node ⟨name, args.length⟩ (argTree σ args)

/-- The tree of argument `i` of a list of terms; none past the last. -/
def argTree (σ : String → Tree V) : List Term → Nat → Tree V
  | [], _ => Tree.empty
  | t :: _, 0 => t.tree σ
  | _ :: ts, i + 1 => argTree σ ts i
end

theorem argTree_eq (σ : String → Tree V) :
    ∀ (args : List Term) (i : Nat), argTree σ args i = ((args[i]?).map (tree σ)).getD Tree.empty
  | [], _ => by simp [argTree]
  | _ :: _, 0 => by simp [argTree]
  | _ :: ts, i + 1 => by simp [argTree, argTree_eq σ ts i]

mutual
theorem subst_tree (σ : String → Tree V) (τ : V → Tree W) :
    ∀ t : Term, Tree.subst τ (t.tree σ) = t.tree fun x => Tree.subst τ (σ x)
  | .atom name => by simp only [tree, Tree.subst_node, Tree.subst_empty]
  | .number d => by simp only [tree, Tree.subst_node, Tree.subst_empty]
  | .var name => rfl
  | .compound name args => by
      simp only [tree, Tree.subst_node]
      congr 1
      funext i
      exact subst_argTree σ τ args i

theorem subst_argTree (σ : String → Tree V) (τ : V → Tree W) :
    ∀ (args : List Term) (i : Nat),
      Tree.subst τ (argTree σ args i) = argTree (fun x => Tree.subst τ (σ x)) args i
  | [], _ => Tree.subst_empty τ
  | t :: _, 0 => subst_tree σ τ t
  | _ :: ts, i + 1 => subst_argTree σ τ ts i
end

/-! ## The variables a tree reads -/

mutual
theorem subset_gatherVars (seen : List String) :
    ∀ t : Term, seen ⊆ gatherVars seen t
  | .var name => by
      unfold gatherVars
      split
      · exact List.Subset.refl _
      · exact List.subset_append_left _ _
  | .compound _ args => subset_gatherVarsList seen args
  | .atom _ => List.Subset.refl _
  | .number _ => List.Subset.refl _

theorem subset_gatherVarsList (seen : List String) :
    ∀ ts : List Term, seen ⊆ gatherVarsList seen ts
  | [] => List.Subset.refl _
  | t :: ts => List.Subset.trans (subset_gatherVars seen t) (subset_gatherVarsList _ ts)
end

mutual
theorem tree_congr_of_gather {σ σ' : String → Tree V} (seen : List String) :
    ∀ t : Term, (∀ x ∈ gatherVars seen t, σ x = σ' x) → t.tree σ = t.tree σ'
  | .var name, h => by
      apply h
      unfold gatherVars
      split
      · simpa using (by assumption : seen.contains name = true)
      · exact List.mem_append_right _ (List.mem_singleton_self _)
  | .compound name args, h => by
      simp only [tree]
      congr 1
      funext i
      exact argTree_congr_of_gather seen args h i
  | .atom _, _ => rfl
  | .number _, _ => rfl

theorem argTree_congr_of_gather {σ σ' : String → Tree V} (seen : List String) :
    ∀ ts : List Term, (∀ x ∈ gatherVarsList seen ts, σ x = σ' x) →
      ∀ i, argTree σ ts i = argTree σ' ts i
  | [], _, _ => rfl
  | t :: ts, h, 0 =>
      tree_congr_of_gather seen t fun x hx =>
        h x (subset_gatherVarsList (gatherVars seen t) ts hx)
  | t :: ts, h, i + 1 => argTree_congr_of_gather (gatherVars seen t) ts h i
end

mutual
theorem mem_gatherVars {x : String} (seen : List String) :
    ∀ t : Term, x ∈ gatherVars seen t ↔ x ∈ seen ∨ x ∈ t.variableNames
  | .var name => by
      simp only [variableNames, gatherVars, List.contains_nil, Bool.false_eq_true, if_false,
        List.nil_append, List.mem_singleton]
      split
      · rename_i h
        constructor
        · exact .inl
        · rintro (hx | rfl)
          · exact hx
          · simpa using h
      · simp
  | .compound _ args => by
      simp only [variableNames, gatherVars]
      rw [mem_gatherVarsList seen args, mem_gatherVarsList [] args]
      simp
  | .atom _ => by simp [variableNames, gatherVars]
  | .number _ => by simp [variableNames, gatherVars]

theorem mem_gatherVarsList {x : String} (seen : List String) :
    ∀ ts : List Term, x ∈ gatherVarsList seen ts ↔ x ∈ seen ∨ ∃ t ∈ ts, x ∈ t.variableNames
  | [] => by simp [gatherVarsList]
  | t :: ts => by
      simp only [gatherVarsList]
      rw [mem_gatherVarsList _ ts, mem_gatherVars seen t]
      simp [or_assoc]
end

theorem mem_variableNames_compound {x name : String} {args : List Term} :
    x ∈ (Term.compound name args).variableNames ↔ ∃ t ∈ args, x ∈ t.variableNames := by
  show x ∈ gatherVarsList [] args ↔ _
  rw [mem_gatherVarsList]
  simp

/-- The tree of a term depends only on the trees of its variables. -/
theorem tree_congr {σ σ' : String → Tree V} (t : Term)
    (h : ∀ x ∈ t.variableNames, σ x = σ' x) : t.tree σ = t.tree σ' :=
  tree_congr_of_gather [] t h

end Term

end UnifyMachine
