import UnifyMachine.Proofs.Machine.Invariant
import UnifyMachine.Proofs.Term.Trees

/-!
# What a heap says about trees

A heap constrains the trees its addresses stand for: a bound reference stands for what it points
at, and a structure pointer for its functor over the trees of the argument cells. An assignment
of trees to all addresses that meets these constraints is a model of the heap; unbound variables
are free in it. Addresses beyond the top are constrained by nothing, so a model may already fix
the trees of cells still to be written.

On a well-formed heap, `Heap.tree` reads the tree at an address, with the unbound variables
reached as leaves. It is a model, every tree assignment to the leaves turns it into one, and on
a complete heap every model arises so. Each heap operation changes the models in a way stated
exactly here, and the unifier, when it unifies, leaves exactly the models of the old heap that
equate each pair on its stack; when it clashes, the old heap has no such model.
-/

namespace UnifyMachine.Machine

namespace Heap

variable {V : Type} {h : Heap} {M : Nat → Tree V}

/-- `M` assigns every address a tree the cells allow. -/
structure Model (h : Heap) (M : Nat → Tree V) : Prop where
  link : ∀ {a r}, h.cells[a]? = some (.ref r) → r ≠ a → M a = M r
  struct : ∀ {a fa f}, h.cells[a]? = some (.str fa) → h.cells[fa]? = some (.functor f) →
    M a = Tree.node f fun i => M (fa + 1 + i)

/-- `M` makes the two addresses of every pair on `stack` equal. -/
def Solves (M : Nat → Tree V) (stack : List (Nat × Nat)) : Prop :=
  ∀ p ∈ stack, M p.1 = M p.2

theorem Model.derefsTo (hM : h.Model M) {a d : Nat} (hd : h.DerefsTo a d) : M a = M d := by
  induction hd with
  | unbound _ => rfl
  | struct _ => rfl
  | link hc hne _ ih => exact (hM.link hc hne).trans ih

theorem Model.valueAt_struct (hM : h.Model M) {d first : Nat} {f : Functor}
    (hv : h.ValueAt d (.struct f first)) : M d = Tree.node f fun i => M (first + i) := by
  obtain ⟨fa, hc, hf, rfl⟩ := hv
  exact hM.struct hc hf

/-! ## Models under the heap operations -/

/-- `h'` keeps every cell of `h` and may have more. -/
def Prefix (h h' : Heap) : Prop :=
  h.top ≤ h'.top ∧ ∀ b < h.top, h'.cells[b]? = h.cells[b]?

theorem Prefix.refl (h : Heap) : h.Prefix h := ⟨Nat.le_refl _, fun _ _ => rfl⟩

theorem Prefix.trans {h₁ h₂ h₃ : Heap} (h₁₂ : h₁.Prefix h₂) (h₂₃ : h₂.Prefix h₃) :
    h₁.Prefix h₃ :=
  ⟨Nat.le_trans h₁₂.1 h₂₃.1, fun b hb => (h₂₃.2 b (Nat.lt_of_lt_of_le hb h₁₂.1)).trans (h₁₂.2 b hb)⟩

theorem prefix_grow (h : Heap) (c : Cell) : h.Prefix (h.grow c) :=
  ⟨by simp, fun _ hb => grow_cells_of_lt c hb⟩

theorem Model.of_prefix {h' : Heap} (hp : h.Prefix h') (hM : h'.Model M) :
    h.Model M := by
  have hlt : ∀ {b c}, h.cells[b]? = some c → b < h.top := fun hc =>
    (Array.getElem?_eq_some_iff.1 hc).1
  refine ⟨fun hc hne => hM.link (by rw [hp.2 _ (hlt hc)]; exact hc) hne, fun hc hf => ?_⟩
  exact hM.struct (by rw [hp.2 _ (hlt hc)]; exact hc) (by rw [hp.2 _ (hlt hf)]; exact hf)

theorem Model.of_agree (hw : h.WellFormed) (hc : h.Complete none) (hM : h.Model M)
    {M' : Nat → Tree V} (hag : ∀ a < h.top, M' a = M a) : h.Model M' := by
  have hlt : ∀ {b c}, h.cells[b]? = some c → b < h.top := fun hb =>
    (Array.getElem?_eq_some_iff.1 hb).1
  refine ⟨fun {a r} hcell hne => ?_, fun {a fa f} hcell hf => ?_⟩
  · have hr : r < h.top := by
      obtain ⟨⟨c, hrc, -⟩, -⟩ := hw.cell_ok hcell
      exact hlt hrc
    rw [hag a (hlt hcell), hag r hr]
    exact hM.link hcell hne
  · rw [hag a (hlt hcell), hM.struct hcell hf, Tree.node_eq_node]
    refine ⟨rfl, fun i hi => ?_⟩
    -- the arguments of a complete structure are cells of the heap
    obtain ⟨c, hac, -⟩ := hc fa f hf (by simp) i hi
    rw [hag _ (hlt hac)]

theorem model_grow_unbound : (h.grow (.ref h.top)).Model M ↔ h.Model M := by
  constructor
  · intro hM
    refine ⟨fun hc hne => hM.link (grow_cells_of_some _ hc) hne, fun hc hf => ?_⟩
    exact hM.struct (grow_cells_of_some _ hc) (grow_cells_of_some _ hf)
  · intro hM
    refine ⟨fun {a r} hc hne => ?_, fun {a fa f} hc hf => ?_⟩
    · rw [grow_cells] at hc
      split at hc
      · cases hc
        subst a
        exact absurd rfl hne
      · exact hM.link hc hne
    · rw [grow_cells] at hc hf
      split at hc
      · cases hc
      · split at hf
        · cases hf
        · exact hM.struct hc hf

/-- A copy of the term cell at `a` on top constrains the top to stand for what `a` does. -/
theorem model_grow_copy (hw : h.WellFormed) {a : Nat} {c : Cell} (ha : h.cells[a]? = some c)
    (hterm : c.IsTerm) : (h.grow c).Model M ↔ h.Model M ∧ M h.top = M a := by
  have hlt : a < h.top := (show h.TermAt a from ⟨c, ha, hterm⟩).lt_top
  -- a functor lookup below the top is the same in both heaps; the copy is no functor
  have hfun : ∀ {fa : Nat} {f : Functor}, (h.grow c).cells[fa]? = some (.functor f) ↔
      h.cells[fa]? = some (.functor f) := by
    intro fa f
    rw [grow_cells]
    split
    · subst fa
      constructor
      · intro hc
        cases hc
        exact hterm.elim
      · intro hc
        simp [top] at hc
    · rfl
  constructor
  · intro hM
    have hM' : h.Model M :=
      ⟨fun hc hne => hM.link (grow_cells_of_some _ hc) hne,
        fun hc hf => hM.struct (grow_cells_of_some _ hc) (hfun.2 hf)⟩
    refine ⟨hM', ?_⟩
    have htop := grow_cells_top h c
    cases c with
    | ref r =>
        -- the copied reference points below the top, so the top is bound to its target
        have htr := hM.link htop (Nat.ne_of_lt (hw.cell_ok ha).1.lt_top)
        by_cases hra : r = a
        · rw [htr, hra]
        · rw [htr, hM'.link ha hra]
    | str fa =>
        obtain ⟨f, hf⟩ := hw.cell_ok ha
        rw [hM.struct htop (hfun.2 hf), hM'.struct ha hf]
    | functor f => exact hterm.elim
  · rintro ⟨hM, htop⟩
    refine ⟨fun {b r} hc hne => ?_, fun {b fa f} hc hf => ?_⟩
    · rw [grow_cells] at hc
      split at hc
      · cases hc
        subst b
        rw [htop]
        by_cases hr : r = a
        · rw [hr]
        · exact hM.link ha hr
      · exact hM.link hc hne
    · rw [grow_cells] at hc
      split at hc
      · cases hc
        subst b
        rw [htop, hM.struct ha (hfun.1 hf)]
      · exact hM.struct hc (hfun.1 hf)

/-- A new structure pointer with its functor cell constrains the pointer to stand for the
functor over the cells written after them. -/
theorem model_newStructure (hw : h.WellFormed) (f : Functor) :
    ((h.grow (.str (h.top + 1))).grow (.functor f)).Model M ↔
      h.Model M ∧ M h.top = Tree.node f fun i => M (h.top + 2 + i) := by
  have hcells : ∀ b, ((h.grow (.str (h.top + 1))).grow (.functor f)).cells[b]? =
      if b = h.top + 1 then some (.functor f) else if b = h.top then some (.str (h.top + 1))
        else h.cells[b]? := by
    intro b
    rw [grow_cells, grow_cells, grow_top]
  have hargs : (fun i => M (h.top + 1 + 1 + i)) = fun i => M (h.top + 2 + i) := by
    funext i
    congr 1
  -- below the top, a functor lookup is the old one: old pointers lead to old functor cells
  have hold : ∀ {b fa : Nat} {g : Functor}, h.cells[b]? = some (.str fa) →
      (((h.grow (.str (h.top + 1))).grow (.functor f)).cells[fa]? = some (.functor g) ↔
        h.cells[fa]? = some (.functor g)) := by
    intro b fa g hb
    obtain ⟨g', hg'⟩ := hw.cell_ok hb
    have hfa : fa < h.top := (Array.getElem?_eq_some_iff.1 hg').1
    rw [hcells, if_neg (by omega), if_neg (by omega)]
  constructor
  · intro hM
    refine ⟨⟨fun {a r} hc hne => ?_, fun {a fa g} hc hg => ?_⟩, ?_⟩
    · have ha : a < h.top := (Array.getElem?_eq_some_iff.1 hc).1
      exact hM.link (by rw [hcells, if_neg (by omega), if_neg (by omega)]; exact hc) hne
    · have ha : a < h.top := (Array.getElem?_eq_some_iff.1 hc).1
      exact hM.struct (by rw [hcells, if_neg (by omega), if_neg (by omega)]; exact hc)
        ((hold hc).2 hg)
    · rw [hM.struct (by rw [hcells, if_neg (by omega), if_pos rfl]) (by rw [hcells, if_pos rfl]),
        hargs]
  · rintro ⟨hM, htop⟩
    refine ⟨fun {a r} hc hne => ?_, fun {a fa g} hc hg => ?_⟩
    · rw [hcells] at hc
      split at hc
      · cases hc
      · split at hc
        · cases hc
        · exact hM.link hc hne
    · rw [hcells] at hc
      split at hc
      · cases hc
      · split at hc
        · cases hc
          rename_i ha
          subst ha
          rw [hcells, if_pos rfl] at hg
          cases hg
          rw [htop, hargs]
        · exact hM.struct hc ((hold hc).1 hg)

/-- Binding an unbound variable `v` to `w` keeps exactly the models that give both the same
tree. -/
theorem Redirect.model_iff {h' : Heap} {v w : Nat} (hr : h.Redirect h' v w)
    (hv : h.cells[v]? = some (.ref v)) (hwv : w ≠ v) :
    h'.Model M ↔ h.Model M ∧ M v = M w := by
  -- a functor lookup is the same in both heaps, since `v` holds a reference in both
  have hfun : ∀ {fa : Nat} {g : Functor}, h'.cells[fa]? = some (.functor g) ↔
      h.cells[fa]? = some (.functor g) := by
    intro fa g
    rw [hr.2.2 fa]
    split
    · rename_i hfa
      subst hfa
      rw [hv]
      simp
    · rfl
  constructor
  · intro hM
    refine ⟨⟨fun {a r} hc hne => ?_, fun {a fa g} hc hg => ?_⟩, ?_⟩
    · have ha : a ≠ v := by
        rintro rfl
        rw [hv] at hc
        cases hc
        exact hne rfl
      exact hM.link (by rw [hr.2.2 a, if_neg ha]; exact hc) hne
    · have ha : a ≠ v := by
        rintro rfl
        rw [hv] at hc
        cases hc
      exact hM.struct (by rw [hr.2.2 a, if_neg ha]; exact hc) (hfun.2 hg)
    · exact hM.link (by rw [hr.2.2 v, if_pos rfl]) hwv
  · rintro ⟨hM, hvw⟩
    refine ⟨fun {a r} hc hne => ?_, fun {a fa g} hc hg => ?_⟩
    · rw [hr.2.2 a] at hc
      split at hc
      · cases hc
        rename_i ha
        rw [ha]
        exact hvw
      · exact hM.link hc hne
    · rw [hr.2.2 a] at hc
      split at hc
      · cases hc
      · exact hM.struct hc (hfun.1 hg)

/-! ## The tree at an address -/

/-- The tree at address `a`, read through the cells; the unbound variables it reaches are its
leaves, named by their addresses. -/
def tree (h : Heap) : Nat → Tree Nat
  | a, [] =>
    match h.getValue a with
    | .ok (d, .unbound _) => some (.var d)
    | .ok (_, .struct f _) => some (.fn f)
    | .error _ => none
  | a, i :: path =>
    match h.getValue a with
    | .ok (_, .struct f first) => if i < f.arity then h.tree (first + i) path else none
    | _ => none

theorem tree_of_unbound {a d u : Nat} (hg : h.getValue a = .ok (d, .unbound u)) :
    h.tree a = Tree.leaf d := by
  ext path
  cases path <;> simp [tree, hg, Tree.leaf]

theorem tree_of_self {a : Nat} (hc : h.cells[a]? = some (.ref a)) : h.tree a = Tree.leaf a :=
  tree_of_unbound (u := a) (by simp [getValue, deref, derefWithin, load_ok hc]; rfl)

theorem tree_of_struct {a d first : Nat} {f : Functor}
    (hg : h.getValue a = .ok (d, .struct f first)) :
    h.tree a = Tree.node f fun i => h.tree (first + i) := by
  ext path
  cases path <;> simp [tree, hg, Tree.node]

theorem tree_congr {a b : Nat} (hg : h.getValue a = h.getValue b) : h.tree a = h.tree b := by
  ext path
  cases path <;> simp [tree, hg]

theorem getValue_link (hw : h.WellFormed) {a r : Nat} (hc : h.cells[a]? = some (.ref r))
    (hne : r ≠ a) : h.getValue a = h.getValue r := by
  obtain ⟨d, hd, hto⟩ := deref_ok hw (termAt_of_ref hc)
  obtain ⟨d', hd', hto'⟩ := deref_ok hw (hw.cell_ok hc).1
  have hdd : d = d' := hto.unique (.link hc hne hto')
  unfold getValue
  rw [hd, hd', hdd]

theorem tree_model (hw : h.WellFormed) : h.Model h.tree :=
  ⟨fun hc hne => tree_congr (getValue_link hw hc hne),
    fun hc hf => tree_of_struct (getValue_of_str hc hf)⟩

theorem subst_tree_model (hw : h.WellFormed) (τ : Nat → Tree V) :
    h.Model fun a => (h.tree a).subst τ := by
  have ht := tree_model hw
  refine ⟨fun hc hne => by rw [ht.link hc hne], fun hc hf => ?_⟩
  simp only [ht.struct hc hf, Tree.subst_node]

/-- On a complete heap, every model is the tree read at each term cell, with each leaf given
the model's tree for it. The induction is on the path; a structure's arguments are term cells. -/
theorem Model.eq_subst_tree (hw : h.WellFormed) (hc : h.Complete none) (hM : h.Model M)
    {a : Nat} (ha : h.TermAt a) : M a = (h.tree a).subst M := by
  ext path
  induction path generalizing a with
  | nil =>
      obtain ⟨d, v, hg, hto, hv⟩ := getValue_ok hw ha
      rw [hM.derefsTo hto]
      cases v with
      | unbound u =>
          rw [tree_of_unbound hg, Tree.subst_leaf]
      | struct f first =>
          rw [tree_of_struct hg, Tree.subst_node, hM.valueAt_struct hv]
          rfl
  | cons i path ih =>
      obtain ⟨d, v, hg, hto, hv⟩ := getValue_ok hw ha
      rw [hM.derefsTo hto]
      cases v with
      | unbound u =>
          rw [tree_of_unbound hg, Tree.subst_leaf]
      | struct f first =>
          rw [tree_of_struct hg, Tree.subst_node, hM.valueAt_struct hv]
          simp only [Tree.node]
          split
          · exact ih (hv.argsAt hc i (by assumption))
          · rfl

/-! ## Unification -/

/-- What unifying the pairs of `stack` from `h` achieves: when it unifies, the models of the
heap it leaves are exactly those of `h` that equate every pair; when it clashes, no model of `h`
equates every pair. -/
def Unifies (V : Type) (h : Heap) (stack : List (Nat × Nat)) : Heap × Unification → Prop
  | (h', .unified) => ∀ M : Nat → Tree V, h'.Model M ↔ h.Model M ∧ Solves M stack
  | (_, .clash) => ∀ M : Nat → Tree V, h.Model M → ¬ Solves M stack
  | (_, .fault _) => True
  | (_, .unfinished) => True

theorem solves_cons {a₁ a₂ : Nat} {rest : List (Nat × Nat)} :
    Solves M ((a₁, a₂) :: rest) ↔ M a₁ = M a₂ ∧ Solves M rest := by
  simp [Solves]

theorem solves_append {pre rest : List (Nat × Nat)} :
    Solves M (pre ++ rest) ↔ Solves M pre ∧ Solves M rest := by
  simp only [Solves, List.mem_append]
  constructor
  · intro hs
    exact ⟨fun p hp => hs p (.inl hp), fun p hp => hs p (.inr hp)⟩
  · rintro ⟨hp, hr⟩ p (hq | hq)
    · exact hp p hq
    · exact hr p hq

theorem Unifies.cons_of_pairs {a₁ a₂ : Nat} (pre : List (Nat × Nat)) {rest : List (Nat × Nat)}
    {r : Heap × Unification}
    (hiff : ∀ M : Nat → Tree V, h.Model M → (M a₁ = M a₂ ↔ Solves M pre))
    (hr : Unifies V h (pre ++ rest) r) : Unifies V h ((a₁, a₂) :: rest) r := by
  obtain ⟨h', _ | _ | _ | _⟩ := r
  · intro M
    rw [hr M, solves_append, solves_cons]
    constructor
    · rintro ⟨hM, hpre, hrest⟩
      exact ⟨hM, (hiff M hM).2 hpre, hrest⟩
    · rintro ⟨hM, heq, hrest⟩
      exact ⟨hM, (hiff M hM).1 heq, hrest⟩
  · intro M hM hs
    rw [solves_cons] at hs
    exact hr M hM (solves_append.2 ⟨(hiff M hM).1 hs.1, hs.2⟩)
  · trivial
  · trivial

theorem Unifies.cons_of_forced {a₁ a₂ : Nat} {rest : List (Nat × Nat)} {r : Heap × Unification}
    (hforced : ∀ M : Nat → Tree V, h.Model M → M a₁ = M a₂) (hr : Unifies V h rest r) :
    Unifies V h ((a₁, a₂) :: rest) r :=
  .cons_of_pairs [] (fun M hM => ⟨fun _ p hp => (by cases hp), fun _ => hforced M hM⟩) hr

theorem Unifies.cons_of_step {h' : Heap} {a₁ a₂ : Nat} {rest : List (Nat × Nat)}
    {r : Heap × Unification}
    (hstep : ∀ M : Nat → Tree V, h'.Model M ↔ h.Model M ∧ M a₁ = M a₂)
    (hr : Unifies V h' rest r) : Unifies V h ((a₁, a₂) :: rest) r := by
  obtain ⟨h'', _ | _ | _ | _⟩ := r
  · intro M
    rw [hr M, hstep M, solves_cons, and_assoc]
  · intro M hM hs
    rw [solves_cons] at hs
    exact hr M ((hstep M).2 ⟨hM, hs.1⟩) hs.2
  · trivial
  · trivial

/-- The unifier, on a well-formed and complete heap, does what `Unifies` says. The induction is
on the budget, over the cases of `unifyPairs_step`. -/
theorem unifyPairs_unifies (budget : Nat) {stack : List (Nat × Nat)} (hw : h.WellFormed)
    (hc : h.Complete none) (hs : h.PairsAt stack) :
    Unifies V h stack (h.unifyPairs budget stack) := by
  induction budget generalizing h stack with
  | zero =>
      cases stack with
      | nil => exact fun M => by simp [Solves]
      | cons p rest => trivial
  | succ budget ih =>
      cases stack with
      | nil => exact fun M => by simp [Solves]
      | cons p rest =>
          obtain ⟨a₁, a₂⟩ := p
          have hhead := hs (a₁, a₂) List.mem_cons_self
          obtain ⟨d₁, d₂, hto₁, hto₂, hcase⟩ := unifyPairs_step hw hhead.1 hhead.2 budget rest
          -- every model equates the pair exactly when it equates the two end points
          have hends : ∀ M : Nat → Tree V, h.Model M → (M a₁ = M a₂ ↔ M d₁ = M d₂) := by
            intro M hM
            rw [hM.derefsTo hto₁, hM.derefsTo hto₂]
          rcases hcase with ⟨hsame, heq⟩ | ⟨f, t₁, t₂, hv₁, hv₂, -, -, heq⟩ |
              ⟨f₁, t₁, f₂, t₂, hv₁, hv₂, hf, heq⟩ | ⟨h', v, w, hr, hvv, hvw, hwv, hdown, heq⟩
          · -- one term, or two structures sharing their arguments: every model equates them
            rw [heq]
            refine .cons_of_forced (fun M hM => (hends M hM).2 ?_) (ih hw hc hs.tail)
            rcases hsame with rfl | ⟨f, t, hv₁, hv₂⟩
            · rfl
            · rw [hM.valueAt_struct hv₁, hM.valueAt_struct hv₂]
          · -- one functor: the argument pairs replace the pair
            rw [heq]
            refine .cons_of_pairs _ (fun M hM => ?_) (ih hw hc (.decompose hc hv₁ hv₂ hs.tail))
            rw [hends M hM, hM.valueAt_struct hv₁, hM.valueAt_struct hv₂, Tree.node_eq_node]
            simp [Solves, argumentPairs]
          · -- two functors: no model equates the pair
            rw [heq]
            intro M hM hsol
            have hnode := (hends M hM).1 (solves_cons.1 hsol).1
            rw [hM.valueAt_struct hv₁, hM.valueAt_struct hv₂, Tree.node_eq_node] at hnode
            exact hf hnode.1
          · -- a binding keeps exactly the models that equate the two end points
            obtain ⟨hw', hc', hb⟩ :=
              hr.keeps hw hc hvv (Redirect.termAt_target hto₁.termAt hto₂.termAt hvw) hdown
            rw [heq]
            refine .cons_of_step (fun M => ?_) (ih hw' hc' (hs.tail.rebind hb.rebinds))
            rw [hr.model_iff hvv hwv]
            refine and_congr_right fun hM => ?_
            rw [hends M hM]
            rcases hvw with ⟨rfl, rfl⟩ | ⟨rfl, rfl⟩
            · rfl
            · exact eq_comm

end Heap

end UnifyMachine.Machine
