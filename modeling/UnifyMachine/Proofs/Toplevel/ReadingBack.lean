import Mathlib.Data.List.Nodup
import Mathlib.Data.List.Perm.Subperm
import UnifyMachine.Proofs.Compile.QueryMeaning
import UnifyMachine.Proofs.Toplevel.UnitRun
import UnifyMachine.Proofs.Toplevel.Reification

/-!
# Reading a built query back

The code of a compound query builds, at `X0`, the query's own tree: each variable name an
unbound cell of its own, each atom, number and compound term without arguments a structure of
arity zero. Reading `X0` back as an answer does gives the query again, with each number and
each compound term without arguments as the atom of its text: the heap keeps only a functor
of arity zero for them.

Reading back is fuelled and keeps the identities of the structures it lies inside, to cut the
cycles a heap without an occurs check can hold. On a built query neither ever bites: the tree
at `X0` is finite, so no structure lies inside itself, and the structures a read lies inside are
distinct functor cells of the heap, fewer than the fuel it starts with.
-/

namespace UnifyMachine

open Machine

namespace Term

mutual
/-- The height of a term's tree: the length of its longest path of argument indices. -/
def height : Term → Nat
  | .compound _ args => heightList args
  | _ => 0

/-- One more than the greatest height of the terms; `0` for none. -/
def heightList : List Term → Nat
  | [] => 0
  | t :: ts => max (t.height + 1) (heightList ts)
end

mutual
/-- A term as reading it back from a heap gives it: a number, or a compound term without
arguments, comes back as the atom of its text. -/
def readBack : Term → Term
  | .number d => .atom d.render
  | .compound name [] => .atom name
  | .compound name args => .compound name (readBackList args)
  | t => t

/-- The terms, each read back. -/
def readBackList : List Term → List Term
  | [] => []
  | t :: ts => readBack t :: readBackList ts
end

theorem height_lt_heightList {u : Term} :
    ∀ {args : List Term}, u ∈ args → u.height < heightList args
  | t :: ts, hu => by
      rcases List.mem_cons.1 hu with rfl | hu
      · exact Nat.lt_of_lt_of_le (Nat.lt_succ_self _) (Nat.le_max_left _ _)
      · exact Nat.lt_of_lt_of_le (height_lt_heightList hu) (Nat.le_max_right _ _)

/-! ## The depth of a term's tree -/

section Depth

variable {V : Type} (ρ : String → V)

mutual
theorem length_le_height :
    ∀ (t : Term) (path : List Nat), t.tree (fun x => Tree.leaf (ρ x)) path ≠ none →
      path.length ≤ t.height
  | _, [], _ => Nat.zero_le _
  | .atom _, _ :: _, h => absurd rfl h
  | .number _, _ :: _, h => absurd rfl h
  | .var _, _ :: _, h => absurd rfl h
  | .compound _ args, i :: path, h => by
      simp only [tree, Tree.node] at h
      split at h
      · exact length_lt_heightList args i path h
      · exact absurd rfl h

theorem length_lt_heightList :
    ∀ (args : List Term) (i : Nat) (path : List Nat),
      argTree (fun x => Tree.leaf (ρ x)) args i path ≠ none →
        path.length + 1 ≤ heightList args
  | [], _, _, h => absurd rfl h
  | t :: _, 0, path, h =>
      Nat.le_trans (Nat.succ_le_succ (length_le_height t path h)) (Nat.le_max_left _ _)
  | _ :: ts, i + 1, path, h =>
      Nat.le_trans (length_lt_heightList ts i path h) (Nat.le_max_right _ _)
end

mutual
theorem exists_path_height :
    ∀ t : Term, ∃ path : List Nat, path.length = t.height ∧
      t.tree (fun x => Tree.leaf (ρ x)) path ≠ none
  | .atom _ => ⟨[], rfl, by simp [tree]⟩
  | .number _ => ⟨[], rfl, by simp [tree]⟩
  | .var _ => ⟨[], rfl, by simp [tree]⟩
  | .compound name args => by
      rcases exists_argPath_heightList args with h0 | ⟨i, path, hi, hlen, hne⟩
      · exact ⟨[], h0.symm, by simp [tree]⟩
      · refine ⟨i :: path, hlen, ?_⟩
        simpa [tree, Tree.node, hi] using hne

theorem exists_argPath_heightList :
    ∀ args : List Term, heightList args = 0 ∨ ∃ i path, i < args.length ∧
      path.length + 1 = heightList args ∧ argTree (fun x => Tree.leaf (ρ x)) args i path ≠ none
  | [] => .inl rfl
  | t :: ts => by
      obtain ⟨p, hp, hne⟩ := exists_path_height t
      rcases Nat.le_total (heightList ts) (t.height + 1) with hle | hle
      · exact .inr ⟨0, p, Nat.zero_lt_succ _, by simp [heightList, hp, hle], hne⟩
      · rcases exists_argPath_heightList ts with h0 | ⟨i, q, hi, hq, hne'⟩
        · omega
        · refine .inr ⟨i + 1, q, by simpa using hi, ?_, hne'⟩
          simp [heightList, Nat.max_eq_right hle, hq]
end

end Depth

mutual
theorem nodup_gatherVars {seen : List String} (hs : seen.Nodup) :
    ∀ t : Term, (gatherVars seen t).Nodup
  | .var name => by
      unfold gatherVars
      split
      · exact hs
      · rename_i hnew
        have hnew' : name ∉ seen := by simpa using hnew
        rw [List.nodup_append]
        refine ⟨hs, List.nodup_cons.2 ⟨List.not_mem_nil, List.nodup_nil⟩, ?_⟩
        intro a ha b hb
        rw [List.mem_singleton.1 hb]
        exact fun heq => hnew' (heq ▸ ha)
  | .compound _ args => nodup_gatherVarsList hs args
  | .atom _ => hs
  | .number _ => hs

theorem nodup_gatherVarsList {seen : List String} (hs : seen.Nodup) :
    ∀ ts : List Term, (gatherVarsList seen ts).Nodup
  | [] => hs
  | t :: ts => nodup_gatherVarsList (nodup_gatherVars hs t) ts
end

theorem nodup_variableNames (t : Term) : t.variableNames.Nodup :=
  nodup_gatherVars List.nodup_nil t

theorem readBack_compound {name : String} {args : List Term} (hargs : args ≠ []) :
    (Term.compound name args).readBack = .compound name (readBackList args) := by
  cases args with
  | nil => exact absurd rfl hargs
  | cons u us => rfl

end Term

namespace Machine.Heap

variable {h : Heap}

theorem getValue_of_tree_leaf (hw : h.WellFormed) {a x : Nat} (ha : h.TermAt a)
    (ht : h.tree a = Tree.leaf x) : h.getValue a = .ok (x, .unbound x) := by
  obtain ⟨d, v, hg, -, hv⟩ := getValue_ok hw ha
  cases v with
  | unbound r =>
      obtain ⟨rfl, -⟩ := hv
      have hroot := congrFun ((tree_of_unbound hg).symm.trans ht) []
      simp only [Tree.leaf_nil, Option.some.injEq, Node.var.injEq] at hroot
      rw [hg, hroot]
  | struct f first => exact absurd ((tree_of_struct hg).symm.trans ht) (Tree.node_ne_leaf _ _ _)

theorem getValue_of_tree_node (hw : h.WellFormed) {a : Nat} (ha : h.TermAt a) {g : Functor}
    {children : Nat → Tree Nat} (ht : h.tree a = Tree.node g children) :
    ∃ d fa, h.getValue a = .ok (d, .struct g (fa + 1)) ∧ h.cells[fa]? = some (.functor g) ∧
      ∀ i < g.arity, h.tree (fa + 1 + i) = children i := by
  obtain ⟨d, v, hg, -, hv⟩ := getValue_ok hw ha
  cases v with
  | unbound r => exact absurd (ht.symm.trans (tree_of_unbound hg)) (Tree.node_ne_leaf _ _ _)
  | struct f first =>
      obtain ⟨fa, -, hf, rfl⟩ := hv
      obtain ⟨rfl, hch⟩ := Tree.node_eq_node.1 ((tree_of_struct hg).symm.trans ht)
      exact ⟨d, fa, hg, hf, hch⟩

theorem deref_of_self {a : Nat} (hc : h.cells[a]? = some (.ref a)) : h.deref a = .ok a := by
  simp [deref, derefWithin, load_ok hc]

end Machine.Heap

namespace Toplevel

open Heap

/-! ## The structures a read lies inside -/

/-- What holds of the structures a read of a subterm no higher than `k` lies inside: their
identities are distinct, and each is the first argument address of a functor cell whose
structure's tree reaches deeper than `k`, so that the subterm is none of them. -/
structure Enclosing (h : Heap) (parents : List Identity) (k : Nat) : Prop where
  nodup : parents.Nodup
  struct : ∀ id ∈ parents, ∃ f fa, id = .struct (fa + 1) ∧
    h.cells[fa]? = some (.functor f) ∧
    ∃ path : List Nat, k < path.length ∧
      Tree.node f (fun i => h.tree (fa + 1 + i)) path ≠ none

namespace Enclosing

variable {h : Heap} {parents : List Identity} {k : Nat}

theorem nil (h : Heap) (k : Nat) : Enclosing h [] k :=
  ⟨List.nodup_nil, fun _ hid => absurd hid List.not_mem_nil⟩

theorem mono (he : Enclosing h parents k) {k' : Nat} (hk : k' ≤ k) : Enclosing h parents k' := by
  refine ⟨he.nodup, fun id hid => ?_⟩
  obtain ⟨f, fa, hid, hf, path, hp, hne⟩ := he.struct id hid
  exact ⟨f, fa, hid, hf, path, Nat.lt_of_le_of_lt hk hp, hne⟩

theorem cons (he : Enclosing h parents k) {f : Functor} {fa : Nat}
    (hf : h.cells[fa]? = some (.functor f)) (hnot : Identity.struct (fa + 1) ∉ parents)
    {path : List Nat} (hk : k < path.length)
    (hne : Tree.node f (fun i => h.tree (fa + 1 + i)) path ≠ none) :
    Enclosing h (.struct (fa + 1) :: parents) k := by
  refine ⟨List.nodup_cons.2 ⟨hnot, he.nodup⟩, fun id hid => ?_⟩
  rcases List.mem_cons.1 hid with rfl | hid
  · exact ⟨f, fa, rfl, hf, path, hk, hne⟩
  · exact he.struct id hid

theorem entered (he : Enclosing h parents k) : Entered h parents := by
  refine ⟨he.nodup, fun id hid => ?_⟩
  obtain ⟨f, fa, hid, hf, -⟩ := he.struct id hid
  exact ⟨fa, f, hid, hf⟩

theorem length_le (he : Enclosing h parents k) : parents.length ≤ h.top :=
  he.entered.length_le

theorem not_mem (he : Enclosing h parents k) {f : Functor} {fa : Nat}
    (hf : h.cells[fa]? = some (.functor f))
    (hdepth : ∀ path, Tree.node f (fun i => h.tree (fa + 1 + i)) path ≠ none →
      path.length ≤ k) :
    Identity.struct (fa + 1) ∉ parents := by
  intro hmem
  obtain ⟨f', fa', hid, hf', path, hk, hne⟩ := he.struct _ hmem
  obtain rfl : fa = fa' := by simpa using hid
  obtain rfl : f = f' := by simpa [hf] using hf'
  exact absurd (hdepth path hne) (Nat.not_le.2 hk)

end Enclosing

/-! ## Reading a term back -/

theorem mapM_range_succ {ε α : Type} {f : Nat → Except ε α} {n : Nat} {b : α} {bs : List α}
    (h0 : f 0 = .ok b) (hs : (List.range n).mapM (fun i => f (i + 1)) = .ok bs) :
    (List.range (n + 1)).mapM f = .ok (b :: bs) := by
  rw [List.range_succ_eq_map, List.mapM_cons, List.mapM_map, h0]
  simp only [Function.comp_def, hs]
  rfl

section Reify

variable {m : State} {names : Names} {cell : String → Nat}

theorem reify_constant (hw : m.heap.WellFormed) {x : String} {children : Nat → Tree Nat}
    {fuel a : Nat} {parents : List Identity} (ha : m.heap.TermAt a)
    (ht : m.heap.tree a = Tree.node ⟨x, 0⟩ children) (he : Enclosing m.heap parents 0) :
    reify m names fuel a parents = .ok (.atom x) := by
  obtain ⟨d, fa, hg, hf, -⟩ := getValue_of_tree_node hw ha ht
  have hnot : Identity.struct (fa + 1) ∉ parents := he.not_mem hf fun path hne => by
    cases path with
    | nil => exact Nat.le_refl 0
    | cons i path => simp [Tree.node] at hne
  exact reify_of_atom hg hnot rfl fuel

mutual
/-- Reading back a term cell whose tree is a term's, its variables at cells recorded under
their names, gives the term read back. The induction is on the term. The fuel left and the
structures entered add up to the heap size and one, and the structures entered are distinct
functor cells, so the fuel lasts; and none is met again, as a subterm is lower than the
structures it lies inside. -/
theorem reify_of_tree (hw : m.heap.WellFormed) (hc : m.heap.Complete none) :
    ∀ (t : Term) (fuel a : Nat) (parents : List Identity), m.heap.TermAt a →
      m.heap.tree a = t.tree (fun x => Tree.leaf (cell x)) →
      (∀ x ∈ t.variableNames, nameOf names (.var (cell x)) = x) →
      Enclosing m.heap parents t.height → fuel + parents.length = m.heap.top + 1 →
      reify m names fuel a parents = .ok t.readBack
  | .var x, _, _, _, ha, ht, hn, _, _ => by
      have hg := getValue_of_tree_leaf hw ha ht
      have hx : nameOf names (.var (cell x)) = x :=
        hn x (by simp [Term.variableNames, Term.gatherVars])
      rw [reify_of_unbound hg, hx]
      rfl
  | .atom _, _, _, _, ha, ht, _, he, _ => reify_constant hw ha ht he
  | .number _, _, _, _, ha, ht, _, he, _ => reify_constant hw ha ht he
  | .compound name args, fuel, a, parents, ha, ht, hn, he, hfuel => by
      by_cases hargs : args = []
      · subst hargs
        exact reify_constant hw ha ht he
      have hpos : 0 < args.length := List.length_pos_iff.2 hargs
      obtain ⟨d, fa, hg, hf, hch⟩ := getValue_of_tree_node hw ha ht
      have hroot : Tree.node ⟨name, args.length⟩ (fun i => m.heap.tree (fa + 1 + i)) =
          (Term.compound name args).tree (fun x => Tree.leaf (cell x)) :=
        (tree_of_struct hg).symm.trans ht
      have hnot : Identity.struct (fa + 1) ∉ parents := he.not_mem hf fun path hne =>
        Term.length_le_height cell _ path (hroot ▸ hne)
      -- the structure entered has a node as deep as its height, below which its arguments lie
      obtain ⟨path, hpath, hne⟩ := Term.exists_path_height cell (.compound name args)
      have henter : ∀ u ∈ args, Enclosing m.heap (.struct (fa + 1) :: parents) u.height :=
        fun u hu =>
          have hlt : u.height < (Term.compound name args).height := Term.height_lt_heightList hu
          (he.mono (Nat.le_of_lt hlt)).cons hf hnot (hpath ▸ hlt) (hroot ▸ hne)
      -- the structures entered are distinct functor cells, so the fuel is not used up
      have hlong := (henter args[0] (List.getElem_mem hpos)).length_le
      obtain ⟨k, rfl⟩ : ∃ k, fuel = k + 1 := ⟨fuel - 1, by simp at hlong; omega⟩
      have hrest := reifyList_of_tree hw hc args k (fa + 1) _ (hc fa _ hf (by simp)) hch
        (fun u hu x hx => hn x (Term.mem_variableNames_compound.2 ⟨u, hu, hx⟩)) henter
        (by simp at hfuel ⊢; omega)
      rw [reify_of_compound hg hnot (Nat.ne_of_gt hpos), hrest, Term.readBack_compound hargs]
      rfl

theorem reifyList_of_tree (hw : m.heap.WellFormed) (hc : m.heap.Complete none) :
    ∀ (args : List Term) (fuel first : Nat) (parents : List Identity),
      m.heap.ArgsAt first args.length →
      (∀ i < args.length, m.heap.tree (first + i) =
        Term.argTree (fun x => Tree.leaf (cell x)) args i) →
      (∀ u ∈ args, ∀ x ∈ u.variableNames, nameOf names (.var (cell x)) = x) →
      (∀ u ∈ args, Enclosing m.heap parents u.height) →
      fuel + parents.length = m.heap.top + 1 →
      (List.range args.length).mapM (fun i => reify m names fuel (first + i) parents) =
        .ok (Term.readBackList args)
  | [], _, _, _, _, _, _, _, _ => rfl
  | u :: us, fuel, first, parents, hat, htree, hn, he, hfuel => by
      have hu := reify_of_tree hw hc u fuel (first + 0) parents (hat 0 (Nat.zero_lt_succ _))
        (htree 0 (Nat.zero_lt_succ _)) (hn u List.mem_cons_self) (he u List.mem_cons_self) hfuel
      -- the remaining arguments start one cell further on
      have hus := reifyList_of_tree hw hc us fuel (first + 1) parents
        (fun i hi => by
          rw [Nat.add_assoc, Nat.add_comm 1 i]
          exact hat (i + 1) (Nat.succ_lt_succ hi))
        (fun i hi => by
          rw [Nat.add_assoc, Nat.add_comm 1 i]
          exact htree (i + 1) (Nat.succ_lt_succ hi))
        (fun v hv => hn v (List.mem_cons_of_mem _ hv))
        (fun v hv => he v (List.mem_cons_of_mem _ hv)) hfuel
      simp only [Nat.add_assoc, Nat.add_comm 1] at hus
      exact mapM_range_succ hu hus
end

end Reify

/-! ## The names an answer gives -/

section Names

variable {m : State} {cell : String → Nat}

theorem capture_of_registers {vars : List (String × Nat)}
    (h : ∀ p ∈ vars, m.registers[p.2]? = some (some (cell p.1))) :
    capture m vars = .ok (vars.map fun p => (p.1, some (cell p.1))) := by
  induction vars with
  | nil => rfl
  | cons p ps ih =>
      have hrest := ih fun q hq => h q (List.mem_cons_of_mem _ hq)
      unfold capture at hrest ⊢
      rw [List.mapM_cons, hrest]
      simp [State.register, h p List.mem_cons_self]
      rfl

theorem firstOfEachName_of_nodup {entries : List (String × Option Nat)}
    (h : (entries.map Prod.fst).Nodup) : firstOfEachName entries = entries := by
  unfold firstOfEachName
  -- the entries kept so far share no name with those still to come
  suffices hkeep : ∀ (rest kept : List (String × Option Nat)), (rest.map Prod.fst).Nodup →
      (∀ e ∈ rest, ∀ k ∈ kept, k.1 ≠ e.1) →
      rest.foldl (fun kept e => if kept.any (·.1 == e.1) then kept else kept ++ [e]) kept =
        kept ++ rest by
    simpa using hkeep entries [] h (by simp)
  intro rest
  induction rest with
  | nil => intro kept _ _; simp
  | cons e rest ih =>
      intro kept hnd hfresh
      rw [List.map_cons, List.nodup_cons] at hnd
      have hnew : kept.any (·.1 == e.1) = false := by
        simpa using fun k hk => hfresh e List.mem_cons_self k hk
      rw [List.foldl_cons, hnew, if_neg Bool.false_ne_true, ih (kept ++ [e]) hnd.2 ?_,
        List.append_assoc, List.singleton_append]
      intro e' he' k hk
      rcases List.mem_append.1 hk with hk | hk
      · exact hfresh e' (List.mem_cons_of_mem _ he') k hk
      · rw [List.mem_singleton.1 hk]
        exact fun heq => hnd.1 (heq ▸ List.mem_map_of_mem he')

theorem foldlM_records {F : Names → String × Option Nat → Except HeapError Names}
    {xs : List String}
    (hF : ∀ names, ∀ x ∈ xs, names.lookup (.var (cell x)) = none →
      F names (x, some (cell x)) = .ok (names ++ [(.var (cell x), x)])) :
    ∀ (ys : List String) (acc : Names), ys ⊆ xs → (ys.map cell).Nodup →
      (∀ y ∈ ys, acc.lookup (.var (cell y)) = none) →
      (ys.map fun x => (x, some (cell x))).foldlM F acc =
        .ok (acc ++ ys.map fun x => (Identity.var (cell x), x))
  | [], acc, _, _, _ => by simp; rfl
  | y :: ys, acc, hsub, hnd, hfresh => by
      rw [List.map_cons, List.nodup_cons] at hnd
      -- after `y`, no cell still to come has a name: the cells are distinct
      have hrest := foldlM_records hF ys (acc ++ [(.var (cell y), y)])
        (fun z hz => hsub (List.mem_cons_of_mem _ hz)) hnd.2 fun z hz => by
          have hne : cell z ≠ cell y := fun heq => hnd.1 (heq ▸ List.mem_map_of_mem hz)
          simp [List.lookup_append, hfresh z (List.mem_cons_of_mem _ hz), hne]
      rw [List.map_cons, List.foldlM_cons,
        hF acc y (hsub List.mem_cons_self) (hfresh y List.mem_cons_self)]
      simpa using hrest

theorem recordNames_of_unbound {xs : List String}
    (hlook : ∀ x ∈ xs, m.lookup (cell x) = .ok (cell x, .unbound (cell x)))
    (hinj : (xs.map cell).Nodup) :
    recordNames m (xs.map fun x => (x, some (cell x))) =
      .ok (xs.map fun x => (Identity.var (cell x), x)) := by
  unfold recordNames
  refine (foldlM_records ?_ xs [] (List.Subset.refl _) hinj (by simp)).trans (by simp)
  intro names x hx hnone
  simp [hlook x hx, Identity.of, hnone]

theorem lookup_of_unbound {xs : List String} (hinj : (xs.map cell).Nodup) {x : String}
    (hx : x ∈ xs) :
    (xs.map fun x => (Identity.var (cell x), x)).lookup (.var (cell x)) = some x := by
  induction xs with
  | nil => exact absurd hx List.not_mem_nil
  | cons y ys ih =>
      rw [List.map_cons, List.nodup_cons] at hinj
      rcases List.mem_cons.1 hx with rfl | hx
      · simp
      · have hne : (Identity.var (cell x) == .var (cell y)) = false :=
          beq_eq_false_iff_ne.2 fun heq => hinj.1 (Identity.var.inj heq ▸ List.mem_map_of_mem hx)
        rw [List.map_cons, List.lookup_cons, hne]
        exact ih hinj.2 hx

/-- A term whose tree the heap holds at `A`, its variables at distinct unbound cells, reads back
as itself: each variable is recorded under its name for its cell, and reading `A` under those
names gives the term read back. -/
theorem reify_built (hw : m.heap.WellFormed) (hc : m.heap.Complete none) {t : Term} {A : Nat}
    (hA : m.heap.TermAt A) (htree : m.heap.tree A = t.tree fun x => Tree.leaf (cell x))
    (hcell : ∀ x ∈ t.variableNames, m.heap.cells[cell x]? = some (.ref (cell x)))
    (hinj : ∀ x ∈ t.variableNames, ∀ y ∈ t.variableNames, cell x = cell y → x = y) :
    recordNames m (firstOfEachName (t.variableNames.map fun x => (x, some (cell x)))) =
        .ok (t.variableNames.map fun x => (Identity.var (cell x), x)) ∧
      reify m (t.variableNames.map fun x => (Identity.var (cell x), x)) (m.heap.top + 1) A [] =
        .ok t.readBack := by
  have hnodup := Term.nodup_variableNames t
  have hcells : (t.variableNames.map cell).Nodup := hnodup.map_on hinj
  rw [firstOfEachName_of_nodup (by simpa [Function.comp_def] using hnodup)]
  refine ⟨recordNames_of_unbound (fun x hx => getValue_of_tree_leaf hw
    (termAt_of_ref (hcell x hx)) (tree_of_self (hcell x hx))) hcells, ?_⟩
  exact reify_of_tree hw hc t (m.heap.top + 1) A [] hA htree
    (fun x hx => by simp [nameOf, lookup_of_unbound hcells hx]) (Enclosing.nil _ _) (by simp)

end Names

/-! ## The built query -/

open Compile in
/-- The code of a compound query, run on a new machine, goes through and leaves it succeeded,
with the query built at `X0`: the tree there is the query's, and so finite, each variable name
standing for an unbound cell of its own, which the name's register leads to. Reading `X0` back
as an answer does, with the names taken from the registers of the query's variables, gives the
query read back. -/
theorem compileQuery_builds_query (name : String) (args : List Term) :
    let t := Term.compound name args
    let c := compileQuery t
    let r := (State.new c.registerCount {}).run c.code
    r.2 = .ok () ∧ r.1.status = .succeeded ∧
    ∃ (A : Nat) (cell : String → Nat), r.1.registers[0]? = some (some A) ∧
      r.1.heap.tree A = t.tree (fun x => Tree.leaf (cell x)) ∧
      (∀ path, r.1.heap.tree A path ≠ none → path.length ≤ t.height) ∧
      (∀ x ∈ t.variableNames, r.1.heap.cells[cell x]? = some (.ref (cell x))) ∧
      (∀ x ∈ t.variableNames, ∀ y ∈ t.variableNames, cell x = cell y → x = y) ∧
      (∀ p ∈ c.vars, ∃ a, r.1.registers[p.2]? = some (some a) ∧
        r.1.heap.deref a = .ok (cell p.1)) ∧
      ∃ entries names, capture r.1 c.vars = .ok entries ∧
        recordNames r.1 (firstOfEachName entries) = .ok names ∧
        reify r.1 names (r.1.heap.top + 1) A [] = .ok t.readBack := by
  intro t c r
  obtain ⟨m, seen, A, hrun, hready, hA, hv, hd⟩ :=
    run_compileQuery_denotes name args (Nat.le_refl _) {} rfl rfl
  have hr : r = ({ m with status := .succeeded }, .ok ()) := hrun
  have hw : m.heap.WellFormed := hready.isOpen.sound.heap_wf
  -- each variable stands for the cell its register holds, an unbound variable
  let a := allocate t
  let cell : String → Nat := fun x => m.address ((a.varRegister? x).getD 0)
  have hcell : ∀ x ∈ t.variableNames,
      m.registers[(a.varRegister? x).getD 0]? = some (some (cell x)) ∧
        m.heap.cells[cell x]? = some (.ref (cell x)) := by
    intro x hx
    obtain ⟨B, hB, hBc⟩ := hv.1 _ (hd.1 x hx)
    have hcx : cell x = B := State.address_of hB
    rw [hcx]
    exact ⟨hB, hBc⟩
  have hinj : ∀ x ∈ t.variableNames, ∀ y ∈ t.variableNames, cell x = cell y → x = y :=
    fun x hx y hy heq => (Allocation.allocate_holds name args).varRegister_inj
      (Allocation.allocate_layout _) hx hy (hv.2 _ (hd.1 x hx) _ (hd.1 y hy) heq)
  have htree : m.heap.tree A = t.tree (fun x => Tree.leaf (cell x)) := by
    rw [hd.2 _ (tree_model hw)]
    exact Term.tree_congr t fun x hx => tree_of_self (hcell x hx).2
  have hvars : c.vars = t.variableNames.map fun x => (x, (a.varRegister? x).getD 0) := rfl
  have hregs : ∀ p ∈ c.vars, m.registers[p.2]? = some (some (cell p.1)) := by
    intro p hp
    rw [hvars] at hp
    obtain ⟨x, hx, rfl⟩ := List.mem_map.1 hp
    exact (hcell x hx).1
  -- the answer's names: each variable's, recorded for its cell
  obtain ⟨hnames, hread⟩ := reify_built (m := { m with status := .succeeded }) hw
    hready.complete (hready.isOpen.sound.registers 0 A hA) htree (fun x hx => (hcell x hx).2)
    hinj
  have hentries : c.vars.map (fun p => (p.1, some (cell p.1))) =
      t.variableNames.map fun x => (x, some (cell x)) := by
    simp [hvars]
  rw [hr]
  refine ⟨rfl, rfl, A, cell, hA, htree, fun path hne => ?_, fun x hx => (hcell x hx).2, hinj,
    fun p hp => ⟨cell p.1, hregs p hp, ?_⟩, _, _, capture_of_registers hregs, ?_, hread⟩
  · exact Term.length_le_height cell t path (htree ▸ hne)
  · rw [hvars] at hp
    obtain ⟨x, hx, rfl⟩ := List.mem_map.1 hp
    exact deref_of_self (hcell x hx).2
  · rw [hentries]
    exact hnames

end Toplevel

end UnifyMachine
