import UnifyMachine.Proofs.Machine.Models
import UnifyMachine.Proofs.Machine.Runs

/-!
# What unification does to a well-formed heap

On a well-formed heap whose structures are complete, the unifier never faults, and when it
finishes it decides unifiability: it unifies two term addresses exactly when some trees for the
unbound variables give both the same tree, and it clashes otherwise. When it unifies, both
addresses read as one tree, and the trees its bindings give the old unbound variables form a
most general unifier: every unifier is an instance of it. Either way it binds only variables that
were unbound, so the heap keeps its top and its other cells. Its result does not depend on the
order of the two addresses, and unifying the same pair again changes nothing.

Everything rests on `unifyPairs_step`, which says what the unifier does with the pair on top of
its stack; the facts about whole runs are inductions on the budget over it, as `unifyPairs_binds`
is.
-/

namespace UnifyMachine.Machine

namespace Heap

variable {h : Heap}

/-! ## Binding unbound variables only -/

theorem Binds.cells_of_link {h' : Heap} (hb : h.Binds h') {a r : Nat}
    (hc : h.cells[a]? = some (.ref r)) (hne : r ≠ a) : h'.cells[a]? = some (.ref r) := by
  rcases hb.2.2 a with e | ⟨hfree, -⟩
  · rw [e, hc]
  · rw [hc] at hfree
    cases hfree
    exact absurd rfl hne

theorem Binds.getValue_of_derefsTo {h' : Heap} (hb : h.Binds h') (hw' : h'.WellFormed)
    {a d : Nat} (hd : h.DerefsTo a d) : h'.getValue a = h'.getValue d := by
  induction hd with
  | unbound _ => rfl
  | struct _ => rfl
  | link hc hne _ ih => rw [getValue_link hw' (hb.cells_of_link hc hne) hne, ih]

theorem Binds.valueAt_struct {h' : Heap} (hb : h.Binds h') {d first : Nat} {f : Functor}
    (hv : h.ValueAt d (.struct f first)) : h'.ValueAt d (.struct f first) := by
  obtain ⟨fa, hc, hf, rfl⟩ := hv
  exact ⟨fa, hb.rebinds.cells_of_not_ref hc (fun _ => nofun),
    hb.rebinds.cells_of_not_ref hf (fun _ => nofun), rfl⟩

theorem getValue_of_valueAt_struct {d first : Nat} {f : Functor}
    (hv : h.ValueAt d (.struct f first)) : h.getValue d = .ok (d, .struct f first) := by
  obtain ⟨fa, hc, hf, rfl⟩ := hv
  exact getValue_of_str hc hf

theorem derefsTo_of_getValue (hw : h.WellFormed) {a d : Nat} {v : Value}
    (hg : h.getValue a = .ok (d, v)) (ha : h.TermAt a) : h.DerefsTo a d := by
  obtain ⟨d', v', hg', hto, -⟩ := getValue_ok hw ha
  rw [hg] at hg'
  cases hg'
  exact hto

/-! ## The order of the two addresses -/

theorem bind_comm {d₁ d₂ : Nat} {v₁ v₂ : Value} (hv₁ : h.ValueAt d₁ v₁) (hv₂ : h.ValueAt d₂ v₂)
    (hfree : v₁.isUnbound ∨ v₂.isUnbound) : h.bind d₂ d₁ = h.bind d₁ d₂ := by
  unfold bind
  rw [isFree_of_valueAt hv₁, isFree_of_valueAt hv₂]
  cases v₁ <;> cases v₂ <;> simp_all [Value.isUnbound, Nat.max_comm, Nat.min_comm]

theorem argumentPairs_swap (t₁ t₂ n : Nat) :
    (argumentPairs t₁ t₂ n).map Prod.swap = argumentPairs t₂ t₁ n := by
  simp [argumentPairs]

/-- The unifier does the same on a stack with each pair reversed: binding and comparing are
symmetric in the two addresses. -/
theorem unifyPairs_swap (budget : Nat) {stack : List (Nat × Nat)} (hw : h.WellFormed)
    (hc : h.Complete none) (hs : h.PairsAt stack) :
    h.unifyPairs budget (stack.map Prod.swap) = h.unifyPairs budget stack := by
  induction budget generalizing h stack with
  | zero => cases stack <;> rfl
  | succ budget ih =>
      cases stack with
      | nil => rfl
      | cons p rest =>
          obtain ⟨a₁, a₂⟩ := p
          have hhead := hs (a₁, a₂) List.mem_cons_self
          obtain ⟨d₁, v₁, hg₁, hto₁, hv₁⟩ := getValue_ok hw hhead.1
          obtain ⟨d₂, v₂, hg₂, hto₂, hv₂⟩ := getValue_ok hw hhead.2
          rw [List.map_cons, Prod.swap_prod_mk, unifyPairs, unifyPairs]
          simp only [hg₁, hg₂]
          by_cases hd : d₁ = d₂
          · simp only [hd, if_true]
            exact ih hw hc hs.tail
          simp only [hd, Ne.symm hd, if_false]
          -- after binding, both orders go on from the same heap
          have hbound : v₁.isUnbound ∨ v₂.isUnbound → ∃ h', h.bind d₁ d₂ = .ok h' ∧
              h.bind d₂ d₁ = .ok h' ∧
              h'.unifyPairs budget (rest.map Prod.swap) = h'.unifyPairs budget rest := by
            intro hfree
            obtain ⟨h', v, w, hb, hr, hvv, hvw, hdown⟩ :=
              bind_ok hv₁ hv₂ hd (by cases v₁ <;> cases v₂ <;> simp_all [Value.isUnbound])
            obtain ⟨hw', hc', hb'⟩ :=
              hr.keeps hw hc hvv (Redirect.termAt_target hto₁.termAt hto₂.termAt hvw) hdown
            exact ⟨h', hb, (bind_comm hv₁ hv₂ hfree).trans hb,
              ih hw' hc' (hs.tail.rebind hb'.rebinds)⟩
          cases v₁ with
          | struct f₁ t₁ =>
              cases v₂ with
              | struct f₂ t₂ =>
                  by_cases hf : f₁ = f₂
                  · subst hf
                    by_cases ht : t₁ = t₂
                    · simp only [ht, ne_eq, not_true_eq_false, if_false, if_true]
                      exact ih hw hc hs.tail
                    · simp only [ht, Ne.symm ht, ne_eq, not_true_eq_false, if_false]
                      rw [← argumentPairs_swap, ← List.map_append]
                      exact ih hw hc (.decompose hc hv₁ hv₂ hs.tail)
                  · simp [hf, Ne.symm hf]
              | unbound r₂ =>
                  obtain ⟨h', hb, hb', heq⟩ := hbound (.inr rfl)
                  simp only [hb, hb', heq]
          | unbound r₁ =>
              obtain ⟨h', hb, hb', heq⟩ := hbound (.inl rfl)
              cases v₂ <;> simp only [hb, hb', heq]

/-! ## Unifying again -/

theorem unifyPairs_of_shared {a₁ a₂ d₁ d₂ : Nat} {x₁ x₂ : Value}
    (hg₁ : h.getValue a₁ = .ok (d₁, x₁)) (hg₂ : h.getValue a₂ = .ok (d₂, x₂))
    (hsame : d₁ = d₂ ∨ ∃ f t, x₁ = .struct f t ∧ x₂ = .struct f t) (budget : Nat)
    (rest : List (Nat × Nat)) :
    h.unifyPairs (budget + 1) ((a₁, a₂) :: rest) = h.unifyPairs budget rest := by
  rw [unifyPairs]
  simp only [hg₁, hg₂]
  by_cases hd : d₁ = d₂
  · simp [hd]
  · obtain ⟨f, t, rfl, rfl⟩ := hsame.resolve_left hd
    simp [hd]

theorem unifyPairs_of_struct {a₁ a₂ d₁ d₂ t₁ t₂ : Nat} {f : Functor}
    (hg₁ : h.getValue a₁ = .ok (d₁, .struct f t₁)) (hg₂ : h.getValue a₂ = .ok (d₂, .struct f t₂))
    (hd : d₁ ≠ d₂) (ht : t₁ ≠ t₂) (budget : Nat) (rest : List (Nat × Nat)) :
    h.unifyPairs (budget + 1) ((a₁, a₂) :: rest) =
      h.unifyPairs budget (argumentPairs t₁ t₂ f.arity ++ rest) := by
  rw [unifyPairs]
  simp [hg₁, hg₂, hd, ht]

/-- Once the unifier has unified a stack, unifying it again from the heap it left drops every
pair, binding nothing: each pair it dropped or bound leads to one term there, and each pair of
structures it took apart is taken apart again. The induction is on the budget and follows the
first run pair by pair. -/
theorem unifyPairs_again (budget : Nat) {stack : List (Nat × Nat)} {h' : Heap}
    (hw : h.WellFormed) (hc : h.Complete none) (hs : h.PairsAt stack)
    (hu : h.unifyPairs budget stack = (h', .unified)) :
    h'.unifyPairs budget stack = (h', .unified) := by
  induction budget generalizing h stack with
  | zero =>
      cases stack with
      | nil =>
          cases hu
          rfl
      | cons p rest => cases hu
  | succ budget ih =>
      cases stack with
      | nil =>
          cases hu
          rfl
      | cons p rest =>
          obtain ⟨a₁, a₂⟩ := p
          have hhead := hs (a₁, a₂) List.mem_cons_self
          have hbw := unifyPairs_binds (budget + 1) hw hc hs
          rw [hu] at hbw
          obtain ⟨hb, hw', -⟩ := hbw
          obtain ⟨d₁, d₂, hto₁, hto₂, hcase⟩ := unifyPairs_step hw hhead.1 hhead.2 budget rest
          -- in the final heap each address reads as the end point it led to
          have hfin₁ := hb.getValue_of_derefsTo hw' hto₁
          have hfin₂ := hb.getValue_of_derefsTo hw' hto₂
          rcases hcase with ⟨hsame, heq⟩ | ⟨f, t₁, t₂, hv₁, hv₂, hd, ht, heq⟩ |
              ⟨-, -, -, -, -, -, -, heq⟩ | ⟨h₁, v, w, hr, hvv, hvw, hwv, hdown, heq⟩
          · rw [heq] at hu
            rcases hsame with rfl | ⟨f, t, hv₁, hv₂⟩
            · obtain ⟨e, x, hg, -, -⟩ := getValue_ok hw' (hhead.1.rebind hb.rebinds)
              rw [unifyPairs_of_shared hg (hfin₂.trans (hfin₁.symm.trans hg)) (.inl rfl)]
              exact ih hw hc hs.tail hu
            · rw [unifyPairs_of_shared
                (hfin₁.trans (getValue_of_valueAt_struct (hb.valueAt_struct hv₁)))
                (hfin₂.trans (getValue_of_valueAt_struct (hb.valueAt_struct hv₂)))
                (.inr ⟨f, t, rfl, rfl⟩)]
              exact ih hw hc hs.tail hu
          · rw [heq] at hu
            rw [unifyPairs_of_struct
              (hfin₁.trans (getValue_of_valueAt_struct (hb.valueAt_struct hv₁)))
              (hfin₂.trans (getValue_of_valueAt_struct (hb.valueAt_struct hv₂))) hd ht]
            exact ih hw hc (.decompose hc hv₁ hv₂ hs.tail) hu
          · rw [heq] at hu
            cases hu
          · rw [heq] at hu
            obtain ⟨hw₁, hc₁, hb₁⟩ :=
              hr.keeps hw hc hvv (Redirect.termAt_target hto₁.termAt hto₂.termAt hvw) hdown
            have hb₁' : h₁.Binds h' := by
              have := (unifyPairs_binds budget hw₁ hc₁ (hs.tail.rebind hb₁.rebinds)).1
              rwa [hu] at this
            -- after the binding both addresses lead to one end point, and still do at the end
            have hlink : h₁.getValue d₁ = h₁.getValue d₂ := by
              have hv' : h₁.cells[v]? = some (.ref w) := by rw [hr.2.2 v, if_pos rfl]
              have := getValue_link hw₁ hv' hwv
              rcases hvw with ⟨rfl, rfl⟩ | ⟨rfl, rfl⟩
              · exact this
              · exact this.symm
            obtain ⟨e, x, hge₁, hto₁', -⟩ := getValue_ok hw₁ (hhead.1.rebind hb₁.rebinds)
            have hge₂ : h₁.getValue a₂ = .ok (e, x) := by
              rw [hb₁.getValue_of_derefsTo hw₁ hto₂, ← hlink,
                ← hb₁.getValue_of_derefsTo hw₁ hto₁, hge₁]
            have hto₂' := derefsTo_of_getValue hw₁ hge₂ (hhead.2.rebind hb₁.rebinds)
            obtain ⟨e', x', hg', -, -⟩ := getValue_ok hw' (hhead.1.rebind hb.rebinds)
            have hg₂' : h'.getValue a₂ = .ok (e', x') := by
              rw [hb₁'.getValue_of_derefsTo hw' hto₂', ← hb₁'.getValue_of_derefsTo hw' hto₁', hg']
            rw [unifyPairs_of_shared hg' hg₂' (.inl rfl)]
            exact ih hw₁ hc₁ (hs.tail.rebind hb₁.rebinds) hu

/-! ## Unifiers -/

/-- Trees `τ` for the unbound variables of `h` that give the addresses `a₁` and `a₂` one tree. -/
def Unifier {V : Type} (h : Heap) (a₁ a₂ : Nat) (τ : Nat → Tree V) : Prop :=
  (h.tree a₁).subst τ = (h.tree a₂).subst τ

theorem pairsAt_single {a₁ a₂ : Nat} (ht₁ : h.TermAt a₁) (ht₂ : h.TermAt a₂) :
    h.PairsAt [(a₁, a₂)] := by
  intro p hp
  rw [List.mem_singleton] at hp
  subst hp
  exact ⟨ht₁, ht₂⟩

theorem Unifier.model {V : Type} (hw : h.WellFormed) {a₁ a₂ : Nat} {τ : Nat → Tree V}
    (hu : h.Unifier a₁ a₂ τ) :
    h.Model (fun a => (h.tree a).subst τ) ∧ Solves (fun a => (h.tree a).subst τ) [(a₁, a₂)] :=
  ⟨subst_tree_model hw τ, solves_cons.2 ⟨hu, fun _ hp => absurd hp List.not_mem_nil⟩⟩

section

variable {a₁ a₂ : Nat} (hw : h.WellFormed) (hc : h.Complete none) (ht₁ : h.TermAt a₁)
  (ht₂ : h.TermAt a₂) (budget : Nat)
include hw hc ht₁ ht₂

/-- A clash means that no trees for the variables give the two addresses one tree. -/
theorem unify_clash {V : Type} (hcl : (h.unify budget a₁ a₂).2 = .clash) (τ : Nat → Tree V) :
    ¬ h.Unifier a₁ a₂ τ := by
  intro hu
  obtain ⟨hM, hsol⟩ := hu.model hw
  have hU := unifyPairs_unifies (V := V) budget hw hc (pairsAt_single ht₁ ht₂)
  unfold unify at hcl
  rcases hres : h.unifyPairs budget [(a₁, a₂)] with ⟨h', r⟩
  rw [hres] at hU hcl
  obtain rfl : r = .clash := hcl
  exact hU _ hM hsol

/-- When the unifier unifies, both addresses read as one tree, the trees its bindings give the
unbound variables are a unifier, and every unifier is an instance of it: `δ` gives each address
the tree that the unifier makes of it. -/
theorem unify_unified (hu : (h.unify budget a₁ a₂).2 = .unified) :
    (h.unify budget a₁ a₂).1.tree a₁ = (h.unify budget a₁ a₂).1.tree a₂ ∧
      h.Unifier a₁ a₂ (h.unify budget a₁ a₂).1.tree ∧
      ∀ {V : Type} (τ : Nat → Tree V), h.Unifier a₁ a₂ τ →
        ∃ δ : Nat → Tree V, ∀ v, h.cells[v]? = some (.ref v) →
          τ v = ((h.unify budget a₁ a₂).1.tree v).subst δ := by
  have hs := pairsAt_single ht₁ ht₂
  obtain ⟨hb, hw', -⟩ := unifyPairs_binds budget hw hc hs
  have hU : ∀ {V : Type}, Unifies V h [(a₁, a₂)] (h.unifyPairs budget [(a₁, a₂)]) :=
    unifyPairs_unifies budget hw hc hs
  unfold unify at hu ⊢
  rcases hres : h.unifyPairs budget [(a₁, a₂)] with ⟨h', r⟩
  rw [hres] at hu hb hw' hU
  obtain rfl : r = .unified := hu
  dsimp only
  have hc' : h'.Complete none := hc.rebind hb.rebinds
  -- the final trees are a model of the old heap that equates the pair
  obtain ⟨hM, hsol⟩ := (hU _).1 (tree_model hw')
  have hsame := (solves_cons.1 hsol).1
  refine ⟨hsame, ?_, fun τ hτ => ?_⟩
  · unfold Unifier
    rw [← hM.eq_subst_tree hw hc ht₁, ← hM.eq_subst_tree hw hc ht₂]
    exact hsame
  -- a unifier's model of the old heap equates the pair, so it is a model of the new heap
  · obtain ⟨hMτ, hsolτ⟩ := hτ.model hw
    have hMτ' := (hU _).2 ⟨hMτ, hsolτ⟩
    refine ⟨fun a => (h.tree a).subst τ, fun v hv => ?_⟩
    have hv' : h'.TermAt v := (termAt_of_ref hv).rebind hb.rebinds
    rw [← hMτ'.eq_subst_tree hw' hc' hv', tree_of_self hv, Tree.subst_leaf]

/-- When it finishes, the unifier unifies exactly when some trees for the variables give the two
addresses one tree. -/
theorem unify_unified_iff (hfin : (h.unify budget a₁ a₂).2 ≠ .unfinished) :
    (h.unify budget a₁ a₂).2 = .unified ↔ ∃ τ : Nat → Tree Nat, h.Unifier a₁ a₂ τ := by
  refine ⟨fun hu => ⟨_, (unify_unified hw hc ht₁ ht₂ budget hu).2.1⟩, fun ⟨τ, hτ⟩ => ?_⟩
  have hnf := (unifyPairs_safe budget hw hc (pairsAt_single ht₁ ht₂)).2.2
  unfold unify at hfin ⊢
  cases hr : (h.unifyPairs budget [(a₁, a₂)]).2 with
  | unified => rfl
  | clash => exact absurd hτ (unify_clash hw hc ht₁ ht₂ budget hr τ)
  | fault e => exact absurd hr (hnf e)
  | unfinished => exact absurd hr hfin

end

/-! ## The unifier's outcome -/

/-- What unifying the addresses `a₁` and `a₂` of `h` within `budget` pairs does. -/
structure UnifiesMostGenerally (h : Heap) (budget a₁ a₂ : Nat) : Prop where
  /-- It never faults. -/
  no_fault : ∀ e, (h.unify budget a₁ a₂).2 ≠ .fault e
  /-- When it finishes, it unifies exactly when some trees for the variables give both
  addresses one tree, and clashes exactly when none do. -/
  decides : (h.unify budget a₁ a₂).2 ≠ .unfinished →
    ((h.unify budget a₁ a₂).2 = .unified ↔ ∃ τ : Nat → Tree Nat, h.Unifier a₁ a₂ τ) ∧
      ((h.unify budget a₁ a₂).2 = .clash ↔
        ∀ (V : Type) (τ : Nat → Tree V), ¬ h.Unifier a₁ a₂ τ)
  /-- It binds only variables that were unbound, each to a reference. -/
  binds : h.Binds (h.unify budget a₁ a₂).1
  /-- It adds no cell. -/
  top_eq : (h.unify budget a₁ a₂).1.top = h.top
  /-- The order of the two addresses does not matter. -/
  symm : h.unify budget a₂ a₁ = h.unify budget a₁ a₂
  /-- When it unifies, the two addresses read as one tree. -/
  same_tree : (h.unify budget a₁ a₂).2 = .unified →
    (h.unify budget a₁ a₂).1.tree a₁ = (h.unify budget a₁ a₂).1.tree a₂
  /-- When it unifies, the trees its bindings give the variables are a unifier. -/
  unifier : (h.unify budget a₁ a₂).2 = .unified →
    h.Unifier a₁ a₂ (h.unify budget a₁ a₂).1.tree
  /-- When it unifies, every unifier is an instance of the one its bindings give. -/
  most_general : (h.unify budget a₁ a₂).2 = .unified →
    ∀ (V : Type) (τ : Nat → Tree V), h.Unifier a₁ a₂ τ →
      ∃ δ : Nat → Tree V, ∀ v, h.cells[v]? = some (.ref v) →
        τ v = ((h.unify budget a₁ a₂).1.tree v).subst δ
  /-- When it unifies, unifying the same pair again changes nothing. -/
  again : (h.unify budget a₁ a₂).2 = .unified →
    (h.unify budget a₁ a₂).1.unify budget a₁ a₂ = h.unify budget a₁ a₂

/-- On a well-formed heap whose structures are complete, unifying two term addresses never
faults, decides whether a unifier exists when it finishes, and when it unifies leaves a most
general unifier in the heap, binding only variables that were unbound; the order of the two
addresses does not matter, and unifying them again changes nothing. -/
theorem unify_unifiesMostGenerally {a₁ a₂ : Nat} (hw : h.WellFormed) (hc : h.Complete none)
    (ht₁ : h.TermAt a₁) (ht₂ : h.TermAt a₂) (budget : Nat) :
    h.UnifiesMostGenerally budget a₁ a₂ := by
  have hs := pairsAt_single ht₁ ht₂
  have hnf : ∀ e, (h.unify budget a₁ a₂).2 ≠ .fault e := (unifyPairs_safe budget hw hc hs).2.2
  have hb : h.Binds (h.unify budget a₁ a₂).1 := (unifyPairs_binds budget hw hc hs).1
  refine ⟨hnf, fun hfin => ⟨unify_unified_iff hw hc ht₁ ht₂ budget hfin, ?_⟩, hb, hb.top_eq,
    unifyPairs_swap budget hw hc hs, fun hu => (unify_unified hw hc ht₁ ht₂ budget hu).1,
    fun hu => (unify_unified hw hc ht₁ ht₂ budget hu).2.1,
    fun hu V τ hτ => (unify_unified hw hc ht₁ ht₂ budget hu).2.2 τ hτ, fun hu => ?_⟩
  -- a finished run that found no unifier neither faulted nor unified, so it clashed
  · refine ⟨fun hcl V τ => unify_clash hw hc ht₁ ht₂ budget hcl τ, fun hno => ?_⟩
    cases hr : (h.unify budget a₁ a₂).2 with
    | clash => rfl
    | unified =>
        obtain ⟨τ, hτ⟩ := (unify_unified_iff hw hc ht₁ ht₂ budget hfin).1 hr
        exact absurd hτ (hno Nat τ)
    | fault e => exact absurd hr (hnf e)
    | unfinished => exact absurd hr hfin
  · have hres : h.unifyPairs budget [(a₁, a₂)] = ((h.unify budget a₁ a₂).1, .unified) :=
      Prod.ext rfl hu
    exact (unifyPairs_again budget hw hc hs hres).trans hres.symm

end Heap

/-- A reached machine that has not failed and is writing no structure has a well-formed heap
whose structures are complete: the heaps the machine unifies on. -/
theorem State.Reachable.heap_unifiable {m : State} (hm : m.Reachable)
    (hf : m.status ≠ .failed) (hc : ∀ c, m.cursor = some c → c.mode = .read) :
    m.heap.WellFormed ∧ m.heap.Complete none := by
  have hs := hm.invariant.sound hf
  refine ⟨hs.heap_wf, ?_⟩
  have hpending : Cursor.pending m.cursor = none := by
    cases hcur : m.cursor with
    | none => rfl
    | some c => exact Cursor.pending_read (hc c hcur)
  simpa [hpending] using hs.complete

/-- `f(X, b)` and `f(c, Y)`, built by one run, unify most generally. -/
theorem crossedPairs_unifiesMostGenerally :
    let h := ((State.new 6 {}).run
      [.putStructure ⟨"b", 0⟩ 2, .putStructure ⟨"f", 2⟩ 0, .setVariable 3, .setValue 2,
       .putStructure ⟨"c", 0⟩ 4, .putStructure ⟨"f", 2⟩ 1, .setValue 4, .setVariable 5]).1.heap
    h.WellFormed ∧ h.Complete none ∧ h.TermAt 2 ∧ h.TermAt 8 ∧ h.UnifiesMostGenerally 10 2 8 :=
  have hm : State.Reachable ((State.new 6 {}).run
      [.putStructure ⟨"b", 0⟩ 2, .putStructure ⟨"f", 2⟩ 0, .setVariable 3, .setValue 2,
       .putStructure ⟨"c", 0⟩ 4, .putStructure ⟨"f", 2⟩ 1, .setValue 4, .setVariable 5]).1 :=
    .run _ (.new 6 {})
  have hu := hm.heap_unifiable (by decide) (fun c hc => by cases hc)
  have ht₂ : Heap.TermAt _ 2 := ⟨.str 3, rfl, trivial⟩
  have ht₈ : Heap.TermAt _ 8 := ⟨.str 9, rfl, trivial⟩
  ⟨hu.1, hu.2, ht₂, ht₈, Heap.unify_unifiesMostGenerally hu.1 hu.2 ht₂ ht₈ 10⟩

end UnifyMachine.Machine
