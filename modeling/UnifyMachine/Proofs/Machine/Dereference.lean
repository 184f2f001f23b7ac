import UnifyMachine.Proofs.Machine.HeapShape

/-!
# Dereferencing, binding and unifying on a well-formed heap

On a well-formed heap every chain of references from a term cell ends, within fewer links than
the heap has cells, at an unbound variable or a structure pointer, so `deref` never reports a
cycle, and `getValue` reads a variable or a structure with its functor. Binding one of two such
end points when one of them is unbound redirects a single reference and keeps the heap well
formed. `unifyPairs_step` says what the unifier does with the pair on top of its stack; by
induction on the budget over it, the unifier is fault-free: on a well-formed, complete heap and
a stack of term addresses it ends by unifying, by a clash or by running out of budget, and only
ever binds unbound variables.
-/

namespace UnifyMachine.Machine

/-- Whether a dereferenced term is an unbound variable. -/
def Value.isUnbound : Value → Bool
  | .unbound _ => true
  | .struct _ _ => false

namespace Heap

/-- `d` is where the references from `a` lead: an unbound variable or a structure pointer. -/
inductive DerefsTo (h : Heap) : Nat → Nat → Prop
  | unbound {a : Nat} : h.cells[a]? = some (.ref a) → DerefsTo h a a
  | struct {a fa : Nat} : h.cells[a]? = some (.str fa) → DerefsTo h a a
  | link {a r d : Nat} : h.cells[a]? = some (.ref r) → r ≠ a → DerefsTo h r d → DerefsTo h a d

/-- What the end point `d` of a dereference holds, as `getValue` reports it. -/
def ValueAt (h : Heap) (d : Nat) : Value → Prop
  | .unbound r => r = d ∧ h.cells[d]? = some (.ref d)
  | .struct f first => ∃ fa, h.cells[d]? = some (.str fa) ∧
      h.cells[fa]? = some (.functor f) ∧ first = fa + 1

variable {h : Heap}

theorem DerefsTo.root {a d : Nat} (hd : h.DerefsTo a d) :
    h.cells[d]? = some (.ref d) ∨ ∃ fa, h.cells[d]? = some (.str fa) := by
  induction hd with
  | unbound hc => exact .inl hc
  | struct hc => exact .inr ⟨_, hc⟩
  | link _ _ _ ih => exact ih

theorem DerefsTo.unique {a d d' : Nat} (hd : h.DerefsTo a d) (hd' : h.DerefsTo a d') :
    d = d' := by
  induction hd generalizing d' with
  | unbound hc =>
      cases hd' with
      | unbound => rfl
      | struct hc' => simp [hc] at hc'
      | link hc' hne _ => exact (hne (by simpa using (hc.symm.trans hc').symm)).elim
  | struct hc =>
      cases hd' with
      | unbound hc' => simp [hc] at hc'
      | struct => rfl
      | link hc' _ _ => simpa using hc.symm.trans hc'
  | link hc hne _ ih =>
      cases hd' with
      | unbound hc' => exact (hne (by simpa using hc.symm.trans hc')).elim
      | struct hc' => simpa using hc.symm.trans hc'
      | link hc' _ hrest =>
          obtain rfl : _ = _ := by simpa using hc.symm.trans hc'
          exact ih hrest

theorem DerefsTo.termAt {a d : Nat} (hd : h.DerefsTo a d) : h.TermAt d := by
  rcases hd.root with hc | ⟨fa, hc⟩
  · exact termAt_of_ref hc
  · exact termAt_of_str hc

/-- A dereference with more fuel than the address ends where the references lead. Each link
either goes down, or reaches a structure pointer, where the chain stops. -/
theorem derefWithin_ok (hw : h.WellFormed) {fuel a : Nat} (ha : h.TermAt a) (hf : a < fuel) :
    ∃ d, h.derefWithin fuel a = .ok d ∧ h.DerefsTo a d := by
  induction fuel generalizing a with
  | zero => omega
  | succ fuel ih =>
      rcases ha.cases with ⟨r, hc⟩ | ⟨fa, hc⟩
      · by_cases hr : r = a
        · subst hr
          exact ⟨r, by rw [derefWithin]; simp [load_ok hc], .unbound hc⟩
        · have hstep : h.derefWithin (fuel + 1) a = h.derefWithin fuel r := by
            rw [derefWithin]
            simp [load_ok hc, hr]
          obtain ⟨hterm, hdown⟩ := hw.cell_ok hc
          rcases hdown with hle | ⟨fa, hfa⟩
          · obtain ⟨d, hd, hto⟩ := ih hterm (by omega)
            exact ⟨d, hstep.trans hd, .link hc hr hto⟩
          · refine ⟨r, ?_, .link hc hr (.struct hfa)⟩
            rw [hstep]
            rw [derefWithin]
            simp [load_ok hfa]
      · exact ⟨a, by rw [derefWithin]; simp [load_ok hc], .struct hc⟩

theorem deref_ok (hw : h.WellFormed) {a : Nat} (ha : h.TermAt a) :
    ∃ d, h.deref a = .ok d ∧ h.DerefsTo a d :=
  derefWithin_ok hw ha ha.lt_top

theorem WellFormed.link_target (hw : h.WellFormed) {a b : Nat} (hc : h.cells[a]? = some (.ref b))
    (hne : b ≠ a) :
    (∃ fa, h.cells[b]? = some (.str fa)) ∨ (∃ r, h.cells[b]? = some (.ref r)) ∧ b < a := by
  obtain ⟨hterm, hdown⟩ := hw.cell_ok hc
  rcases hdown with hle | hstr
  · rcases hterm.cases with href | hstr
    · exact .inr ⟨href, by omega⟩
    · exact .inl hstr
  · exact .inl hstr

/-- Dereferencing an address below the top of a well-formed heap follows its references to an
unbound variable or a structure pointer, unless the address holds a functor cell, which it
reports at once. -/
theorem WellFormed.deref_below_top (hw : h.WellFormed) {a : Nat} (ha : a < h.top) :
    (∃ d, h.deref a = .ok d ∧ h.DerefsTo a d ∧
        (h.cells[d]? = some (.ref d) ∨ ∃ fa, h.cells[d]? = some (.str fa))) ∨
      ∃ f, h.cells[a]? = some (.functor f) ∧ h.deref a = .error (.notATerm a) := by
  obtain ⟨c, hc⟩ : ∃ c, h.cells[a]? = some c := ⟨h.cells[a], Array.getElem?_eq_getElem ha⟩
  cases c with
  | functor f =>
      refine .inr ⟨f, hc, ?_⟩
      unfold deref
      rw [derefWithin]
      simp [load_ok hc]
  | ref r =>
      obtain ⟨d, hd, hto⟩ := deref_ok hw (termAt_of_ref hc)
      exact .inl ⟨d, hd, hto, hto.root⟩
  | str fa =>
      obtain ⟨d, hd, hto⟩ := deref_ok hw (termAt_of_str hc)
      exact .inl ⟨d, hd, hto, hto.root⟩

/-- Reading a term cell of a well-formed heap finds the variable or the structure its
references lead to. -/
theorem getValue_ok (hw : h.WellFormed) {a : Nat} (ha : h.TermAt a) :
    ∃ d v, h.getValue a = .ok (d, v) ∧ h.DerefsTo a d ∧ h.ValueAt d v := by
  obtain ⟨d, hd, hto⟩ := deref_ok hw ha
  rcases hto.root with hc | ⟨fa, hc⟩
  · exact ⟨d, .unbound d, by simp [getValue, hd, load_ok hc]; rfl, hto, rfl, hc⟩
  · obtain ⟨f, hf⟩ := hw.cell_ok hc
    exact ⟨d, .struct f (fa + 1), by simp [getValue, hd, load_ok hc, load_ok hf]; rfl, hto,
      fa, hc, hf, rfl⟩

theorem ValueAt.termAt {d : Nat} {v : Value} (hv : h.ValueAt d v) : h.TermAt d := by
  cases v with
  | unbound r => exact termAt_of_ref hv.2
  | struct f first =>
      obtain ⟨fa, hc, -⟩ := hv
      exact termAt_of_str hc

/-! ## Binding -/

/-- `h'` is `h` with the cell at `v` replaced by a reference to `w`. -/
def Redirect (h h' : Heap) (v w : Nat) : Prop :=
  h'.capacity = h.capacity ∧ h'.cells.size = h.cells.size ∧
    ∀ a : Nat, h'.cells[a]? = if a = v then some (.ref w) else h.cells[a]?

theorem store_ref {v w : Nat} (hv : v < h.top) :
    ∃ h', h.store v (.ref w) = .ok h' ∧ h.Redirect h' v w := by
  have hv' : v < h.cells.size := hv
  refine ⟨{ h with cells := h.cells.set v (.ref w) hv }, by simp [store, hv'], rfl,
    Array.size_set hv', ?_⟩
  intro a
  simp only [Array.getElem?_set hv]
  by_cases ha : a = v
  · simp [ha]
  · simp [ha, Ne.symm ha]

theorem Redirect.rebinds {h' : Heap} {v w : Nat} (hr : h.Redirect h' v w)
    (hv : h.cells[v]? = some (.ref v)) : h.Rebinds h' := by
  refine ⟨hr.1, hr.2.1, fun a => ?_⟩
  rw [hr.2.2 a]
  by_cases ha : a = v
  · subst ha
    exact .inr ⟨a, w, hv, by simp⟩
  · exact .inl (by simp [ha])

theorem Redirect.wellFormed (hw : h.WellFormed) {h' : Heap} {v w : Nat} (hr : h.Redirect h' v w)
    (hv : h.cells[v]? = some (.ref v)) (hwt : h.TermAt w)
    (hdown : w ≤ v ∨ ∃ fa, h.cells[w]? = some (.str fa)) : h'.WellFormed := by
  have hreb := hr.rebinds hv
  constructor
  intro a c ha
  rw [hr.2.2 a] at ha
  split at ha
  · cases ha
    subst a
    refine ⟨hwt.rebind hreb, ?_⟩
    rcases hdown with hle | ⟨fa, hfa⟩
    · exact .inl hle
    · exact .inr ⟨fa, hreb.cells_of_not_ref hfa (fun _ => nofun)⟩
  · cases c with
    | ref r =>
        obtain ⟨hrt, hrdown⟩ := hw.cell_ok ha
        refine ⟨hrt.rebind hreb, ?_⟩
        rcases hrdown with hle | ⟨fa, hfa⟩
        · exact .inl hle
        · exact .inr ⟨fa, hreb.cells_of_not_ref hfa (fun _ => nofun)⟩
    | str fa =>
        obtain ⟨f, hf⟩ := hw.cell_ok ha
        exact ⟨f, hreb.cells_of_not_ref hf (fun _ => nofun)⟩
    | functor f => trivial

theorem isFree_of_valueAt {d : Nat} {v : Value} (hv : h.ValueAt d v) :
    h.isFree d = .ok v.isUnbound := by
  cases v with
  | unbound r =>
      simp [isFree, load_ok hv.2]
      rfl
  | struct f first =>
      obtain ⟨fa, hc, -⟩ := hv
      simp [isFree, load_ok hc]
      rfl

/-- Binding two distinct end points of which one is unbound redirects one unbound variable to
the other end point: of two unbound variables the higher one, to the lower. -/
theorem bind_ok {d₁ d₂ : Nat} {v₁ v₂ : Value} (hv₁ : h.ValueAt d₁ v₁) (hv₂ : h.ValueAt d₂ v₂)
    (hne : d₁ ≠ d₂) (hfree : (∃ r, v₁ = .unbound r) ∨ ∃ r, v₂ = .unbound r) :
    ∃ h' v w, h.bind d₁ d₂ = .ok h' ∧ h.Redirect h' v w ∧ h.cells[v]? = some (.ref v) ∧
      ((v = d₁ ∧ w = d₂) ∨ (v = d₂ ∧ w = d₁)) ∧
      (w < v ∨ ∃ fa, h.cells[w]? = some (.str fa)) := by
  have ht₁ := hv₁.termAt
  have ht₂ := hv₂.termAt
  have hf₁ := isFree_of_valueAt hv₁
  have hf₂ := isFree_of_valueAt hv₂
  cases v₁ with
  | unbound r₁ =>
      cases v₂ with
      | unbound r₂ =>
          by_cases hlt : d₁ < d₂
          · obtain ⟨h', hs, hr⟩ := store_ref (w := d₁) ht₂.lt_top
            refine ⟨h', d₂, d₁, ?_, hr, hv₂.2, .inr ⟨rfl, rfl⟩, .inl hlt⟩
            simp [bind, hf₁, hf₂, Value.isUnbound, Nat.le_of_lt hlt, hs]
          · obtain ⟨h', hs, hr⟩ := store_ref (w := d₂) ht₁.lt_top
            have hgt : d₂ < d₁ := by omega
            refine ⟨h', d₁, d₂, ?_, hr, hv₁.2, .inl ⟨rfl, rfl⟩, .inl hgt⟩
            simp [bind, hf₁, hf₂, Value.isUnbound, Nat.max_def, Nat.min_def, Nat.not_le_of_lt hgt, hs]
      | struct f₂ t₂ =>
          obtain ⟨fa, hc₂, -⟩ := hv₂
          obtain ⟨h', hs, hr⟩ := store_ref (w := d₂) ht₁.lt_top
          refine ⟨h', d₁, d₂, ?_, hr, hv₁.2, .inl ⟨rfl, rfl⟩, .inr ⟨fa, hc₂⟩⟩
          simp [bind, hf₁, hf₂, Value.isUnbound, hs]
  | struct f₁ t₁ =>
      cases v₂ with
      | unbound r₂ =>
          obtain ⟨fa, hc₁, -⟩ := hv₁
          obtain ⟨h', hs, hr⟩ := store_ref (w := d₁) ht₂.lt_top
          refine ⟨h', d₂, d₁, ?_, hr, hv₂.2, .inr ⟨rfl, rfl⟩, .inr ⟨fa, hc₁⟩⟩
          simp [bind, hf₁, hf₂, Value.isUnbound, hs]
      | struct f₂ t₂ => simp at hfree

/-! ## Binding unbound variables only -/

/-- `h'` is `h` with some of its unbound variables bound: the same capacity and number of cells,
and each cell as it was or, where `h` has an unbound variable, a reference. -/
def Binds (h h' : Heap) : Prop :=
  h'.capacity = h.capacity ∧ h'.cells.size = h.cells.size ∧
    ∀ a, h'.cells[a]? = h.cells[a]? ∨
      h.cells[a]? = some (Cell.ref a) ∧ ∃ r, h'.cells[a]? = some (Cell.ref r)

theorem Binds.refl (h : Heap) : h.Binds h :=
  ⟨rfl, rfl, fun _ => .inl rfl⟩

theorem Binds.trans {h₁ h₂ h₃ : Heap} (h₁₂ : h₁.Binds h₂) (h₂₃ : h₂.Binds h₃) : h₁.Binds h₃ := by
  refine ⟨h₂₃.1.trans h₁₂.1, h₂₃.2.1.trans h₁₂.2.1, fun a => ?_⟩
  rcases h₂₃.2.2 a with e₂₃ | ⟨hfree₂, r, hr₃⟩
  · rw [e₂₃]
    exact h₁₂.2.2 a
  · rcases h₁₂.2.2 a with e₁₂ | ⟨hfree₁, -⟩
    · exact .inr ⟨e₁₂ ▸ hfree₂, r, hr₃⟩
    · exact .inr ⟨hfree₁, r, hr₃⟩

theorem Binds.rebinds {h' : Heap} (hb : h.Binds h') : h.Rebinds h' :=
  ⟨hb.1, hb.2.1, fun a => (hb.2.2 a).imp id fun hbound => hbound.2.elim fun r hr =>
    ⟨a, r, hbound.1, hr⟩⟩

theorem Binds.top_eq {h' : Heap} (hb : h.Binds h') : h'.top = h.top :=
  hb.2.1

theorem Redirect.binds {h' : Heap} {v w : Nat} (hr : h.Redirect h' v w)
    (hv : h.cells[v]? = some (.ref v)) : h.Binds h' := by
  refine ⟨hr.1, hr.2.1, fun a => ?_⟩
  rw [hr.2.2 a]
  by_cases ha : a = v
  · subst ha
    exact .inr ⟨hv, w, by simp⟩
  · exact .inl (by simp [ha])

/-! ## Unifying -/

/-- Both addresses of every pair on the stack are term cells. -/
def PairsAt (h : Heap) (stack : List (Nat × Nat)) : Prop :=
  ∀ p ∈ stack, h.TermAt p.1 ∧ h.TermAt p.2

theorem PairsAt.rebind {h' : Heap} (hr : h.Rebinds h') {stack : List (Nat × Nat)}
    (hs : h.PairsAt stack) : h'.PairsAt stack :=
  fun p hp => ⟨(hs p hp).1.rebind hr, (hs p hp).2.rebind hr⟩

theorem PairsAt.argumentPairs {first₁ first₂ n : Nat} (h₁ : h.ArgsAt first₁ n)
    (h₂ : h.ArgsAt first₂ n) : h.PairsAt (argumentPairs first₁ first₂ n) := by
  intro p hp
  obtain ⟨i, hi, rfl⟩ := List.mem_map.1 hp
  have hi' : i < n := List.mem_range.1 hi
  exact ⟨h₁ i hi', h₂ i hi'⟩

theorem ValueAt.argsAt (hc : h.Complete none) {d first : Nat} {f : Functor}
    (hv : h.ValueAt d (.struct f first)) : h.ArgsAt first f.arity := by
  obtain ⟨fa, -, hf, rfl⟩ := hv
  exact hc _ _ hf (by simp)

/-! ## One pair -/

/-- What the unifier does with the pair on top of its stack on a well-formed heap, where the two
addresses lead to `d₁` and `d₂`: it drops the pair when they are one term or two structures
sharing their arguments; replaces it by the argument pairs of two structures with one functor;
clashes at two functors that differ; or binds an unbound end to the other, downwards or to a
structure, and goes on from the heap that makes. -/
theorem unifyPairs_step (hw : h.WellFormed) {a₁ a₂ : Nat} (ht₁ : h.TermAt a₁)
    (ht₂ : h.TermAt a₂) (budget : Nat) (rest : List (Nat × Nat)) :
    ∃ d₁ d₂, h.DerefsTo a₁ d₁ ∧ h.DerefsTo a₂ d₂ ∧
      (((d₁ = d₂ ∨ ∃ f t, h.ValueAt d₁ (.struct f t) ∧ h.ValueAt d₂ (.struct f t)) ∧
          h.unifyPairs (budget + 1) ((a₁, a₂) :: rest) = h.unifyPairs budget rest) ∨
        (∃ f t₁ t₂, h.ValueAt d₁ (.struct f t₁) ∧ h.ValueAt d₂ (.struct f t₂) ∧ d₁ ≠ d₂ ∧
          t₁ ≠ t₂ ∧ h.unifyPairs (budget + 1) ((a₁, a₂) :: rest) =
            h.unifyPairs budget (argumentPairs t₁ t₂ f.arity ++ rest)) ∨
        (∃ f₁ t₁ f₂ t₂, h.ValueAt d₁ (.struct f₁ t₁) ∧ h.ValueAt d₂ (.struct f₂ t₂) ∧
          f₁ ≠ f₂ ∧ h.unifyPairs (budget + 1) ((a₁, a₂) :: rest) = (h, .clash)) ∨
        (∃ h' v w, h.Redirect h' v w ∧ h.cells[v]? = some (.ref v) ∧
          ((v = d₁ ∧ w = d₂) ∨ (v = d₂ ∧ w = d₁)) ∧ w ≠ v ∧
          (w < v ∨ ∃ fa, h.cells[w]? = some (.str fa)) ∧
          h.unifyPairs (budget + 1) ((a₁, a₂) :: rest) = h'.unifyPairs budget rest)) := by
  obtain ⟨d₁, v₁, hg₁, hto₁, hv₁⟩ := getValue_ok hw ht₁
  obtain ⟨d₂, v₂, hg₂, hto₂, hv₂⟩ := getValue_ok hw ht₂
  refine ⟨d₁, d₂, hto₁, hto₂, ?_⟩
  rw [unifyPairs]
  simp only [hg₁, hg₂]
  by_cases hd : d₁ = d₂
  · exact .inl ⟨.inl hd, by simp [hd]⟩
  simp only [hd, if_false]
  -- an unbound end is bound to the other one
  have hbind : ((∃ r, v₁ = .unbound r) ∨ ∃ r, v₂ = .unbound r) →
      ∃ h' v w, h.bind d₁ d₂ = .ok h' ∧ h.Redirect h' v w ∧ h.cells[v]? = some (.ref v) ∧
        ((v = d₁ ∧ w = d₂) ∨ (v = d₂ ∧ w = d₁)) ∧ w ≠ v ∧
        (w < v ∨ ∃ fa, h.cells[w]? = some (.str fa)) := by
    intro hfree
    obtain ⟨h', v, w, hb, hr, hvv, hvw, hdown⟩ := bind_ok hv₁ hv₂ hd hfree
    have hwv : w ≠ v := by
      rcases hvw with ⟨rfl, rfl⟩ | ⟨rfl, rfl⟩
      · exact Ne.symm hd
      · exact hd
    exact ⟨h', v, w, hb, hr, hvv, hvw, hwv, hdown⟩
  cases v₁ with
  | struct f₁ t₁ =>
      cases v₂ with
      | struct f₂ t₂ =>
          by_cases hf : f₁ = f₂
          · subst hf
            by_cases ht : t₁ = t₂
            · subst ht
              exact .inl ⟨.inr ⟨f₁, t₁, hv₁, hv₂⟩, by simp⟩
            · exact .inr (.inl ⟨f₁, t₁, t₂, hv₁, hv₂, hd, ht, by simp [ht]⟩)
          · exact .inr (.inr (.inl ⟨f₁, t₁, f₂, t₂, hv₁, hv₂, hf, by simp [hf]⟩))
      | unbound r₂ =>
          obtain ⟨h', v, w, hb, hr, hvv, hvw, hwv, hdown⟩ := hbind (.inr ⟨r₂, rfl⟩)
          exact .inr (.inr (.inr ⟨h', v, w, hr, hvv, hvw, hwv, hdown, by simp [hb]⟩))
  | unbound r₁ =>
      obtain ⟨h', v, w, hb, hr, hvv, hvw, hwv, hdown⟩ := hbind (.inl ⟨r₁, rfl⟩)
      exact .inr (.inr (.inr ⟨h', v, w, hr, hvv, hvw, hwv, hdown, by simp [hb]⟩))

theorem PairsAt.tail {p : Nat × Nat} {rest : List (Nat × Nat)} (hs : h.PairsAt (p :: rest)) :
    h.PairsAt rest :=
  fun q hq => hs q (List.mem_cons_of_mem p hq)

theorem PairsAt.decompose (hc : h.Complete none) {d₁ d₂ t₁ t₂ : Nat} {f : Functor}
    (hv₁ : h.ValueAt d₁ (.struct f t₁)) (hv₂ : h.ValueAt d₂ (.struct f t₂))
    {rest : List (Nat × Nat)} (hs : h.PairsAt rest) :
    h.PairsAt (Heap.argumentPairs t₁ t₂ f.arity ++ rest) := by
  intro q hq
  rcases List.mem_append.1 hq with hq | hq
  · exact PairsAt.argumentPairs (hv₁.argsAt hc) (hv₂.argsAt hc) q hq
  · exact hs q hq

theorem Redirect.keeps (hw : h.WellFormed) (hc : h.Complete none) {h' : Heap} {v w : Nat}
    (hr : h.Redirect h' v w) (hv : h.cells[v]? = some (.ref v)) (hwt : h.TermAt w)
    (hdown : w < v ∨ ∃ fa, h.cells[w]? = some (.str fa)) :
    h'.WellFormed ∧ h'.Complete none ∧ h.Binds h' :=
  ⟨hr.wellFormed hw hv hwt (hdown.imp Nat.le_of_lt id), hc.rebind (hr.rebinds hv), hr.binds hv⟩

theorem Redirect.termAt_target {d₁ d₂ v w : Nat} (ht₁ : h.TermAt d₁) (ht₂ : h.TermAt d₂)
    (hvw : (v = d₁ ∧ w = d₂) ∨ (v = d₂ ∧ w = d₁)) : h.TermAt w := by
  rcases hvw with ⟨-, rfl⟩ | ⟨-, rfl⟩
  · exact ht₂
  · exact ht₁

/-! ## Whole runs -/

/-- The unifier binds only variables that were unbound, keeps the heap well formed, and never
faults. The induction is on the budget, one pair at a time. -/
theorem unifyPairs_binds (budget : Nat) {stack : List (Nat × Nat)} (hw : h.WellFormed)
    (hc : h.Complete none) (hs : h.PairsAt stack) :
    h.Binds (h.unifyPairs budget stack).1 ∧ (h.unifyPairs budget stack).1.WellFormed ∧
      ∀ e, (h.unifyPairs budget stack).2 ≠ .fault e := by
  induction budget generalizing h stack with
  | zero => cases stack <;> exact ⟨.refl h, hw, by simp [unifyPairs]⟩
  | succ budget ih =>
      cases stack with
      | nil => exact ⟨.refl h, hw, by simp [unifyPairs]⟩
      | cons p rest =>
          obtain ⟨a₁, a₂⟩ := p
          have hhead := hs (a₁, a₂) List.mem_cons_self
          obtain ⟨d₁, d₂, hto₁, hto₂, hcase⟩ := unifyPairs_step hw hhead.1 hhead.2 budget rest
          rcases hcase with ⟨-, heq⟩ | ⟨f, t₁, t₂, hv₁, hv₂, -, -, heq⟩ | ⟨-, -, -, -, -, -, -, heq⟩ |
              ⟨h', v, w, hr, hvv, hvw, -, hdown, heq⟩
          · rw [heq]
            exact ih hw hc hs.tail
          · rw [heq]
            exact ih hw hc (.decompose hc hv₁ hv₂ hs.tail)
          · rw [heq]
            exact ⟨.refl h, hw, by simp⟩
          · obtain ⟨hw', hc', hb⟩ :=
              hr.keeps hw hc hvv (Redirect.termAt_target hto₁.termAt hto₂.termAt hvw) hdown
            rw [heq]
            obtain ⟨hb', hw'', hnf⟩ := ih hw' hc' (hs.tail.rebind hb.rebinds)
            exact ⟨hb.trans hb', hw'', hnf⟩

/-- On a well-formed heap whose functor cells are all complete, the unifier never faults: it
ends by unifying, by a clash or by running out of budget, and it only ever redirects references,
keeping the heap well formed. -/
theorem unifyPairs_safe (budget : Nat) {stack : List (Nat × Nat)} (hw : h.WellFormed)
    (hc : h.Complete none) (hs : h.PairsAt stack) :
    h.Rebinds (h.unifyPairs budget stack).1 ∧ (h.unifyPairs budget stack).1.WellFormed ∧
      ∀ e, (h.unifyPairs budget stack).2 ≠ .fault e := by
  obtain ⟨hb, hw', hnf⟩ := unifyPairs_binds budget hw hc hs
  exact ⟨hb.rebinds, hw', hnf⟩

end Heap

end UnifyMachine.Machine
