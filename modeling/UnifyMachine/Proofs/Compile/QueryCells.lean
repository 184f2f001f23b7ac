import UnifyMachine.Proofs.Compile.QueryMeaning

/-!
# The cells a query leaves

The code of a compound query writes every register once: a structure register when its
structure is put, a variable's register at the variable's first occurrence. Afterwards each
register holds the address of its term's cells (`Allocation.Laid`): a variable's unbound cell,
or a structure pointer to the functor cell, followed by one cell per argument, a copy of the
cell the argument's register holds.

Building an argument of a structure writes only the registers below that argument
(`Allocation.Below`) and variables met for the first time. The registers below two arguments
of one structure are disjoint, since a register that holds no variable is the argument of one
structure only; so what one argument laid out stays so while the next ones are built.
-/

namespace UnifyMachine

theorem Machine.Heap.Prefix.cell {h h' : Machine.Heap} (hp : h.Prefix h') {b : Nat}
    {c : Machine.Cell} (hb : h.cells[b]? = some c) : h'.cells[b]? = some c := by
  rw [hp.2 b (Array.getElem?_eq_some_iff.1 hb).1]
  exact hb

namespace Compile

open Machine State Heap

/-- The cells from `A` as the query lays out a register with entry `e`: for a structure, a
pointer to its functor cell followed by one cell per argument, the cell the argument's register
holds; for a variable, an unbound cell. A whole term that is a constant builds no cells. -/
def RegisterEntry.CellsAt (m : State) (A : Nat) : RegisterEntry → Prop
  | .compound name arity args =>
    m.heap.cells[A]? = some (.str (A + 1)) ∧ m.heap.cells[A + 1]? = some (.functor ⟨name, arity⟩) ∧
      ∀ i < args.length, ∃ c, m.heap.cells[A + 2 + i]? = some c ∧
        m.heap.cells[m.address (args.getD i 0)]? = some c
  | .var _ => m.heap.cells[A]? = some (.ref A)
  | .constant => False

namespace Allocation

variable {a : Allocation}

/-! ## The registers below a register -/

/-- Register `y` is reached from `x` through arguments that hold no variable. -/
inductive Below (a : Allocation) (x : Nat) : Nat → Prop
  | refl : Below a x x
  | arg {z y : Nat} : Below a x z → y ∈ a.argumentsOf z → a.isVarRegister y = false →
      Below a x y

theorem argumentsOf_of_var {r : Nat} (hr : a.isVarRegister r = true) : a.argumentsOf r = [] := by
  unfold isVarRegister at hr
  split at hr
  · rename_i name he
    simp [argumentsOf, entry?, he]
  · cases hr

theorem parent_unique (hl : a.Layout) {y z₁ z₂ : Nat} (h₁ : y ∈ a.argumentsOf z₁)
    (h₂ : y ∈ a.argumentsOf z₂) (hk : a.isVarRegister y = false) : z₁ = z₂ := by
  obtain ⟨i₁, hi₁⟩ := List.mem_iff_getElem?.1 h₁
  obtain ⟨i₂, hi₂⟩ := List.mem_iff_getElem?.1 h₂
  exact (hl.once z₁ z₂ i₁ i₂ y hi₁ hi₂ hk).1

theorem lt_of_mem_argumentsOf (hl : a.Layout) {z y : Nat} (hy : y ∈ a.argumentsOf z)
    (hk : a.isVarRegister y = false) : z < y := by
  obtain ⟨name, arity, args, he, hmem⟩ := entry_of_argumentsOf hy
  exact (hl.ordered z name arity args he).2 y hmem hk

theorem Below.le (hl : a.Layout) {x y : Nat} (h : a.Below x y) : x ≤ y := by
  induction h with
  | refl => exact Nat.le_refl x
  | arg _ hy hk ih => exact Nat.le_of_lt (Nat.lt_of_le_of_lt ih (lt_of_mem_argumentsOf hl hy hk))

theorem Below.eq_of_nil {x y : Nat} (hx : a.argumentsOf x = []) (h : a.Below x y) : y = x := by
  induction h with
  | refl => rfl
  | arg _ hy _ ih =>
      subst ih
      rw [hx] at hy
      cases hy

theorem Below.isVarRegister_eq_false {x y : Nat} (h : a.Below x y)
    (hy : a.isVarRegister y = false) : a.isVarRegister x = false := by
  cases hkx : a.isVarRegister x with
  | false => rfl
  | true =>
      rw [h.eq_of_nil (argumentsOf_of_var hkx), hkx] at hy
      cases hy

theorem Below.of_arg {x r y : Nat} (hr : r ∈ a.argumentsOf x) (hk : a.isVarRegister r = false)
    (h : a.Below r y) : a.Below x y := by
  induction h with
  | refl => exact .arg .refl hr hk
  | arg _ hy hky ih => exact .arg ih hy hky

theorem Below.cases_arg {x y : Nat} (h : a.Below x y) :
    y = x ∨ ∃ r ∈ a.argumentsOf x, a.isVarRegister r = false ∧ a.Below r y := by
  induction h with
  | refl => exact .inl rfl
  | @arg z y _ hy hk ih =>
      rcases ih with rfl | ⟨r, hr, hkr, hz⟩
      · exact .inr ⟨y, hy, hk, .refl⟩
      · exact .inr ⟨r, hr, hkr, .arg hz hy hk⟩

theorem Below.comparable (hl : a.Layout) {x₁ x₂ y : Nat} (h₁ : a.Below x₁ y)
    (h₂ : a.Below x₂ y) : a.Below x₁ x₂ ∨ a.Below x₂ x₁ := by
  revert h₂
  induction h₁ with
  | refl => exact fun h₂ => .inr h₂
  | @arg z y hz hy hk ih =>
      intro h₂
      cases h₂ with
      | refl => exact .inl (.arg hz hy hk)
      | arg hz' hy' _ =>
          rw [parent_unique hl hy' hy hk] at hz'
          exact ih hz'

theorem Below.not_sibling (hl : a.Layout) {x r s : Nat} (hr : r ∈ a.argumentsOf x)
    (hs : s ∈ a.argumentsOf x) (hkr : a.isVarRegister r = false) (hks : a.isVarRegister s = false)
    (hne : r ≠ s) (h : a.Below r s) : False := by
  cases h with
  | refl => exact hne rfl
  | arg hz hy _ =>
      rw [parent_unique hl hy hs hks] at hz
      have hrx := hz.le hl
      have hxr := lt_of_mem_argumentsOf hl hr hkr
      omega

/-- The registers below two different arguments of one structure are disjoint. -/
theorem Below.disjoint (hl : a.Layout) {x r s y : Nat} (hr : r ∈ a.argumentsOf x)
    (hs : s ∈ a.argumentsOf x) (hkr : a.isVarRegister r = false) (hks : a.isVarRegister s = false)
    (hne : r ≠ s) (h₁ : a.Below r y) (h₂ : a.Below s y) : False := by
  rcases h₁.comparable hl h₂ with h | h
  · exact Below.not_sibling hl hr hs hkr hks hne h
  · exact Below.not_sibling hl hs hr hks hkr (Ne.symm hne) h

/-- In a well-formed allocation every register that holds no variable is below `X0`. -/
theorem below_root (hw : a.WellFormed) {y : Nat} (hy : y < a.registerCount)
    (hk : a.isVarRegister y = false) : a.Below 0 y := by
  induction y using Nat.strongRecOn with
  | ind y ih =>
    rcases Nat.eq_zero_or_pos y with rfl | hpos
    · exact .refl
    · obtain ⟨p, hpy, name, arity, args, he, hmem⟩ := hw.parented y hpos hy
      have hp : a.isVarRegister p = false := isVarRegister_of_compound he
      exact .arg (ih p hpy (Nat.lt_trans hpy hy) hp) (by rw [argumentsOf_of_entry he]; exact hmem)
        hk

/-! ## Laid-out registers -/

/-- Register `x` holds the address of its cells, laid out as its entry says. -/
def Laid (a : Allocation) (m : State) (x : Nat) : Prop :=
  ∃ A e, m.registers[x]? = some (some A) ∧ a.entries[x]? = some e ∧ e.CellsAt m A

theorem Laid.frame {m m' : State} {x : Nat} (h : a.Laid m x) (hp : m.heap.Prefix m'.heap)
    (hx : m'.registers[x]? = m.registers[x]?)
    (hargs : ∀ r ∈ a.argumentsOf x, m'.registers[r]? = m.registers[r]?) : a.Laid m' x := by
  obtain ⟨A, e, hA, he, hc⟩ := h
  refine ⟨A, e, hx.trans hA, he, ?_⟩
  cases e with
  | compound name arity args =>
      obtain ⟨h₀, h₁, hi⟩ := hc
      refine ⟨hp.cell h₀, hp.cell h₁, fun i hi' => ?_⟩
      obtain ⟨c, hc₁, hc₂⟩ := hi i hi'
      have hmem : args.getD i 0 ∈ a.argumentsOf x := by
        rw [argumentsOf_of_entry he, List.getD_eq_getElem?_getD, List.getElem?_eq_getElem hi']
        exact List.getElem_mem hi'
      have haddr : m'.address (args.getD i 0) = m.address (args.getD i 0) := by
        simp only [State.address, hargs _ hmem]
      exact ⟨c, hp.cell hc₁, haddr ▸ hp.cell hc₂⟩
  | var name => exact hp.cell hc
  | constant => exact hc

theorem Laid.frame_var {m m' : State} {y : Nat} (h : a.Laid m y) (hvar : a.isVarRegister y = true)
    (hp : m.heap.Prefix m'.heap) (hy : m'.registers[y]? = m.registers[y]?) : a.Laid m' y :=
  h.frame hp hy fun z hz => by
    rw [argumentsOf_of_var hvar] at hz
    cases hz

/-- Register `y` is laid out, and the variables among its arguments are among `seen`. -/
def Done (a : Allocation) (seen : List Nat) (m : State) (y : Nat) : Prop :=
  a.Laid m y ∧ ∀ r ∈ a.argumentsOf y, a.isVarRegister r = true → r ∈ seen

theorem Done.frame {seen seen' : List Nat} {m m' : State} {P : Nat → Prop} {y : Nat}
    (hd : a.Done seen m y) (hp : m.heap.Prefix m'.heap) (hs : seen ⊆ seen') (hk : m.Kept m' P)
    (hy : ¬ P y) (hargs : ∀ r ∈ a.argumentsOf y, a.isVarRegister r = false → ¬ P r)
    (hseen : ∀ r ∈ seen, ¬ P r) : a.Done seen' m' y := by
  refine ⟨hd.1.frame hp (hk y hy) fun r hr => hk r ?_, fun r hr hkr => hs (hd.2 r hr hkr)⟩
  cases hkr : a.isVarRegister r with
  | false => exact hargs r hr hkr
  | true => exact hseen r (hd.2 r hr hkr)

end Allocation

/-! ## Laying out the registers of a query -/

namespace QueryState

open Allocation

/-- `Built`, with each variable register met holding its unbound cell. -/
structure Laying (a : Allocation) (start : State) (N B : Nat) (st : QueryState) (k : Nat)
    (D : List Nat) (m : State) : Prop where
  built : st.Built start N B k D m
  seen : ∀ r ∈ st.seen, a.isVarRegister r = true ∧ a.Laid m r

/-- The registers a building step may write: variables not met before. -/
def Unseen (a : Allocation) (seen : List Nat) (z : Nat) : Prop :=
  a.isVarRegister z = true ∧ z ∉ seen

variable {a : Allocation} {start : State} {N B : Nat}

theorem Laying.put {st : QueryState} {D : List Nat} {m : State}
    (hm : Laying a start N B st 0 D m) (f : Functor) {x : Nat} (hxN : x < N)
    (hx : a.isVarRegister x = false) :
    ∃ m', Laying a start N B (st.emit (.putStructure f x)) f.arity (x :: D) m' ∧
      m.heap.Prefix m'.heap ∧ m.Kept m' (· = x) ∧ m'.registers[x]? = some (some m.heap.top) ∧
      m'.heap.cells[m.heap.top]? = some (.str (m.heap.top + 1)) ∧
      m'.heap.cells[m.heap.top + 1]? = some (.functor f) ∧ m'.heap.top = m.heap.top + 2 := by
  obtain ⟨m', hb', hp, hkept, hreg, hheap⟩ := hm.built.put f hxN
  refine ⟨m', ⟨hb', fun r hr => ?_⟩, hp, hkept, hreg, ?_, ?_, ?_⟩
  · obtain ⟨hvar, hlaid⟩ := hm.seen r hr
    have hrx : ¬ r = x := fun h => by rw [h, hx] at hvar; cases hvar
    exact ⟨hvar, hlaid.frame_var hvar hp (hkept r hrx)⟩
  · rw [hheap, grow_cells_of_lt _ (by simp)]
    exact grow_cells_top _ _
  · rw [hheap]
    simpa using grow_cells_top (m.heap.grow (.str (m.heap.top + 1))) (.functor f)
  · rw [hheap]
    simp [Nat.add_assoc]

theorem Laying.write {st : QueryState} {k : Nat} {D : List Nat} {m : State}
    (hm : Laying a start N B st (k + 1) D m) {r : Nat} (hw : Writable a N D r) :
    ∃ D' m', Laying a start N B (writeArgument a st r) k D' m' ∧ D ⊆ D' ∧
      st.seen ⊆ (writeArgument a st r).seen ∧ m.heap.Prefix m'.heap ∧
      m.Kept m' (Unseen a st.seen) ∧ m'.heap.top = m.heap.top + 1 ∧
      (∃ c, m'.heap.cells[m.heap.top]? = some c ∧ m'.heap.cells[m'.address r]? = some c) ∧
      (a.isVarRegister r = true → r ∈ (writeArgument a st r).seen) := by
  have hb := hm.built
  have copy : r ∈ D → ∃ m', (st.emit (.setValue r)).Built start N B k D m' ∧
      m.heap.Prefix m'.heap ∧ m'.registers = m.registers ∧ m'.heap.top = m.heap.top + 1 ∧
      ∃ c, m'.heap.cells[m.heap.top]? = some c ∧ m'.heap.cells[m'.address r]? = some c := by
    intro hr
    obtain ⟨m', hrun, hready, hregs, -, A, c, hA, hc, hheap⟩ :=
      goesThrough_writeValue_eq hb.ready hr (.inl rfl)
    refine ⟨m', ⟨hb.runs_emit hrun, hready, hb.seen⟩, by rw [hheap]; exact prefix_grow _ _,
      hregs, by rw [hheap]; simp, c, by rw [hheap]; exact grow_cells_top _ _, ?_⟩
    rw [State.address_of (hregs ▸ hA), hheap]
    exact grow_cells_of_some _ hc
  have keepSeen : ∀ {m' : State}, m.heap.Prefix m'.heap → m'.registers = m.registers →
      ∀ y ∈ st.seen, a.isVarRegister y = true ∧ a.Laid m' y := by
    intro m' hp hregs y hy
    obtain ⟨hvar, hlaid⟩ := hm.seen y hy
    exact ⟨hvar, hlaid.frame_var hvar hp (by rw [hregs])⟩
  obtain ⟨hrN, hdef⟩ := hw
  unfold writeArgument
  split
  · rename_i name hentry
    have hvar : a.isVarRegister r = true := isVarRegister_of_var hentry
    split
    · -- a variable met before: its register holds its cell
      rename_i hseen
      have hrs : r ∈ st.seen := by simpa using hseen
      obtain ⟨m', hb', hp, hregs, htop, hc⟩ := copy (hb.seen r hrs)
      exact ⟨D, m', ⟨hb', keepSeen hp hregs⟩, List.Subset.refl D, List.Subset.refl _, hp,
        fun z _ => by rw [hregs], htop, hc, fun _ => hrs⟩
    · -- met for the first time: a new unbound cell on top, now in its register
      rename_i hseen
      have hrs : r ∉ st.seen := by simpa using hseen
      obtain ⟨m', hb', hp, hkept, hAr, hcell, htop⟩ := hb.fresh hrN
      refine ⟨r :: D, m', ⟨hb', fun y hy => ?_⟩,
        List.subset_cons_self r D, List.subset_cons_self r _, hp,
        fun z hz => hkept z fun h => hz ⟨h ▸ hvar, h ▸ hrs⟩, htop,
        ⟨_, hcell, by rw [State.address_of hAr]; exact hcell⟩, fun _ => List.mem_cons_self⟩
      rcases List.mem_cons.1 hy with rfl | hy
      · exact ⟨hvar, m.heap.top, .var name, hAr, hentry, hcell⟩
      · obtain ⟨hvy, hlaid⟩ := hm.seen y hy
        have hyr : ¬ y = r := fun h => hrs (h ▸ hy)
        exact ⟨hvy, hlaid.frame_var hvy hp (hkept y hyr)⟩
  · -- a structure argument was built before its parent
    rename_i hnv
    have hr : r ∈ D := hdef.resolve_right fun h => h.elim hnv
    have hvar : a.isVarRegister r = false := isVarRegister_of_not_var hnv
    obtain ⟨m', hb', hp, hregs, htop, hc⟩ := copy hr
    exact ⟨D, m', ⟨hb', keepSeen hp hregs⟩, List.Subset.refl D, List.Subset.refl _, hp,
      fun z _ => by rw [hregs], htop, hc, fun h => absurd h (by rw [hvar]; decide)⟩

theorem Laying.writeAll (regs : List Nat) :
    ∀ {st : QueryState} {D : List Nat} {m : State}, Laying a start N B st regs.length D m →
      (∀ r ∈ regs, Writable a N D r) →
      ∃ D' m', Laying a start N B (regs.foldl (writeArgument a) st) 0 D' m' ∧ D ⊆ D' ∧
        st.seen ⊆ (regs.foldl (writeArgument a) st).seen ∧ m.heap.Prefix m'.heap ∧
        m.Kept m' (Unseen a st.seen) ∧
        (∀ i < regs.length, ∃ c, m'.heap.cells[m.heap.top + i]? = some c ∧
          m'.heap.cells[m'.address (regs.getD i 0)]? = some c) ∧
        ∀ r ∈ regs, a.isVarRegister r = true → r ∈ (regs.foldl (writeArgument a) st).seen := by
  induction regs with
  | nil =>
      intro st D m hm _
      exact ⟨D, m, hm, List.Subset.refl D, List.Subset.refl _, Heap.Prefix.refl _,
        State.Kept.refl m _, fun i hi => absurd hi (Nat.not_lt_zero i), fun r hr => by cases hr⟩
  | cons r rs ih =>
      intro st D m hm hw
      obtain ⟨D₁, m₁, hm₁, hD₁, hs₁, hp₁, hk₁, htop₁, ⟨c, hc, hcr⟩, hvar₁⟩ :=
        hm.write (hw r List.mem_cons_self)
      obtain ⟨D₂, m₂, hm₂, hD₂, hs₂, hp₂, hk₂, hcells, hvar₂⟩ :=
        ih hm₁ fun y hy => (hw y (List.mem_cons_of_mem _ hy)).mono hD₁
      -- the first argument's register is not written again: a variable is now met
      have hr₂ : m₂.address r = m₁.address r := by
        have hnot : ¬ Unseen a (writeArgument a st r).seen r := fun h => h.2 (hvar₁ h.1)
        simp only [State.address, hk₂ r hnot]
      refine ⟨D₂, m₂, hm₂, List.Subset.trans hD₁ hD₂, List.Subset.trans hs₁ hs₂,
        hp₁.trans hp₂, hk₁.trans hk₂ (fun _ h => h) fun _ h => ⟨h.1, fun hz => h.2 (hs₁ hz)⟩,
        fun i hi => ?_, fun y hy hky => ?_⟩
      · cases i with
        | zero => exact ⟨c, hp₂.cell hc, by rw [List.getD_cons_zero, hr₂]; exact hp₂.cell hcr⟩
        | succ i =>
            obtain ⟨c', hc', hcr'⟩ := hcells i (by simp at hi; omega)
            refine ⟨c', ?_, by rwa [List.getD_cons_succ]⟩
            rwa [htop₁, Nat.add_assoc, Nat.add_comm 1 i] at hc'
      · rcases List.mem_cons.1 hy with rfl | hy
        · exact hs₂ (hvar₁ hky)
        · exact hvar₂ y hy hky

/-- Where building from register `x` may write: registers below `x` that hold no variable, and
variables not met before. -/
def Spans (a : Allocation) (x : Nat) (seen : List Nat) (z : Nat) : Prop :=
  (a.Below x z ∧ a.isVarRegister z = false) ∨ Unseen a seen z

/-- What building `t` in register `x` does from any machine that ran the code so far: it writes
only where `Spans a x` allows, defines `x` unless it is a variable, and every register below `x`
is `Done`. -/
def LaysOut (a : Allocation) (start : State) (N B x : Nat) (t : Term) : Prop :=
  ∀ {st : QueryState} {D : List Nat} {m : State}, Laying a start N B st 0 D m →
    ∃ D' m', Laying a start N B (buildArgument a st x t) 0 D' m' ∧ D ⊆ D' ∧
      st.seen ⊆ (buildArgument a st x t).seen ∧ m.heap.Prefix m'.heap ∧
      m.Kept m' (Spans a x st.seen) ∧ (a.isVarRegister x = false → x ∈ D') ∧
      ∀ y, a.Below x y → a.isVarRegister y = false → a.Done (buildArgument a st x t).seen m' y

theorem laysOut_constant {x : Nat} {c : String} {t : Term}
    (he : a.entries[x]? = some (.compound c 0 [])) (hxN : x < N)
    (hbuild : ∀ st, buildArgument a st x t = st.emit (.putStructure ⟨c, 0⟩ x)) :
    LaysOut a start N B x t := by
  intro st D m hm
  have hx : a.isVarRegister x = false := isVarRegister_of_compound he
  obtain ⟨m', hm', hp, hk, hreg, hstr, hfun, -⟩ := hm.put ⟨c, 0⟩ hxN hx
  rw [hbuild]
  have hnil : a.argumentsOf x = [] := argumentsOf_of_entry he
  refine ⟨x :: D, m', hm', List.subset_cons_self x D, List.Subset.refl _, hp,
    fun z hz => hk z fun h => hz (.inl ⟨h ▸ .refl, h ▸ hx⟩), fun _ => List.mem_cons_self,
    fun y hy _ => ?_⟩
  rw [hy.eq_of_nil hnil]
  refine ⟨⟨m.heap.top, _, hreg, he, hstr, hfun, fun i hi => absurd hi (Nat.not_lt_zero i)⟩,
    fun r hr => ?_⟩
  rw [hnil] at hr
  cases hr

theorem Laying.buildEach (hl : a.Layout) {x : Nat} {args : List Term} :
    ∀ {regs : List Nat}, regs.length = args.length → (∀ r ∈ regs, r ∈ a.argumentsOf x) →
      regs.Pairwise (fun r s => a.isVarRegister s = false → r < s) →
      (∀ p ∈ regs.zip args, LaysOut a start N B p.1 p.2) →
      ∀ {st : QueryState} {D : List Nat} {m : State}, Laying a start N B st 0 D m →
        ∃ D' m', Laying a start N B (buildArguments a st args regs) 0 D' m' ∧ D ⊆ D' ∧
          st.seen ⊆ (buildArguments a st args regs).seen ∧ m.heap.Prefix m'.heap ∧
          m.Kept m' (fun z => (∃ r ∈ regs, a.Below r z ∧ a.isVarRegister z = false) ∨
            Unseen a st.seen z) ∧
          (∀ r ∈ regs, a.isVarRegister r = false → r ∈ D') ∧
          ∀ r ∈ regs, ∀ y, a.Below r y → a.isVarRegister y = false →
            a.Done (buildArguments a st args regs).seen m' y := by
  induction args with
  | nil =>
      intro regs hlen _ _ _ st D m hm
      have hregs : regs = [] := List.eq_nil_of_length_eq_zero hlen
      subst hregs
      rw [buildArguments.eq_2 _ _ _ _ (by simp)]
      exact ⟨D, m, hm, List.Subset.refl D, List.Subset.refl _, Heap.Prefix.refl _,
        State.Kept.refl m _, fun _ h => absurd h List.not_mem_nil,
        fun _ h => absurd h List.not_mem_nil⟩
  | cons t ts ih =>
      intro regs hlen hx hord hlays st D m hm
      cases regs with
      | nil => cases hlen
      | cons r rs =>
          rw [List.zip_cons_cons] at hlays
          rw [buildArguments]
          rw [List.pairwise_cons] at hord
          obtain ⟨D₁, m₁, hm₁, hD₁, hs₁, hp₁, hk₁, hdef₁, hdone₁⟩ :=
            hlays (r, t) List.mem_cons_self hm
          obtain ⟨D₂, m₂, hm₂, hD₂, hs₂, hp₂, hk₂, hdef₂, hdone₂⟩ :=
            ih (Nat.succ.inj hlen) (fun s hs => hx s (List.mem_cons_of_mem _ hs)) hord.2
              (fun p hp => hlays p (List.mem_cons_of_mem _ hp)) hm₁
          -- the later arguments write nothing below `r`
          have hapart : ∀ y, a.Below r y → a.isVarRegister y = false →
              ¬ ((∃ s ∈ rs, a.Below s y ∧ a.isVarRegister y = false) ∨
                Unseen a (buildArgument a st r t).seen y) := by
            rintro y hy hky (⟨s, hs, hsy, -⟩ | ⟨hvy, -⟩)
            · have hkr := hy.isVarRegister_eq_false hky
              have hks := hsy.isVarRegister_eq_false hky
              exact Below.disjoint hl (hx r List.mem_cons_self)
                (hx s (List.mem_cons_of_mem _ hs)) hkr hks
                (Nat.ne_of_lt (hord.1 s hs hks)) hy hsy
            · rw [hvy] at hky
              cases hky
          refine ⟨D₂, m₂, hm₂, List.Subset.trans hD₁ hD₂, List.Subset.trans hs₁ hs₂,
            hp₁.trans hp₂, hk₁.trans hk₂ ?_ ?_, ?_, ?_⟩
          · rintro z (⟨hz, hkz⟩ | hz)
            · exact .inl ⟨r, List.mem_cons_self, hz, hkz⟩
            · exact .inr hz
          · rintro z (⟨s, hs, hz⟩ | ⟨hkz, hz⟩)
            · exact .inl ⟨s, List.mem_cons_of_mem _ hs, hz⟩
            · exact .inr ⟨hkz, fun h => hz (hs₁ h)⟩
          · intro s hs hks
            rcases List.mem_cons.1 hs with rfl | hs
            · exact hD₂ (hdef₁ hks)
            · exact hdef₂ s hs hks
          · intro s hs y hy hky
            rcases List.mem_cons.1 hs with rfl | hs
            · refine (hdone₁ y hy hky).frame hp₂ hs₂ hk₂ (hapart y hy hky) (fun z hz hkz => ?_)
                fun z hz h => h.elim (fun hb => ?_) fun hu => hu.2 hz
              · exact hapart z (.arg hy hz hkz) hkz
              · obtain ⟨_, _, _, hkz⟩ := hb
                rw [(hm₁.seen z hz).1] at hkz
                cases hkz
            · exact hdone₂ s hs y hy hky

/-- Building an argument held as `Allocation.Holds` says lays out every register below it. The
induction follows the term. -/
theorem laysOut (hl : a.Layout) (hN : a.registerCount ≤ N) {lo x : Nat} {t : Term}
    (hh : a.Holds lo x t) : LaysOut a start N B x t := by
  induction hh with
  | @var x name he =>
      intro st D m hm
      have hx : a.isVarRegister x = true := isVarRegister_of_var he
      rw [buildArgument]
      refine ⟨D, m, hm, List.Subset.refl D, List.Subset.refl _, Heap.Prefix.refl _,
        State.Kept.refl m _, fun h => absurd h (by rw [hx]; decide),
        fun y hy hky => absurd (hy.isVarRegister_eq_false hky) (by rw [hx]; decide)⟩
  | atom he | number he =>
      exact laysOut_constant he (Nat.lt_of_lt_of_le (lt_of_entry he) hN) fun _ => by
        rw [buildArgument]
  | @compound x name args regs he hlen _ hargs ih =>
      intro st D m hm
      have hx : a.isVarRegister x = false := isVarRegister_of_compound he
      have hxN : x < N := Nat.lt_of_lt_of_le (lt_of_entry he) hN
      have hregs : a.argumentsOf x = regs := argumentsOf_of_entry he
      rw [buildArgument, buildCompound, hregs]
      obtain ⟨D₁, m₁, hm₁, hD₁, hs₁, hp₁, hk₁, hdef₁, hdone₁⟩ :=
        hm.buildEach hl hlen (fun r hr => hregs ▸ hr) (hl.ordered x name _ regs he).1 ih
      obtain ⟨m₂, hm₂, hp₂, hk₂, hreg₂, hstr₂, hfun₂, htop₂⟩ :=
        hm₁.put ⟨name, args.length⟩ hxN hx
      have hm₂ : Laying a start N B ((buildArguments a st args regs).emit
          (.putStructure ⟨name, args.length⟩ x)) regs.length (x :: D₁) m₂ := by
        rw [hlen]
        exact hm₂
      have hw : ∀ r ∈ regs, Writable a N (x :: D₁) r := by
        intro r hr
        obtain ⟨u, hru⟩ := exists_zip_of_mem hlen hr
        have hrh := hargs (r, u) hru
        exact .of_holds hrh hN fun hu =>
          List.mem_cons_of_mem _ (hdef₁ r hr (hrh.isVarRegister.trans hu))
      obtain ⟨D₃, m₃, hm₃, hD₃, hs₃, hp₃, hk₃, hcells, hvar₃⟩ := hm₂.writeAll regs hw
      -- the registers below an argument are neither `x` nor variables
      have hbelow : ∀ r ∈ regs, ∀ y, a.Below r y → a.isVarRegister y = false → x < y := by
        intro r hr y hy hky
        exact Nat.lt_of_lt_of_le
          (lt_of_mem_argumentsOf hl (hregs ▸ hr) (hy.isVarRegister_eq_false hky)) (hy.le hl)
      have hnotUnseen : ∀ {seen : List Nat} y, a.isVarRegister y = false → ¬ Unseen a seen y :=
        fun y hky h => by rw [h.1] at hky; cases hky
      have hkr : ∀ r ∈ regs, ∀ y, a.Below r y → a.isVarRegister y = false →
          a.isVarRegister r = false := fun _ _ _ hy hky => hy.isVarRegister_eq_false hky
      have hk₁₂ : m.Kept m₂ (fun z => ((∃ r ∈ regs, a.Below r z ∧ a.isVarRegister z = false) ∨
          Unseen a st.seen z) ∨ z = x) :=
        hk₁.trans hk₂ (fun _ h => .inl h) fun _ h => .inr h
      have hk₂₃ : m₁.Kept m₃ (fun z => z = x ∨ Unseen a (buildArguments a st args regs).seen z) :=
        hk₂.trans hk₃ (fun _ h => .inl h) fun _ h => .inr h
      refine ⟨D₃, m₃, hm₃, fun y hy => hD₃ (List.mem_cons_of_mem _ (hD₁ hy)),
        List.Subset.trans hs₁ hs₃, (hp₁.trans hp₂).trans hp₃,
        hk₁₂.trans hk₃ (fun z h => ?_) (fun z h => .inr ⟨h.1, fun hz => h.2 (hs₁ hz)⟩),
        fun _ => hD₃ List.mem_cons_self, fun y hy hky => ?_⟩
      · rcases h with (⟨r, hr, hz, hkz⟩ | hz) | rfl
        · exact .inl ⟨.of_arg (hregs ▸ hr) (hkr r hr z hz hkz) hz, hkz⟩
        · exact .inr hz
        · exact .inl ⟨.refl, hx⟩
      rcases hy.cases_arg with rfl | ⟨r, hr, -, hry⟩
      · -- the structure: its pointer and functor, then one cell per argument
        have hreg₃ : m₃.registers[y]? = some (some m₁.heap.top) := by
          rw [hk₃ y (hnotUnseen y hx)]
          exact hreg₂
        refine ⟨⟨m₁.heap.top, _, hreg₃, he, hp₃.cell hstr₂, hp₃.cell hfun₂, fun i hi => ?_⟩,
          fun r hr hkr => hvar₃ r (hregs ▸ hr) hkr⟩
        obtain ⟨c, hc, hcr⟩ := hcells i (hlen ▸ hi)
        rw [htop₂] at hc
        exact ⟨c, hc, hcr⟩
      · -- a register below an argument: neither the structure nor a variable is written
        have hr' : r ∈ regs := hregs ▸ hr
        refine (hdone₁ r hr' y hry hky).frame (hp₂.trans hp₃) hs₃ hk₂₃ ?_ (fun z hz hkz => ?_)
          fun z hz => ?_
        · rintro (h | h)
          · exact absurd h (Nat.ne_of_gt (hbelow r hr' y hry hky))
          · exact hnotUnseen y hky h
        · rintro (h | h)
          · exact absurd h (Nat.ne_of_gt (hbelow r hr' z (.arg hry hz hkz) hkz))
          · exact hnotUnseen z hkz h
        · rintro (h | h)
          · rw [← h, (hm₁.seen z hz).1] at hx
            cases hx
          · exact h.2 hz

end QueryState

open Allocation in
/-- The code of a compound query, on a ready machine with enough registers, goes through and
leaves every register laid out. -/
theorem compileQuery_laysOut (name : String) (args : List Term) {N B : Nat}
    (hN : (compileQuery (.compound name args)).registerCount ≤ N) {start : State} {mode : Mode}
    (hs : start.Ready N B mode 0 []) :
    ∃ m D, start.RunsThrough (compileQuery (.compound name args)).code m ∧
      m.Ready N B .write 0 D ∧
      ∀ y < (allocate (.compound name args)).registerCount,
        (allocate (.compound name args)).Laid m y := by
  have hm : QueryState.Laying (allocate (.compound name args)) start N B ⟨#[], []⟩ 0 [] start :=
    ⟨⟨.nil _, hs.idle .write, by simp⟩, by simp⟩
  obtain ⟨D, m, hm', -, -, -, -, -, hdone⟩ :=
    QueryState.laysOut (allocate_layout _) hN (allocate_holds name args) hm
  rw [buildArgument] at hm' hdone
  refine ⟨m, D, hm'.built.runs, hm'.built.ready, fun y hy => ?_⟩
  have hw := allocate_wellFormed (.compound name args)
  cases hky : (allocate (.compound name args)).isVarRegister y with
  | false => exact (hdone y (below_root hw hy hky) hky).1
  | true =>
      -- a variable's register is an argument of a structure, whose arguments were met
      have hy0 : 0 < y := by
        rcases Nat.eq_zero_or_pos y with rfl | hpos
        · rw [(allocate_holds name args).isVarRegister] at hky
          cases hky
        · exact hpos
      obtain ⟨p, hpy, n, k, rs, he, hmem⟩ := hw.parented y hy0 hy
      have hkp : (allocate (.compound name args)).isVarRegister p = false :=
        isVarRegister_of_compound he
      have hseen := (hdone p (below_root hw (Nat.lt_trans hpy hy) hkp) hkp).2 y
        (by rw [argumentsOf_of_entry he]; exact hmem) hky
      exact (hm'.seen y hseen).2

end Compile

end UnifyMachine
