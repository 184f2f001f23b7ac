import UnifyMachine.Proofs.Compile.Building
import UnifyMachine.Proofs.Compile.Layout
import UnifyMachine.Proofs.Machine.Models

/-!
# What the code of a query builds

The code of a compound query leaves in `X0` the address of a term that every model of the heap
gives the query's tree, with each variable read at the address its register holds; and those
registers hold distinct unbound variables, so that any trees for the variables extend to a model.

The proof follows `Built.build`, one argument at a time. A structure's arguments are built
first, each leaving its register holding its term (`Compile.Denotes`). Building an argument
writes only registers of structures at or above its own and variables met for the first time;
the arguments of a structure that are not variables come in ascending order, so building one
leaves the registers of those before it as they were. The structure is then put and its
argument cells copied from those registers, or, for a variable met for the first time, created.
-/

namespace UnifyMachine

namespace Machine

/-- The address register `r` holds; `0` when it holds none. -/
def State.address (m : State) (r : Nat) : Nat :=
  ((m.registers[r]?).bind id).getD 0

theorem State.address_of {m : State} {r a : Nat} (h : m.registers[r]? = some (some a)) :
    m.address r = a := by
  simp [address, h]

/-- The registers outside `P` are as they were. -/
def State.Kept (m m' : State) (P : Nat → Prop) : Prop :=
  ∀ z, ¬ P z → m'.registers[z]? = m.registers[z]?

theorem State.Kept.refl (m : State) (P : Nat → Prop) : m.Kept m P := fun _ _ => rfl

theorem State.Kept.trans {m₁ m₂ m₃ : State} {P Q R : Nat → Prop} (h₁₂ : m₁.Kept m₂ P)
    (h₂₃ : m₂.Kept m₃ Q) (hP : ∀ z, P z → R z) (hQ : ∀ z, Q z → R z) : m₁.Kept m₃ R :=
  fun z hz => (h₂₃ z fun h => hz (hQ z h)).trans (h₁₂ z fun h => hz (hP z h))

theorem State.Kept.modify {m m' : State} {x a : Nat}
    (h : m'.registers = m.registers.modify x fun _ => some a) : m.Kept m' (· = x) := by
  intro z hz
  rw [h, Array.getElem?_modify, if_neg (Ne.symm hz)]

theorem State.register_of_modify {m m' : State} {x v : Nat}
    (h : m'.registers = m.registers.modify x fun _ => some v) (hx : x < m.registers.size) :
    m'.registers[x]? = some (some v) := by
  rw [h, Array.getElem?_modify, if_pos rfl, Array.getElem?_eq_getElem hx]
  rfl

/-- The registers of `seen` hold distinct unbound variables. -/
def State.VarCells (m : State) (seen : List Nat) : Prop :=
  (∀ r ∈ seen, ∃ A, m.registers[r]? = some (some A) ∧ m.heap.cells[A]? = some (.ref A)) ∧
    ∀ r₁ ∈ seen, ∀ r₂ ∈ seen, m.address r₁ = m.address r₂ → r₁ = r₂

theorem State.VarCells.frame {seen : List Nat} {m m' : State} (hv : m.VarCells seen)
    (hp : m.heap.Prefix m'.heap) (hr : ∀ r ∈ seen, m'.registers[r]? = m.registers[r]?) :
    m'.VarCells seen := by
  refine ⟨fun r hr' => ?_, fun r₁ h₁ r₂ h₂ heq => hv.2 r₁ h₁ r₂ h₂ ?_⟩
  · obtain ⟨A, hA, hc⟩ := hv.1 r hr'
    refine ⟨A, by rw [hr r hr']; exact hA, ?_⟩
    rw [hp.2 A (Array.getElem?_eq_some_iff.1 hc).1]
    exact hc
  · simpa only [State.address, hr r₁ h₁, hr r₂ h₂] using heq

theorem State.VarCells.cons_top {seen : List Nat} {m m' : State} {r : Nat} (hv : m.VarCells seen)
    (hp : m.heap.Prefix m'.heap) (hold : ∀ y ∈ seen, m'.registers[y]? = m.registers[y]?)
    (hr : m'.registers[r]? = some (some m.heap.top))
    (hcell : m'.heap.cells[m.heap.top]? = some (.ref m.heap.top)) : m'.VarCells (r :: seen) := by
  have hcells := hv.frame hp hold
  have below : ∀ y ∈ seen, m'.address y < m.heap.top := by
    intro y hy
    obtain ⟨A, hA, hc⟩ := hv.1 y hy
    rw [State.address_of (by rw [hold y hy]; exact hA)]
    exact (Array.getElem?_eq_some_iff.1 hc).1
  refine ⟨fun y hy => ?_, fun y₁ h₁ y₂ h₂ heq => ?_⟩
  · rcases List.mem_cons.1 hy with rfl | hy
    · exact ⟨m.heap.top, hr, hcell⟩
    · exact hcells.1 y hy
  · rcases List.mem_cons.1 h₁ with e₁ | h₁ <;> rcases List.mem_cons.1 h₂ with e₂ | h₂
    · rw [e₁, e₂]
    · rw [e₁, State.address_of hr] at heq
      exact absurd heq.symm (Nat.ne_of_lt (below _ h₂))
    · rw [e₂, State.address_of hr] at heq
      exact absurd heq (Nat.ne_of_lt (below _ h₁))
    · exact hcells.2 y₁ h₁ y₂ h₂ heq

theorem State.goesThrough_writeValue_models {N B k : Nat} {D : List Nat} {m : State}
    (hr : m.Ready N B .write (k + 1) D) {x A : Nat} (hx : x ∈ D)
    (hA : m.registers[x]? = some (some A)) {i : Instruction}
    (hi : i = .setValue x ∨ i = .unifyValue x) :
    m.GoesThrough [i] fun m' => m'.Ready N B .write k D ∧ m'.registers = m.registers ∧
      (∀ c, m.cursor = some c → m'.cursor = c.advance) ∧ ∃ cell, m'.heap = m.heap.grow cell ∧
        ∀ {V : Type} (M : Nat → Tree V), m'.heap.Model M ↔ m.heap.Model M ∧ M m.heap.top = M A := by
  obtain ⟨m', hrun, hready, hregs, hcur, A', cell, hA', hcell, hheap⟩ :=
    State.goesThrough_writeValue_eq hr hx hi
  rw [hA] at hA'
  cases hA'
  have hterm : cell.IsTerm := by
    obtain ⟨c, hc, hct⟩ := hr.isOpen.sound.registers x A hA
    rw [hc] at hcell
    cases hcell
    exact hct
  refine ⟨m', hrun, hready, hregs, hcur, cell, hheap, fun M => ?_⟩
  rw [hheap]
  exact Heap.model_grow_copy hr.isOpen.sound.heap_wf hcell hterm

end Machine

namespace Compile

open Machine State Heap

namespace Allocation

variable (a : Allocation)

/-- The trees a model gives the variables of `a`, at the addresses their registers hold in `m`. -/
def varTrees {V : Type} (m : State) (M : Nat → Tree V) : String → Tree V :=
  fun name => M (m.address ((a.varRegister? name).getD 0))

/-- In every model of the heap of `m`, address `A` stands for the tree of `t`, whose variables
are read at their registers; those registers are all in `seen`. -/
def Denotes (seen : List Nat) (m : State) (A : Nat) (t : Term) : Prop :=
  (∀ name ∈ t.variableNames, (a.varRegister? name).getD 0 ∈ seen) ∧
    ∀ {V : Type} (M : Nat → Tree V), m.heap.Model M → M A = t.tree (a.varTrees m M)

variable {a}

theorem Denotes.frame {seen seen' : List Nat} {m m' : State} {A : Nat} {t : Term}
    (hd : a.Denotes seen m A t) (hp : m.heap.Prefix m'.heap)
    (hs : seen ⊆ seen') (hr : ∀ r ∈ seen, m'.registers[r]? = m.registers[r]?) :
    a.Denotes seen' m' A t := by
  refine ⟨fun name hn => hs (hd.1 name hn), fun M hM => ?_⟩
  rw [hd.2 M (hM.of_prefix hp)]
  apply Term.tree_congr
  intro name hn
  simp only [varTrees, State.address, hr _ (hd.1 name hn)]

/-- Register `r` can be written as the argument `t`: it is the register of the variable `t`, or
it holds no variable and holds the address of `t`'s term. -/
def ArgReady (a : Allocation) (seen : List Nat) (m : State) (r : Nat) (t : Term) : Prop :=
  (∃ name, t = .var name ∧ a.entries[r]? = some (.var name)) ∨
    (a.isVarRegister r = false ∧ ∃ A, m.registers[r]? = some (some A) ∧ a.Denotes seen m A t)

theorem ArgReady.frame {seen seen' : List Nat} {m m' : State} {r : Nat} {t : Term}
    {P : Nat → Prop} (hr : ArgReady a seen m r t) (hp : m.heap.Prefix m'.heap) (hs : seen ⊆ seen') (hk : m.Kept m' P)
    (hseen : ∀ y ∈ seen, ¬ P y) (hspared : a.isVarRegister r = false → ¬ P r) :
    ArgReady a seen' m' r t := by
  rcases hr with hvar | ⟨hkind, A, hA, hd⟩
  · exact .inl hvar
  · refine .inr ⟨hkind, A, ?_, hd.frame hp hs fun y hy => hk y (hseen y hy)⟩
    rw [hk r (hspared hkind)]
    exact hA

end Allocation

namespace QueryState

open Allocation

/-- The registers that building from register `lo` on may write: those of structures from `lo`
up, and those of variables not in `seen`. -/
def Writes (a : Allocation) (lo : Nat) (seen : List Nat) (z : Nat) : Prop :=
  (lo ≤ z ∧ a.isVarRegister z = false) ∨ (a.isVarRegister z = true ∧ z ∉ seen)

theorem Writes.not_seen {a : Allocation} {lo : Nat} {seen : List Nat} {y : Nat}
    (hy : a.isVarRegister y = true) (hs : y ∈ seen) : ¬ Writes a lo seen y := by
  rintro (⟨-, hk⟩ | ⟨-, hn⟩)
  · rw [hy] at hk
    cases hk
  · exact hn hs

theorem Writes.not_below {a : Allocation} {lo : Nat} {seen : List Nat} {r : Nat}
    (hr : a.isVarRegister r = false) (hlt : r < lo) : ¬ Writes a lo seen r := by
  rintro (⟨hle, -⟩ | ⟨hk, -⟩)
  · exact absurd hle (Nat.not_le_of_lt hlt)
  · rw [hr] at hk
    cases hk

/-- How a machine and the code emitted move on together: more registers defined, the heap
grown, only the registers of `P` written, and more variables met. -/
structure Advance (st st' : QueryState) (D D' : List Nat) (m m' : State) (P : Nat → Prop) :
    Prop where
  defined : D ⊆ D'
  grows : m.heap.Prefix m'.heap
  kept : m.Kept m' P
  seen : st.seen ⊆ st'.seen

theorem Advance.refl (st : QueryState) (D : List Nat) (m : State) (P : Nat → Prop) :
    Advance st st D D m m P :=
  ⟨List.Subset.refl D, Heap.Prefix.refl _, State.Kept.refl m P, List.Subset.refl _⟩

theorem Advance.trans {st₁ st₂ st₃ : QueryState} {D₁ D₂ D₃ : List Nat} {m₁ m₂ m₃ : State}
    {P Q R : Nat → Prop} (h₁₂ : Advance st₁ st₂ D₁ D₂ m₁ m₂ P)
    (h₂₃ : Advance st₂ st₃ D₂ D₃ m₂ m₃ Q) (hP : ∀ z, P z → R z) (hQ : ∀ z, Q z → R z) :
    Advance st₁ st₃ D₁ D₃ m₁ m₃ R :=
  ⟨List.Subset.trans h₁₂.defined h₂₃.defined, h₁₂.grows.trans h₂₃.grows,
    h₁₂.kept.trans h₂₃.kept hP hQ, List.Subset.trans h₁₂.seen h₂₃.seen⟩

/-- `Built`, with the variable registers met holding distinct unbound variables. -/
structure Meant (a : Allocation) (start : State) (N B : Nat) (st : QueryState) (k : Nat)
    (D : List Nat) (m : State) : Prop where
  built : st.Built start N B k D m
  vars : ∀ r ∈ st.seen, a.isVarRegister r = true
  cells : m.VarCells st.seen

variable {a : Allocation} {start : State} {N B : Nat}

theorem Built.copy {st : QueryState} {k : Nat} {D : List Nat} {m : State}
    (hb : st.Built start N B (k + 1) D m) {r A : Nat} (hA : m.registers[r]? = some (some A)) :
    ∃ m', (st.emit (.setValue r)).Built start N B k (r :: D) m' ∧
      m'.registers = m.registers ∧ m.heap.Prefix m'.heap ∧ m'.heap.top = m.heap.top + 1 ∧
      ∀ {V : Type} (M : Nat → Tree V), m'.heap.Model M → m.heap.Model M ∧ M m.heap.top = M A := by
  have hready : m.Ready N B .write (k + 1) (r :: D) :=
    ⟨hb.ready.isOpen, hb.ready.awaits, fun y hy => by
      rcases List.mem_cons.1 hy with rfl | hy
      · exact ⟨A, hA⟩
      · exact hb.ready.defined y hy⟩
  obtain ⟨m', hrun, hready', hregs, -, cell, hheap, hmodel⟩ :=
    goesThrough_writeValue_models hready List.mem_cons_self hA (.inl rfl)
  exact ⟨m', ⟨hb.runs_emit hrun, hready', fun y hy => List.mem_cons_of_mem _ (hb.seen y hy)⟩,
    hregs, by rw [hheap]; exact prefix_grow _ _, by rw [hheap]; simp, fun M hM => (hmodel M).1 hM⟩

theorem Built.put {st : QueryState} {D : List Nat} {m : State} (hb : st.Built start N B 0 D m)
    (f : Functor) {x : Nat} (hxN : x < N) :
    ∃ m', (st.emit (.putStructure f x)).Built start N B f.arity (x :: D) m' ∧
      m.heap.Prefix m'.heap ∧ m.Kept m' (· = x) ∧ m'.registers[x]? = some (some m.heap.top) ∧
      m'.heap = (m.heap.grow (.str (m.heap.top + 1))).grow (.functor f) := by
  obtain ⟨m', hrun, hready, hheap, hregs⟩ := goesThrough_putStructure_eq hb.ready f hxN
  refine ⟨m', ⟨hb.runs_emit hrun, hready, fun y hy => List.mem_cons_of_mem _ (hb.seen y hy)⟩,
    ?_, State.Kept.modify hregs, State.register_of_modify hregs (hb.ready.isOpen.size ▸ hxN),
    hheap⟩
  rw [hheap]
  exact (prefix_grow _ _).trans (prefix_grow _ _)

theorem Built.fresh {st : QueryState} {k : Nat} {D : List Nat} {m : State}
    (hb : st.Built start N B (k + 1) D m) {r : Nat} (hrN : r < N) :
    ∃ m', ({ st.emit (.setVariable r) with seen := r :: st.seen } : QueryState).Built start N B k
        (r :: D) m' ∧
      m.heap.Prefix m'.heap ∧ m.Kept m' (· = r) ∧ m'.registers[r]? = some (some m.heap.top) ∧
      m'.heap.cells[m.heap.top]? = some (.ref m.heap.top) ∧ m'.heap.top = m.heap.top + 1 := by
  obtain ⟨m', hrun, hready, hheap, hregs, -⟩ :=
    goesThrough_writeVariable_eq hb.ready hrN (.inl rfl)
  refine ⟨m', ⟨hb.runs_emit hrun, hready, fun y hy => ?_⟩, by rw [hheap]; exact prefix_grow _ _,
    State.Kept.modify hregs, State.register_of_modify hregs (hb.ready.isOpen.size ▸ hrN),
    by rw [hheap]; exact grow_cells_top _ _, by rw [hheap]; simp⟩
  rcases List.mem_cons.1 hy with rfl | hy
  · exact List.mem_cons_self
  · exact List.mem_cons_of_mem _ (hb.seen y hy)

/-- Writing one argument puts on top a cell that denotes the argument, and writes at most the
register of a variable met for the first time. -/
theorem Meant.write (hl : a.Layout) {st : QueryState} {k : Nat} {D : List Nat} {m : State}
    (hm : Meant a start N B st (k + 1) D m) {r : Nat} {t : Term} (hrN : r < N)
    (hr : ArgReady a st.seen m r t) :
    ∃ D' m', Meant a start N B (writeArgument a st r) k D' m' ∧
      Advance st (writeArgument a st r) D D' m m'
        (fun z => a.isVarRegister z = true ∧ z ∉ st.seen) ∧
      m'.heap.top = m.heap.top + 1 ∧ a.Denotes (writeArgument a st r).seen m' m.heap.top t := by
  have hb := hm.built
  unfold writeArgument
  split
  · rename_i name' hentry
    -- a variable argument: its register holds the variable
    have hentry' : a.entries[r]? = some (.var name') := hentry
    obtain ⟨name, rfl, hname⟩ : ∃ name, t = .var name ∧ a.entries[r]? = some (.var name) := by
      rcases hr with hvar | ⟨hkind, -⟩
      · exact hvar
      · simp [Allocation.isVarRegister_of_var hentry'] at hkind
    have hreg : (a.varRegister? name).getD 0 = r := by
      rw [hl.varsOwned r name hname]
      rfl
    split
    · -- met before: the cell on top refers to the variable's cell
      rename_i hseen
      have hrs : r ∈ st.seen := by simpa using hseen
      obtain ⟨A, hA, hcA⟩ := hm.cells.1 r hrs
      obtain ⟨m', hb', hregs, hp, htop, hmod⟩ := hb.copy hA
      refine ⟨r :: D, m', ⟨hb', hm.vars, hm.cells.frame hp fun y _ => by rw [hregs]⟩,
        ⟨List.subset_cons_self r D, hp, fun z _ => by rw [hregs], List.Subset.refl _⟩, htop,
        fun n hn => ?_, fun M hM => ?_⟩
      · simp only [Term.variableNames, Term.gatherVars, List.contains_nil, Bool.false_eq_true,
          if_false, List.nil_append, List.mem_singleton] at hn
        subst hn
        show (a.varRegister? n).getD 0 ∈ (st.emit (.setValue r)).seen
        rw [hreg]
        exact hrs
      · obtain ⟨-, htopA⟩ := hmod M hM
        simp only [Term.tree, varTrees, hreg, State.address_of (hregs ▸ hA)]
        exact htopA
    · -- met for the first time: a new unbound variable on top, now in its register
      rename_i hseen
      have hrs : r ∉ st.seen := by simpa using hseen
      obtain ⟨m', hb', hp, hkept, hAr, hcell, htop⟩ := hb.fresh hrN
      refine ⟨r :: D, m', ⟨hb', ?_, ?_⟩,
        ⟨List.subset_cons_self r D, hp, fun z hz => hkept z fun h => hz ⟨h ▸ ?_, h ▸ hrs⟩,
          List.subset_cons_self r _⟩, htop, fun n hn => ?_, fun M hM => ?_⟩
      · intro y hy
        rcases List.mem_cons.1 hy with rfl | hy
        · exact Allocation.isVarRegister_of_var hname
        · exact hm.vars y hy
      · exact hm.cells.cons_top hp (fun y hy => hkept y fun h => hrs (h ▸ hy)) hAr hcell
      · exact Allocation.isVarRegister_of_var hname
      · simp only [Term.variableNames, Term.gatherVars, List.contains_nil, Bool.false_eq_true,
          if_false, List.nil_append, List.mem_singleton] at hn
        subst hn
        rw [hreg]
        exact List.mem_cons_self
      · simp only [Term.tree, varTrees, hreg, State.address_of hAr]
  · -- a structure argument: its register holds the structure's address
    rename_i hnv
    obtain ⟨hkind, A, hA, hd⟩ : a.isVarRegister r = false ∧
        ∃ A, m.registers[r]? = some (some A) ∧ a.Denotes st.seen m A t := by
      rcases hr with ⟨name, -, hname⟩ | hnon
      · exact absurd hname (hnv name)
      · exact hnon
    obtain ⟨m', hb', hregs, hp, htop, hmod⟩ := hb.copy hA
    refine ⟨r :: D, m', ⟨hb', hm.vars, hm.cells.frame hp fun y _ => by rw [hregs]⟩,
      ⟨List.subset_cons_self r D, hp, fun z _ => by rw [hregs], List.Subset.refl _⟩, htop,
      hd.1, fun M hM => ?_⟩
    obtain ⟨hM', htopA⟩ := hmod M hM
    rw [htopA, hd.2 M hM']
    apply Term.tree_congr
    intro n _
    simp only [varTrees, State.address, hregs]

theorem Meant.writeAll (hl : a.Layout) :
    ∀ (regs : List Nat) (args : List Term) {st : QueryState} {D : List Nat} {m : State},
      regs.length = args.length → Meant a start N B st regs.length D m →
      (∀ p ∈ regs.zip args, p.1 < N ∧ ArgReady a st.seen m p.1 p.2) →
      ∃ D' m', Meant a start N B (regs.foldl (writeArgument a) st) 0 D' m' ∧
        Advance st (regs.foldl (writeArgument a) st) D D' m m'
          (fun z => a.isVarRegister z = true ∧ z ∉ st.seen) ∧
        m'.heap.top = m.heap.top + regs.length ∧
        ∀ i (hi : i < args.length),
          a.Denotes (regs.foldl (writeArgument a) st).seen m' (m.heap.top + i) args[i]
  | [], [], st, D, m, _, hm, _ =>
      ⟨D, m, hm, Advance.refl st D m _, rfl, fun i hi => absurd hi (Nat.not_lt_zero i)⟩
  | [], _ :: _, _, _, _, hlen, _, _ => absurd hlen (by simp)
  | _ :: _, [], _, _, _, hlen, _, _ => absurd hlen (by simp)
  | r :: rs, t :: ts, st, D, m, hlen, hm, hready => by
      rw [List.zip_cons_cons] at hready
      obtain ⟨hrN, hr⟩ := hready (r, t) List.mem_cons_self
      obtain ⟨D₁, m₁, hm₁, ha₁, htop₁, hd₁⟩ := hm.write hl hrN hr
      -- the registers of the later arguments are not the new variable's
      have hready₁ : ∀ p ∈ rs.zip ts, p.1 < N ∧ ArgReady a (writeArgument a st r).seen m₁ p.1 p.2 :=
        fun p hp =>
          have hp' := hready p (List.mem_cons_of_mem _ hp)
          ⟨hp'.1, hp'.2.frame ha₁.grows ha₁.seen ha₁.kept (fun y hy h => h.2 hy)
            fun hk h => by rw [hk] at h; cases h.1⟩
      obtain ⟨D₂, m₂, hm₂, ha₂, htop₂, hd₂⟩ := Meant.writeAll hl rs ts (Nat.succ.inj hlen) hm₁ hready₁
      refine ⟨D₂, m₂, hm₂, ha₁.trans ha₂ (fun _ h => h) fun z h => ⟨h.1, fun hz => h.2 (ha₁.seen hz)⟩,
        by rw [htop₂, htop₁, List.length_cons, Nat.add_assoc, Nat.add_comm 1], fun i hi => ?_⟩
      cases i with
      | zero =>
          exact hd₁.frame ha₂.grows ha₂.seen fun y hy => ha₂.kept y fun h => h.2 hy
      | succ i =>
          have hd := hd₂ i (Nat.lt_of_succ_lt_succ hi)
          rwa [htop₁, Nat.add_assoc, Nat.add_comm 1] at hd

theorem Meant.put {st : QueryState} {D : List Nat} {m : State} (hm : Meant a start N B st 0 D m)
    (f : Functor) {x : Nat} (hxN : x < N) (hx : a.isVarRegister x = false) :
    ∃ m', Meant a start N B (st.emit (.putStructure f x)) f.arity (x :: D) m' ∧
      Advance st (st.emit (.putStructure f x)) D (x :: D) m m' (· = x) ∧
      m'.heap.top = m.heap.top + 2 ∧
      m'.registers[x]? = some (some m.heap.top) ∧
      ∀ {V : Type} (M : Nat → Tree V), m'.heap.Model M →
        m.heap.Model M ∧ M m.heap.top = Tree.node f fun i => M (m.heap.top + 2 + i) := by
  obtain ⟨m', hb', hp, hkept, hreg, hheap⟩ := hm.built.put f hxN
  -- the variables met keep their registers: none is the structure's
  have hseen : ∀ y ∈ st.seen, m'.registers[y]? = m.registers[y]? := fun y hy =>
    hkept y fun h => by
      have hvar := hm.vars y hy
      rw [h, hx] at hvar
      cases hvar
  refine ⟨m', ⟨hb', hm.vars, hm.cells.frame hp hseen⟩,
    ⟨List.subset_cons_self x D, hp, hkept, List.Subset.refl _⟩,
    by rw [hheap]; simp [Nat.add_assoc], hreg, fun M hM => ?_⟩
  rw [hheap] at hM
  exact (model_newStructure hm.built.ready.isOpen.sound.heap_wf f).1 hM

/-- What building `t` in register `x` does from any machine that ran the code so far: it writes
only registers `Writes a lo` allows, and leaves `x` ready to be written as the argument `t`. -/
def Builds (a : Allocation) (start : State) (N B lo x : Nat) (t : Term) : Prop :=
  ∀ {st : QueryState} {D : List Nat} {m : State}, Meant a start N B st 0 D m →
    ∃ D' m', Meant a start N B (buildArgument a st x t) 0 D' m' ∧
      Advance st (buildArgument a st x t) D D' m m' (Writes a lo st.seen) ∧
      ArgReady a (buildArgument a st x t).seen m' x t

theorem builds_constant {lo x : Nat} {c : String} {t : Term}
    (he : a.entries[x]? = some (.compound c 0 [])) (hxN : x < N) (hlo : lo ≤ x)
    (hvars : t.variableNames = []) (htree : ∀ {V : Type} (σ : String → Tree V),
      t.tree σ = Tree.node ⟨c, 0⟩ fun _ => Tree.empty)
    (hbuild : ∀ st, buildArgument a st x t = st.emit (.putStructure ⟨c, 0⟩ x)) :
    Builds a start N B lo x t := by
  intro st D m hm
  have hx : a.isVarRegister x = false := Allocation.isVarRegister_of_compound he
  obtain ⟨m', hm', ha, -, hreg, hmod⟩ := hm.put ⟨c, 0⟩ hxN hx
  rw [hbuild]
  refine ⟨x :: D, m', hm', ha.trans (Advance.refl _ _ _ _) (fun z h => .inl ⟨h ▸ hlo, h ▸ hx⟩)
    fun z h => h, .inr ⟨hx, m.heap.top, hreg, by simp [hvars], fun M hM => ?_⟩⟩
  rw [(hmod M hM).2, htree, Tree.node_eq_node]
  exact ⟨rfl, fun i hi => absurd hi (Nat.not_lt_zero i)⟩

theorem Meant.buildEach {args : List Term} :
    ∀ {regs : List Nat} {lo : Nat}, regs.length = args.length →
      regs.Pairwise (fun r s => a.isVarRegister s = false → r < s) →
      (∀ r ∈ regs, a.isVarRegister r = false → lo ≤ r) →
      (∀ p ∈ regs.zip args, ∀ lo', (a.isVarRegister p.1 = false → lo' ≤ p.1) →
        Builds a start N B lo' p.1 p.2) →
      ∀ {st : QueryState} {D : List Nat} {m : State}, Meant a start N B st 0 D m →
        ∃ D' m', Meant a start N B (buildArguments a st args regs) 0 D' m' ∧
          Advance st (buildArguments a st args regs) D D' m m' (Writes a lo st.seen) ∧
          ∀ p ∈ regs.zip args, ArgReady a (buildArguments a st args regs).seen m' p.1 p.2 := by
  induction args with
  | nil =>
      intro regs lo _ _ _ _ st D m hm
      rw [buildArguments.eq_2 _ _ _ _ (by simp)]
      exact ⟨D, m, hm, Advance.refl st D m _, by simp⟩
  | cons t ts ih =>
      intro regs lo hlen hord hlo hbuilds st D m hm
      cases regs with
      | nil => cases hlen
      | cons r rs =>
          rw [List.zip_cons_cons] at hbuilds ⊢
          rw [buildArguments]
          rw [List.pairwise_cons] at hord
          obtain ⟨D₁, m₁, hm₁, ha₁, hr₁⟩ :=
            hbuilds (r, t) List.mem_cons_self lo (hlo r List.mem_cons_self) hm
          -- the later arguments are built from above `r`
          have hlo' : ∀ s ∈ rs, a.isVarRegister s = false → max lo (r + 1) ≤ s := by
            intro s hs hk
            have := hlo s (List.mem_cons_of_mem _ hs) hk
            have := hord.1 s hs hk
            omega
          obtain ⟨D₂, m₂, hm₂, ha₂, hr₂⟩ := ih (Nat.succ.inj hlen) hord.2 hlo'
            (fun p hp => hbuilds p (List.mem_cons_of_mem _ hp)) hm₁
          refine ⟨D₂, m₂, hm₂, ha₁.trans ha₂ (fun _ h => h) ?_, fun p hp => ?_⟩
          · rintro z (⟨hz, hk⟩ | ⟨hk, hn⟩)
            · exact .inl ⟨Nat.le_trans (Nat.le_max_left _ _) hz, hk⟩
            · exact .inr ⟨hk, fun h => hn (ha₁.seen h)⟩
          rcases List.mem_cons.1 hp with rfl | hp
          · exact hr₁.frame ha₂.grows ha₂.seen ha₂.kept
              (fun y hy => Writes.not_seen (hm₁.vars y hy) hy)
              fun hk => Writes.not_below hk (by omega)
          · exact hr₂ p hp

/-- Building an argument held as `Allocation.Holds` says writes no register below it but
variables met for the first time, and leaves its register ready to be written. The induction
follows the term. -/
theorem Meant.build (hl : a.Layout) (hN : a.registerCount ≤ N) {lo₀ x : Nat} {t : Term}
    (hh : a.Holds lo₀ x t) :
    ∀ lo, (a.isVarRegister x = false → lo ≤ x) → Builds a start N B lo x t := by
  induction hh with
  | var he =>
      intro lo _ st D m hm
      rw [buildArgument]
      exact ⟨D, m, hm, Advance.refl st D m _, .inl ⟨_, rfl, he⟩⟩
  | @atom x name he =>
      intro lo hlo
      have hx : a.isVarRegister x = false := Allocation.isVarRegister_of_compound he
      intro st D m hm
      exact builds_constant (t := .atom name) he (Nat.lt_of_lt_of_le (Allocation.lt_of_entry he) hN)
        (hlo hx) rfl (fun _ => rfl) (fun _ => by rw [buildArgument]) hm
  | @number x d he =>
      intro lo hlo
      have hx : a.isVarRegister x = false := Allocation.isVarRegister_of_compound he
      intro st D m hm
      exact builds_constant (t := .number d) he (Nat.lt_of_lt_of_le (Allocation.lt_of_entry he) hN)
        (hlo hx) rfl (fun _ => rfl) (fun _ => by rw [buildArgument]) hm
  | @compound x name args regs he hlen _ hargs ih =>
      intro lo hlo st D m hm
      have hx : a.isVarRegister x = false := Allocation.isVarRegister_of_compound he
      have hxN : x < N := Nat.lt_of_lt_of_le (Allocation.lt_of_entry he) hN
      obtain ⟨hpair, habove⟩ := hl.ordered x name _ regs he
      have habove' : ∀ r ∈ regs, a.isVarRegister r = false → x + 1 ≤ r := habove
      rw [buildArgument, buildCompound, argumentsOf_of_entry he]
      -- the structure arguments first, from above `x`
      obtain ⟨D₁, m₁, hm₁, ha₁, hr₁⟩ :=
        hm.buildEach hlen hpair habove' fun p hp => ih p hp
      obtain ⟨m₂, hm₂, ha₂, htop₂, hreg₂, hmod₂⟩ := hm₁.put ⟨name, args.length⟩ hxN hx
      have hm₂ : Meant a start N B ((buildArguments a st args regs).emit
          (.putStructure ⟨name, args.length⟩ x)) regs.length (x :: D₁) m₂ := by
        rw [hlen]
        exact hm₂
      -- and its arguments, whose registers the structure spared
      have hready : ∀ p ∈ regs.zip args, p.1 < N ∧
          ArgReady a (buildArguments a st args regs).seen m₂ p.1 p.2 := by
        intro p hp
        have hmem : p.1 ∈ regs := (List.of_mem_zip hp).1
        refine ⟨Nat.lt_of_lt_of_le (hargs p hp).lt hN, (hr₁ p hp).frame ha₂.grows ha₂.seen
          ha₂.kept (fun y hy h => ?_) fun hk h => ?_⟩
        · rw [h] at hy
          rw [hm₁.vars x hy] at hx
          cases hx
        · exact absurd h (Nat.ne_of_gt (habove p.1 hmem hk))
      obtain ⟨D₃, m₃, hm₃, ha₃, -, hd₃⟩ := hm₂.writeAll hl regs args hlen hready
      -- together they write registers from `x` up, and variables met for the first time
      have hwide : ∀ z, Writes a (x + 1) st.seen z → Writes a x st.seen z := by
        rintro z (⟨hz, hk⟩ | h)
        · exact .inl ⟨Nat.le_of_succ_le hz, hk⟩
        · exact .inr h
      have hput : ∀ z, z = x → Writes a x st.seen z := by
        rintro z rfl
        exact .inl ⟨Nat.le_refl z, hx⟩
      refine ⟨D₃, m₃, hm₃, (ha₁.trans ha₂ hwide hput).trans ha₃ (fun z h => ?_)
        fun z h => .inr ⟨h.1, fun hz => h.2 (ha₁.seen hz)⟩, ?_⟩
      · rcases h with ⟨hz, hk⟩ | h
        · exact .inl ⟨Nat.le_trans (hlo hx) hz, hk⟩
        · exact .inr h
      -- the register of the structure holds it, over the cells of its arguments
      refine .inr ⟨hx, m₁.heap.top, ?_, fun n hn => ?_, fun M hM => ?_⟩
      · rw [ha₃.kept x fun h => by rw [hx] at h; cases h.1]
        exact hreg₂
      · obtain ⟨u, hu, hnu⟩ := Term.mem_variableNames_compound.1 hn
        obtain ⟨i, hi, rfl⟩ := List.mem_iff_getElem.1 hu
        exact (hd₃ i hi).1 n hnu
      · rw [(hmod₂ M (hM.of_prefix ha₃.grows)).2, Term.tree, Tree.node_eq_node]
        refine ⟨rfl, fun i hi => ?_⟩
        rw [Term.argTree_eq, List.getElem?_eq_getElem hi, Option.map_some, Option.getD_some,
          ← (hd₃ i hi).2 M hM, htop₂, Nat.add_assoc]

end QueryState

namespace Allocation

variable {a : Allocation}

theorem Holds.varRegister_inj (hl : a.Layout) {lo x : Nat} {t : Term} (hh : a.Holds lo x t)
    {n n' : String} (hn : n ∈ t.variableNames) (hn' : n' ∈ t.variableNames)
    (heq : (a.varRegister? n).getD 0 = (a.varRegister? n').getD 0) : n = n' := by
  obtain ⟨y, hy⟩ := hh.varRegister_isSome hl.varsOwned n hn
  obtain ⟨y', hy'⟩ := hh.varRegister_isSome hl.varsOwned n' hn'
  rw [hy, hy'] at heq
  have he := hl.varsHeld n y hy
  rw [Option.getD_some, Option.getD_some] at heq
  rw [heq, hl.varsHeld n' y' hy'] at he
  cases he
  rfl

/-- The variables of a denoted term sit in distinct unbound cells, so any trees for them are
read off some model: the heap's own trees with each such cell replaced by its variable's. -/
theorem Denotes.exists_model (hl : a.Layout) {lo x : Nat} {t : Term} (hh : a.Holds lo x t)
    {seen : List Nat} {m : State} {A : Nat} (hd : a.Denotes seen m A t) (hv : m.VarCells seen)
    (hw : m.heap.WellFormed) {V : Type} (σ : String → Tree V) :
    ∃ M : Nat → Tree V, m.heap.Model M ∧ ∀ n ∈ t.variableNames, a.varTrees m M n = σ n := by
  classical
  -- each variable cell is replaced by the tree of the variable whose register holds it
  let τ : Nat → Tree V := fun d =>
    if hd : ∃ n ∈ t.variableNames, m.address ((a.varRegister? n).getD 0) = d then
      σ hd.choose
    else Tree.empty
  refine ⟨fun c => (m.heap.tree c).subst τ, subst_tree_model hw τ, fun n hn => ?_⟩
  have hreg := hd.1 n hn
  obtain ⟨B, hB, hcell⟩ := hv.1 _ hreg
  have hex : ∃ n' ∈ t.variableNames, m.address ((a.varRegister? n').getD 0) = B :=
    ⟨n, hn, State.address_of hB⟩
  have hsame : hex.choose = n := by
    obtain ⟨hmem, haddr⟩ := hex.choose_spec
    refine hh.varRegister_inj hl hmem hn (hv.2 _ (hd.1 _ hmem) _ hreg ?_)
    rw [haddr, State.address_of hB]
  simp only [varTrees, State.address_of hB, tree_of_self hcell, Tree.subst_leaf, τ, dif_pos hex,
    hsame]

end Allocation

/-- The code of a compound query runs through to a machine that holds the query's root in `X0`:
in every model of its heap that address stands for the query's tree, its variables read at their
registers, which hold distinct unbound variables. -/
theorem compileQuery_denotes (name : String) (args : List Term) {N B : Nat}
    (hN : (compileQuery (.compound name args)).registerCount ≤ N) {start : State} {mode : Mode}
    (hs : start.Ready N B mode 0 []) :
    ∃ m seen A, start.RunsThrough (compileQuery (.compound name args)).code m ∧
      m.Ready N B .write 0 [0] ∧ m.registers[0]? = some (some A) ∧ m.VarCells seen ∧
      (allocate (.compound name args)).Denotes seen m A (.compound name args) := by
  have hm : QueryState.Meant (allocate (.compound name args)) start N B ⟨#[], []⟩ 0 [] start :=
    ⟨⟨.nil _, hs.idle .write, by simp⟩, by simp, by simp [State.VarCells]⟩
  obtain ⟨D, m, hm', -, hready⟩ :=
    QueryState.Meant.build (Allocation.allocate_layout _) hN (Allocation.allocate_holds name args) 0
      (fun _ => Nat.zero_le _) hm
  rw [buildArgument] at hm' hready
  rcases hready with ⟨n, hn, -⟩ | ⟨-, A, hA, hd⟩
  · cases hn
  refine ⟨m, _, A, hm'.built.runs, ⟨hm'.built.ready.isOpen, hm'.built.ready.awaits, ?_⟩, hA,
    hm'.cells, hd⟩
  intro r hr
  rw [List.mem_singleton] at hr
  subst hr
  exact ⟨A, hA⟩

/-- On a new machine with no limit on its heap or its steps, the run of a compound query's code
returns with the machine succeeded, holding the query's root in `X0` as `compileQuery_denotes`
describes. -/
theorem run_compileQuery_denotes (name : String) (args : List Term) {N : Nat}
    (hN : (compileQuery (.compound name args)).registerCount ≤ N) (config : Config)
    (hcap : config.heapCapacity = none) (hmax : config.maxSteps = none) :
    ∃ m seen A, (State.new N config).run (compileQuery (.compound name args)).code =
        ({ m with status := .succeeded }, .ok ()) ∧
      m.Ready N config.unifyBudget .write 0 [0] ∧ m.registers[0]? = some (some A) ∧
      m.VarCells seen ∧
      (allocate (.compound name args)).Denotes seen m A (.compound name args) := by
  obtain ⟨m, seen, A, hruns, hready, hA, hv, hd⟩ :=
    compileQuery_denotes name args hN (State.new_ready N hcap hmax)
  refine ⟨m, seen, A, ?_, hready, hA, hv, hd⟩
  rw [State.run, if_neg (by simp [State.new])]
  exact hruns.runFrom_idle hready.awaits

end Compile

end UnifyMachine
