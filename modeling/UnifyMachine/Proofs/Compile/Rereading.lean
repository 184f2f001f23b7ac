import UnifyMachine.Proofs.Compile.ProgramMeaning
import UnifyMachine.Proofs.Compile.QueryCells
import UnifyMachine.Proofs.Toplevel.UnitRun

/-!
# A program term reads its own query back

Compile one term both ways and run the query code, then the program code, on one new machine.
The program code matches every structure register in read mode and builds nothing: each
`get_structure` meets the structure pointer the query laid for that register, with the same
functor; each `unify_variable` takes the argument cell, a copy of the cell the query left in the
argument's register; and each `unify_value` meets two references to one unbound variable, so
unification binds nothing. The heap stays as the query left it.

The registers are not all as the query left them. `X0` and the variables' registers read as the
same cells, but the register of a structure argument now holds the argument cell inside its
parent, a copy of the structure pointer the query put: `get_value` finds the same structure
there, at another address.
-/

namespace UnifyMachine

namespace Machine.Heap

variable {h : Heap}

theorem getValue_of_unbound_ref {a u : Nat} (ha : h.cells[a]? = some (.ref u))
    (hu : h.cells[u]? = some (.ref u)) : h.getValue a = .ok (u, .unbound u) := by
  have hd : h.deref a = .ok u := by
    unfold deref
    obtain ⟨k, hk⟩ : ∃ k, h.top = k + 1 :=
      ⟨h.top - 1, by have := (Array.getElem?_eq_some_iff.1 ha).1; unfold top; omega⟩
    rw [hk, derefWithin]
    by_cases hau : u = a
    · subst hau
      simp [load_ok ha]
    · simp [load_ok ha, hau, derefWithin, load_ok hu]
  simp [getValue, hd, load_ok hu]
  rfl

theorem unify_of_unbound_refs {budget a₁ a₂ u : Nat} (hb : 0 < budget)
    (h₁ : h.cells[a₁]? = some (.ref u)) (h₂ : h.cells[a₂]? = some (.ref u))
    (hu : h.cells[u]? = some (.ref u)) : h.unify budget a₁ a₂ = (h, .unified) := by
  obtain ⟨b, rfl⟩ : ∃ b, budget = b + 1 := ⟨budget - 1, by omega⟩
  simp [unify, unifyPairs, getValue_of_unbound_ref h₁ hu, getValue_of_unbound_ref h₂ hu]

end Machine.Heap

namespace Machine.State

variable {N B : Nat} {m : State} {k : Nat} {D : List Nat}

theorem goesThrough_unifyValue_unchanged (hr : m.Ready N B .read (k + 1) D) {x r : Nat}
    (hx : m.registers[x]? = some (some r))
    (hu : ∀ c, m.cursor = some c → m.heap.unify B r c.next = (m.heap, .unified)) :
    m.GoesThrough [.unifyValue x] fun m' => m'.Ready N B .read k D ∧ m'.heap = m.heap ∧
      m'.registers = m.registers ∧ ∀ c, m.cursor = some c → m'.cursor = c.advance := by
  obtain ⟨c, hc, hm, hcount⟩ := hr.awaits
  have ho := hr.isOpen
  have hstep := Exec.run_unifyValue_read (s := { m with steps := m.steps + 1 }) hc hm
    (by omega) hx
  have hu' : m.heap.unify m.unifyBudget r c.next = (m.heap, .unified) := by
    rw [ho.budget]
    exact hu c hc
  simp only [hu'] at hstep
  exact .of_ok ho.stepLimit hstep ⟨⟨ho.of_run hstep rfl rfl rfl rfl,
    Cursor.awaits_advance hm hcount, hr.defined⟩, rfl, rfl,
    fun c' hc' => by rw [hc] at hc'; cases hc'; rfl⟩

end Machine.State

namespace Compile

open Machine State Heap Allocation

/-- Each register of `E` holds, in `m`, an address whose cell in `h₁` is the cell at the address
it held in `m₁`. -/
def Rereads (h₁ : Heap) (m₁ m : State) (E : List Nat) : Prop :=
  ∀ r ∈ E, ∃ A A', m₁.registers[r]? = some (some A) ∧ m.registers[r]? = some (some A') ∧
    h₁.cells[A']? = h₁.cells[A]?

/-- The code of the registers below `k` has run to `m` from the machine `m₁` the query left:
the heap is unchanged, `X0` too, and each register matched so far reads as the cell it held
after the query; the variables met are among them. -/
structure Rereading (a : Allocation) (m₁ : State) (N B k : Nat) (seen : List Nat) (m : State) :
    Prop where
  ready : m.Ready N B .read 0 (a.matchedBelow k)
  heap : m.heap = m₁.heap
  root : m.registers[0]? = m₁.registers[0]?
  cells : Rereads m₁.heap m₁ m (a.matchedBelow k)
  seen : seen ⊆ a.matchedBelow k

/-- Within the block of the structure register `x`, reading its arguments from `first`, whose
cells copy the cells the query left in the argument registers, after `j` of them. -/
structure RereadingIn (a : Allocation) (m₁ : State) (N B x : Nat) (regs : List Nat)
    (first j : Nat) (seen : List Nat) (m : State) : Prop where
  ready : m.Ready N B .read (regs.length - j) (a.matchedBelow x ++ regs.take j)
  cursor : Cursor.At m.cursor .read first regs.length j
  heap : m.heap = m₁.heap
  root : m.registers[0]? = m₁.registers[0]?
  cells : Rereads m₁.heap m₁ m (a.matchedBelow x ++ regs.take j)
  seen : seen ⊆ a.matchedBelow x ++ regs.take j
  block : ∀ i < regs.length, ∃ A, m₁.registers[regs.getD i 0]? = some (some A) ∧
    m₁.heap.cells[first + i]? = m₁.heap.cells[A]?

section

variable {a : Allocation} {m₁ : State} {N B : Nat}

/-- A register that the query laid out as the structure `name(regs)`, and that reads so in `m`,
is matched by `get_structure` in read mode over the argument cells the query laid. -/
theorem Rereading.getStructure (hq : ∀ y < a.registerCount, a.Laid m₁ y)
    (hargs : a.ArgsAllocated) {x : Nat} {name : String} {regs : List Nat}
    (he : a.entries[x]? = some (.compound name regs.length regs)) {seen : List Nat} {m : State}
    (hm : Rereading a m₁ N B x seen m) (hx : x ∈ a.matchedBelow x) :
    m.GoesThrough [.getStructure ⟨name, regs.length⟩ x] fun m' =>
      ∃ first, RereadingIn a m₁ N B x regs first 0 seen m' := by
  obtain ⟨A, e, hA, he', hcells⟩ := hq x (lt_of_entry he)
  rw [he] at he'
  cases he'
  obtain ⟨hstr, hfun, hargcells⟩ := hcells
  obtain ⟨A₁, A', hA₁, hA', hcell⟩ := hm.cells x hx
  rw [hA] at hA₁
  cases hA₁
  have ho := hm.ready.isOpen
  -- the register reads as the structure pointer the query put
  have hv : m.heap.getValue A' = .ok (A', .struct ⟨name, regs.length⟩ (A + 1 + 1)) := by
    rw [hm.heap]
    exact getValue_of_str (hcell.trans hstr) hfun
  have hstep := Exec.run_getStructure_read (s := { m with steps := m.steps + 1 })
    hm.ready.awaits hA' hv
  have htake : a.matchedBelow x ++ regs.take 0 = a.matchedBelow x := by simp
  have hdef : Defined m.registers (a.matchedBelow x ++ regs.take 0) := by
    rw [htake]
    exact hm.ready.defined
  have hcells : Rereads m₁.heap m₁ m (a.matchedBelow x ++ regs.take 0) := by
    rw [htake]
    exact hm.cells
  have hseen : seen ⊆ a.matchedBelow x ++ regs.take 0 := by
    rw [htake]
    exact hm.seen
  refine .of_ok ho.stepLimit hstep ⟨A + 1 + 1, ⟨ho.of_run hstep rfl rfl rfl rfl,
    Cursor.awaits_start _ _ _, hdef⟩, Cursor.at_start _ _ _, hm.heap, hm.root, hcells, hseen,
    fun i hi => ?_⟩
  -- each argument cell copies the cell of the argument's register
  have hr : regs.getD i 0 < a.registerCount :=
    hargs x name _ regs he _ (by
      rw [List.getD_eq_getElem?_getD, List.getElem?_eq_getElem hi]
      exact List.getElem_mem hi)
  obtain ⟨Ar, -, hAr, -⟩ := hq _ hr
  obtain ⟨c, hc, hcr⟩ := hargcells i hi
  rw [State.address_of hAr] at hcr
  refine ⟨Ar, hAr, ?_⟩
  rw [show A + 1 + 1 + i = A + 2 + i by omega, hc, hcr]

theorem RereadingIn.unifyVariable (h0 : ∀ y, 0 ∉ a.argumentsOf y) {x : Nat} {name : String}
    {regs : List Nat} (he : a.entries[x]? = some (.compound name regs.length regs))
    {first j : Nat} (hj : j < regs.length) {seen seen' : List Nat} {m : State}
    (hm : RereadingIn a m₁ N B x regs first j seen m) (hrN : regs.getD j 0 < N)
    (hseen : seen' ⊆ regs.getD j 0 :: seen) :
    m.GoesThrough [.unifyVariable (regs.getD j 0)] (RereadingIn a m₁ N B x regs first (j + 1) seen') := by
  have hcur := hm.cursor.eq_some hj
  have hready := hm.ready.pred_awaited hj
  refine (goesThrough_unifyVariable_read_eq hready hrN).mono fun m' ⟨hready', hheap, hc⟩ => ?_
  obtain ⟨hcur', hregs⟩ := hc _ hcur
  have htake := take_succ_getD hj
  have hr0 : regs.getD j 0 ≠ 0 := fun h => h0 x (by
    rw [argumentsOf_of_entry he, ← h, List.getD_eq_getElem?_getD, List.getElem?_eq_getElem hj]
    exact List.getElem_mem hj)
  have hkeep : m.Kept m' (· = regs.getD j 0) := State.Kept.modify hregs
  refine ⟨hready'.mono ?_, ?_, hheap.trans hm.heap, (hkeep 0 (Ne.symm hr0)).trans hm.root, ?_,
    ?_, hm.block⟩
  · rw [htake, ← List.append_assoc]
    intro z hz
    rcases List.mem_append.1 hz with hz | hz
    · exact List.mem_cons_of_mem _ hz
    · rw [List.mem_singleton] at hz
      exact hz ▸ List.mem_cons_self
  · rw [hcur']
    exact Cursor.At.advance hj
  · -- the register now holds the argument cell, which copies the query's cell
    rw [htake, ← List.append_assoc]
    intro z hz
    by_cases hzr : z = regs.getD j 0
    · subst hzr
      obtain ⟨A, hA, hcell⟩ := hm.block j hj
      have hrlt : regs.getD j 0 < m.registers.size := hm.ready.isOpen.size ▸ hrN
      exact ⟨A, first + j, hA, State.register_of_modify hregs hrlt, hcell⟩
    · rcases List.mem_append.1 hz with hz | hz
      · obtain ⟨A, A', hA, hA', hc'⟩ := hm.cells z hz
        exact ⟨A, A', hA, (hkeep z hzr).trans hA', hc'⟩
      · exact absurd (List.mem_singleton.1 hz) hzr
  · rw [htake, ← List.append_assoc]
    intro z hz
    rcases List.mem_cons.1 (hseen hz) with rfl | hz
    · exact List.mem_append_right _ (List.mem_singleton_self _)
    · exact List.mem_append_left _ (hm.seen hz)

theorem RereadingIn.unifyValue (hq : ∀ y < a.registerCount, a.Laid m₁ y) (hb : 0 < B)
    {x : Nat} {regs : List Nat} {first j : Nat} (hj : j < regs.length) {seen : List Nat}
    {m : State} (hm : RereadingIn a m₁ N B x regs first j seen m) {name : String}
    (hvar : a.entries[regs.getD j 0]? = some (.var name)) (hseen : regs.getD j 0 ∈ seen) :
    m.GoesThrough [.unifyValue (regs.getD j 0)] (RereadingIn a m₁ N B x regs first (j + 1) seen) := by
  obtain ⟨A, e, hA, he, hcell⟩ := hq _ (lt_of_entry hvar)
  rw [hvar] at he
  cases he
  obtain ⟨A₁, A', hA₁, hA', hcA'⟩ := hm.cells _ (hm.seen hseen)
  obtain ⟨A₂, hA₂, hcj⟩ := hm.block j hj
  rw [hA] at hA₁ hA₂
  cases hA₁
  cases hA₂
  have hready := hm.ready.pred_awaited hj
  have hcur := hm.cursor.eq_some hj
  -- the registers met so far are still those met, the new one having been met before
  have hsub : a.matchedBelow x ++ regs.take (j + 1) ⊆ a.matchedBelow x ++ regs.take j := by
    intro z hz
    rcases (mem_take_succ hj).1 hz with hz | rfl
    · exact hz
    · exact hm.seen hseen
  refine (goesThrough_unifyValue_unchanged hready hA' fun c hc => ?_).mono
    fun m' ⟨hready', hheap, hregs, hc'⟩ => ?_
  · rw [hcur] at hc
    cases hc
    rw [hm.heap]
    exact unify_of_unbound_refs hb (hcA'.trans hcell) (hcj.trans hcell) hcell
  · refine ⟨hready'.mono hsub, ?_, hheap.trans hm.heap, hregs ▸ hm.root,
      fun z hz => hregs ▸ hm.cells z (hsub hz), List.Subset.trans hm.seen ?_, hm.block⟩
    · rw [hc' _ hcur]
      exact Cursor.At.advance hj
    · intro z hz
      exact (mem_take_succ hj).2 (.inl hz)

theorem RereadingIn.leave {x : Nat} {name : String} {regs : List Nat}
    (he : a.entries[x]? = some (.compound name regs.length regs)) {first : Nat}
    {seen : List Nat} {m : State} (hm : RereadingIn a m₁ N B x regs first regs.length seen m) :
    Rereading a m₁ N B (x + 1) seen m := by
  have hmb : a.matchedBelow (x + 1) = a.matchedBelow x ++ regs.take regs.length := by
    rw [Allocation.matchedBelow_succ, argumentsOf_of_entry he, List.take_length]
  have hready := hm.ready
  rw [Nat.sub_self, ← hmb] at hready
  exact ⟨hready, hm.heap, hm.root, hmb ▸ hm.cells, hmb ▸ hm.seen⟩

theorem Rereading.skip {x : Nat}
    (he : ∀ name arity args, a.entries[x]? ≠ some (.compound name arity args)) {seen : List Nat}
    {m : State} (hm : Rereading a m₁ N B x seen m) : Rereading a m₁ N B (x + 1) seen m := by
  have hmb := Allocation.matchedBelow_succ_of_not_compound he
  exact ⟨hmb ▸ hm.ready, hm.heap, hm.root, hmb ▸ hm.cells, hmb ▸ hm.seen⟩

theorem RereadingIn.argument (hq : ∀ y < a.registerCount, a.Laid m₁ y) (hb : 0 < B)
    (h0 : ∀ y, 0 ∉ a.argumentsOf y) {x : Nat} {name : String} {regs : List Nat}
    (he : a.entries[x]? = some (.compound name regs.length regs)) (hN : ∀ r ∈ regs, r < N)
    {j : Nat} (hj : j < regs.length) {m₀ : State} {acc : List Instruction × List Nat}
    (h : m₀.GoesThrough acc.1 fun m => ∃ first, RereadingIn a m₁ N B x regs first j acc.2 m) :
    m₀.GoesThrough (matchArgument a acc (regs.getD j 0)).1 fun m =>
      ∃ first, RereadingIn a m₁ N B x regs first (j + 1) (matchArgument a acc (regs.getD j 0)).2 m := by
  have hrN : regs.getD j 0 < N := hN _ (by
    rw [List.getD_eq_getElem?_getD, List.getElem?_eq_getElem hj]
    exact List.getElem_mem hj)
  unfold matchArgument
  split
  · rename_i n hvar
    split
    · -- a variable met before
      rename_i hseen
      exact h.append fun m ⟨first, hm⟩ =>
        (hm.unifyValue hq hb hj hvar (by simpa using hseen)).mono fun m' hm' => ⟨first, hm'⟩
    · -- a variable met for the first time
      exact h.append fun m ⟨first, hm⟩ =>
        (hm.unifyVariable h0 he hj hrN (List.Subset.refl _)).mono fun m' hm' => ⟨first, hm'⟩
  · -- a structure argument
    exact h.append fun m ⟨first, hm⟩ =>
      (hm.unifyVariable h0 he hj hrN (List.subset_cons_self _ _)).mono fun m' hm' => ⟨first, hm'⟩

theorem Rereading.block (hq : ∀ y < a.registerCount, a.Laid m₁ y) (hb : 0 < B)
    (hwf : a.WellFormed) (hN : a.registerCount ≤ N) (h0 : ∀ y, 0 ∉ a.argumentsOf y) {x : Nat}
    {name : String} {regs : List Nat} (he : a.entries[x]? = some (.compound name regs.length regs))
    {seen : List Nat} {m : State} (hm : Rereading a m₁ N B x seen m) :
    m.GoesThrough (matchRegister a x (.compound name regs.length regs) seen).1
      (Rereading a m₁ N B (x + 1) (matchRegister a x (.compound name regs.length regs) seen).2) := by
  have hregsN : ∀ r ∈ regs, r < N := fun r hr =>
    Nat.lt_of_lt_of_le (hwf.argsAllocated x _ _ _ he r hr) hN
  have hstart := hm.getStructure hq hwf.argsAllocated he
    (mem_matchedBelow hwf.parented (lt_of_entry he))
  rw [matchRegister_compound]
  refine (foldl_matchArgument_induction a regs
    (Q := fun j acc => m.GoesThrough acc.1 fun m' => ∃ first, RereadingIn a m₁ N B x regs first j acc.2 m')
    (fun j acc hj h => RereadingIn.argument hq hb h0 he hregsN hj h) hstart).mono
    fun m' ⟨_, hm'⟩ => hm'.leave he

/-- The code of the registers below `k`, block by block. -/
theorem rereading_matchBelow (hq : ∀ y < a.registerCount, a.Laid m₁ y) (hb : 0 < B)
    (hwf : a.WellFormed) (hN : a.registerCount ≤ N) (h0 : ∀ y, 0 ∉ a.argumentsOf y)
    {m₀ : State} (hm₀ : Rereading a m₁ N B 0 [] m₀) :
    ∀ k, k ≤ a.registerCount →
      m₀.GoesThrough ((List.range k).foldl (matchStep a) ([], [])).1
        (Rereading a m₁ N B k ((List.range k).foldl (matchStep a) ([], [])).2) :=
  matchBelow_induction (motive := fun k acc =>
      m₀.GoesThrough acc.1 (Rereading a m₁ N B k acc.2)) hwf ⟨m₀, .nil _, hm₀⟩
    (fun _ _ _ _ _ he ih => ih.append fun _ hm => hm.block hq hb hwf hN h0 he)
    fun _ _ _ he ih => ih.mono fun _ hm => hm.skip he

theorem Rereading.start {mode : Mode} {D : List Nat} (hr : m₁.Ready N B mode 0 D)
    (h0 : a.Laid m₁ 0) : Rereading a m₁ N B 0 [] { m₁ with status := .running } := by
  have hmb : a.matchedBelow 0 = [0] := by simp [Allocation.matchedBelow]
  obtain ⟨A, -, hA, -⟩ := h0
  have hr' := hr.withStatus .running
  refine ⟨⟨hr'.isOpen, hr'.awaits, ?_⟩, rfl, rfl, ?_, fun _ h => absurd h List.not_mem_nil⟩
  all_goals
    rw [hmb]
    intro r hr0
    rw [List.mem_singleton] at hr0
    subst hr0
  · exact ⟨A, hA⟩
  · exact ⟨A, A, hA, hA, rfl⟩

theorem Rereading.getValue_eq (hq : ∀ y < a.registerCount, a.Laid m₁ y) (hwf : a.WellFormed)
    {seen : List Nat} {m : State} (hm : Rereading a m₁ N B a.registerCount seen m) {x A : Nat}
    (hx : x < a.registerCount) (hA : m₁.registers[x]? = some (some A)) :
    ∃ A' d d' v, m.registers[x]? = some (some A') ∧ m.heap.cells[A']? = m₁.heap.cells[A]? ∧
      m₁.heap.getValue A = .ok (d, v) ∧ m.heap.getValue A' = .ok (d', v) ∧
      (a.isVarRegister x = true ∨ x = 0 → d' = d) := by
  obtain ⟨A₀, e, hA₀, he, hcells⟩ := hq x hx
  obtain ⟨A₁, A', hA₁, hA', hcell⟩ := hm.cells x
    (matchedBelow_mono (Nat.le_of_lt hx) (mem_matchedBelow hwf.parented hx))
  rw [hA] at hA₀ hA₁
  cases hA₀
  cases hA₁
  rw [hm.heap]
  cases e with
  | compound name arity args =>
      obtain ⟨hstr, hfun, -⟩ := hcells
      refine ⟨A', A, A', _, hA', hcell, getValue_of_str hstr hfun,
        getValue_of_str (hcell.trans hstr) hfun, ?_⟩
      rintro (hvar | rfl)
      · simp [isVarRegister_of_compound he] at hvar
      · -- `X0` is never written by the program's code
        have hroot := hm.root
        rw [hA', hA] at hroot
        cases hroot
        rfl
  | var name =>
      exact ⟨A', A, A, _, hA', hcell, getValue_of_unbound_ref hcells hcells,
        getValue_of_unbound_ref (hcell.trans hcells) hcells, fun _ => rfl⟩
  | constant => exact hcells.elim

end

/-- The code of a program term, run from the machine its own query left, reads every register
back. -/
theorem compileProgram_rereads (t : Term) {N B : Nat} (hb : 0 < B)
    (hN : (allocate t).registerCount ≤ N) {m₁ : State}
    (hq : ∀ y < (allocate t).registerCount, (allocate t).Laid m₁ y) {m₀ : State}
    (hm₀ : Rereading (allocate t) m₁ N B 0 [] m₀) :
    ∃ seen, m₀.GoesThrough (compileProgram t).code
      (Rereading (allocate t) m₁ N B (allocate t).registerCount seen) := by
  rw [compileProgram_code]
  exact ⟨_, rereading_matchBelow hq hb (allocate_wellFormed t) hN
    (Allocation.zero_not_mem_argumentsOf t) hm₀ _ (Nat.le_refl _)⟩

/-- Compile a term both ways and run the query code, then the program code, on one new machine:
the program code runs to success and leaves the heap as the query left it, binding and building
nothing. Every register the query defined reads, after the program, as a cell equal to the one it
read before, and `get_value` finds the same value there; for `X0` and the variables' registers
at the same address, while a structure argument's register now holds the argument cell inside its
parent, a copy of the structure pointer. -/
theorem compiled_term_rereads_itself (t : Term) (config : Config)
    (hcap : config.heapCapacity = none) (hmax : config.maxSteps = none)
    (hb : 0 < config.unifyBudget) :
    (compileProgram t).registerCount = (compileQuery t).registerCount ∧
    ∃ m₁ m₂ : State,
      (State.new (compileQuery t).registerCount config).run (compileQuery t).code = (m₁, .ok ()) ∧
      m₁.run (compileProgram t).code = (m₂, .ok ()) ∧
      m₂.status = .succeeded ∧ m₂.heap = m₁.heap ∧
      ∀ x A, m₁.registers[x]? = some (some A) →
        ∃ A' d d' v, m₂.registers[x]? = some (some A') ∧
          m₂.heap.cells[A']? = m₁.heap.cells[A]? ∧
          m₁.heap.getValue A = .ok (d, v) ∧ m₂.heap.getValue A' = .ok (d', v) ∧
          ((allocate t).isVarRegister x = true ∨ x = 0 → d' = d) := by
  refine ⟨rfl, ?_⟩
  cases ht : t.isCompound with
  | false =>
      -- a bare term runs no code on either side, and no register holds a value
      refine ⟨_, _, Toplevel.run_compileQuery_bare ht _ config, ?_, rfl, rfl, fun x A hA => ?_⟩
      · rw [Toplevel.compileProgram_code_bare ht]
        rfl
      · simp only [State.new, Array.getElem?_replicate] at hA
        split at hA <;> simp at hA
  | true =>
      obtain ⟨name, args, rfl⟩ : ∃ name args, t = .compound name args := by
        cases t <;> simp_all [Term.isCompound]
      obtain ⟨m, D, hruns, hready, hlaid⟩ :=
        compileQuery_laysOut name args (Nat.le_refl _) (new_ready _ hcap hmax)
      have hrun₁ : (State.new (compileQuery (.compound name args)).registerCount config).run
          (compileQuery (.compound name args)).code = ({ m with status := .succeeded }, .ok ()) := by
        rw [State.run, if_neg (by simp [State.new]), hruns.runFrom_idle hready.awaits]
      have hq : ∀ y < (allocate (.compound name args)).registerCount,
          (allocate (.compound name args)).Laid { m with status := .succeeded } y := hlaid
      obtain ⟨seen, m₂, hruns₂, hm₂⟩ := compileProgram_rereads _ hb (Nat.le_refl _) hq
        (Rereading.start (hready.withStatus .succeeded) (hq 0 (Toplevel.allocate_registerCount_pos _)))
      have hrun₂ : ({ m with status := .succeeded } : State).run
          (compileProgram (.compound name args)).code = ({ m₂ with status := .succeeded }, .ok ()) := by
        rw [State.run, if_neg (by simp), hruns₂.runFrom_idle hm₂.ready.awaits]
      refine ⟨_, _, hrun₁, hrun₂, rfl, hm₂.heap, fun x A hA => ?_⟩
      have hx : x < (allocate (.compound name args)).registerCount := by
        have hsize : m.registers.size = (allocate (.compound name args)).registerCount :=
          hready.isOpen.size
        exact hsize ▸ (Array.getElem?_eq_some_iff.1 hA).1
      exact hm₂.getValue_eq hq (allocate_wellFormed _) hx hA

/-- The term `w(a)`, on a machine with the default limits, reads itself back. -/
theorem wrapped_atom_rereads_itself :
    ({} : Config).heapCapacity = none ∧ ({} : Config).maxSteps = none ∧
      0 < ({} : Config).unifyBudget ∧
      ∃ m₁ m₂ : State,
        (State.new (compileQuery (.compound "w" [.atom "a"])).registerCount {}).run
            (compileQuery (.compound "w" [.atom "a"])).code = (m₁, .ok ()) ∧
        m₁.run (compileProgram (.compound "w" [.atom "a"])).code = (m₂, .ok ()) ∧
        m₂.heap = m₁.heap := by
  obtain ⟨-, m₁, m₂, h₁, h₂, -, hheap, -⟩ :=
    compiled_term_rereads_itself (.compound "w" [.atom "a"]) {} rfl rfl (by decide)
  exact ⟨rfl, rfl, by decide, m₁, m₂, h₁, h₂, hheap⟩

/-- A structure argument's register moves: for `w(a)`, `X1` holds `0`, the structure pointer the
query put, and after the program `4`, the argument cell of `w` that copies it; `get_value`
reports the two addresses. -/
theorem wrapped_atom_argument_register_moves :
    ¬ ∀ x A A' : Nat,
      ((State.new (compileQuery (.compound "w" [.atom "a"])).registerCount {}).run
          (compileQuery (.compound "w" [.atom "a"])).code).1.registers[x]? = some (some A) →
      (((State.new (compileQuery (.compound "w" [.atom "a"])).registerCount {}).run
          (compileQuery (.compound "w" [.atom "a"])).code).1.run
          (compileProgram (.compound "w" [.atom "a"])).code).1.registers[x]? = some (some A') →
      (((State.new (compileQuery (.compound "w" [.atom "a"])).registerCount {}).run
          (compileQuery (.compound "w" [.atom "a"])).code).1.run
          (compileProgram (.compound "w" [.atom "a"])).code).1.lookup A' =
        ((State.new (compileQuery (.compound "w" [.atom "a"])).registerCount {}).run
          (compileQuery (.compound "w" [.atom "a"])).code).1.lookup A := by
  intro h
  have hmoved := h 1 0 4 (by decide +kernel) (by decide +kernel)
  have haddr := congrArg (fun r => r.toOption.map Prod.fst) hmoved
  revert haddr
  decide +kernel

end Compile

end UnifyMachine
