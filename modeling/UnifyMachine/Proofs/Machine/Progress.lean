import UnifyMachine.Proofs.Machine.Steps
import UnifyMachine.Proofs.Machine.Runs

/-!
# Runs of code in blocks

Compiled code comes in blocks: a `put_structure` or `get_structure` followed by exactly as many
argument instructions as the structure has arguments, each storing a register or loading one
that an earlier instruction stored. On a sound machine with no limit on its heap or its steps,
such code never stops with an error. Building instructions always go through; `get_structure`
and `unify_value` may fail to unify, and `unify_value`, reading, may run out of budget.

`State.GoesThrough` says that a piece of code runs to its end; `State.Concludes` that it runs
to its end or stops the run, whatever code follows, with an accepted machine and result, and
`State.Proceeds` is the case where only the result counts. They compose, which is how a block is
taken one instruction at a time and a program one block at a time.
-/

namespace UnifyMachine.Machine

open Heap

/-- The cursor awaits `k` more arguments of a structure visited in `mode`; none when `k = 0`. -/
def Cursor.Awaits (cursor : Option Cursor) (mode : Mode) : Nat → Prop
  | 0 => cursor = none
  | k + 1 => ∃ c, cursor = some c ∧ c.mode = mode ∧ c.count = c.index + (k + 1)

theorem Cursor.awaits_start (mode : Mode) (first n : Nat) :
    Cursor.Awaits (Cursor.start mode first n) mode n := by
  cases n with
  | zero => rfl
  | succ k => exact ⟨⟨mode, first, k + 1, 0⟩, by simp [Cursor.start], rfl, by simp⟩

theorem Cursor.awaits_advance {c : Cursor} {mode : Mode} {k : Nat} (hm : c.mode = mode)
    (hc : c.count = c.index + (k + 1)) : Cursor.Awaits c.advance mode k := by
  cases k with
  | zero => simp [Cursor.Awaits, Cursor.advance, hc]
  | succ k =>
      refine ⟨{ c with index := c.index + 1 }, ?_, hm, by simp; omega⟩
      simp only [Cursor.advance]
      rw [if_neg (by omega)]

/-- Every register of `D` holds an address. -/
def Defined (registers : Array (Option Nat)) (D : List Nat) : Prop :=
  ∀ r ∈ D, ∃ a, registers[r]? = some (some a)

theorem Defined.mono {registers : Array (Option Nat)} {D D' : List Nat}
    (hD : Defined registers D') (hsub : D ⊆ D') : Defined registers D :=
  fun r hr => hD r (hsub hr)

theorem Defined.store {registers : Array (Option Nat)} {D : List Nat} (hD : Defined registers D)
    {x : Nat} (hx : x < registers.size) (a : Nat) :
    Defined (registers.modify x fun _ => some a) (x :: D) := by
  intro r hr
  rw [Array.getElem?_modify]
  by_cases hxr : x = r
  · subst hxr
    exact ⟨a, by simp [Array.getElem?_eq_getElem hx]⟩
  · rw [if_neg hxr]
    exact hD r ((List.mem_cons.1 hr).resolve_left (Ne.symm hxr))

namespace State

/-- A sound machine with no limit on its heap or its steps, `N` registers and a budget of `B`
pairs for each unification. -/
structure Open (N B : Nat) (m : State) : Prop where
  sound : m.Sound
  capacity : m.heap.capacity = none
  maxSteps : m.maxSteps = none
  size : m.registers.size = N
  budget : m.unifyBudget = B

theorem Open.stepLimit {N B : Nat} {m : State} (ho : m.Open N B) : m.stepLimitReached = none := by
  simp [stepLimitReached, ho.maxSteps]

theorem sound_of_run {m m' : State} (hs : m.Sound) {i : Instruction}
    (hr : (Exec.execute i).run m = .ok () m') : m'.Sound := by
  have hw := execute_sound hs i
  unfold Exec.wp at hw
  rw [hr] at hw
  exact hw

theorem Open.of_run {N B : Nat} {m m' : State} (ho : m.Open N B) {i : Instruction}
    (hr : (Exec.execute i).run { m with steps := m.steps + 1 } = .ok () m')
    (hcap : m'.heap.capacity = m.heap.capacity) (hmax : m'.maxSteps = m.maxSteps)
    (hsize : m'.registers.size = m.registers.size) (hbudget : m'.unifyBudget = m.unifyBudget) :
    m'.Open N B :=
  ⟨sound_of_run (m := { m with steps := m.steps + 1 }) (ho.sound.of_eq rfl rfl rfl) hr,
    hcap.trans ho.capacity, hmax.trans ho.maxSteps, hsize.trans ho.size,
    hbudget.trans ho.budget⟩

/-- An open machine awaiting `k` more arguments in `mode`, whose registers in `D` hold
addresses. -/
structure Ready (N B : Nat) (mode : Mode) (k : Nat) (D : List Nat) (m : State) : Prop where
  isOpen : m.Open N B
  awaits : Cursor.Awaits m.cursor mode k
  defined : Defined m.registers D

theorem Ready.idle {N B : Nat} {mode : Mode} {D : List Nat} {m : State}
    (hr : m.Ready N B mode 0 D) (mode' : Mode) : m.Ready N B mode' 0 D :=
  ⟨hr.isOpen, hr.awaits, hr.defined⟩

theorem Ready.complete {N B : Nat} {mode : Mode} {D : List Nat} {m : State}
    (hr : m.Ready N B mode 0 D) : m.heap.Complete none := by
  have hcomplete := hr.isOpen.sound.complete
  rwa [show m.cursor = none from hr.awaits] at hcomplete

theorem Ready.mono{N B : Nat} {mode : Mode} {k : Nat} {D D' : List Nat} {m : State}
    (hr : m.Ready N B mode k D') (hsub : D ⊆ D') : m.Ready N B mode k D :=
  ⟨hr.isOpen, hr.awaits, hr.defined.mono hsub⟩

theorem Ready.withStatus {N B : Nat} {mode : Mode} {k : Nat} {D : List Nat} {m : State}
    (hr : m.Ready N B mode k D) (s : Status) : { m with status := s }.Ready N B mode k D :=
  ⟨⟨hr.isOpen.sound.of_eq rfl rfl rfl, hr.isOpen.capacity, hr.isOpen.maxSteps, hr.isOpen.size,
    hr.isOpen.budget⟩, hr.awaits, hr.defined⟩

/-- A new machine with no limit on its heap or its steps is ready to run anything. -/
theorem new_ready (N : Nat) {config : Config} (hcap : config.heapCapacity = none)
    (hmax : config.maxSteps = none) :
    ({ State.new N config with status := .running } : State).Ready N config.unifyBudget
      .write 0 [] :=
  ⟨⟨(new_sound N config).of_eq rfl rfl rfl, hcap, hmax, Array.size_replicate, rfl⟩, rfl,
    fun _ h => absurd h List.not_mem_nil⟩

/-! ## Pieces of a run -/

theorem RunsThrough.append {m m' m'' : State} {c₁ c₂ : List Instruction}
    (h₁ : m.RunsThrough c₁ m') (h₂ : m'.RunsThrough c₂ m'') :
    m.RunsThrough (c₁ ++ c₂) m'' := by
  induction h₁ with
  | nil => exact h₂
  | cons hl hi _ ih => exact .cons hl hi (ih h₂)

/-- Running `code` from `m` goes through to a machine where `P` holds. -/
def GoesThrough (m : State) (code : List Instruction) (P : State → Prop) : Prop :=
  ∃ m', m.RunsThrough code m' ∧ P m'

theorem GoesThrough.append {m : State} {c₁ c₂ : List Instruction} {P Q : State → Prop}
    (h₁ : m.GoesThrough c₁ P) (h₂ : ∀ m', P m' → m'.GoesThrough c₂ Q) :
    m.GoesThrough (c₁ ++ c₂) Q := by
  obtain ⟨m', hrun, hP⟩ := h₁
  obtain ⟨m'', hrun', hQ⟩ := h₂ m' hP
  exact ⟨m'', hrun.append hrun', hQ⟩

theorem GoesThrough.mono {m : State} {code : List Instruction} {P Q : State → Prop}
    (h : m.GoesThrough code P) (hPQ : ∀ m', P m' → Q m') : m.GoesThrough code Q := by
  obtain ⟨m', hrun, hP⟩ := h
  exact ⟨m', hrun, hPQ m' hP⟩

theorem GoesThrough.of_ok {m m' : State} {i : Instruction} {P : State → Prop}
    (hl : m.stepLimitReached = none)
    (hr : (Exec.execute i).run { m with steps := m.steps + 1 } = .ok () m') (hP : P m') :
    m.GoesThrough [i] P :=
  ⟨m', .cons hl hr (.nil m'), hP⟩

/-- Running `code` from `m` goes through to a machine where `P` holds, or ends the run, whatever
code follows, with a machine and a result that `allowed` accepts. -/
def Concludes (allowed : State × Except MachineError Unit → Prop) (m : State)
    (code : List Instruction) (P : State → Prop) : Prop :=
  m.GoesThrough code P ∨ ∀ rest, allowed (m.runFrom (code ++ rest))

variable {S : State × Except MachineError Unit → Prop}

theorem GoesThrough.concludes {m : State} {code : List Instruction} {P : State → Prop}
    (h : m.GoesThrough code P) : Concludes S m code P :=
  .inl h

theorem Concludes.mono {m : State} {code : List Instruction} {P Q : State → Prop}
    (h : Concludes S m code P) (hPQ : ∀ m', P m' → Q m') : Concludes S m code Q := by
  rcases h with hgo | hstop
  · exact .inl (hgo.mono hPQ)
  · exact .inr hstop

theorem Concludes.append {m : State} {c₁ c₂ : List Instruction} {P Q : State → Prop}
    (h₁ : Concludes S m c₁ P) (h₂ : ∀ m', P m' → Concludes S m' c₂ Q) :
    Concludes S m (c₁ ++ c₂) Q := by
  rcases h₁ with ⟨m', hrun, hP⟩ | hstop
  · rcases h₂ m' hP with ⟨m'', hrun', hQ⟩ | hstop'
    · exact .inl ⟨m'', hrun.append hrun', hQ⟩
    · refine .inr fun rest => ?_
      rw [List.append_assoc, hrun.runFrom_append]
      exact hstop' rest
  · refine .inr fun rest => ?_
    rw [List.append_assoc]
    exact hstop (c₂ ++ rest)

theorem Concludes.of_stop {m : State} {i : Instruction} {P : State → Prop}
    {r : State × Except MachineError Unit} (hr : ∀ rest, m.runFrom (i :: rest) = r)
    (hS : S r) : Concludes S m [i] P :=
  .inr fun rest => by rw [List.singleton_append, hr rest]; exact hS

/-- Running `code` from `m` goes through to a machine where `P` holds, or stops the run,
whatever code follows, with a result that `allowed` accepts: `Concludes` where only the result
counts. -/
def Proceeds (allowed : Except MachineError Unit → Prop) (m : State) (code : List Instruction)
    (P : State → Prop) : Prop :=
  m.GoesThrough code P ∨ ∀ rest, allowed (m.runFrom (code ++ rest)).2

variable {A : Except MachineError Unit → Prop}

theorem GoesThrough.proceeds {m : State} {code : List Instruction} {P : State → Prop}
    (h : m.GoesThrough code P) : Proceeds A m code P :=
  .inl h

theorem Proceeds.mono {m : State} {code : List Instruction} {P Q : State → Prop}
    (h : Proceeds A m code P) (hPQ : ∀ m', P m' → Q m') : Proceeds A m code Q :=
  Concludes.mono (S := fun r => A r.2) h hPQ

theorem Proceeds.append {m : State} {c₁ c₂ : List Instruction} {P Q : State → Prop}
    (h₁ : Proceeds A m c₁ P) (h₂ : ∀ m', P m' → Proceeds A m' c₂ Q) :
    Proceeds A m (c₁ ++ c₂) Q :=
  Concludes.append (S := fun r => A r.2) h₁ h₂

theorem Proceeds.of_stop {m : State} {i : Instruction} {P : State → Prop}
    {r : State × Except MachineError Unit}
    (hr : ∀ rest, m.runFrom (i :: rest) = r) (hA : A r.2) : Proceeds A m [i] P :=
  Concludes.of_stop (S := fun r => A r.2) hr hA

theorem runFrom_of_failed {m m' : State} {i : Instruction} (hl : m.stepLimitReached = none)
    (hr : (Exec.execute i).run { m with steps := m.steps + 1 } = .error .failed m')
    (rest : List Instruction) :
    m.runFrom (i :: rest) = ({ m' with status := .failed }, .ok ()) := by
  rw [runFrom, hl]
  simp only [hr]

theorem runFrom_of_error {m m' : State} {i : Instruction} {e : MachineError}
    (hl : m.stepLimitReached = none)
    (hr : (Exec.execute i).run { m with steps := m.steps + 1 } = .error (.error e) m')
    (rest : List Instruction) : m.runFrom (i :: rest) = (m', .error e) := by
  rw [runFrom, hl]
  simp only [hr]

/-- Code that runs through to a machine with no structure active ends the run with success. -/
theorem RunsThrough.runFrom_idle {m m' : State} {code : List Instruction}
    (h : m.RunsThrough code m') (hc : m'.cursor = none) :
    m.runFrom code = ({ m' with status := .succeeded }, .ok ()) := by
  have hsplit := h.runFrom_append []
  rw [List.append_nil] at hsplit
  rw [hsplit, runFrom, hc]
  rfl

theorem Proceeds.result {m : State} {code : List Instruction}
    (h : Proceeds A m code fun m' => m'.cursor = none) (hA : A (.ok ())) :
    A (m.runFrom code).2 := by
  rcases h with ⟨m', hrun, hc⟩ | hstop
  · rw [hrun.runFrom_idle hc]
    exact hA
  · simpa using hstop []

/-! ## One instruction of a block -/

variable {N B : Nat} {m : State} {mode : Mode} {k : Nat} {D : List Nat}

theorem Ready.top_eq (hr : m.Ready N B .write (k + 1) D) :
    ∃ c, m.cursor = some c ∧ c.mode = .write ∧ c.count = c.index + (k + 1) ∧
      m.heap.top = c.next := by
  obtain ⟨c, hc, hm, hcount⟩ := hr.awaits
  have hfit := (hr.isOpen.sound.cursor hc).2
  rw [hm] at hfit
  exact ⟨c, hc, hm, hcount, hfit.2.2.1⟩

theorem goesThrough_putStructure_eq (hr : m.Ready N B mode 0 D) (f : Functor) {x : Nat}
    (hx : x < N) :
    m.GoesThrough [.putStructure f x] fun m' => m'.Ready N B .write f.arity (x :: D) ∧
      m'.heap = (m.heap.grow (.str (m.heap.top + 1))).grow (.functor f) ∧
      m'.registers = m.registers.modify x fun _ => some m.heap.top := by
  have ho := hr.isOpen
  have hstep := Exec.run_putStructure (s := { m with steps := m.steps + 1 }) ho.capacity
    hr.awaits f (by rw [ho.size]; exact hx)
  exact .of_ok ho.stepLimit hstep ⟨⟨ho.of_run hstep (by simp) rfl (by simp) rfl,
    Cursor.awaits_start _ _ _, hr.defined.store (by rw [ho.size]; exact hx) _⟩, rfl, rfl⟩

theorem goesThrough_putStructure (hr : m.Ready N B mode 0 D) (f : Functor) {x : Nat}
    (hx : x < N) : m.GoesThrough [.putStructure f x] (Ready N B .write f.arity (x :: D)) :=
  (goesThrough_putStructure_eq hr f hx).mono fun _ h => h.1

theorem goesThrough_writeVariable_eq (hr : m.Ready N B .write (k + 1) D) {x : Nat} (hx : x < N)
    {i : Instruction} (hi : i = .setVariable x ∨ i = .unifyVariable x) :
    m.GoesThrough [i] fun m' => m'.Ready N B .write k (x :: D) ∧
      m'.heap = m.heap.grow (.ref m.heap.top) ∧
      m'.registers = m.registers.modify x (fun _ => some m.heap.top) ∧
      ∀ c, m.cursor = some c → m'.cursor = c.advance := by
  obtain ⟨c, hc, hm, hcount, htop⟩ := hr.top_eq
  have ho := hr.isOpen
  have hw := Exec.run_writeVariable (s := { m with steps := m.steps + 1 }) ho.capacity hc
    (by omega) htop (by rw [ho.size]; exact hx)
  have hstep : (Exec.execute i).run { m with steps := m.steps + 1 } =
      (Exec.writeVariable x).run { m with steps := m.steps + 1 } := by
    rcases hi with rfl | rfl
    · rfl
    · exact Exec.run_unifyVariable_write (s := { m with steps := m.steps + 1 }) hc hm x
  rw [hw] at hstep
  exact .of_ok ho.stepLimit hstep ⟨⟨ho.of_run hstep (by simp) rfl (by simp) rfl,
    Cursor.awaits_advance hm hcount, hr.defined.store (by rw [ho.size]; exact hx) _⟩, rfl, rfl,
    fun c' hc' => by rw [hc] at hc'; cases hc'; rfl⟩

theorem goesThrough_writeVariable (hr : m.Ready N B .write (k + 1) D) {x : Nat} (hx : x < N)
    {i : Instruction} (hi : i = .setVariable x ∨ i = .unifyVariable x) :
    m.GoesThrough [i] (Ready N B .write k (x :: D)) :=
  (goesThrough_writeVariable_eq hr hx hi).mono fun _ h => h.1

theorem goesThrough_writeValue_eq (hr : m.Ready N B .write (k + 1) D) {x : Nat} (hx : x ∈ D)
    {i : Instruction} (hi : i = .setValue x ∨ i = .unifyValue x) :
    m.GoesThrough [i] fun m' => m'.Ready N B .write k D ∧ m'.registers = m.registers ∧
      (∀ c, m.cursor = some c → m'.cursor = c.advance) ∧
      ∃ a cell, m.registers[x]? = some (some a) ∧ m.heap.cells[a]? = some cell ∧
        m'.heap = m.heap.grow cell := by
  obtain ⟨c, hc, hm, hcount, htop⟩ := hr.top_eq
  have ho := hr.isOpen
  obtain ⟨a, hxa⟩ := hr.defined x hx
  obtain ⟨cell, hcell, -⟩ := ho.sound.registers x a hxa
  have hw := Exec.run_writeValue (s := { m with steps := m.steps + 1 }) ho.capacity hc
    (by omega) htop hxa hcell
  have hstep : (Exec.execute i).run { m with steps := m.steps + 1 } =
      (Exec.writeValue x).run { m with steps := m.steps + 1 } := by
    rcases hi with rfl | rfl
    · rfl
    · exact Exec.run_unifyValue_write (s := { m with steps := m.steps + 1 }) hc hm x
  rw [hw] at hstep
  exact .of_ok ho.stepLimit hstep ⟨⟨ho.of_run hstep (by simp) rfl rfl rfl,
    Cursor.awaits_advance hm hcount, hr.defined⟩, rfl,
    fun c' hc' => by rw [hc] at hc'; cases hc'; rfl, a, cell, hxa, hcell, rfl⟩

theorem goesThrough_writeValue (hr : m.Ready N B .write (k + 1) D) {x : Nat} (hx : x ∈ D)
    {i : Instruction} (hi : i = .setValue x ∨ i = .unifyValue x) :
    m.GoesThrough [i] (Ready N B .write k D) :=
  (goesThrough_writeValue_eq hr hx hi).mono fun _ h => h.1

theorem goesThrough_unifyVariable_read_eq (hr : m.Ready N B .read (k + 1) D) {x : Nat}
    (hx : x < N) :
    m.GoesThrough [.unifyVariable x] fun m' => m'.Ready N B .read k (x :: D) ∧
      m'.heap = m.heap ∧ ∀ c, m.cursor = some c →
        m'.cursor = c.advance ∧ m'.registers = m.registers.modify x fun _ => some c.next := by
  obtain ⟨c, hc, hm, hcount⟩ := hr.awaits
  have ho := hr.isOpen
  have hstep := Exec.run_unifyVariable_read (s := { m with steps := m.steps + 1 }) hc hm
    (by omega) (by rw [ho.size]; exact hx)
  exact .of_ok ho.stepLimit hstep ⟨⟨ho.of_run hstep rfl rfl (by simp) rfl,
    Cursor.awaits_advance hm hcount, hr.defined.store (by rw [ho.size]; exact hx) _⟩, rfl,
    fun c' hc' => by rw [hc] at hc'; cases hc'; exact ⟨rfl, rfl⟩⟩

theorem goesThrough_unifyVariable (hr : m.Ready N B mode (k + 1) D) {x : Nat} (hx : x < N) :
    m.GoesThrough [.unifyVariable x] (Ready N B mode k (x :: D)) := by
  cases mode with
  | write => exact goesThrough_writeVariable hr hx (.inr rfl)
  | read => exact (goesThrough_unifyVariable_read_eq hr hx).mono fun _ h => h.1

theorem proceeds_unifyValue_read (hr : m.Ready N B .read (k + 1) D) {x : Nat} (hx : x ∈ D)
    (hA : A (.ok ())) (hU : A (.error (.unificationUnfinished B))) :
    Proceeds A m [.unifyValue x] (Ready N B .read k D) := by
  obtain ⟨c, hc, hm, hcount⟩ := hr.awaits
  have ho := hr.isOpen
  obtain ⟨r, hxr⟩ := hr.defined x hx
  have hfit := ho.sound.cursor hc
  -- reading, no structure is pending, so the heap is complete and unification cannot fault
  have hcomplete : m.heap.Complete none := by
    simpa [hc, Cursor.pending_read hm] using ho.sound.complete
  have hpairs : m.heap.PairsAt [(r, c.next)] := by
    intro p hp
    simp only [List.mem_singleton] at hp
    subst hp
    exact ⟨ho.sound.registers x r hxr, hfit.next_termAt hm⟩
  obtain ⟨hreb, -, hnf⟩ := unifyPairs_safe m.unifyBudget ho.sound.heap_wf hcomplete hpairs
  have hstep := Exec.run_unifyValue_read (s := { m with steps := m.steps + 1 }) hc hm
    (by omega) hxr
  dsimp only [Heap.unify] at hstep
  generalize hu : m.heap.unifyPairs m.unifyBudget [(r, c.next)] = res at hreb hnf hstep
  obtain ⟨h', outcome⟩ := res
  cases outcome with
  | unified =>
      exact .inl (.of_ok ho.stepLimit hstep ⟨ho.of_run hstep hreb.1 rfl rfl rfl,
        Cursor.awaits_advance hm hcount, hr.defined⟩)
  | clash => exact .of_stop (runFrom_of_failed ho.stepLimit hstep) hA
  | fault e => exact absurd rfl (hnf e)
  | unfinished => exact .of_stop (runFrom_of_error ho.stepLimit hstep) (ho.budget ▸ hU)

theorem proceeds_unifyValue (hr : m.Ready N B mode (k + 1) D) {x : Nat} (hx : x ∈ D)
    (hA : A (.ok ())) (hU : A (.error (.unificationUnfinished B))) :
    Proceeds A m [.unifyValue x] (Ready N B mode k D) := by
  cases mode with
  | write => exact (goesThrough_writeValue hr hx (.inr rfl)).proceeds
  | read => exact proceeds_unifyValue_read hr hx hA hU

/-- `get_structure` of a defined register goes through, reading or writing the structure's
arguments, or fails to unify. -/
theorem proceeds_getStructure (hr : m.Ready N B mode 0 D) (f : Functor) {x : Nat} (hx : x ∈ D)
    (hA : A (.ok ())) :
    Proceeds A m [.getStructure f x] fun m' => ∃ mode', m'.Ready N B mode' f.arity D := by
  have ho := hr.isOpen
  obtain ⟨a, hxa⟩ := hr.defined x hx
  obtain ⟨d, v, hg, -, hv⟩ := getValue_ok ho.sound.heap_wf (ho.sound.registers x a hxa)
  cases v with
  | unbound u =>
      -- an unbound variable is bound to a new structure, whose arguments are then written
      obtain ⟨rfl, hu⟩ := hv
      have hlt : u < ((m.heap.grow (.str (m.heap.top + 1))).grow (.functor f)).top := by
        have := (termAt_of_ref hu).lt_top
        simp only [grow_top]
        omega
      obtain ⟨h', hst, hred⟩ := store_ref (w := m.heap.top) hlt
      have hstep := Exec.run_getStructure_unbound (s := { m with steps := m.steps + 1 })
        ho.capacity hr.awaits hxa hg hu hst
      exact .inl (.of_ok ho.stepLimit hstep
        ⟨.write, ho.of_run hstep (by simp [hred.1]) rfl rfl rfl, Cursor.awaits_start _ _ _,
          hr.defined⟩)
  | struct g first =>
      by_cases hgf : g = f
      · subst hgf
        have hstep := Exec.run_getStructure_read (s := { m with steps := m.steps + 1 })
          hr.awaits hxa hg
        exact .inl (.of_ok ho.stepLimit hstep ⟨.read, ho.of_run hstep rfl rfl rfl rfl,
          Cursor.awaits_start _ _ _, hr.defined⟩)
      · exact .of_stop (runFrom_of_failed ho.stepLimit
          (Exec.run_getStructure_clash (s := { m with steps := m.steps + 1 }) hgf hxa hg)) hA

end State

end UnifyMachine.Machine
