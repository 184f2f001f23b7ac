import UnifyMachine.Proofs.Machine.Footprint

/-!
# Runs one after another

A machine keeps everything between runs: its heap, registers, cursor and step count. A run that
returns `Ok` ends with no structure active, and every instruction leaves the status as it found
it, so a second run picks up exactly where the first stopped: the two runs are the run of the
two pieces of code together. A failed machine ignores later runs, which is also what the
single run does after the failure.

Over any sequence of runs, the heap never holds more cells than its capacity and the step count
never passes its limit. A run stops with an error in one of three ways, which
`State.runFrom_error` lists: at the end with a structure still active, on the step limit before
the next instruction, or on the error of an instruction. Stopping on an overflow is always the
last, at an instruction that has changed nothing.
-/

namespace UnifyMachine.Machine

namespace State

/-! ## A run in two pieces -/

/-- A run from a running machine that returns `Ok`, followed by a second run, is the run of the
two pieces of code together. -/
theorem runFrom_then_run {m : State} (hm : m.status = .running) {I₁ : List Instruction}
    (h : (m.runFrom I₁).2 = .ok ()) (I₂ : List Instruction) :
    (m.runFrom I₁).1.run I₂ = m.runFrom (I₁ ++ I₂) := by
  induction I₁ generalizing m with
  | nil =>
      obtain ⟨status, cursor, registers, heap, steps, maxSteps, budget⟩ := m
      subst hm
      rw [runFrom] at h ⊢
      cases cursor with
      | some c => simp at h
      | none =>
          -- the first run ends with success; the second sets the machine running again
          rw [if_neg (by simp), List.nil_append, run, if_neg (by simp)]
  | cons i rest ih =>
      simp only [List.cons_append, runFrom] at h ⊢
      cases hl : m.stepLimitReached with
      | some l => simp [hl] at h
      | none =>
          simp only [hl] at h ⊢
          cases hr : (Exec.execute i).run { m with steps := m.steps + 1 } with
          | ok u m' =>
              simp only [hr] at h ⊢
              -- the instruction keeps the status, so the rest runs from a running machine
              have hm' : m'.status = .running := (frame_of_execute_ok hr).status.trans hm
              exact ih hm' h
          | error e m' =>
              cases e with
              | failed =>
                  dsimp only
                  rw [run, if_pos rfl]
              | error e => simp [hr] at h

/-- Running `I₁` and then `I₂` on any machine, when the first run returns `Ok`, ends as the
single run of `I₁ ++ I₂`: with the same result and the same machine, its status, heap,
registers, cursor and step count. -/
theorem run_then_run {m : State} {I₁ : List Instruction} (h : (m.run I₁).2 = .ok ())
    (I₂ : List Instruction) : (m.run I₁).1.run I₂ = m.run (I₁ ++ I₂) := by
  by_cases hf : m.status = .failed
  · -- a failed machine ignores both runs
    simp only [run, hf, if_true]
  · have hsplit := runFrom_then_run (m := { m with status := .running }) rfl
      (by simpa [run, hf] using h) I₂
    simpa only [run, hf, if_false] using hsplit

/-- Building `f(X)` in one run and matching it against `f(X)` in the next is one run of both. -/
theorem built_then_matched :
    ((State.new 2 {}).run [.putStructure ⟨"f", 1⟩ 0, .setVariable 1]).2 = .ok () ∧
      ((State.new 2 {}).run [.putStructure ⟨"f", 1⟩ 0, .setVariable 1]).1.run
          [.getStructure ⟨"f", 1⟩ 0, .unifyValue 1] =
        (State.new 2 {}).run ([.putStructure ⟨"f", 1⟩ 0, .setVariable 1] ++
          [.getStructure ⟨"f", 1⟩ 0, .unifyValue 1]) :=
  have h : ((State.new 2 {}).run [.putStructure ⟨"f", 1⟩ 0, .setVariable 1]).2 = .ok () := rfl
  ⟨h, run_then_run h _⟩

/-! ## How a run stops with an error -/

/-- How a run stops with an error: once the code before has run through, either at the end of
the code with a structure still active, or at the next instruction, on the step limit before
executing it or on its own error. -/
theorem runFrom_error {m m' : State} {code : List Instruction} {e : MachineError}
    (h : m.runFrom code = (m', .error e)) :
    ∃ pre rest m₀, code = pre ++ rest ∧ m.RunsThrough pre m₀ ∧
      ((rest = [] ∧ m' = m₀ ∧ e = .currentlyActive) ∨
        ∃ i more, rest = i :: more ∧
          ((∃ l, m₀.stepLimitReached = some l ∧ m' = m₀ ∧ e = .stepLimitExceeded l) ∨
            (m₀.stepLimitReached = none ∧
              (Exec.execute i).run { m₀ with steps := m₀.steps + 1 } = .error (.error e) m'))) := by
  induction code generalizing m with
  | nil =>
      rw [runFrom] at h
      split at h
      · obtain ⟨rfl, he⟩ := Prod.mk.inj h
        cases he
        exact ⟨[], [], m, rfl, .nil m, .inl ⟨rfl, rfl, rfl⟩⟩
      · cases h
  | cons i rest ih =>
      rw [runFrom] at h
      cases hl : m.stepLimitReached with
      | some l =>
          rw [hl] at h
          obtain ⟨rfl, h⟩ := Prod.mk.inj h
          cases h
          exact ⟨[], i :: rest, m, rfl, .nil m, .inr ⟨i, rest, rfl, .inl ⟨l, hl, rfl, rfl⟩⟩⟩
      | none =>
          rw [hl] at h
          dsimp only at h
          cases hr : (Exec.execute i).run { m with steps := m.steps + 1 } with
          | ok u m₁ =>
              rw [hr] at h
              -- the instruction went through: the error comes from the rest of the code
              obtain ⟨pre, more, m₀, hcode, hrun, hstop⟩ := ih h
              exact ⟨i :: pre, more, m₀, by rw [hcode, List.cons_append], .cons hl hr hrun, hstop⟩
          | error halt m₁ =>
              rw [hr] at h
              cases halt with
              | failed => cases h
              | error e' =>
                  obtain ⟨rfl, h⟩ := Prod.mk.inj h
                  cases h
                  exact ⟨[], i :: rest, m, rfl, .nil m, .inr ⟨i, rest, rfl, .inr ⟨hl, hr⟩⟩⟩

/-! ## The limits -/

/-- A machine within its limits: its heap fits its capacity and its step count has not passed
its step limit. -/
structure WithinLimits (m : State) : Prop where
  heap : m.heap.Fits
  steps : ∀ l, m.maxSteps = some l → m.steps ≤ l

theorem stepLimitReached_eq_none {m : State} (h : m.stepLimitReached = none) :
    ∀ l, m.maxSteps = some l → m.steps < l := by
  intro l hl
  unfold stepLimitReached at h
  rw [hl] at h
  by_cases hle : l ≤ m.steps
  · simp [hle] at h
  · omega

theorem stepLimitReached_eq_some {m : State} {l : Nat} (h : m.stepLimitReached = some l) :
    m.maxSteps = some l ∧ l ≤ m.steps := by
  unfold stepLimitReached at h
  split at h
  · split at h
    · cases h
      exact ⟨‹_›, ‹_›⟩
    · cases h
  · cases h

theorem WithinLimits.step {m m' : State} (hm : m.WithinLimits) (hl : m.stepLimitReached = none)
    (hf : ({ m with steps := m.steps + 1 } : State).Frame m') : m'.WithinLimits := by
  refine ⟨hf.heap.fits hm.heap, fun l hl' => ?_⟩
  have hlt := stepLimitReached_eq_none hl l (hf.maxSteps ▸ hl')
  rw [hf.steps]
  exact hlt

theorem runFrom_withinLimits {m : State} (hm : m.WithinLimits) (code : List Instruction) :
    (m.runFrom code).1.WithinLimits ∧ (m.runFrom code).1.heap.capacity = m.heap.capacity ∧
      (m.runFrom code).1.maxSteps = m.maxSteps := by
  induction code generalizing m with
  | nil =>
      rw [runFrom]
      split
      · exact ⟨hm, rfl, rfl⟩
      · exact ⟨⟨hm.heap, hm.steps⟩, rfl, rfl⟩
  | cons i rest ih =>
      rw [runFrom]
      cases hl : m.stepLimitReached with
      | some l => exact ⟨hm, rfl, rfl⟩
      | none =>
          dsimp only
          cases hr : (Exec.execute i).run { m with steps := m.steps + 1 } with
          | ok u m' =>
              have hf := frame_of_execute_ok hr
              obtain ⟨hw, hcap, hmax⟩ := ih (hm.step hl hf)
              exact ⟨hw, hcap.trans hf.heap.capacity, hmax.trans hf.maxSteps⟩
          | error halt m' =>
              have hf := (frame_of_execute_error hr).1
              have hw := hm.step hl hf
              cases halt with
              | failed => exact ⟨⟨hw.heap, hw.steps⟩, hf.heap.capacity, hf.maxSteps⟩
              | error e => exact ⟨hw, hf.heap.capacity, hf.maxSteps⟩

theorem run_withinLimits {m : State} (hm : m.WithinLimits) (code : List Instruction) :
    (m.run code).1.WithinLimits ∧ (m.run code).1.heap.capacity = m.heap.capacity ∧
      (m.run code).1.maxSteps = m.maxSteps := by
  unfold run
  split
  · exact ⟨hm, rfl, rfl⟩
  · exact runFrom_withinLimits (m := { m with status := .running }) ⟨hm.heap, hm.steps⟩ code

theorem RunsThrough.withinLimits {m m' : State} {code : List Instruction}
    (h : m.RunsThrough code m') (hm : m.WithinLimits) : m'.WithinLimits := by
  induction h with
  | nil => exact hm
  | cons hl hr _ ih => exact ih (hm.step hl (frame_of_execute_ok hr))

/-- Every sequence of runs from a new machine keeps it within the limits it was made with. -/
theorem runs_withinLimits (registerCount : Nat) (config : Config)
    (runs : List (List Instruction)) :
    let m := runs.foldl (fun m code => (m.run code).1) (State.new registerCount config)
    m.WithinLimits ∧ m.heap.capacity = config.heapCapacity ∧ m.maxSteps = config.maxSteps := by
  have hnew : (State.new registerCount config).WithinLimits :=
    ⟨fun c _ => by simp [State.new, Heap.empty, Heap.top], fun l _ => by simp [State.new]⟩
  suffices ∀ m : State, m.WithinLimits → m.heap.capacity = config.heapCapacity →
      m.maxSteps = config.maxSteps →
      let m' := runs.foldl (fun m code => (m.run code).1) m
      m'.WithinLimits ∧ m'.heap.capacity = config.heapCapacity ∧ m'.maxSteps = config.maxSteps from
    this _ hnew rfl rfl
  induction runs with
  | nil => exact fun m hm hcap hmax => ⟨hm, hcap, hmax⟩
  | cons code more ih =>
      intro m hm hcap hmax
      obtain ⟨hw, hcap', hmax'⟩ := run_withinLimits hm code
      exact ih _ hw (hcap'.trans hcap) (hmax'.trans hmax)

/-- Over every sequence of runs from a new machine, the heap never holds more cells than the
capacity the machine was made with, and the step count never passes its step limit. A further
run that stops on an overflow stops at an instruction that changed nothing: the machine is as
the code before that instruction left it, save for the step the instruction counted. A run
that stops on the step limit stops before its next instruction, executing nothing more, with
the machine as the code before left it and the count at the limit. -/
theorem runs_keep_limits (registerCount : Nat) (config : Config)
    (runs : List (List Instruction)) :
    let m := runs.foldl (fun m code => (m.run code).1) (State.new registerCount config)
    (∀ c, config.heapCapacity = some c → m.heap.top ≤ c) ∧
      (∀ l, config.maxSteps = some l → m.steps ≤ l) ∧
      ∀ code m' e, m.run code = (m', .error e) →
        (∀ c, e = .heap (.heapOverflow c) →
          ∃ pre i rest m₀, code = pre ++ i :: rest ∧
            ({ m with status := .running } : State).RunsThrough pre m₀ ∧
            m' = { m₀ with steps := m₀.steps + 1 }) ∧
        (∀ l, e = .stepLimitExceeded l →
          ∃ pre rest, code = pre ++ rest ∧ rest ≠ [] ∧
            ({ m with status := .running } : State).RunsThrough pre m' ∧ m'.steps = l) := by
  intro m
  obtain ⟨hm, hcap, hmax⟩ := runs_withinLimits registerCount config runs
  refine ⟨fun c hc => hm.heap c (hcap.trans hc), fun l hl => hm.steps l (hmax.trans hl), ?_⟩
  intro code m' e hrun
  unfold run at hrun
  split at hrun
  · cases hrun
  obtain ⟨pre, rest, m₀, hcode, hthrough, hstop⟩ := runFrom_error hrun
  have hw₀ := hthrough.withinLimits (m := { m with status := .running }) ⟨hm.heap, hm.steps⟩
  refine ⟨fun c he => ?_, fun l he => ?_⟩
  · -- an overflow is an instruction's own error, raised before it changed anything
    subst he
    rcases hstop with ⟨-, -, he⟩ | ⟨i, more, rfl, ⟨l, -, -, he⟩ | ⟨-, hexec⟩⟩
    · cases he
    · cases he
    · exact ⟨pre, i, more, m₀, hcode, hthrough, State.execute_overflow_unchanged hexec⟩
  · -- no instruction stops on the step limit: the run stopped before the next one
    subst he
    rcases hstop with ⟨-, -, he⟩ | ⟨i, more, rfl, ⟨l', hl', rfl, he⟩ | ⟨-, hexec⟩⟩
    · cases he
    · cases he
      obtain ⟨hmax₀, hle⟩ := stepLimitReached_eq_some hl'
      exact ⟨pre, i :: more, hcode, List.cons_ne_nil i more, hthrough,
        Nat.le_antisymm (hw₀.steps l hmax₀) hle⟩
    · exact ((frame_of_execute_error hexec).2).elim

end State

end UnifyMachine.Machine
