import UnifyMachine.Proofs.Machine.Invariant

/-!
# Machines reached by runs

A machine is reached when it is new, or when it is what a run of any code leaves from a machine
reached before, whatever the run returned: success, failure to unify or an error. Each reached
machine has the shape its steps rely on: references point to term cells below the top, structure
pointers to functor cells, registers to term cells, a structure being written ends at the top,
and, unless the machine failed, every structure is complete when none is active.

The shape follows from the invariant of `State.Invariant`, which every instruction keeps
(`State.execute_sound`); a run keeps it instruction by instruction, also when it stops halfway.
The same induction tells which errors a run can stop with: no heap fault but an overflow, never
a step past the last argument, and a term out of place only from `set_variable` or `set_value`
executed while a structure is being read.
-/

namespace UnifyMachine.Machine

open Heap

namespace State

/-- The machines reached from a new machine by runs of any code, whatever each run returns. -/
inductive Reachable : State → Prop
  | new (registerCount : Nat) (config : Config) : Reachable (State.new registerCount config)
  | run {m : State} (code : List Instruction) : Reachable m → Reachable (m.run code).1

/-- Running the instructions of `code` from `m`, each within the step limit and none stopping
the run, reaches `m'`. -/
inductive RunsThrough : State → List Instruction → State → Prop
  | nil (m : State) : RunsThrough m [] m
  | cons {m m' m'' : State} {i : Instruction} {rest : List Instruction} :
      m.stepLimitReached = none →
      (Exec.execute i).run { m with steps := m.steps + 1 } = .ok () m' →
      RunsThrough m' rest m'' → RunsThrough m (i :: rest) m''

/-- The shape of a machine: every reference points below the top to a term cell, every
structure pointer to a functor cell, every register to a term cell; a structure being written
ends at the top; and, unless the machine has failed, when no structure is active every functor
cell is followed by as many term cells as its arity. -/
structure Shaped (m : State) : Prop where
  ref_target : ∀ (a r : Nat), m.heap.cells[a]? = some (Cell.ref r) → m.heap.TermAt r
  str_target : ∀ (a fa : Nat), m.heap.cells[a]? = some (Cell.str fa) →
    ∃ f, m.heap.cells[fa]? = some (Cell.functor f)
  registers : m.heap.HoldsTerms m.registers
  write_top : ∀ c, m.cursor = some c → c.mode = .write → m.heap.top = c.next
  complete : m.status ≠ .failed → m.cursor = none → m.heap.Complete none

end State

/-- The errors a run of `code` from `m` can stop with: no heap fault but an overflow, never a
step past the last argument, and a term out of place only from `set_variable` or `set_value`
run while a structure is being read. -/
def MachineError.RunAllowed (m : State) (code : List Instruction) : MachineError → Prop
  | .heap (.heapOverflow _) => True
  | .heap _ => False
  | .noMoreTerms _ => False
  | .termOutOfPlace _ _ _ =>
      ∃ pre i rest m', code = pre ++ i :: rest ∧ m.RunsThrough pre m' ∧
        (∃ x, i = .setVariable x ∨ i = .setValue x) ∧ ∃ c, m'.cursor = some c ∧ c.mode = .read
  | _ => True

/-! ## Errors of a run -/

theorem MachineError.Allowed.runAllowed {e : MachineError} {i : Instruction} {m : State}
    (he : e.Allowed i m.cursor) (rest : List Instruction) : e.RunAllowed m (i :: rest) := by
  match e, he with
  | .heap (.heapOverflow _), _ => trivial
  | .indexOutOfRange _ _, _ | .noValue _, _ | .notActive, _ | .currentlyActive, _ => trivial
  | .stepLimitExceeded _, _ | .unificationUnfinished _, _ => trivial
  | .termOutOfPlace _ _ _, ⟨hi, c, hc, hm⟩ =>
      exact ⟨[], i, rest, m, rfl, .nil m, hi, c, hc, hm⟩

theorem MachineError.RunAllowed.cons {e : MachineError} {m m' : State} {i : Instruction}
    {rest : List Instruction} (hl : m.stepLimitReached = none)
    (hi : (Exec.execute i).run { m with steps := m.steps + 1 } = .ok () m')
    (he : e.RunAllowed m' rest) : e.RunAllowed m (i :: rest) := by
  match e, he with
  | .heap (.heapOverflow _), _ => trivial
  | .indexOutOfRange _ _, _ | .noValue _, _ | .notActive, _ | .currentlyActive, _ => trivial
  | .stepLimitExceeded _, _ | .unificationUnfinished _, _ => trivial
  | .termOutOfPlace _ _ _, ⟨pre, j, more, m'', hcode, hrun, hj, hread⟩ =>
      exact ⟨i :: pre, j, more, m'', by simp [hcode], .cons hl hi hrun, hj, hread⟩

/-! ## Running code piece by piece -/

namespace State

theorem RunsThrough.runFrom_append {m m' : State} {pre : List Instruction}
    (h : m.RunsThrough pre m') (rest : List Instruction) :
    m.runFrom (pre ++ rest) = m'.runFrom rest := by
  induction h with
  | nil => rfl
  | cons hl hi _ ih =>
      rw [List.cons_append, runFrom, hl]
      simp only [hi]
      exact ih

theorem runFrom_cons_of_wp {m : State} {i : Instruction} {rest : List Instruction}
    {P : State × Except MachineError Unit → Prop} (hl : m.stepLimitReached = none)
    (hw : Exec.wp (Exec.execute i) (fun _ m' => P (m'.runFrom rest))
      (fun h m' => match h with
        | .failed => P ({ m' with status := .failed }, .ok ())
        | .error e => P (m', .error e)) { m with steps := m.steps + 1 }) :
    P (m.runFrom (i :: rest)) := by
  unfold Exec.wp at hw
  rw [runFrom, hl]
  dsimp only
  cases hr : (Exec.execute i).run { m with steps := m.steps + 1 } with
  | ok u m' =>
      rw [hr] at hw
      exact hw
  | error h m' =>
      rw [hr] at hw
      cases h <;> exact hw

end State

/-! ## The invariant along a run -/

namespace State

theorem Sound.of_eq {m m' : State} (hs : m.Sound) (hh : m'.heap = m.heap)
    (hr : m'.registers = m.registers) (hc : m'.cursor = m.cursor) : m'.Sound := by
  obtain ⟨hw, hreg, hcur, hcom⟩ := hs
  exact ⟨hh ▸ hw, hh ▸ hr ▸ hreg, fun h => hh ▸ hcur (hc ▸ h), hh ▸ hc ▸ hcom⟩

theorem Settled.of_eq {m m' : State} (hs : m.Settled) (hh : m'.heap = m.heap)
    (hr : m'.registers = m.registers) (hc : m'.cursor = m.cursor) : m'.Settled := by
  obtain ⟨hw, hreg, hcur⟩ := hs
  exact ⟨hh ▸ hw, hh ▸ hr ▸ hreg, hc ▸ hcur⟩

theorem Invariant.sound {m : State} (hm : m.Invariant) (hf : m.status ≠ .failed) : m.Sound := by
  rcases hm with hs | ⟨hst, -⟩
  · exact hs
  · exact absurd hst hf

theorem new_sound (registerCount : Nat) (config : Config) :
    (State.new registerCount config).Sound where
  heap_wf := ⟨fun h => by simp [State.new, Heap.empty] at h⟩
  registers := fun x a hx => by simp [State.new, Array.getElem?_replicate] at hx
  cursor := fun h => by simp [State.new] at h
  complete := fun a f h => by simp [State.new, Heap.empty] at h

/-- A run from a sound machine leaves a machine in the invariant, and stops only with the errors
`MachineError.RunAllowed` lets through. The induction is on the code; each instruction is taken
by `execute_sound`. -/
theorem runFrom_invariant {m : State} (hs : m.Sound) (code : List Instruction) :
    (m.runFrom code).1.Invariant ∧
      ∀ e, (m.runFrom code).2 = .error e → e.RunAllowed m code := by
  induction code generalizing m with
  | nil =>
      unfold runFrom
      split
      · exact ⟨.inl hs, fun e he => by cases he; trivial⟩
      · exact ⟨.inl (hs.of_eq rfl rfl rfl), fun e he => by cases he⟩
  | cons i rest ih =>
      unfold runFrom
      cases hl : m.stepLimitReached with
      | some limit => exact ⟨.inl hs, fun e he => by cases he; trivial⟩
      | none =>
          have hs' : ({ m with steps := m.steps + 1 } : State).Sound := hs.of_eq rfl rfl rfl
          have hw := execute_sound hs' i
          unfold Exec.wp at hw
          dsimp only
          cases hr : (Exec.execute i).run { m with steps := m.steps + 1 } with
          | ok u m' =>
              rw [hr] at hw
              obtain ⟨hinv, herr⟩ := ih hw
              exact ⟨hinv, fun e he => (herr e he).cons hl hr⟩
          | error h m' =>
              rw [hr] at hw
              cases h with
              | failed => exact ⟨.inr ⟨rfl, hw.of_eq rfl rfl rfl⟩, fun e he => by cases he⟩
              | error e' =>
                  obtain ⟨hs'', he'⟩ := hw
                  exact ⟨.inl hs'', fun e he => by
                    cases he
                    exact MachineError.Allowed.runAllowed (m := m) he' rest⟩

/-- A run keeps the invariant; a failed machine does not run, any other runs from a sound
state. -/
theorem run_invariant {m : State} (hm : m.Invariant) (code : List Instruction) :
    (m.run code).1.Invariant ∧
      ∀ e, (m.run code).2 = .error e → e.RunAllowed { m with status := .running } code := by
  unfold run
  split
  · exact ⟨hm, fun e he => by cases he⟩
  · rename_i hf
    have hs : ({ m with status := .running } : State).Sound := (hm.sound hf).of_eq rfl rfl rfl
    exact runFrom_invariant hs code

theorem Reachable.invariant {m : State} (hm : m.Reachable) : m.Invariant := by
  induction hm with
  | new registerCount config => exact .inl (new_sound registerCount config)
  | run code _ ih => exact (run_invariant ih code).1

theorem Invariant.shaped {m : State} (hm : m.Invariant) : m.Shaped := by
  rcases hm with hs | ⟨hf, hs⟩
  · refine ⟨fun a r ha => (hs.heap_wf.cell_ok ha).1, fun a fa ha => hs.heap_wf.cell_ok ha,
      hs.registers, fun c hc hw => ?_, fun _ hc => ?_⟩
    · have hfit := (hs.cursor hc).2
      rw [hw] at hfit
      exact hfit.2.2.1
    · simpa [hc] using hs.complete
  · refine ⟨fun a r ha => (hs.heap_wf.cell_ok ha).1, fun a fa ha => hs.heap_wf.cell_ok ha,
      hs.registers, fun c hc _ => ?_, fun hnf _ => absurd hf hnf⟩
    rw [hs.cursor] at hc
    cases hc

/-- Every machine reached from a new one by runs has the shape of `State.Shaped`, and a further
run from it stops only with the errors `MachineError.RunAllowed` lets through: never a heap
fault other than an overflow, never a step past the last argument, and a term out of place only
from `set_variable` or `set_value` while a structure is being read. -/
theorem reachable_shaped_runs_allowed {m : State} (hm : m.Reachable) :
    m.Shaped ∧ ∀ code e, (m.run code).2 = .error e →
      e.RunAllowed { m with status := .running } code := by
  have hinv := hm.invariant
  exact ⟨hinv.shaped, fun code e he => (run_invariant hinv code).2 e he⟩

/-- The machine a run leaves halfway through writing `f(_)`, its last argument missing, is
shaped, and so is every run from it. -/
theorem halfWritten_shaped :
    let m := ((State.new 1 {}).run [.putStructure ⟨"f", 1⟩ 0]).1
    m.Shaped ∧ ∀ code e, (m.run code).2 = .error e →
      e.RunAllowed { m with status := .running } code :=
  reachable_shaped_runs_allowed (.run _ (.new 1 {}))

/-! ## Reference chains -/

theorem Invariant.heap_wf {m : State} (hm : m.Invariant) : m.heap.WellFormed := by
  rcases hm with hs | ⟨-, hs⟩
  · exact hs.heap_wf
  · exact hs.heap_wf

/-- In every machine reached by runs, a reference that is bound points at a structure pointer
or down at another reference, so that the references from any address below the top lead,
through finitely many links, to an unbound variable or a structure pointer; only a functor cell
is refused by dereferencing, at once. -/
theorem reachable_references_descend {m : State} (hm : m.Reachable) :
    (∀ a b, m.heap.cells[a]? = some (Cell.ref b) → b ≠ a →
      (∃ fa, m.heap.cells[b]? = some (Cell.str fa)) ∨
        (∃ r, m.heap.cells[b]? = some (Cell.ref r)) ∧ b < a) ∧
    ∀ a < m.heap.top,
      (∃ d, m.heap.deref a = .ok d ∧ m.heap.DerefsTo a d ∧
          (m.heap.cells[d]? = some (Cell.ref d) ∨ ∃ fa, m.heap.cells[d]? = some (Cell.str fa))) ∨
        ∃ f, m.heap.cells[a]? = some (Cell.functor f) ∧ m.heap.deref a = .error (.notATerm a) := by
  have hw := hm.invariant.heap_wf
  exact ⟨fun a b hc hne => hw.link_target hc hne, fun a ha => hw.deref_below_top ha⟩

/-- Matching `g` against an unbound variable binds it upwards, to the structure built for it;
the references of that machine still lead down or to a structure. -/
theorem boundUpwards_references_descend :
    let m := ((State.new 2 {}).run
      [.putStructure ⟨"f", 1⟩ 0, .setVariable 1, .getStructure ⟨"g", 0⟩ 1]).1
    m.Reachable ∧
      (∀ a b, m.heap.cells[a]? = some (Cell.ref b) → b ≠ a →
        (∃ fa, m.heap.cells[b]? = some (Cell.str fa)) ∨
          (∃ r, m.heap.cells[b]? = some (Cell.ref r)) ∧ b < a) ∧
      ∀ a < m.heap.top,
        (∃ d, m.heap.deref a = .ok d ∧ m.heap.DerefsTo a d ∧
            (m.heap.cells[d]? = some (Cell.ref d) ∨ ∃ fa, m.heap.cells[d]? = some (Cell.str fa))) ∨
          ∃ f, m.heap.cells[a]? = some (Cell.functor f) ∧ m.heap.deref a = .error (.notATerm a) :=
  have hm : State.Reachable ((State.new 2 {}).run
      [.putStructure ⟨"f", 1⟩ 0, .setVariable 1, .getStructure ⟨"g", 0⟩ 1]).1 :=
    .run _ (.new 2 {})
  ⟨hm, reachable_references_descend hm⟩

/-- Not every address below the top dereferences to a term: after `put_structure f/0 X0` on a
new machine, address 1 holds the functor cell, which dereferencing refuses with `notATerm`. -/
theorem functorCell_not_dereferenced :
    let m := ((State.new 1 {}).run [.putStructure ⟨"f", 0⟩ 0]).1
    m.Reachable ∧ ¬ ∀ a < m.heap.top, ∃ d, m.heap.deref a = .ok d ∧
      (m.heap.cells[d]? = some (Cell.ref d) ∨ ∃ fa, m.heap.cells[d]? = some (Cell.str fa)) := by
  intro m
  have hfun : m.heap.deref 1 = .error (.notATerm 1) := rfl
  refine ⟨.run _ (.new 1 {}), fun h => ?_⟩
  obtain ⟨d, hd, -⟩ := h 1 (by decide)
  rw [hfun] at hd
  cases hd

end State

end UnifyMachine.Machine
