import UnifyMachine.Proofs.Compile.Matching
import UnifyMachine.Toplevel.Session

/-!
# Running a compiled unit

`runUnit` runs the code of a query and then the code of a program term on one new machine.
With no limit on the heap or the steps, the query's run never stops with an error: its code
goes through (`compileQuery_goesThrough`). The program term's run stops with an error in two
cases only. A unification may run out of its budget, which on two cyclic terms it does whatever
the budget. And a bare query, a variable, an atom or a number, builds nothing, so a compound
program term reads `X0` before anything was put there: the run stops at once with `noValue 0`.
-/

namespace UnifyMachine.Toplevel

open Machine Compile State

/-! ## A new machine and a compiled unit -/

theorem allocate_registerCount_pos (t : Term) : 0 < (allocate t).registerCount := by
  cases t with
  | var name => exact Nat.zero_lt_one
  | atom name => exact Nat.zero_lt_one
  | number d => exact Nat.zero_lt_one
  | compound name args => exact (Allocation.allocate_holds name args).lt

theorem variableRegisters_lt (t : Term) :
    ∀ v ∈ variableRegisters (allocate t) t, v.2 < (allocate t).registerCount := by
  intro v hv
  obtain ⟨name, -, rfl⟩ := List.mem_map.1 hv
  cases hx : (allocate t).varRegister? name with
  | none => simpa [hx] using allocate_registerCount_pos t
  | some x =>
      have he := (Allocation.allocate_wellFormed t).varsHeld name x hx
      simpa [hx] using Allocation.lt_of_entry he

theorem capture_ok {m : State} {vars : List (String × Nat)}
    (h : ∀ v ∈ vars, v.2 < m.registers.size) : ∃ l, capture m vars = .ok l := by
  induction vars with
  | nil => exact ⟨[], rfl⟩
  | cons v vs ih =>
      obtain ⟨name, x⟩ := v
      obtain ⟨l, hl⟩ := ih fun w hw => h w (List.mem_cons_of_mem _ hw)
      have hx : x < m.registers.size := h (name, x) List.mem_cons_self
      refine ⟨(name, m.registers[x]) :: l, ?_⟩
      unfold capture at hl ⊢
      rw [List.mapM_cons, hl]
      simp only [State.register, Array.getElem?_eq_getElem hx]
      rfl

/-! ## The code of a program term -/

theorem foldl_extends_code {β : Type}
    {f : List Instruction × β → Nat → List Instruction × β}
    (hf : ∀ acc x, ∃ c, (f acc x).1 = acc.1 ++ c) (xs : List Nat)
    (acc : List Instruction × β) :
    ∃ c, (xs.foldl f acc).1 = acc.1 ++ c := by
  induction xs generalizing acc with
  | nil => exact ⟨[], (List.append_nil _).symm⟩
  | cons x xs ih =>
      obtain ⟨c₁, h₁⟩ := hf acc x
      obtain ⟨c₂, h₂⟩ := ih (f acc x)
      exact ⟨c₁ ++ c₂, by rw [List.foldl_cons, h₂, h₁, List.append_assoc]⟩

theorem matchArgument_extends_code (a : Allocation) (acc : List Instruction × List Nat) (r : Nat) :
    ∃ c, (matchArgument a acc r).1 = acc.1 ++ c := by
  unfold matchArgument
  split
  · split
    · exact ⟨_, rfl⟩
    · exact ⟨_, rfl⟩
  · exact ⟨_, rfl⟩

theorem compileProgram_code_compound (name : String) (args : List Term) :
    ∃ rest, (compileProgram (.compound name args)).code =
      .getStructure ⟨name, args.length⟩ 0 :: rest := by
  have hh := Allocation.allocate_holds name args
  obtain ⟨c, hc⟩ := Nat.exists_eq_succ_of_ne_zero (Nat.pos_iff_ne_zero.1 hh.lt)
  cases hh with
  | compound he _ _ _ =>
      rw [compileProgram_code, hc, List.range_succ_eq_map, List.foldl_cons]
      obtain ⟨rest, hrest⟩ :=
        foldl_extends_code (f := matchStep (allocate (.compound name args)))
          (fun acc x => ⟨_, rfl⟩) ((List.range c).map Nat.succ)
          (matchStep (allocate (.compound name args)) ([], []) 0)
      obtain ⟨args', hargs'⟩ := foldl_extends_code (matchArgument_extends_code _) _
        ([.getStructure ⟨name, args.length⟩ 0], ([] : List Nat))
      refine ⟨args' ++ rest, ?_⟩
      rw [hrest]
      simp only [matchStep, he, Option.getD_some, matchRegister_compound, List.nil_append]
      rw [hargs']
      rfl

/-- A program term that is not compound compiles to no instruction. -/
theorem compileProgram_code_bare {p : Term} (hp : p.isCompound = false) :
    (compileProgram p).code = [] := by
  cases p with
  | var name => rfl
  | atom name => rfl
  | number d => rfl
  | compound name args => simp [Term.isCompound] at hp

/-- A program run whose root register is defined, or whose code reads none, ends with a program
result: success, matched or not, or an unfinished unification. -/
theorem run_compileProgram (p : Term) {N B : Nat} {m : State} {mode : Mode} {D : List Nat}
    (hN : (compileProgram p).registerCount ≤ N) (hr : m.Ready N B mode 0 D)
    (hm : m.status ≠ .failed) (h0 : p.isCompound = true → 0 ∈ D) :
    ProgramResult B (m.run (compileProgram p).code).2 := by
  rw [State.run, if_neg hm]
  have hr' := hr.withStatus .running
  cases hp : p.isCompound with
  | true => exact (compileProgram_proceeds p hN hr' (h0 hp)).result (Or.inl rfl)
  | false =>
      rw [compileProgram_code_bare hp, (RunsThrough.nil _).runFrom_idle hr'.awaits]
      exact Or.inl rfl

/-- A compound program term on a machine whose `X0` was never written stops at its first
instruction with `noValue 0`. -/
theorem run_compileProgram_unset (name : String) (args : List Term) {m : State}
    (hm : m.status ≠ .failed) (hl : m.stepLimitReached = none)
    (h0 : m.registers[0]? = some none) :
    (m.run (compileProgram (.compound name args)).code).2 = .error (.noValue 0) := by
  obtain ⟨rest, hcode⟩ := compileProgram_code_compound name args
  rw [State.run, if_neg hm, hcode, runFrom_of_error (m := { m with status := .running }) hl
    (Exec.run_getStructure_unset h0) rest]

/-! ## The code of a query -/

theorem run_compileQuery (q : Term) {N : Nat} (hN : (compileQuery q).registerCount ≤ N)
    (config : Config) (hcap : config.heapCapacity = none) (hmax : config.maxSteps = none) :
    ∃ (m : State) (D : List Nat), (State.new N config).run (compileQuery q).code =
        ({ m with status := .succeeded }, .ok ()) ∧
      m.Ready N config.unifyBudget .write 0 D ∧ (q.isCompound = true → 0 ∈ D) := by
  obtain ⟨m, hrun, D, hready, h0⟩ := compileQuery_goesThrough q hN (new_ready N hcap hmax)
  refine ⟨m, D, ?_, hready, h0⟩
  rw [State.run, if_neg (by simp [State.new]), hrun.runFrom_idle hready.awaits]

theorem run_compileQuery_bare {q : Term} (hq : q.isCompound = false) (N : Nat) (config : Config) :
    (State.new N config).run (compileQuery q).code =
      ({ State.new N config with status := .succeeded }, .ok ()) := by
  cases q with
  | var name => rfl
  | atom name => rfl
  | number d => rfl
  | compound name args => simp [Term.isCompound] at hq

/-! ## Reading the result of a unit -/

theorem runUnit_ne_buildQuery {config : Config} {unit : CompiledUnit} {m₁ : State}
    (hq : (State.new unit.registerCount config).run unit.query.code = (m₁, .ok ()))
    (e : MachineError) : (runUnit config unit).result ≠ .error (.buildQuery e) := by
  unfold runUnit
  rw [hq]
  dsimp only
  -- every later stage ends with another kind of result
  repeat' split
  all_goals simp

/-- An error of the program term's run comes from a program run after a query run that went
through. -/
theorem runUnit_unifyProgram {config : Config} {unit : CompiledUnit} {e : MachineError}
    (h : (runUnit config unit).result = .error (.unifyProgram e)) :
    ∃ m₁, (State.new unit.registerCount config).run unit.query.code = (m₁, .ok ()) ∧
      (m₁.run unit.program.code).2 = .error e := by
  unfold runUnit at h
  generalize (State.new unit.registerCount config).run unit.query.code = r₁ at h ⊢
  obtain ⟨m₁, r₁⟩ := r₁
  cases r₁ with
  | error e₁ => simp at h
  | ok u =>
      refine ⟨m₁, rfl, ?_⟩
      dsimp only at h
      split at h
      · simp at h
      · generalize m₁.run unit.program.code = r₂ at h ⊢
        obtain ⟨m₂, r₂⟩ := r₂
        cases r₂ with
        | error e₂ =>
            simp only [Except.error.injEq, RunError.unifyProgram.injEq] at h
            rw [h]
        | ok v =>
            dsimp only at h
            repeat' split at h
            all_goals simp at h

theorem runUnit_of_program_error {config : Config} {unit : CompiledUnit} {m₁ : State}
    {l : List (String × Option Nat)} {e : MachineError}
    (hq : (State.new unit.registerCount config).run unit.query.code = (m₁, .ok ()))
    (hc : capture m₁ unit.query.vars = .ok l) (hp : (m₁.run unit.program.code).2 = .error e) :
    (runUnit config unit).result = .error (.unifyProgram e) := by
  unfold runUnit
  rw [hq]
  dsimp only
  rw [hc]
  dsimp only
  generalize m₁.run unit.program.code = r₂ at hp ⊢
  obtain ⟨m₂, r₂⟩ := r₂
  subst hp
  rfl

/-! ## Errors of a compiled unit -/

/-- With no limit on the heap or the steps, a compiled unit never stops with an error while
building the query, and its program term's run stops with an error only when a unification
runs out of budget, or when a bare query leaves `X0` unset for a compound program term, which
then always stops with `noValue 0`. -/
theorem compiledUnit_run_errors (q p : Term) (budget : Nat) :
    let r := (runUnit { unifyBudget := budget } (compile q p)).result
    (∀ e, r ≠ .error (.buildQuery e)) ∧
    (∀ e, r = .error (.unifyProgram e) →
      e = .unificationUnfinished budget ∨
        (e = .noValue 0 ∧ q.isCompound = false ∧ p.isCompound = true)) ∧
    (q.isCompound = false → p.isCompound = true → r = .error (.unifyProgram (.noValue 0))) := by
  intro r
  have hNq : (compileQuery q).registerCount ≤ (compile q p).registerCount := Nat.le_max_left _ _
  have hNp : (compileProgram p).registerCount ≤ (compile q p).registerCount :=
    Nat.le_max_right _ _
  obtain ⟨mq, D, hquery, hready, hroot⟩ :=
    run_compileQuery q hNq { unifyBudget := budget } rfl rfl
  -- a bare query leaves every register of the new machine unset, `X0` among them
  have hbare : q.isCompound = false →
      (State.new (compile q p).registerCount { unifyBudget := budget }).run
          (compile q p).query.code =
        ({ State.new (compile q p).registerCount { unifyBudget := budget } with
            status := .succeeded }, .ok ()) :=
    fun hq => run_compileQuery_bare hq _ _
  have hunset : p.isCompound = true →
      (State.new (compile q p).registerCount ({ unifyBudget := budget } : Config)).registers[0]? =
        some none := by
    intro _
    have hpos := Nat.lt_of_lt_of_le (allocate_registerCount_pos p) hNp
    simp [State.new, hpos]
  refine ⟨fun e => runUnit_ne_buildQuery hquery e, fun e he => ?_, fun hq hp => ?_⟩
  · obtain ⟨m₁, hq₁, hp₁⟩ := runUnit_unifyProgram he
    by_cases hcase : q.isCompound = false ∧ p.isCompound = true
    · -- a bare query and a compound program term: `X0` is read unset
      obtain ⟨hq, hp⟩ := hcase
      have hm₁ := (Prod.mk.inj (hq₁.symm.trans (hbare hq))).1
      subst hm₁
      cases p with
      | compound name args =>
          have hnv := run_compileProgram_unset name args (by simp [State.new])
            (by simp [stepLimitReached, State.new]) (hunset hp)
          exact .inr ⟨Except.error.inj (hp₁.symm.trans hnv), hq, hp⟩
      | _ => simp [Term.isCompound] at hp
    · -- otherwise the root is defined whenever the program term reads it
      have hm₁ := (Prod.mk.inj (hq₁.symm.trans hquery)).1
      subst hm₁
      have h0 : p.isCompound = true → 0 ∈ D := fun hp =>
        hroot (by cases hq : q.isCompound <;> simp_all)
      rcases run_compileProgram p hNp (hready.withStatus .succeeded) (by simp) h0 with hok | hun
      · cases hp₁.symm.trans hok
      · exact .inl (Except.error.inj (hp₁.symm.trans hun))
  · have hq₁ := hbare hq
    have hcap : ∃ l, capture
        { State.new (compile q p).registerCount { unifyBudget := budget } with
          status := .succeeded } (compile q p).query.vars = .ok l :=
      capture_ok fun v hv => by
        have := variableRegisters_lt q v hv
        simp only [State.new, Array.size_replicate]
        exact Nat.lt_of_lt_of_le this hNq
    obtain ⟨l, hl⟩ := hcap
    cases p with
    | compound name args =>
        exact runUnit_of_program_error hq₁ hl (run_compileProgram_unset name args
          (by simp) (by simp [stepLimitReached, State.new]) (hunset hp))
    | _ => simp [Term.isCompound] at hp

end UnifyMachine.Toplevel
