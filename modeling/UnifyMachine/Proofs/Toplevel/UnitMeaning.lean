import UnifyMachine.Proofs.Compile.ProgramMeaning
import UnifyMachine.Proofs.Toplevel.UnitRun

/-!
# What a compiled unit decides

A compound query and a program term that is compound or a bare variable, compiled together and
run one after the other on a new machine, decide whether the two terms unify with their
variables kept apart. The machine fails exactly when no trees for the variables of the two make
their trees equal. Otherwise the final heap holds a most general unifier: each query variable is
read at the address its register held after the query's run, each program variable at the
address its register holds after the program's, and every other unifier is an instance of these
trees. They are read from a finite heap, so they are rational trees.

The query's side is what its code builds (`Compile.Denotes`): any trees for its variables are
read off some model of its heap. The program's side is what its code decides (`Compile.Matches`,
`Compile.Stops`): any trees for its variables give its registers trees that follow its
structures (`Allocation.regTree`), and each model of the query's heap that agrees with them at
the root extends to a model of the final heap. A bare program variable has no code: it reads the
query's root in `X0`. Both shapes end in `Toplevel.DecidesUnification`.
-/

namespace UnifyMachine

namespace Compile

open Machine State Heap

namespace Allocation

variable {V : Type}

theorem Respects.satisfies {a : Allocation} {m : State} (hr : a.Respects a.registerCount m)
    {M : Nat → Tree V} (hM : m.heap.Model M) : a.Satisfies fun r => M (m.address r) :=
  fun x name arity args he => hr V M hM x (lt_of_entry he) name arity args he

section Compound

variable (name : String) (args : List Term)

theorem varRegister_mem_matchedBelow {x : String}
    (hx : x ∈ (Term.compound name args).variableNames) :
    ((allocate (.compound name args)).varRegister? x).getD 0 ∈
      (allocate (.compound name args)).matchedBelow
        (allocate (.compound name args)).registerCount := by
  obtain ⟨y, hy⟩ :=
    (allocate_holds name args).varRegister_isSome (allocate_layout _).varsOwned x hx
  have hlt := lt_of_entry ((allocate_layout _).varsHeld x y hy)
  rw [hy, Option.getD_some]
  exact matchedBelow_mono (Nat.le_of_lt hlt)
    (mem_matchedBelow (allocate_wellFormed _).parented hlt)

end Compound

end Allocation

open Allocation

section

variable {qn pn : String} {qargs pargs : List Term} {seen : List Nat} {m : State} {A : Nat}
  {V : Type}

theorem exists_model_of_query
    (hd : (allocate (.compound qn qargs)).Denotes seen m A (.compound qn qargs))
    (hv : m.VarCells seen) (hw : m.heap.WellFormed) (σq : String → Tree V) :
    ∃ M₀ : Nat → Tree V, m.heap.Model M₀ ∧
      (∀ x ∈ (Term.compound qn qargs).variableNames,
        (allocate (.compound qn qargs)).varTrees m M₀ x = σq x) ∧
      M₀ A = (Term.compound qn qargs).tree σq := by
  obtain ⟨M₀, hM₀, hvars⟩ :=
    hd.exists_model (allocate_layout _) (allocate_holds qn qargs) hv hw σq
  refine ⟨M₀, hM₀, hvars, ?_⟩
  calc M₀ A = (Term.compound qn qargs).tree ((allocate (.compound qn qargs)).varTrees m M₀) :=
        hd.2 M₀ hM₀
    _ = (Term.compound qn qargs).tree σq := Term.tree_congr _ hvars

theorem exists_model_of_unifier
    (hd : (allocate (.compound qn qargs)).Denotes seen m A (.compound qn qargs))
    (hv : m.VarCells seen) (hw : m.heap.WellFormed) {σq σp : String → Tree V}
    (heq : (Term.compound qn qargs).tree σq = (Term.compound pn pargs).tree σp) :
    ∃ M₀ : Nat → Tree V, m.heap.Model M₀ ∧
      (∀ x ∈ (Term.compound qn qargs).variableNames,
        (allocate (.compound qn qargs)).varTrees m M₀ x = σq x) ∧
      (allocate (.compound pn pargs)).regTree σp 0 = M₀ A := by
  obtain ⟨M₀, hM₀, hvars, hroot⟩ := exists_model_of_query hd hv hw σq
  refine ⟨M₀, hM₀, hvars, ?_⟩
  calc (allocate (.compound pn pargs)).regTree σp 0
      = (Term.compound pn pargs).tree σp := regTree_root pn pargs σp
    _ = (Term.compound qn qargs).tree σq := heq.symm
    _ = M₀ A := hroot.symm

theorem queryVar_eq_subst
    (hd : (allocate (.compound qn qargs)).Denotes seen m A (.compound qn qargs))
    (hv : m.VarCells seen) {h' : Heap} (hw' : h'.WellFormed) (hc' : h'.Complete none)
    (hterms : ∀ c, m.heap.TermAt c → h'.TermAt c) {M₀ M : Nat → Tree V} (hM : h'.Model M)
    (hbelow : ∀ c < m.heap.top, M c = M₀ c) {x : String}
    (hx : x ∈ (Term.compound qn qargs).variableNames) :
    (allocate (.compound qn qargs)).varTrees m M₀ x =
      ((allocate (.compound qn qargs)).varTrees m h'.tree x).subst M := by
  -- the variable's register holds an unbound cell of the query's heap
  obtain ⟨c, hc, hcell⟩ := hv.1 _ (hd.1 x hx)
  have ht : m.heap.TermAt c := termAt_of_ref hcell
  calc (allocate (.compound qn qargs)).varTrees m M₀ x = M₀ c := by
        rw [varTrees, State.address_of hc]
    _ = M c := (hbelow c ht.lt_top).symm
    _ = (h'.tree c).subst M := hM.eq_subst_tree hw' hc' (hterms c ht)
    _ = _ := by rw [varTrees, State.address_of hc]

theorem Apart.no_unifier
    (hd : (allocate (.compound qn qargs)).Denotes seen m A (.compound qn qargs))
    (hv : m.VarCells seen) (hw : m.heap.WellFormed)
    (hap : Apart (allocate (.compound pn pargs)) m.heap A) (σq σp : String → Tree V) :
    (Term.compound qn qargs).tree σq ≠ (Term.compound pn pargs).tree σp := by
  intro heq
  obtain ⟨M₀, hM₀, -, hroot⟩ := exists_model_of_unifier hd hv hw heq
  exact hap V M₀ _ hM₀ (regTree_satisfies _ σp) hroot

variable {N B : Nat} {seen' : List Nat} {m' : State}

/-- At the end of a matching run, the trees the final heap gives the query's variables, at their
registers after the query's run, and the program's, at their registers after the program's,
make the two terms' trees equal. -/
theorem Matches.unifies
    (hd : (allocate (.compound qn qargs)).Denotes seen m A (.compound qn qargs))
    (hm : Matches (allocate (.compound pn pargs)) m.heap A N B
      (allocate (.compound pn pargs)).registerCount seen' m') :
    (Term.compound qn qargs).tree ((allocate (.compound qn qargs)).varTrees m m'.heap.tree) =
      (Term.compound pn pargs).tree ((allocate (.compound pn pargs)).varTrees m' m'.heap.tree) := by
  obtain ⟨mode, hready⟩ := hm.ready
  have hM := tree_model hready.isOpen.sound.heap_wf
  calc (Term.compound qn qargs).tree ((allocate (.compound qn qargs)).varTrees m m'.heap.tree)
      = m'.heap.tree A := (hd.2 _ (hm.narrows _ hM)).symm
    _ = m'.heap.tree (m'.address 0) := by rw [State.address_of hm.root]
    _ = _ := (allocate_holds pn pargs).tree_eq (allocate_layout _).varsOwned
        (hm.respects.satisfies hM)

/-- At the end of a matching run, every unifier of the query and the program term is an instance
of the trees the final heap gives their variables: the model of the final heap that extends a
model of the query's heap for the unifier substitutes into them. -/
theorem Matches.most_general
    (hd : (allocate (.compound qn qargs)).Denotes seen m A (.compound qn qargs))
    (hv : m.VarCells seen) (hw : m.heap.WellFormed)
    (hm : Matches (allocate (.compound pn pargs)) m.heap A N B
      (allocate (.compound pn pargs)).registerCount seen' m')
    {σq σp : String → Tree V}
    (heq : (Term.compound qn qargs).tree σq = (Term.compound pn pargs).tree σp) :
    ∃ δ : Nat → Tree V,
      (∀ x ∈ (Term.compound qn qargs).variableNames,
        σq x = ((allocate (.compound qn qargs)).varTrees m m'.heap.tree x).subst δ) ∧
      ∀ x ∈ (Term.compound pn pargs).variableNames,
        σp x = ((allocate (.compound pn pargs)).varTrees m' m'.heap.tree x).subst δ := by
  obtain ⟨mode, hready⟩ := hm.ready
  have hw' := hready.isOpen.sound.heap_wf
  have hc' := hready.complete
  obtain ⟨M₀, hM₀, hvars, hroot⟩ := exists_model_of_unifier hd hv hw heq
  obtain ⟨M, hM, hbelow, hregs, -⟩ := hm.reaches V M₀ _ hM₀ (regTree_satisfies _ σp) hroot
  refine ⟨M, fun x hx => ?_, fun x hx => ?_⟩
  · rw [← hvars x hx]
    exact queryVar_eq_subst hd hv hw' hc' hm.terms hM hbelow hx
  -- a program variable's register is matched, and `M` gives it the register's tree
  · have hr := varRegister_mem_matchedBelow pn pargs hx
    obtain ⟨c, hc⟩ := hready.defined _ hr
    calc σp x = (allocate (.compound pn pargs)).regTree σp
          (((allocate (.compound pn pargs)).varRegister? x).getD 0) :=
          (regTree_varRegister pn pargs σp hx).symm
      _ = M c := by rw [← hregs _ hr, State.address_of hc]
      _ = (m'.heap.tree c).subst M :=
          hM.eq_subst_tree hw' hc' (hready.isOpen.sound.registers _ c hc)
      _ = _ := by rw [varTrees, State.address_of hc]

end

end Compile

namespace Toplevel

open Machine Compile State

/-- What the run `r` of a program term `p`, from the machine `m` its query `q` left, decides:
when it ends without an error, the machine has failed exactly when no trees for the variables of
the two terms, kept apart, make their trees equal; when it has not, the trees the final heap
gives the query's variables, at their registers in `m`, and the program's, at their registers at
the end, make the two trees equal, and every unifier is an instance of them. -/
def DecidesUnification (q p : Term) (m : State) (r : State × Except MachineError Unit) : Prop :=
  let θq := (allocate q).varTrees m r.1.heap.tree
  let θp := (allocate p).varTrees r.1 r.1.heap.tree
  r.2 = .ok () →
    (r.1.hasFailed = true ↔ ∀ (V : Type) (σq σp : String → Tree V), q.tree σq ≠ p.tree σp) ∧
    (r.1.hasFailed = false → q.tree θq = p.tree θp ∧
      ∀ (V : Type) (σq σp : String → Tree V), q.tree σq = p.tree σp →
        ∃ δ : Nat → Tree V, (∀ x ∈ q.variableNames, σq x = (θq x).subst δ) ∧
          ∀ x ∈ p.variableNames, σp x = (θp x).subst δ)

section

variable {qn : String} {qargs : List Term} {N B A : Nat} {seen : List Nat} {m : State}

/-- A compound program term's code decides unification with the compound query held at `A`: it
matches every structure register, or it stops by a failure to unify when no unifier exists. -/
theorem decidesUnification_compound {pn : String} {pargs : List Term}
    (hN : (compileProgram (.compound pn pargs)).registerCount ≤ N)
    (hready : m.Ready N B .write 0 [0]) (hA : m.registers[0]? = some (some A))
    (hv : m.VarCells seen)
    (hd : (allocate (.compound qn qargs)).Denotes seen m A (.compound qn qargs)) :
    DecidesUnification (.compound qn qargs) (.compound pn pargs) { m with status := .succeeded }
      (({ m with status := .running } : State).runFrom
        (compileProgram (.compound pn pargs)).code) := by
  have hw : m.heap.WellFormed := hready.isOpen.sound.heap_wf
  rcases compileProgram_concludes (.compound pn pargs) hN (hready.withStatus .running) hA with
    ⟨m', hruns', seen', hm⟩ | hstop
  -- the program's code went through: the machine succeeded, with the unifier in its heap
  · obtain ⟨mode, hready'⟩ := hm.ready
    rw [hruns'.runFrom_idle hready'.awaits]
    unfold DecidesUnification
    intro θq θp _
    have hunif := hm.unifies hd
    refine ⟨⟨fun hf => ?_, fun hno => absurd hunif (hno Nat _ _)⟩,
      fun _ => ⟨hunif, fun V σq σp heq => hm.most_general hd hv hw heq⟩⟩
    simp [State.hasFailed] at hf
  -- the program's code stopped the run early: by a failure to unify, when no unifier exists
  · unfold DecidesUnification
    intro θq θp hok
    have hs := hstop []
    rw [List.append_nil] at hs
    obtain ⟨hfailed, hap⟩ := hs hok
    have hf : (({ m with status := .running } : State).runFrom
        (compileProgram (.compound pn pargs)).code).1.hasFailed = true := by
      simp [State.hasFailed, hfailed]
    refine ⟨⟨fun _ V σq σp => Apart.no_unifier hd hv hw hap σq σp, fun _ => hf⟩, fun hnf => ?_⟩
    rw [hf] at hnf
    cases hnf

/-- A bare program variable compiles to no instruction and takes the whole query: the machine
does not fail, and the variable reads, in `X0`, the tree the query built. -/
theorem decidesUnification_var {pv : String}
    (hready : m.Ready N B .write 0 [0]) (hA : m.registers[0]? = some (some A))
    (hv : m.VarCells seen)
    (hd : (allocate (.compound qn qargs)).Denotes seen m A (.compound qn qargs)) :
    DecidesUnification (.compound qn qargs) (.var pv) { m with status := .succeeded }
      (({ m with status := .running } : State).runFrom (compileProgram (.var pv)).code) := by
  have hw : m.heap.WellFormed := hready.isOpen.sound.heap_wf
  have hc : m.heap.Complete none := hready.complete
  have hcur : m.cursor = none := hready.awaits
  have hrun : ({ m with status := .running } : State).runFrom (compileProgram (.var pv)).code =
      ({ m with status := .succeeded }, .ok ()) := by
    rw [compileProgram_code_bare rfl]
    exact (RunsThrough.nil _).runFrom_idle hcur
  -- the variable's register is `X0`, which still holds the query's root
  have hreg : (allocate (.var pv)).varRegister? pv = some 0 := by
    simp [allocate_eq_numberRegisters, numberRegisters, Allocation.allocVar,
      Allocation.varRegister?, Allocation.empty, Allocation.push]
  have hθp : (allocate (.var pv)).varTrees ({ m with status := .succeeded } : State)
      m.heap.tree pv = m.heap.tree A := by
    rw [Allocation.varTrees, hreg, Option.getD_some,
      State.address_of (m := ({ m with status := .succeeded } : State)) hA]
  rw [hrun]
  unfold DecidesUnification
  intro θq θp _
  have hroot : (Term.compound qn qargs).tree θq = m.heap.tree A :=
    (hd.2 _ (Heap.tree_model hw)).symm
  refine ⟨⟨fun hf => ?_, fun hno => ?_⟩, fun _ => ⟨hroot.trans hθp.symm, fun V σq σp heq => ?_⟩⟩
  · simp [State.hasFailed] at hf
  · -- the variable given the query's tree unifies the two
    exact absurd rfl
      (hno Nat (fun _ => .empty) fun _ => (Term.compound qn qargs).tree fun _ => .empty)
  · obtain ⟨M₀, hM₀, hvars, hM₀A⟩ := exists_model_of_query hd hv hw σq
    refine ⟨M₀, fun x hx => ?_, fun x hx => ?_⟩
    · rw [← hvars x hx]
      exact queryVar_eq_subst hd hv hw hc (fun _ h => h) hM₀ (fun _ _ => rfl) hx
    · obtain rfl : x = pv := by simpa [Term.variableNames, Term.gatherVars] using hx
      calc σp x = (Term.compound qn qargs).tree σq := heq.symm
        _ = M₀ A := hM₀A.symm
        _ = (m.heap.tree A).subst M₀ :=
            hM₀.eq_subst_tree hw hc (hready.isOpen.sound.registers 0 A hA)
        _ = (θp x).subst M₀ := by rw [← hθp]

end

/-- A compound query and a program term that is compound or a bare variable, compiled together
and run on a new machine with no limit on its heap or its steps, as a session runs them: the
query's run goes through, and when the program's run ends without an error, the machine has
failed exactly when no trees for the variables of the two terms, kept apart, make their trees
equal. When it has not, the trees the final heap gives the query's variables, at their registers
after the query's run, and the program's, at their registers after its own, make the two trees
equal, and every unifier is an instance of them. -/
theorem compiledUnit_decides_unification (qn : String) (qargs : List Term) (p : Term)
    (hp : p.isCompound = true ∨ p.isVar = true) (budget : Nat) :
    let q := Term.compound qn qargs
    let U := compile q p
    let r₁ := (State.new U.registerCount { unifyBudget := budget }).run U.query.code
    let r₂ := r₁.1.run U.program.code
    let θq := (allocate q).varTrees r₁.1 r₂.1.heap.tree
    let θp := (allocate p).varTrees r₂.1 r₂.1.heap.tree
    r₁.2 = .ok () ∧
    (r₂.2 = .ok () →
      (r₂.1.hasFailed = true ↔
        ∀ (V : Type) (σq σp : String → Tree V), q.tree σq ≠ p.tree σp) ∧
      (r₂.1.hasFailed = false → q.tree θq = p.tree θp ∧
        ∀ (V : Type) (σq σp : String → Tree V), q.tree σq = p.tree σp →
          ∃ δ : Nat → Tree V, (∀ x ∈ q.variableNames, σq x = (θq x).subst δ) ∧
            ∀ x ∈ p.variableNames, σp x = (θp x).subst δ)) := by
  intro q U r₁ r₂ θq θp
  have hNq : (compileQuery q).registerCount ≤ U.registerCount := Nat.le_max_left _ _
  have hNp : (compileProgram p).registerCount ≤ U.registerCount := Nat.le_max_right _ _
  obtain ⟨m, seen, A, hrun, hready, hA, hv, hd⟩ :=
    run_compileQuery_denotes qn qargs hNq { unifyBudget := budget } rfl rfl
  have hr₁ : r₁ = ({ m with status := .succeeded }, .ok ()) := hrun
  have hr₂ : r₂ = ({ m with status := .running } : State).runFrom (compileProgram p).code := by
    show State.run r₁.1 _ = _
    rw [hr₁, State.run, if_neg (by simp)]
    rfl
  have hdec : DecidesUnification q p r₁.1 r₂ := by
    rw [hr₂, hr₁]
    clear_value U r₁ r₂ θq θp
    cases p with
    | compound pn pargs => exact decidesUnification_compound hNp hready hA hv hd
    | var pv => exact decidesUnification_var hready hA hv hd
    | atom name | number d => simp [Term.isCompound, Term.isVar] at hp
  exact ⟨by rw [hr₁], hdec⟩

/-- The query `f(X)` against the bare program variable `Y`, which takes the whole query. -/
theorem program_variable_takes_query :
    ((Term.var "Y").isCompound = true ∨ (Term.var "Y").isVar = true) ∧
      let q := Term.compound "f" [.var "X"]
      let U := compile q (.var "Y")
      let r₁ := (State.new U.registerCount { unifyBudget := 1 }).run U.query.code
      r₁.2 = .ok () ∧ DecidesUnification q (.var "Y") r₁.1 (r₁.1.run U.program.code) :=
  ⟨.inr rfl, compiledUnit_decides_unification "f" [.var "X"] (.var "Y") (.inr rfl) 1⟩

end Toplevel

end UnifyMachine
