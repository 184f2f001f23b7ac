import UnifyMachine.Compile.Code
import UnifyMachine.Proofs.Compile.Allocation
import UnifyMachine.Proofs.Machine.Progress

/-!
# Running the code that builds a query

The code of a compound query builds every structure after its structure arguments, so each
`set_value` loads a register an earlier instruction stored: the argument's own structure, or the
variable's first occurrence. With enough registers and no limit on the heap or the steps, the
code therefore goes through, and leaves no structure half written and the root in `X0`.

The proof follows the term: `QueryState.Built` relates the code emitted so far to a machine that
ran it, and each emitting function keeps it, a structure by induction on `Allocation.Holds`.
-/

namespace UnifyMachine.Compile

open Machine State

theorem Allocation.Holds.entry_var {a : Allocation} {lo x : Nat} {t : Term} (h : a.Holds lo x t)
    (ht : t.isVar = true) : ∃ name, a.entries[x]? = some (.var name) := by
  cases h with
  | var he => exact ⟨_, he⟩
  | atom => simp [Term.isVar] at ht
  | number => simp [Term.isVar] at ht
  | compound => simp [Term.isVar] at ht

namespace QueryState

/-- A machine that has run the code emitted so far from `start`, ready with `N` registers to
write `k` more arguments; the registers of `D` hold addresses, among them every variable
register already created. -/
structure Built (start : State) (N B : Nat) (st : QueryState) (k : Nat) (D : List Nat)
    (m : State) : Prop where
  runs : start.RunsThrough st.code.toList m
  ready : m.Ready N B .write k D
  seen : ∀ r ∈ st.seen, r ∈ D

/-- Register `r` can be written as an argument: it is a register of the machine, and it holds
an address already or holds a variable, whose first occurrence creates it. -/
def Writable (a : Allocation) (N : Nat) (D : List Nat) (r : Nat) : Prop :=
  r < N ∧ (r ∈ D ∨ ∃ name, a.entries[r]? = some (.var name))

theorem Writable.mono {a : Allocation} {N : Nat} {D D' : List Nat} {r : Nat}
    (hw : Writable a N D r) (hsub : D ⊆ D') : Writable a N D' r :=
  ⟨hw.1, hw.2.imp_left fun h => hsub h⟩

theorem Writable.of_holds {a : Allocation} {N : Nat} {D : List Nat} {lo r : Nat} {t : Term}
    (hh : a.Holds lo r t) (hN : a.registerCount ≤ N) (hdef : t.isVar = false → r ∈ D) :
    Writable a N D r := by
  refine ⟨Nat.lt_of_lt_of_le hh.lt hN, ?_⟩
  cases ht : t.isVar with
  | true => exact .inr (hh.entry_var ht)
  | false => exact .inl (hdef ht)

variable {start m : State} {N B k : Nat} {st : QueryState} {D : List Nat}

theorem Built.runs_emit (hb : st.Built start N B k D m) {i : Instruction} {m' : State}
    (hrun : m.RunsThrough [i] m') : start.RunsThrough (st.emit i).code.toList m' := by
  show start.RunsThrough (st.code.push i).toList m'
  rw [Array.toList_push]
  exact hb.runs.append hrun

theorem Built.emit (hb : st.Built start N B k D m) {i : Instruction} {k' : Nat} {D' : List Nat}
    (hsub : D ⊆ D') (hgo : m.GoesThrough [i] (Ready N B .write k' D')) :
    ∃ m', (st.emit i).Built start N B k' D' m' := by
  obtain ⟨m', hrun, hr⟩ := hgo
  exact ⟨m', ⟨hb.runs_emit hrun, hr, fun r hr' => hsub (hb.seen r hr')⟩⟩

theorem Built.write (hb : st.Built start N B (k + 1) D m) {a : Allocation} {r : Nat}
    (hw : Writable a N D r) :
    ∃ D' m', D ⊆ D' ∧ (writeArgument a st r).Built start N B k D' m' := by
  obtain ⟨hlt, hdef⟩ := hw
  unfold writeArgument
  split
  · split
    · -- a variable met before: its register holds its address
      rename_i hseen
      have hr : r ∈ D := hb.seen r (by simpa using hseen)
      obtain ⟨m', hm'⟩ :=
        hb.emit (List.Subset.refl D) (goesThrough_writeValue hb.ready hr (.inl rfl))
      exact ⟨D, m', List.Subset.refl D, hm'⟩
    · -- the first occurrence of a variable creates it
      obtain ⟨m', hrun, hr⟩ := goesThrough_writeVariable hb.ready hlt (.inl rfl)
      refine ⟨r :: D, m', List.subset_cons_self r D, hb.runs_emit hrun, hr, ?_⟩
      intro y hy
      rcases List.mem_cons.1 hy with rfl | hy
      · exact List.mem_cons_self
      · exact List.mem_cons_of_mem _ (hb.seen y hy)
  · -- a structure argument was built before its parent
    rename_i hnv
    have hr : r ∈ D := hdef.resolve_right fun ⟨name, he⟩ => hnv name he
    obtain ⟨m', hm'⟩ :=
      hb.emit (List.Subset.refl D) (goesThrough_writeValue hb.ready hr (.inl rfl))
    exact ⟨D, m', List.Subset.refl D, hm'⟩

theorem Built.writeAll {a : Allocation} (regs : List Nat) :
    ∀ {st : QueryState} {D : List Nat} {m : State}, st.Built start N B regs.length D m →
      (∀ r ∈ regs, Writable a N D r) →
      ∃ D' m', D ⊆ D' ∧ (regs.foldl (writeArgument a) st).Built start N B 0 D' m' := by
  induction regs with
  | nil => exact fun hb _ => ⟨_, _, List.Subset.refl _, hb⟩
  | cons r rs ih =>
      intro st D m hb hw
      obtain ⟨D₁, m₁, hsub₁, hb₁⟩ := hb.write (hw r List.mem_cons_self)
      obtain ⟨D₂, m₂, hsub₂, hb₂⟩ :=
        ih hb₁ fun y hy => (hw y (List.mem_cons_of_mem _ hy)).mono hsub₁
      exact ⟨D₂, m₂, List.Subset.trans hsub₁ hsub₂, hb₂⟩

theorem Built.buildEach {a : Allocation} {args : List Term} :
    ∀ {regs : List Nat}, regs.length = args.length →
      (∀ p ∈ regs.zip args, ∀ {st : QueryState} {D : List Nat} {m : State},
        st.Built start N B 0 D m → ∃ D' m', D ⊆ D' ∧ (p.2.isVar = false → p.1 ∈ D') ∧
          (buildArgument a st p.1 p.2).Built start N B 0 D' m') →
      ∀ {st : QueryState} {D : List Nat} {m : State}, st.Built start N B 0 D m →
        ∃ D' m', D ⊆ D' ∧ (∀ p ∈ regs.zip args, p.2.isVar = false → p.1 ∈ D') ∧
          (buildArguments a st args regs).Built start N B 0 D' m' := by
  induction args with
  | nil =>
      intro regs _ _ st D m hb
      refine ⟨D, m, List.Subset.refl D, by simp, ?_⟩
      rw [buildArguments.eq_2 _ _ _ _ (by simp)]
      exact hb
  | cons t ts ihl =>
      intro regs hlen ih st D m hb
      cases regs with
      | nil => cases hlen
      | cons r rs =>
          rw [List.zip_cons_cons] at ih ⊢
          rw [buildArguments]
          obtain ⟨D₁, m₁, hsub₁, hdef₁, hb₁⟩ := ih (r, t) List.mem_cons_self hb
          obtain ⟨D₂, m₂, hsub₂, hdef₂, hb₂⟩ :=
            ihl (Nat.succ.inj hlen) (fun p hp => ih p (List.mem_cons_of_mem _ hp)) hb₁
          refine ⟨D₂, m₂, List.Subset.trans hsub₁ hsub₂, ?_, hb₂⟩
          intro p hp hv
          rcases List.mem_cons.1 hp with rfl | hp
          · exact hsub₂ (hdef₁ hv)
          · exact hdef₂ p hp hv

/-- Building an argument held as `Allocation.Holds` says goes through, and defines its register
unless it is a variable. -/
theorem Built.build {a : Allocation} (hN : a.registerCount ≤ N) {lo x : Nat} {t : Term}
    (hh : a.Holds lo x t) :
    ∀ {st : QueryState} {D : List Nat} {m : State}, st.Built start N B 0 D m →
      ∃ D' m', D ⊆ D' ∧ (t.isVar = false → x ∈ D') ∧
        (buildArgument a st x t).Built start N B 0 D' m' := by
  induction hh with
  | var _ =>
      intro st D m hb
      rw [buildArgument]
      exact ⟨D, m, List.Subset.refl D, by simp [Term.isVar], hb⟩
  | atom he | number he =>
      intro st D m hb
      rw [buildArgument]
      obtain ⟨m', hm'⟩ := hb.emit (List.subset_cons_self _ D)
        (goesThrough_putStructure hb.ready _ (Nat.lt_of_lt_of_le (Allocation.lt_of_entry he) hN))
      exact ⟨_, m', List.subset_cons_self _ D, fun _ => List.mem_cons_self, hm'⟩
  | @compound x name args regs he hlen _ hargs ih =>
      intro st D m hb
      rw [buildArgument, buildCompound]
      have hregs : a.argumentsOf x = regs := by
        simp [Allocation.argumentsOf, Allocation.entry?, he]
      rw [hregs]
      -- the structure arguments first, each defining its register
      obtain ⟨D₁, m₁, hsub₁, hdef₁, hb₁⟩ := hb.buildEach hlen ih
      -- then the structure itself, awaiting one argument per register
      obtain ⟨m₂, hb₂⟩ := hb₁.emit (List.subset_cons_self x D₁)
        (goesThrough_putStructure hb₁.ready ⟨name, args.length⟩
          (Nat.lt_of_lt_of_le (Allocation.lt_of_entry he) hN))
      have hb₂ : ((buildArguments a st args regs).emit
          (.putStructure ⟨name, args.length⟩ x)).Built start N B regs.length (x :: D₁) m₂ := by
        rw [hlen]
        exact hb₂
      -- and the arguments, from registers that are variables or built already
      have hw : ∀ r ∈ regs, Writable a N (x :: D₁) r := by
        intro r hr
        obtain ⟨t, hrt⟩ := Allocation.exists_zip_of_mem hlen hr
        exact .of_holds (hargs (r, t) hrt) hN fun ht => List.mem_cons_of_mem _ (hdef₁ (r, t) hrt ht)
      obtain ⟨D₃, m₃, hsub₃, hb₃⟩ := hb₂.writeAll regs hw
      refine ⟨D₃, m₃, fun y hy => hsub₃ (List.mem_cons_of_mem _ (hsub₁ hy)), ?_, hb₃⟩
      exact fun _ => hsub₃ List.mem_cons_self

end QueryState

/-- The code of a query goes through on a ready machine with enough registers, and leaves no
structure active; a compound query leaves its root in `X0`. -/
theorem compileQuery_goesThrough (q : Term) {N B : Nat} (hN : (compileQuery q).registerCount ≤ N)
    {start : State} {mode : Mode} (hs : start.Ready N B mode 0 []) :
    start.GoesThrough (compileQuery q).code fun m =>
      ∃ D, m.Ready N B .write 0 D ∧ (q.isCompound = true → 0 ∈ D) := by
  cases q with
  | var name => exact ⟨start, .nil _, [], hs.idle .write, by simp [Term.isCompound]⟩
  | atom name => exact ⟨start, .nil _, [], hs.idle .write, by simp [Term.isCompound]⟩
  | number d => exact ⟨start, .nil _, [], hs.idle .write, by simp [Term.isCompound]⟩
  | compound name args =>
      have hb : (⟨#[], []⟩ : QueryState).Built start N B 0 [] start :=
        ⟨.nil _, hs.idle .write, by simp⟩
      obtain ⟨D, m, -, hroot, hbuilt⟩ :=
        hb.build hN (Allocation.allocate_holds name args)
      rw [buildArgument] at hbuilt
      exact ⟨m, hbuilt.runs, D, hbuilt.ready, fun _ => hroot rfl⟩

end UnifyMachine.Compile
