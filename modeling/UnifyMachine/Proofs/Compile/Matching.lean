import UnifyMachine.Proofs.Compile.Building
import UnifyMachine.Proofs.Compile.Layout

/-!
# Running the code that matches a program term

The code of a program term takes the structure registers in ascending order, each with a
`get_structure` block. The register a block reads is the root `X0`, which the query left
defined, or an argument of a lower register (`Allocation.Parented`), which that register's
block defined by `unify_variable`; a `unify_value` loads a variable met before. Every block
has as many argument instructions as its arity. So, on a machine with the root defined, the
code runs to its end or stops by a failure to unify or an unfinished unification, and never
by any other error.

Facts about the code below a register are proved by `matchBelow_induction`, one block at a time.
-/

namespace UnifyMachine.Compile

open Machine State

/-- The instructions and the variable registers met, after one more argument of a structure
is matched. -/
def matchArgument (a : Allocation) (acc : List Instruction × List Nat) (r : Nat) :
    List Instruction × List Nat :=
  match a.entries[r]? with
  | some (.var _) =>
    if acc.2.contains r then (acc.1 ++ [.unifyValue r], acc.2)
    else (acc.1 ++ [.unifyVariable r], r :: acc.2)
  | _ => (acc.1 ++ [.unifyVariable r], acc.2)

theorem matchRegister_compound (a : Allocation) (x : Nat) (name : String) (arity : Nat)
    (args seen : List Nat) :
    matchRegister a x (.compound name arity args) seen =
      args.foldl (matchArgument a) ([.getStructure ⟨name, arity⟩ x], seen) := rfl

theorem matchRegister_other (a : Allocation) (x : Nat) {e : RegisterEntry}
    (he : ∀ name arity args, e ≠ .compound name arity args) (seen : List Nat) :
    matchRegister a x e seen = ([], seen) := by
  cases e with
  | compound name arity args => exact absurd rfl (he name arity args)
  | var => rfl
  | constant => rfl

/-- The instructions and the variable registers met, after one more register is matched. -/
def matchStep (a : Allocation) (acc : List Instruction × List Nat) (x : Nat) :
    List Instruction × List Nat :=
  ((acc.1 ++ (matchRegister a x (a.entries[x]?.getD .constant) acc.2).1),
    (matchRegister a x (a.entries[x]?.getD .constant) acc.2).2)

theorem compileProgram_code (t : Term) :
    (compileProgram t).code =
      ((List.range (allocate t).registerCount).foldl (matchStep (allocate t)) ([], [])).1 := rfl

/-- The registers a program run defines once the registers below `k` are matched: the root and
the arguments of each structure below `k`. -/
def Allocation.matchedBelow (a : Allocation) (k : Nat) : List Nat :=
  0 :: (List.range k).flatMap a.argumentsOf

theorem Allocation.matchedBelow_succ (a : Allocation) (k : Nat) :
    a.matchedBelow (k + 1) = a.matchedBelow k ++ a.argumentsOf k := by
  simp [matchedBelow, List.range_succ, List.flatMap_append]

theorem Allocation.matchedBelow_succ_of_not_compound {a : Allocation} {k : Nat}
    (he : ∀ name arity args, a.entries[k]? ≠ some (.compound name arity args)) :
    a.matchedBelow (k + 1) = a.matchedBelow k := by
  rw [matchedBelow_succ, argumentsOf_of_not_compound he, List.append_nil]

theorem Allocation.mem_matchedBelow {a : Allocation} (hp : a.Parented) {x : Nat}
    (hx : x < a.registerCount) : x ∈ a.matchedBelow x := by
  rcases Nat.eq_zero_or_pos x with rfl | hpos
  · exact List.mem_cons_self
  · obtain ⟨p, hpx, name, arity, args, he, hmem⟩ := hp x hpos hx
    refine List.mem_cons_of_mem _ (List.mem_flatMap.2 ⟨p, List.mem_range.2 hpx, ?_⟩)
    rw [argumentsOf_of_entry he]
    exact hmem

/-- What a program run may end with: success, matched or not, or an unfinished unification. -/
def ProgramResult (B : Nat) (r : Except MachineError Unit) : Prop :=
  r = .ok () ∨ r = .error (.unificationUnfinished B)

/-- Matching code has run to a machine awaiting `k` arguments in some mode, whose registers in
`E` and in `seen` hold addresses. -/
def Matched (N B k : Nat) (E seen : List Nat) (m : State) : Prop :=
  ∃ mode D, m.Ready N B mode k D ∧ E ⊆ D ∧ seen ⊆ D

variable {N B : Nat} {a : Allocation} {m₀ : State}

theorem proceeds_matchArgument {k : Nat} {E : List Nat} {acc : List Instruction × List Nat}
    {r : Nat} (hr : r < N)
    (h : Proceeds (ProgramResult B) m₀ acc.1 (Matched N B (k + 1) E acc.2)) :
    Proceeds (ProgramResult B) m₀ (matchArgument a acc r).1
      (Matched N B k (r :: E) (matchArgument a acc r).2) := by
  unfold matchArgument
  split
  · split
    · -- a variable met before is unified with the argument
      rename_i hseen
      refine h.append fun m ⟨mode, D, hready, hE, hs⟩ => ?_
      have hrD : r ∈ D := hs (by simpa using hseen)
      exact (proceeds_unifyValue hready hrD (Or.inl rfl) (Or.inr rfl)).mono
        fun m' hm' => ⟨mode, D, hm', List.cons_subset.2 ⟨hrD, hE⟩, hs⟩
    · -- the first occurrence of a variable takes the argument
      refine h.append fun m ⟨mode, D, hready, hE, hs⟩ => ?_
      exact (goesThrough_unifyVariable hready hr).proceeds.mono fun m' hm' =>
        ⟨mode, r :: D, hm', List.cons_subset_cons r hE, List.cons_subset_cons r hs⟩
  · -- a structure argument is taken into its register, to be matched in its turn
    refine h.append fun m ⟨mode, D, hready, hE, hs⟩ => ?_
    exact (goesThrough_unifyVariable hready hr).proceeds.mono fun m' hm' =>
      ⟨mode, r :: D, hm', List.cons_subset_cons r hE,
        List.Subset.trans hs (List.subset_cons_self r D)⟩

theorem proceeds_matchArguments (rs : List Nat) (hrs : ∀ r ∈ rs, r < N) :
    ∀ {acc : List Instruction × List Nat} {E : List Nat},
      Proceeds (ProgramResult B) m₀ acc.1 (Matched N B rs.length E acc.2) →
      Proceeds (ProgramResult B) m₀ (rs.foldl (matchArgument a) acc).1
        (Matched N B 0 (rs.reverse ++ E) (rs.foldl (matchArgument a) acc).2) := by
  induction rs with
  | nil => exact fun h => h
  | cons r rs ih =>
      intro acc E h
      have hrest := ih (fun y hy => hrs y (List.mem_cons_of_mem _ hy))
        (proceeds_matchArgument (a := a) (hrs r List.mem_cons_self) h)
      rw [List.reverse_cons, List.append_assoc, List.singleton_append]
      exact hrest

theorem proceeds_matchRegister {mode : Mode} {D seen : List Nat} {x : Nat} {name : String}
    {arity : Nat} {args : List Nat} (hready : m₀.Ready N B mode 0 D) (hx : x ∈ D)
    (hseen : seen ⊆ D) (hlen : args.length = arity) (hargs : ∀ r ∈ args, r < N) :
    Proceeds (ProgramResult B) m₀ (matchRegister a x (.compound name arity args) seen).1
      (Matched N B 0 (args.reverse ++ D)
        (matchRegister a x (.compound name arity args) seen).2) := by
  rw [matchRegister_compound]
  apply proceeds_matchArguments args hargs
  refine (proceeds_getStructure hready ⟨name, arity⟩ hx (Or.inl rfl)).mono
    fun m ⟨mode', hm⟩ => ?_
  refine ⟨mode', D, ?_, List.Subset.refl D, hseen⟩
  rw [hlen]
  exact hm

/-- Induction over the code of the registers below `k`, one register at a time: a property of
that code and of the variable registers it met holds below every `k` once it holds of no code and
is carried through the block of each structure register and past every other register. -/
theorem matchBelow_induction (hwf : a.WellFormed)
    {motive : Nat → List Instruction × List Nat → Prop} (zero : motive 0 ([], []))
    (block : ∀ k acc name args, k < a.registerCount →
      a.entries[k]? = some (.compound name args.length args) → motive k acc →
      motive (k + 1) (acc.1 ++ (matchRegister a k (.compound name args.length args) acc.2).1,
        (matchRegister a k (.compound name args.length args) acc.2).2))
    (skip : ∀ k acc, k < a.registerCount →
      (∀ name arity args, a.entries[k]? ≠ some (.compound name arity args)) → motive k acc →
      motive (k + 1) acc) :
    ∀ k, k ≤ a.registerCount → motive k ((List.range k).foldl (matchStep a) ([], []))
  | 0, _ => zero
  | k + 1, hk => by
      have ih := matchBelow_induction hwf zero block skip k (by omega)
      rw [List.range_succ, List.foldl_append, List.foldl_cons, List.foldl_nil]
      generalize (List.range k).foldl (matchStep a) ([], []) = acc at ih ⊢
      obtain ⟨e, he⟩ : ∃ e, a.entries[k]? = some e :=
        Option.isSome_iff_exists.1 (by simp [Allocation.registerCount] at hk ⊢; omega)
      simp only [matchStep, he, Option.getD_some]
      cases e with
      | compound name arity args =>
          obtain rfl : args.length = arity := hwf.complete k _ he
          exact block k acc name args (by omega) he ih
      | var n =>
          rw [matchRegister_other a k (by simp), List.append_nil]
          exact skip k acc (by omega) (by simp [he]) ih
      | constant =>
          rw [matchRegister_other a k (by simp), List.append_nil]
          exact skip k acc (by omega) (by simp [he]) ih

theorem proceeds_matchBelow (ha : a.WellFormed) (hN : a.registerCount ≤ N) {start : State}
    {mode : Mode} {D₀ : List Nat} (hs : start.Ready N B mode 0 D₀) (h0 : 0 ∈ D₀) :
    ∀ k, k ≤ a.registerCount →
      Proceeds (ProgramResult B) start ((List.range k).foldl (matchStep a) ([], [])).1
        (Matched N B 0 (a.matchedBelow k) ((List.range k).foldl (matchStep a) ([], [])).2) := by
  refine matchBelow_induction (motive := fun k acc =>
      Proceeds (ProgramResult B) start acc.1 (Matched N B 0 (a.matchedBelow k) acc.2)) ha
    (.inl ⟨start, .nil _, mode, D₀, hs, List.cons_subset.2 ⟨h0, List.nil_subset _⟩,
      List.nil_subset _⟩) (fun k acc name args hk he ih => ?_) fun k acc _ he ih => ?_
  · -- register `k` was defined by the block of its parent, or is the root
    have hk' : k ∈ a.matchedBelow k := Allocation.mem_matchedBelow ha.parented hk
    rw [Allocation.matchedBelow_succ, Allocation.argumentsOf_of_entry he]
    refine ih.append fun m ⟨mode, D, hready, hE, hseen⟩ => ?_
    refine (proceeds_matchRegister hready (hE hk') hseen rfl
      fun r hr => Nat.lt_of_lt_of_le (ha.argsAllocated k _ _ _ he r hr) hN).mono ?_
    rintro m' ⟨mode', D', hready', hE', hseen'⟩
    refine ⟨mode', D', hready', ?_, hseen'⟩
    intro y hy
    rcases List.mem_append.1 hy with hy | hy
    · exact hE' (List.mem_append_right _ (hE hy))
    · exact hE' (List.mem_append_left _ (List.mem_reverse.2 hy))
  · rw [Allocation.matchedBelow_succ_of_not_compound he]
    exact ih

/-- On a ready machine with enough registers and the root defined, the code of a program term
runs to its end with no structure left active, or stops the run with a program result. -/
theorem compileProgram_proceeds (p : Term) (hN : (compileProgram p).registerCount ≤ N)
    {start : State} {mode : Mode} {D : List Nat} (hs : start.Ready N B mode 0 D) (h0 : 0 ∈ D) :
    Proceeds (ProgramResult B) start (compileProgram p).code fun m => m.cursor = none := by
  rw [compileProgram_code]
  exact (proceeds_matchBelow (Allocation.allocate_wellFormed p) hN hs h0 _ (Nat.le_refl _)).mono
    fun m ⟨_, _, hready, _⟩ => hready.awaits

end UnifyMachine.Compile
