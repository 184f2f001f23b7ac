import UnifyMachine.Proofs.Machine.Runs

/-!
# Cyclic terms

There is no occurs check, and `set_value` copies the cell of a register without dereferencing
it: writing a structure's own pointer as its argument makes a term that is its own first
argument, `f(f(f(…)))`. Unifying two such terms kept in different cells pushes the pair of
their arguments, which is again a pair of two such terms, and the stack never empties. A run
that unifies them stops only when the budget of pairs runs out, whatever the budget.
-/

namespace UnifyMachine.Machine

namespace Heap

/-- Two distinct structures `f/1`, each its own argument, never finish unifying: the pair of
their arguments is the pair itself. -/
theorem unifyPairs_selfLoop {h : Heap} {p q : Nat} {f : Functor}
    (hp : h.getValue p = .ok (p, .struct f p)) (hq : h.getValue q = .ok (q, .struct f q))
    (hf : f.arity = 1) (hpq : p ≠ q) (budget : Nat) :
    h.unifyPairs budget [(p, q)] = (h, .unfinished) := by
  induction budget with
  | zero => rfl
  | succ budget ih =>
      rw [unifyPairs]
      simp [hp, hq, hpq, hf, argumentPairs, ih]

end Heap

/-- Builds `f(X0)` with X0 its own pointer, the same in X1, then reads the structure of X0 and
unifies its argument with X1. -/
def cyclicCode : List Instruction :=
  [.putStructure ⟨"f", 1⟩ 0, .setValue 0, .putStructure ⟨"f", 1⟩ 1, .setValue 1,
   .getStructure ⟨"f", 1⟩ 0, .unifyValue 1]

/-- The heap `cyclicCode` builds: at 0 and 3 the two structures, whose arguments at 2 and 5
point back to their functor cells. -/
def cyclicHeap : Heap :=
  ⟨#[.str 1, .functor ⟨"f", 1⟩, .str 1, .str 4, .functor ⟨"f", 1⟩, .str 4], none⟩

/-- The machine about to unify the argument of X0 with X1. -/
def cyclicReading (budget : Nat) : State :=
  { status := .running, cursor := some ⟨.read, 2, 1, 0⟩, registers := #[some 0, some 3],
    heap := cyclicHeap, steps := 5, maxSteps := none, unifyBudget := budget }

theorem cyclicHeap_unify (budget : Nat) : cyclicHeap.unify budget 3 2 = (cyclicHeap, .unfinished) := by
  have h5 : cyclicHeap.getValue 5 = .ok (5, .struct ⟨"f", 1⟩ 5) := rfl
  have h2 : cyclicHeap.getValue 2 = .ok (2, .struct ⟨"f", 1⟩ 2) := rfl
  have h3 : cyclicHeap.getValue 3 = .ok (3, .struct ⟨"f", 1⟩ 5) := rfl
  cases budget with
  | zero => rfl
  | succ budget =>
      -- the first pair pushes the pair of arguments, which is a pair of two cyclic terms
      rw [Heap.unify, Heap.unifyPairs]
      simp [h2, h3, Heap.argumentPairs, Heap.unifyPairs_selfLoop h5 h2 rfl (by decide)]

/-- Unifying two distinct cyclic terms never finishes: whatever the budget of pairs, the run
stops because the budget ran out. -/
theorem cyclic_unification_never_finishes (budget : Nat) :
    ((State.new 2 { unifyBudget := budget }).run cyclicCode).2 =
      .error (.unificationUnfinished budget) := by
  have hpre : State.RunsThrough { State.new 2 { unifyBudget := budget } with status := .running }
      (cyclicCode.take 5) (cyclicReading budget) :=
    .cons rfl rfl (.cons rfl rfl (.cons rfl rfl (.cons rfl rfl (.cons rfl rfl (.nil _)))))
  have hsplit : cyclicCode = cyclicCode.take 5 ++ [.unifyValue 1] := rfl
  rw [State.run, if_neg (by simp [State.new]), hsplit, hpre.runFrom_append]
  apply State.runFrom_cons_of_wp (P := fun r => r.2 = .error (.unificationUnfinished budget)) rfl
  simp [Exec.execute, cyclicReading, Cursor.next, cyclicHeap_unify]

end UnifyMachine.Machine
