import UnifyMachine.Proofs.Machine.Invariant

/-!
# One step at a time

The result of each instruction, computed exactly, under the conditions compiled code meets: no
limit on the heap, and a cursor that has an argument left to visit where the instruction visits
one. These equations turn a run of known code into a sequence of known machines.
-/

namespace UnifyMachine.Machine

open Heap

theorem Heap.reserve_unbounded {h : Heap} (hcap : h.capacity = none) (n : Nat) :
    h.reserve n = .ok () := by
  unfold reserve
  rw [hcap]

namespace Exec

variable {s : State}

theorem run_putStructure (hcap : s.heap.capacity = none) (hc : s.cursor = none) (f : Functor)
    {x : Nat} (hx : x < s.registers.size) :
    (execute (.putStructure f x)).run s = .ok ()
      { s with heap := (s.heap.grow (.str (s.heap.top + 1))).grow (.functor f),
               cursor := Cursor.start .write (s.heap.top + 2) f.arity,
               registers := s.registers.modify x fun _ => some s.heap.top } := by
  apply run_eq_of_wp
  simp only [execute, wp_bind, wp_newStructure_idle hc, reserve_unbounded hcap, wp_registerStore,
    if_pos hx]

theorem run_writeVariable (hcap : s.heap.capacity = none) {c : Cursor} (hc : s.cursor = some c)
    (hidx : c.index ≠ c.count) (htop : s.heap.top = c.next) {x : Nat} (hx : x < s.registers.size) :
    (writeVariable x).run s = .ok ()
      { s with heap := s.heap.grow (.ref s.heap.top), cursor := c.advance,
               registers := s.registers.modify x fun _ => some s.heap.top } := by
  apply run_eq_of_wp
  simp [wp_writeVariable, hc, hidx, newVariable, push_eq, reserve_unbounded hcap, Except.map,
    htop, hx]

theorem run_writeValue (hcap : s.heap.capacity = none) {c : Cursor} (hc : s.cursor = some c)
    (hidx : c.index ≠ c.count) (htop : s.heap.top = c.next) {x a : Nat}
    (hx : s.registers[x]? = some (some a)) {cell : Cell} (ha : s.heap.cells[a]? = some cell) :
    (writeValue x).run s = .ok () { s with heap := s.heap.grow cell, cursor := c.advance } := by
  apply run_eq_of_wp
  simp [wp_writeValue, hx, hc, hidx, pushCopy, load_ok ha, push_eq, reserve_unbounded hcap,
    Except.map, htop]

theorem run_getStructure_read (hc : s.cursor = none) {f : Functor} {x a d first : Nat}
    (hx : s.registers[x]? = some (some a)) (hv : s.heap.getValue a = .ok (d, .struct f first)) :
    (execute (.getStructure f x)).run s = .ok () { s with cursor := Cursor.start .read first f.arity } := by
  apply run_eq_of_wp
  simp [execute, hx, hv, hc]

theorem run_getStructure_unset {f : Functor} {x : Nat} (hx : s.registers[x]? = some none) :
    (execute (.getStructure f x)).run s = .error (.error (.noValue x)) s := by
  apply run_eq_of_wp
  simp [execute, hx]

theorem run_getStructure_clash {f g : Functor} (hg : g ≠ f) {x a d first : Nat}
    (hx : s.registers[x]? = some (some a)) (hv : s.heap.getValue a = .ok (d, .struct g first)) :
    (execute (.getStructure f x)).run s = .error .failed { s with cursor := none } := by
  apply run_eq_of_wp
  simp [execute, hx, hv, hg]

theorem run_getStructure_unbound (hcap : s.heap.capacity = none) (hc : s.cursor = none)
    {f : Functor} {x a d u : Nat} (hx : s.registers[x]? = some (some a))
    (hv : s.heap.getValue a = .ok (d, .unbound u)) (hu : s.heap.cells[u]? = some (.ref u))
    {h' : Heap}
    (hst : ((s.heap.grow (.str (s.heap.top + 1))).grow (.functor f)).store u (.ref s.heap.top) = .ok h') :
    (execute (.getStructure f x)).run s = .ok ()
      { s with heap := h', cursor := Cursor.start .write (s.heap.top + 2) f.arity } := by
  have hu' : ((s.heap.grow (.str (s.heap.top + 1))).grow (.functor f)).cells[u]? = some (.ref u) :=
    grow_cells_of_some _ (grow_cells_of_some _ hu)
  have htop : ((s.heap.grow (.str (s.heap.top + 1))).grow (.functor f)).cells[s.heap.top]? =
      some (.str (s.heap.top + 1)) := by
    simp [grow_cells]
  apply run_eq_of_wp
  simp [execute, hx, hv, wp_newStructure_idle hc, reserve_unbounded hcap, Heap.bind, isFree, load_ok hu',
    load_ok htop, hst]

theorem run_unifyVariable_read {c : Cursor} (hc : s.cursor = some c) (hm : c.mode = .read)
    (hidx : c.index ≠ c.count) {x : Nat} (hx : x < s.registers.size) :
    (execute (.unifyVariable x)).run s = .ok ()
      { s with cursor := c.advance, registers := s.registers.modify x fun _ => some c.next } := by
  apply run_eq_of_wp
  simp [execute, hc, hm, hidx, hx]

theorem run_unifyValue_read {c : Cursor} (hc : s.cursor = some c) (hm : c.mode = .read)
    (hidx : c.index ≠ c.count) {x r : Nat} (hx : s.registers[x]? = some (some r)) :
    (execute (.unifyValue x)).run s =
      match s.heap.unify s.unifyBudget r c.next with
      | (h, .unified) => .ok () { s with heap := h, cursor := c.advance }
      | (h, .clash) => .error .failed { s with heap := h, cursor := none }
      | (h, .fault e) => .error (.error (.heap e)) { s with heap := h, cursor := c.advance }
      | (h, .unfinished) =>
          .error (.error (.unificationUnfinished s.unifyBudget)) { s with heap := h, cursor := c.advance } := by
  apply run_eq_of_wp
  simp only [execute, wp_bind, wp_currentMode, hc, hm, wp_readNext, if_neg hidx, wp_registerLoad, hx, wp_unifyAt]
  rcases s.heap.unify s.unifyBudget r c.next with ⟨h, _ | _ | e | _⟩ <;> rfl

theorem run_unifyVariable_write {c : Cursor} (hc : s.cursor = some c) (hm : c.mode = .write)
    (x : Nat) : (execute (.unifyVariable x)).run s = (writeVariable x).run s := by
  apply run_eq_of_wp
  simp only [execute, wp_bind, wp_currentMode, hc, hm]
  unfold wp
  cases (writeVariable x).run s <;> rfl

theorem run_unifyValue_write {c : Cursor} (hc : s.cursor = some c) (hm : c.mode = .write)
    (x : Nat) : (execute (.unifyValue x)).run s = (writeValue x).run s := by
  apply run_eq_of_wp
  simp only [execute, wp_bind, wp_currentMode, hc, hm]
  unfold wp
  cases (writeValue x).run s <;> rfl

end Exec

end UnifyMachine.Machine
