import UnifyMachine.Proofs.Machine.Invariant

/-!
# The cursor protocol

The cursor is driven by four operations: starting to read or write the arguments of a
structure, visiting the next argument (reading it, or writing it with a change of the heap),
and forgetting the structure. Run in any order, they keep the cursor bounded: an active cursor
has arguments and has not visited them all (`Cursor.Bounded`). An operation that stops leaves
the cursor as it was. After a start of `n` arguments, the visits that go through return the
arguments' addresses in order, and the cursor is released exactly at the `n`-th (`Cursor.At`).
-/

namespace UnifyMachine.Machine

/-! ## Where the cursor stands -/

/-- The cursor is at argument `index` of the `count` arguments from `first`, visited in `mode`;
none once all are visited. -/
def Cursor.At (cursor : Option Cursor) (mode : Mode) (first count index : Nat) : Prop :=
  cursor = if index < count then some ⟨mode, first, count, index⟩ else none

theorem Cursor.at_start (mode : Mode) (first count : Nat) :
    Cursor.At (Cursor.start mode first count) mode first count 0 := by
  unfold Cursor.At Cursor.start
  by_cases h : count = 0
  · simp [h]
  · simp [h, Nat.pos_of_ne_zero h]

theorem Cursor.At.eq_some {cursor : Option Cursor} {mode : Mode} {first count j : Nat}
    (h : Cursor.At cursor mode first count j) (hj : j < count) :
    cursor = some ⟨mode, first, count, j⟩ := by
  rw [h, if_pos hj]

theorem Cursor.At.eq_none {cursor : Option Cursor} {mode : Mode} {first count j : Nat}
    (h : Cursor.At cursor mode first count j) (hj : ¬ j < count) : cursor = none := by
  rw [h, if_neg hj]

theorem Cursor.At.advance {mode : Mode} {first count j : Nat} (hj : j < count) :
    Cursor.At (Cursor.advance ⟨mode, first, count, j⟩) mode first count (j + 1) := by
  unfold Cursor.At Cursor.advance
  by_cases he : j + 1 = count
  · simp [he]
  · rw [if_neg he, if_pos (by omega)]

/-- An active cursor has arguments and has not visited them all. -/
def Cursor.Bounded (cursor : Option Cursor) : Prop :=
  ∀ c, cursor = some c → 0 < c.count ∧ c.index < c.count

theorem Cursor.bounded_none : Cursor.Bounded none := by
  intro c hc
  cases hc

theorem Cursor.bounded_start (mode : Mode) (first count : Nat) :
    Cursor.Bounded (Cursor.start mode first count) := by
  intro c hc
  obtain ⟨rfl, hn⟩ := Cursor.start_eq_some hc
  exact ⟨hn, hn⟩

theorem Cursor.bounded_advance {c : Cursor} (hc : c.index < c.count) :
    Cursor.Bounded c.advance := by
  intro c' hc'
  obtain ⟨rfl, hne⟩ := Cursor.advance_eq_some hc'
  constructor <;> simp only <;> omega

/-! ## The operations -/

/-- The operations on the cursor: start visiting `count` arguments from `firstTerm`, read the
next argument, write it with a change of the heap, or forget the structure. -/
inductive CursorOp where
  | start (mode : Mode) (firstTerm count : Nat)
  | read
  | write (push : Heap → Except HeapError (Heap × Nat))
  | reset

namespace CursorOp

/-- The step of an operation; a visit returns the address of the argument it went to. -/
def exec : CursorOp → Exec (Option Nat)
  | .start mode first count => do
    Exec.startVisit mode first count
    pure none
  | .read => some <$> Exec.readNext
  | .write push => some <$> Exec.writeNext push
  | .reset => do
    Exec.resetCursor
    pure none

/-- The operations that visit an argument. -/
def IsVisit : CursorOp → Prop
  | .read | .write _ => True
  | .start .. | .reset => False

/-- Operations run one after another, each from the state the one before left, whether it
returned or stopped: their outcomes and the last state. -/
def runAll : List CursorOp → State → List (Except Halt (Option Nat)) × State
  | [], s => ([], s)
  | op :: ops, s =>
    match op.exec.run s with
    | .ok a s' => ((.ok a) :: (runAll ops s').1, (runAll ops s').2)
    | .error h s' => ((.error h) :: (runAll ops s').1, (runAll ops s').2)

/-- The address an outcome reports: that of the argument a visit went to. -/
def visitedAt : Except Halt (Option Nat) → Option Nat
  | .ok a => a
  | .error _ => none

/-- The addresses the visits of a run went to, in order. -/
def visited (outs : List (Except Halt (Option Nat))) : List Nat :=
  outs.filterMap visitedAt

@[simp] theorem visited_cons_ok (a : Option Nat) (outs : List (Except Halt (Option Nat))) :
    visited (.ok a :: outs) = a.toList ++ visited outs := by
  cases a <;> rfl

@[simp] theorem visited_cons_error (h : Halt) (outs : List (Except Halt (Option Nat))) :
    visited (.error h :: outs) = visited outs :=
  rfl

/-! ## One operation -/

/-- An operation that stops leaves the cursor as it was; one that returns keeps a bounded
cursor bounded. -/
theorem exec_cursor (op : CursorOp) (s : State) :
    Exec.wp op.exec (fun _ s' => Cursor.Bounded s.cursor → Cursor.Bounded s'.cursor)
      (fun _ s' => s'.cursor = s.cursor) s := by
  cases op with
  | start mode first count =>
    simp only [exec, Exec.wp_bind, Exec.wp_startVisit, Exec.wp_pure]
    split
    · trivial
    · exact fun _ => Cursor.bounded_start mode first count
  -- a visit that stops leaves the state, or all but the heap, as it was
  | read =>
    simp only [exec, Exec.wp_map, Exec.wp_readNext]
    rcases hc : s.cursor with _ | c
    · trivial
    · simp only
      split
      · trivial
      · exact fun hb => Cursor.bounded_advance (hb c rfl).2
  | write push =>
    simp only [exec, Exec.wp_map, Exec.wp_writeNext]
    rcases hc : s.cursor with _ | c
    · trivial
    · simp only
      split
      · trivial
      · split
        · split
          · exact fun hb => Cursor.bounded_advance (hb c rfl).2
          · trivial
        · trivial
  | reset =>
    simp only [exec, Exec.wp_bind, Exec.wp_resetCursor, Exec.wp_pure]
    exact fun _ => Cursor.bounded_none

theorem exec_visit_some {op : CursorOp} (hv : op.IsVisit) {s : State} {c : Cursor}
    (hc : s.cursor = some c) (hlt : c.index < c.count) :
    Exec.wp op.exec (fun a s' => a = some c.next ∧ s'.cursor = c.advance)
      (fun _ s' => s'.cursor = s.cursor) s := by
  have hne : c.index ≠ c.count := Nat.ne_of_lt hlt
  cases op with
  | read => simp [exec, hc, hne]
  | write push =>
    simp only [exec, Exec.wp_map, Exec.wp_writeNext, hc, if_neg hne]
    split
    · split
      · next hfound => exact ⟨congrArg some hfound, trivial⟩
      · trivial
    · trivial
  | start _ _ _ | reset => exact hv.elim

theorem exec_visit_none {op : CursorOp} (hv : op.IsVisit) {s : State} (hc : s.cursor = none) :
    Exec.wp op.exec (fun _ _ => False) (fun _ s' => s'.cursor = s.cursor) s := by
  cases op with
  | read => simp [exec, hc]
  | write push => simp [exec, hc]
  | start _ _ _ | reset => exact hv.elim

theorem exec_visit_at {op : CursorOp} (hv : op.IsVisit) {s : State} {mode : Mode}
    {first n k : Nat} (hs : Cursor.At s.cursor mode first n k) :
    Exec.wp op.exec
      (fun a s' => k < n ∧ a = some (first + k) ∧ Cursor.At s'.cursor mode first n (k + 1))
      (fun _ s' => s'.cursor = s.cursor) s := by
  by_cases hlt : k < n
  · refine Exec.wp_mono (exec_visit_some hv (hs.eq_some hlt) hlt) ?_ (fun _ _ h => h)
    rintro a s' ⟨rfl, hs'⟩
    exact ⟨hlt, rfl, hs' ▸ Cursor.At.advance hlt⟩
  · exact Exec.wp_mono (exec_visit_none hv (hs.eq_none hlt)) (fun _ _ h => h.elim)
      (fun _ _ h => h)

/-! ## Runs of operations -/

theorem runAll_bounded (ops : List CursorOp) {s : State} (hs : Cursor.Bounded s.cursor) :
    Cursor.Bounded (runAll ops s).2.cursor := by
  induction ops generalizing s with
  | nil => exact hs
  | cons op ops ih =>
    have hw := exec_cursor op s
    unfold Exec.wp at hw
    unfold runAll
    cases hr : op.exec.run s with
    | ok a s' =>
      simp only [hr] at hw ⊢
      exact ih (hw hs)
    | error h s' =>
      simp only [hr] at hw ⊢
      exact ih (hw ▸ hs)

/-- Visits from argument `k` of `n`: those that go through return the addresses of arguments
`k`, `k + 1`, … in order, and the cursor ends past the last of them. -/
theorem runAll_visits {ops : List CursorOp} (hv : ∀ op ∈ ops, op.IsVisit) {s : State}
    {mode : Mode} {first n k : Nat} (hk : k ≤ n) (hs : Cursor.At s.cursor mode first n k) :
    ∃ j, k + j ≤ n ∧ visited (runAll ops s).1 = List.range' (first + k) j ∧
      Cursor.At (runAll ops s).2.cursor mode first n (k + j) := by
  induction ops generalizing s k with
  | nil => exact ⟨0, by omega, rfl, hs⟩
  | cons op ops ih =>
    have hw := exec_visit_at (hv op List.mem_cons_self) hs
    have hv' : ∀ op ∈ ops, op.IsVisit := fun o ho => hv o (List.mem_cons_of_mem _ ho)
    unfold Exec.wp at hw
    unfold runAll
    cases hr : op.exec.run s with
    | ok a s' =>
      simp only [hr] at hw ⊢
      obtain ⟨hlt, rfl, hs'⟩ := hw
      obtain ⟨j, hj, hvis, hat⟩ := ih hv' (by omega) hs'
      refine ⟨j + 1, by omega, ?_, by rwa [show k + (j + 1) = k + 1 + j by omega]⟩
      rw [visited_cons_ok, hvis, List.range'_succ]
      rfl
    | error h s' =>
      simp only [hr] at hw ⊢
      obtain ⟨j, hj, hvis, hat⟩ := ih hv' hk (hw ▸ hs)
      exact ⟨j, hj, by rw [visited_cons_error, hvis], hat⟩

/-- The cursor protocol. Operations in any order keep an active cursor bounded; one that
stops leaves the cursor as it was; and after a start of `n` arguments from `first`, the
visits that go through return `first`, `first + 1`, … in order, the cursor being released
exactly when the `n`-th has. -/
theorem cursor_ops_follow_protocol :
    (∀ (ops : List CursorOp) (s : State), Cursor.Bounded s.cursor →
        Cursor.Bounded (runAll ops s).2.cursor) ∧
      (∀ (op : CursorOp) (s s' : State) (h : Halt), op.exec.run s = .error h s' →
        s'.cursor = s.cursor) ∧
      ∀ (s : State) (mode : Mode) (first n : Nat) (visits : List CursorOp),
        s.cursor = none → (∀ op ∈ visits, op.IsVisit) →
        ∃ j ≤ n, (runAll (.start mode first n :: visits) s).1.head? = some (.ok none) ∧
          visited (runAll (.start mode first n :: visits) s).1 = List.range' first j ∧
          (runAll (.start mode first n :: visits) s).2.cursor =
            if j < n then some ⟨mode, first, n, j⟩ else none := by
  refine ⟨fun ops s hs => runAll_bounded ops hs, ?_, ?_⟩
  · intro op s s' h hr
    have hw := exec_cursor op s
    unfold Exec.wp at hw
    simpa only [hr] using hw
  · intro s mode first n visits hs hv
    -- the start goes through, and leaves the cursor at the first argument
    have hstart : (CursorOp.start mode first n).exec.run s =
        .ok none { s with cursor := Cursor.start mode first n } := by
      apply Exec.run_eq_of_wp
      simp [exec, hs]
    obtain ⟨j, hj, hvis, hat⟩ :=
      runAll_visits hv (Nat.zero_le n) (s := { s with cursor := Cursor.start mode first n })
        (Cursor.at_start mode first n)
    rw [Nat.add_zero] at hvis
    rw [Nat.zero_add] at hj hat
    refine ⟨j, hj, ?_, ?_, ?_⟩
    · simp only [runAll, hstart, List.head?_cons]
    · simp only [runAll, hstart, visited_cons_ok, Option.toList_none, List.nil_append]
      exact hvis
    · simp only [runAll, hstart]
      exact hat

/-- Two arguments from address 5 started on a new machine and read three times. -/
theorem two_arguments_read_in_order :
    (State.new 0 {}).cursor = none ∧ (∀ op ∈ [read, read, read], op.IsVisit) ∧
      ∃ j ≤ 2,
        (runAll [.start .read 5 2, read, read, read] (State.new 0 {})).1.head? = some (.ok none) ∧
        visited (runAll [.start .read 5 2, read, read, read] (State.new 0 {})).1 =
          List.range' 5 j ∧
        (runAll [.start .read 5 2, read, read, read] (State.new 0 {})).2.cursor =
          if j < 2 then some ⟨.read, 5, 2, j⟩ else none :=
  have hs : (State.new 0 {}).cursor = none := rfl
  have hv : ∀ op ∈ [read, read, read], op.IsVisit := by simp [IsVisit]
  ⟨hs, hv, cursor_ops_follow_protocol.2.2 _ .read 5 2 _ hs hv⟩

example : visited (runAll [.start .read 5 2, read, read, read] (State.new 0 {})).1 = [5, 6] := by
  decide

end CursorOp

end UnifyMachine.Machine
