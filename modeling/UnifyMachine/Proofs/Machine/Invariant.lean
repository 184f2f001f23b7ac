import UnifyMachine.Proofs.Machine.Logic
import UnifyMachine.Proofs.Machine.Dereference

/-!
# The invariant of a running machine

A machine that has not failed is sound: its heap is well formed, each register holds the address
of a term cell, the cursor fits the heap, and every functor cell is complete except the one of
the structure being written. The cursor fits when it has arguments left to visit and, in read
mode, all the arguments it reads are term cells, or, in write mode, it writes the arguments of
the functor cell just before them, the heap top is where the next one goes, and those written so
far are term cells.

A failure to unify can leave a structure half written, but it clears the cursor, and a failed
machine never changes again; it is settled: well formed, with term registers and no cursor.

Every instruction, run from a sound machine, ends in a sound machine, also when it stops with
an error, or in a settled one when unification fails. The errors it can stop with exclude every
heap fault other than an overflow and running past the last argument; a term is written out of
place only by `set_variable` or `set_value` while a structure is being read.
-/

namespace UnifyMachine.Machine

open Heap

/-- The functor cell of the structure being written, if one is. -/
def Cursor.pending : Option Cursor → Option Nat
  | some c => if c.mode = .write then some (c.firstTerm - 1) else none
  | none => none

/-- The cursor has arguments left and agrees with the heap: in read mode, the arguments it
reads are term cells; in write mode, it writes the arguments of the functor cell just before
them, the next one goes on top of the heap, and those written so far are term cells. -/
def Cursor.Fits (h : Heap) (c : Cursor) : Prop :=
  c.index < c.count ∧
    match c.mode with
    | .read => h.ArgsAt c.firstTerm c.count
    | .write => 0 < c.firstTerm ∧
        (∃ f, h.cells[c.firstTerm - 1]? = some (.functor f) ∧ f.arity = c.count) ∧
        h.top = c.next ∧ h.ArgsAt c.firstTerm c.index

/-- Every register that holds an address holds that of a term cell. -/
def Heap.HoldsTerms (h : Heap) (registers : Array (Option Nat)) : Prop :=
  ∀ (x a : Nat), registers[x]? = some (some a) → h.TermAt a

namespace State

/-- The invariant of a machine that has not failed. -/
structure Sound (m : State) : Prop where
  heap_wf : m.heap.WellFormed
  registers : m.heap.HoldsTerms m.registers
  cursor : ∀ {c}, m.cursor = some c → c.Fits m.heap
  complete : m.heap.Complete (Cursor.pending m.cursor)

/-- The invariant of a machine after a failure to unify. -/
structure Settled (m : State) : Prop where
  heap_wf : m.heap.WellFormed
  registers : m.heap.HoldsTerms m.registers
  cursor : m.cursor = none

/-- The invariant of every machine reachable by runs: sound, or failed and settled. -/
def Invariant (m : State) : Prop :=
  m.Sound ∨ (m.status = .failed ∧ m.Settled)

end State

/-- The errors a sound machine can stop with when running `i` with cursor `cursor`: no heap
fault other than an overflow, never past the last argument, and a term out of place only from
`set_variable` or `set_value` while reading. -/
def MachineError.Allowed (i : Instruction) (cursor : Option Cursor) : MachineError → Prop
  | .heap (.heapOverflow _) => True
  | .heap _ => False
  | .noMoreTerms _ => False
  | .termOutOfPlace _ _ _ =>
      (∃ x, i = .setVariable x ∨ i = .setValue x) ∧ ∃ c, cursor = some c ∧ c.mode = .read
  | _ => True

/-- The errors writing an argument can stop with: an overflow, a missing or unwritten register,
no structure to write into, or, while reading, a term out of place. -/
def MachineError.OfWrite (cursor : Option Cursor) : MachineError → Prop
  | .heap (.heapOverflow _) | .indexOutOfRange _ _ | .noValue _ | .notActive => True
  | .termOutOfPlace _ _ _ => ∃ c, cursor = some c ∧ c.mode = .read
  | _ => False

/-- How a step of instruction `i` from a machine with cursor `cursor` may stop. -/
def Halt.Allowed (i : Instruction) (cursor : Option Cursor) : Halt → State → Prop
  | .failed, m => m.Settled
  | .error e, m => m.Sound ∧ e.Allowed i cursor

/-! ## Registers -/

theorem Heap.HoldsTerms.rebind {h h' : Heap} (hr : h.Rebinds h') {registers : Array (Option Nat)}
    (hs : h.HoldsTerms registers) : h'.HoldsTerms registers :=
  fun x a hx => (hs x a hx).rebind hr

theorem Heap.HoldsTerms.grow {h : Heap} {registers : Array (Option Nat)}
    (hs : h.HoldsTerms registers) (c : Cell) : (h.grow c).HoldsTerms registers :=
  fun x a hx => (hs x a hx).grow c

theorem Heap.HoldsTerms.store {h : Heap} {registers : Array (Option Nat)}
    (hs : h.HoldsTerms registers) {a : Nat} (ha : h.TermAt a) (x : Nat) :
    h.HoldsTerms (registers.modify x fun _ => some a) := by
  intro y b hy
  rw [Array.getElem?_modify] at hy
  split at hy
  · obtain ⟨_, _, hab⟩ := Option.map_eq_some_iff.1 hy
    cases hab
    exact ha
  · exact hs y b hy

/-! ## The cursor -/

@[simp] theorem Cursor.pending_none : Cursor.pending none = none := rfl

theorem Cursor.pending_read {c : Cursor} (hc : c.mode = .read) : Cursor.pending (some c) = none := by
  simp [pending, hc]

theorem Cursor.pending_write {c : Cursor} (hc : c.mode = .write) :
    Cursor.pending (some c) = some (c.firstTerm - 1) := by
  simp [pending, hc]

theorem Cursor.Fits.next_termAt {h : Heap} {c : Cursor} (hc : c.Fits h) (hm : c.mode = .read) :
    h.TermAt c.next := by
  have hfit := hc.2
  rw [hm] at hfit
  exact hfit c.index hc.1

theorem Cursor.start_eq_none_iff {mode : Mode} {first count : Nat} :
    Cursor.start mode first count = none ↔ count = 0 := by
  unfold Cursor.start
  split <;> simp_all

theorem Cursor.start_eq_some {mode : Mode} {first count : Nat} {c : Cursor}
    (hc : Cursor.start mode first count = some c) :
    c = ⟨mode, first, count, 0⟩ ∧ 0 < count := by
  unfold Cursor.start at hc
  split at hc
  · cases hc
  · cases hc
    exact ⟨rfl, by omega⟩

theorem Cursor.advance_eq_none_iff {c : Cursor} : c.advance = none ↔ c.index + 1 = c.count := by
  unfold Cursor.advance
  split <;> simp_all

theorem Cursor.advance_eq_some {c c' : Cursor} (hc : c.advance = some c') :
    c' = { c with index := c.index + 1 } ∧ c.index + 1 ≠ c.count := by
  unfold Cursor.advance at hc
  split at hc
  · cases hc
  · cases hc
    exact ⟨rfl, by assumption⟩

/-! ## Reading freshly built cells -/

theorem Heap.getValue_of_str {h : Heap} {a fa : Nat} {f : Functor}
    (ha : h.cells[a]? = some (.str fa)) (hf : h.cells[fa]? = some (.functor f)) :
    h.getValue a = .ok (a, .struct f (fa + 1)) := by
  have hd : h.deref a = .ok a := by
    unfold deref
    rw [derefWithin]
    simp [load_ok ha]
  simp [getValue, hd, load_ok ha, load_ok hf]
  rfl

theorem Exec.wp_newStructure_idle {ok : Nat → State → Prop} {halt : Halt → State → Prop}
    {s : State} (hc : s.cursor = none) (f : Functor) :
    Exec.wp (Exec.newStructure f) ok halt s =
      match s.heap.reserve 2 with
      | .error e => halt (.error (.heap e)) s
      | .ok _ => ok s.heap.top
          { s with heap := (s.heap.grow (.str (s.heap.top + 1))).grow (.functor f),
                   cursor := Cursor.start .write (s.heap.top + 2) f.arity } := by
  simp only [Exec.newStructure, Exec.wp_bind, Exec.wp_verifyNotActive, hc, Option.isSome_none,
    Bool.false_eq_true, if_false, Exec.wp_onHeap, Heap.newStructure_eq]
  cases hr : s.heap.reserve 2 with
  | error e => rfl
  | ok u =>
      have hstr : ((s.heap.grow (.str (s.heap.top + 1))).grow (.functor f)).cells[s.heap.top]? =
          some (.str (s.heap.top + 1)) := by
        simp [grow_cells]
      have hfun : ((s.heap.grow (.str (s.heap.top + 1))).grow (.functor f)).cells[s.heap.top + 1]? =
          some (.functor f) := by
        simp [grow_cells]
      simp [Except.map, Heap.getValue_of_str hstr hfun]

theorem Exec.wp_newStructure_active {ok : Nat → State → Prop} {halt : Halt → State → Prop}
    {s : State} {c : Cursor} (hc : s.cursor = some c) (f : Functor) :
    Exec.wp (Exec.newStructure f) ok halt s = halt (.error .currentlyActive) s := by
  simp [Exec.newStructure, hc]

theorem MachineError.OfWrite.allowed_set {e : MachineError} {cursor : Option Cursor}
    (he : e.OfWrite cursor) {i : Instruction} (hi : ∃ x, i = .setVariable x ∨ i = .setValue x) :
    e.Allowed i cursor := by
  cases e with
  | heap e =>
      -- an overflow is allowed; any other heap fault cannot come from writing
      cases e with
      | heapOverflow => trivial
      | _ => exact he.elim
  | termOutOfPlace => exact ⟨hi, he⟩
  | noMoreTerms => exact he.elim
  | _ => trivial

theorem MachineError.OfWrite.allowed_writing {e : MachineError} {c : Cursor}
    (he : e.OfWrite (some c)) (hm : c.mode = .write) (i : Instruction) :
    e.Allowed i (some c) := by
  cases e with
  | heap e =>
      -- an overflow is allowed; any other heap fault cannot come from writing
      cases e with
      | heapOverflow => trivial
      | _ => exact he.elim
  | termOutOfPlace =>
      obtain ⟨c', hc', hread⟩ := he
      cases hc'
      rw [hm] at hread
      cases hread
  | noMoreTerms => exact he.elim
  | _ => trivial

theorem Exec.wp_allowed_of_write {α : Type} {x : Exec α} {ok : α → State → Prop} {s : State}
    {cursor cursor' : Option Cursor} {i : Instruction}
    (hw : Exec.wp x ok (fun h s' => ∃ e, h = .error e ∧ s'.Sound ∧ e.OfWrite cursor) s)
    (hallow : ∀ e : MachineError, e.OfWrite cursor → e.Allowed i cursor') :
    Exec.wp x ok (Halt.Allowed i cursor') s := by
  refine Exec.wp_mono hw (fun _ _ h => h) ?_
  rintro _ s' ⟨e, rfl, hs', he⟩
  exact ⟨hs', hallow e he⟩

/-! ## What each change of state keeps -/

theorem Cursor.Fits.rebind {h h' : Heap} (hr : h.Rebinds h') {c : Cursor} (hc : c.Fits h) :
    c.Fits h' := by
  refine ⟨hc.1, ?_⟩
  have hfit := hc.2
  cases hm : c.mode with
  | read =>
      rw [hm] at hfit
      exact hfit.rebind hr
  | write =>
      rw [hm] at hfit
      obtain ⟨hpos, ⟨f, hf, harity⟩, htop, hargs⟩ := hfit
      exact ⟨hpos, ⟨f, hr.cells_of_not_ref hf (fun _ => nofun), harity⟩, hr.top_eq.trans htop,
        hargs.rebind hr⟩


namespace State

variable {s : State}

theorem Sound.setRegister (hs : s.Sound) {a : Nat} (ha : s.heap.TermAt a) (x : Nat) :
    { s with registers := s.registers.modify x fun _ => some a }.Sound :=
  ⟨hs.heap_wf, hs.registers.store ha x, hs.cursor, hs.complete⟩

theorem Sound.settle (hs : s.Sound) : { s with cursor := none }.Settled :=
  ⟨hs.heap_wf, hs.registers, rfl⟩

theorem Sound.rebind (hs : s.Sound) {h' : Heap} (hr : s.heap.Rebinds h') (hw : h'.WellFormed) :
    { s with heap := h' }.Sound :=
  ⟨hw, hs.registers.rebind hr, fun hc => (hs.cursor hc).rebind hr, hs.complete.rebind hr⟩

theorem Sound.grow_reading (hs : s.Sound) (hm : ∀ c, s.cursor = some c → c.mode = .read)
    {cell : Cell} (hcell : cell.IsTerm) (hw : (s.heap.grow cell).WellFormed) :
    { s with heap := s.heap.grow cell }.Sound := by
  refine ⟨hw, hs.registers.grow cell, fun {c} hc => ?_, hs.complete.grow hcell⟩
  have hfit := hs.cursor hc
  refine ⟨hfit.1, ?_⟩
  have hargs := hfit.2
  simp only [hm c hc] at hargs ⊢
  exact hargs.grow cell

/-- Writing the next argument of the structure being written keeps a machine sound. -/
theorem Sound.writeArgument (hs : s.Sound) {c : Cursor} (hc : s.cursor = some c)
    (hm : c.mode = .write) {cell : Cell} (hcell : cell.IsTerm) (hw : (s.heap.grow cell).WellFormed) :
    { s with heap := s.heap.grow cell, cursor := c.advance }.Sound := by
  have hfit := hs.cursor hc
  have hlt := hfit.1
  have hwrite := hfit.2
  rw [hm] at hwrite
  obtain ⟨hpos, ⟨f, hf, harity⟩, htop, hargs⟩ := hwrite
  -- the arguments written so far, with the new one on top
  have hargs' : (s.heap.grow cell).ArgsAt c.firstTerm (c.index + 1) := by
    intro i hi
    by_cases hlast : i = c.index
    · subst hlast
      refine ⟨cell, ?_, hcell⟩
      rw [grow_cells, if_pos (by simp [htop, Cursor.next])]
    · exact hargs.grow cell i (by omega)
  have hcomplete := hs.complete
  rw [hc, Cursor.pending_write hm] at hcomplete
  refine ⟨hw, hs.registers.grow cell, fun {c'} hc' => ?_, ?_⟩
  · obtain ⟨rfl, hne⟩ := Cursor.advance_eq_some hc'
    refine ⟨by simp; omega, ?_⟩
    simp only [hm]
    exact ⟨hpos, ⟨f, grow_cells_of_some cell hf, harity⟩,
      by simp [htop, Cursor.next]; omega, hargs'⟩
  · cases hadv : c.advance with
    | none =>
        -- the last argument completes the pending functor cell
        have hlast := Cursor.advance_eq_none_iff.1 hadv
        intro a g ha _
        rw [grow_cells] at ha
        split at ha
        · cases cell with
          | functor g' => exact hcell.elim
          | _ => cases ha
        · by_cases hpend : a = c.firstTerm - 1
          · subst hpend
            rw [hf] at ha
            cases ha
            have : c.firstTerm - 1 + 1 = c.firstTerm := by omega
            rw [this, harity, ← hlast]
            exact hargs'
          · exact (hcomplete a g ha (by simpa using Ne.symm hpend)).grow cell
    | some c' =>
        obtain ⟨rfl, -⟩ := Cursor.advance_eq_some hadv
        rw [Cursor.pending_write (by simpa using hm)]
        exact hcomplete.grow hcell

theorem Sound.newStructure (hs : s.Sound) (hc : s.cursor = none) (f : Functor) :
    { s with heap := (s.heap.grow (.str (s.heap.top + 1))).grow (.functor f),
             cursor := Cursor.start .write (s.heap.top + 2) f.arity }.Sound := by
  have hfun : ((s.heap.grow (.str (s.heap.top + 1))).grow (.functor f)).cells[s.heap.top + 1]? =
      some (.functor f) := by
    simp [grow_cells]
  have hcomplete := hs.complete
  rw [hc, Cursor.pending_none] at hcomplete
  refine ⟨hs.heap_wf.newStructure f, (hs.registers.grow _).grow _, fun {c} hc' => ?_, ?_⟩
  · obtain ⟨rfl, hpos⟩ := Cursor.start_eq_some hc'
    refine ⟨hpos, by simp, ⟨f, hfun, rfl⟩, by simp [Cursor.next], fun i hi => ?_⟩
    simp at hi
  · -- the new functor cell is pending unless it has no arguments
    intro a g ha hpending
    rw [grow_cells, grow_cells, grow_top] at ha
    split at ha
    · rename_i hat
      cases ha
      by_cases hzero : f.arity = 0
      · rw [hzero]
        exact fun i hi => by omega
      · have hstart : Cursor.start .write (s.heap.top + 2) f.arity =
            some ⟨.write, s.heap.top + 2, f.arity, 0⟩ := by
          simp [Cursor.start, hzero]
        rw [hstart, Cursor.pending_write rfl] at hpending
        exact (hpending (by simp [hat])).elim
    · split at ha
      · cases ha
      · exact ((hcomplete a g ha (by simp)).grow _).grow _

theorem Sound.startRead (hs : s.Sound) (hc : s.cursor = none) {d first : Nat} {f : Functor}
    (hv : s.heap.ValueAt d (.struct f first)) :
    { s with cursor := Cursor.start .read first f.arity }.Sound := by
  have hcomplete := hs.complete
  rw [hc, Cursor.pending_none] at hcomplete
  refine ⟨hs.heap_wf, hs.registers, fun {c} hc' => ?_, ?_⟩
  · obtain ⟨rfl, hpos⟩ := Cursor.start_eq_some hc'
    exact ⟨hpos, hv.argsAt hcomplete⟩
  · cases hstart : Cursor.start .read first f.arity with
    | none => exact hcomplete
    | some c =>
        obtain ⟨rfl, -⟩ := Cursor.start_eq_some hstart
        rw [Cursor.pending_read rfl]
        exact hcomplete

theorem Sound.advanceRead (hs : s.Sound) {c : Cursor} (hc : s.cursor = some c)
    (hm : c.mode = .read) : { s with cursor := c.advance }.Sound := by
  have hfit := hs.cursor hc
  have hcomplete := hs.complete
  rw [hc, Cursor.pending_read hm] at hcomplete
  refine ⟨hs.heap_wf, hs.registers, fun {c'} hc' => ?_, ?_⟩
  · obtain ⟨rfl, hne⟩ := Cursor.advance_eq_some hc'
    have hlt := hfit.1
    have hargs := hfit.2
    simp only [hm] at hargs
    exact ⟨by simp; omega, by simpa [hm] using hargs⟩
  · cases hadv : c.advance with
    | none => exact hcomplete
    | some c' =>
        obtain ⟨rfl, -⟩ := Cursor.advance_eq_some hadv
        rw [Cursor.pending_read (by simpa using hm)]
        exact hcomplete

/-! ## Instructions -/

theorem writeVariable_sound (hs : s.Sound) (x : Nat) :
    Exec.wp (Exec.writeVariable x) (fun _ s' => s'.Sound)
      (fun h s' => ∃ e, h = .error e ∧ s'.Sound ∧ e.OfWrite s.cursor) s := by
  obtain ⟨status, cursor, registers, heap, steps, maxSteps, budget⟩ := s
  simp only [Exec.wp_writeVariable, Exec.wp_writeNext]
  cases cursor with
  | none => exact ⟨_, rfl, hs, trivial⟩
  | some c =>
      have hfit := hs.cursor rfl
      dsimp only
      rw [if_neg (Nat.ne_of_lt hfit.1)]
      cases hn : heap.newVariable with
      | error e =>
          obtain ⟨cap, rfl⟩ := push_error hn
          exact ⟨_, rfl, hs, trivial⟩
      | ok r =>
          obtain ⟨h', found⟩ := r
          obtain ⟨rfl, rfl⟩ := newVariable_ok hn
          have hwf := hs.heap_wf.newVariable
          dsimp only
          cases hm : c.mode with
          | write =>
              have hwrite := hfit.2
              rw [hm] at hwrite
              have hs' := hs.writeArgument rfl hm (Cell.isTerm_ref _) hwf
              rw [if_pos hwrite.2.2.1, Exec.wp_registerStore]
              split
              · exact hs'.setRegister (termAt_of_ref (grow_cells_top heap _)) x
              · exact ⟨_, rfl, hs', trivial⟩
          | read =>
              have hlt : c.next < heap.top := (hfit.next_termAt hm).lt_top
              rw [if_neg (Nat.ne_of_gt hlt)]
              exact ⟨_, rfl, hs.grow_reading (fun c' hc' => by cases hc'; exact hm)
                (Cell.isTerm_ref _) hwf, c, rfl, hm⟩

theorem writeValue_sound (hs : s.Sound) (x : Nat) :
    Exec.wp (Exec.writeValue x) (fun _ s' => s'.Sound)
      (fun h s' => ∃ e, h = .error e ∧ s'.Sound ∧ e.OfWrite s.cursor) s := by
  obtain ⟨status, cursor, registers, heap, steps, maxSteps, budget⟩ := s
  rw [Exec.wp_writeValue]
  dsimp only
  cases hx : registers[x]? with
  | none => exact ⟨_, rfl, hs, trivial⟩
  | some v =>
      cases v with
      | none => exact ⟨_, rfl, hs, trivial⟩
      | some a =>
          have ha : heap.TermAt a := hs.registers x a hx
          dsimp only
          rw [Exec.wp_writeNext]
          cases cursor with
          | none => exact ⟨_, rfl, hs, trivial⟩
          | some c =>
              have hfit := hs.cursor rfl
              dsimp only
              rw [if_neg (Nat.ne_of_lt hfit.1)]
              cases hn : heap.pushCopy a with
              | error e =>
                  have hload : heap.load a = .ok _ := load_ok ha.choose_spec.1
                  simp only [Heap.pushCopy, hload, ok_bind] at hn
                  obtain ⟨cap, rfl⟩ := push_error hn
                  exact ⟨_, rfl, hs, trivial⟩
              | ok r =>
                  obtain ⟨h', found⟩ := r
                  obtain ⟨cell, hcell, rfl, rfl⟩ := pushCopy_ok ha hn
                  have hterm : cell.IsTerm := by
                    obtain ⟨c', hc', ht⟩ := ha
                    rw [hcell] at hc'
                    cases hc'
                    exact ht
                  have hwf := hs.heap_wf.pushCopy hcell
                  dsimp only
                  cases hm : c.mode with
                  | write =>
                      have hwrite := hfit.2
                      rw [hm] at hwrite
                      rw [if_pos hwrite.2.2.1]
                      exact hs.writeArgument rfl hm hterm hwf
                  | read =>
                      have hlt : c.next < heap.top := (hfit.next_termAt hm).lt_top
                      rw [if_neg (Nat.ne_of_gt hlt)]
                      exact ⟨_, rfl, hs.grow_reading (fun c' hc' => by cases hc'; exact hm)
                        hterm hwf, c, rfl, hm⟩

theorem putStructure_sound (hs : s.Sound) (f : Functor) (x : Nat) :
    Exec.wp (Exec.execute (.putStructure f x)) (fun _ s' => s'.Sound)
      (Halt.Allowed (.putStructure f x) s.cursor) s := by
  simp only [Exec.execute, Exec.wp_bind]
  cases hc : s.cursor with
  | some c =>
      rw [Exec.wp_newStructure_active hc]
      exact ⟨hs, trivial⟩
  | none =>
      rw [Exec.wp_newStructure_idle hc]
      cases hr : s.heap.reserve 2 with
      | error e =>
          obtain ⟨cap, rfl⟩ := reserve_error hr
          exact ⟨hs, trivial⟩
      | ok u =>
          have hs' := hs.newStructure hc f
          have hcell : ((s.heap.grow (.str (s.heap.top + 1))).grow (.functor f)).cells[s.heap.top]? =
              some (.str (s.heap.top + 1)) := by
            simp [grow_cells]
          have hterm := termAt_of_str hcell
          dsimp only
          rw [Exec.wp_registerStore]
          split
          · exact hs'.setRegister hterm x
          · exact ⟨hs', trivial⟩

theorem getStructure_sound (hs : s.Sound) (f : Functor) (x : Nat) :
    Exec.wp (Exec.execute (.getStructure f x)) (fun _ s' => s'.Sound)
      (Halt.Allowed (.getStructure f x) s.cursor) s := by
  simp only [Exec.execute, Exec.wp_bind, Exec.wp_registerLoad]
  cases hx : s.registers[x]? with
  | none => exact ⟨hs, trivial⟩
  | some v =>
      cases v with
      | none => exact ⟨hs, trivial⟩
      | some r =>
          obtain ⟨d, v, hg, -, hv⟩ := getValue_ok hs.heap_wf (hs.registers x r hx)
          simp only [Exec.wp_get, Exec.wp_fromHeap, hg]
          cases v with
          | unbound u =>
              obtain ⟨rfl, hd⟩ := hv
              dsimp only
              rw [Exec.wp_bind]
              cases hc : s.cursor with
              | some c =>
                  rw [Exec.wp_newStructure_active hc]
                  exact ⟨hs, trivial⟩
              | none =>
                  rw [Exec.wp_newStructure_idle hc]
                  cases hr : s.heap.reserve 2 with
                  | error e =>
                      obtain ⟨cap, rfl⟩ := reserve_error hr
                      exact ⟨hs, trivial⟩
                  | ok _ =>
                      -- bind the variable to the new structure, which lies above it
                      have hs' := hs.newStructure hc f
                      have hlt : u < s.heap.top := (termAt_of_ref hd).lt_top
                      have hd' : ((s.heap.grow (.str (s.heap.top + 1))).grow (.functor f)).ValueAt u
                          (.unbound u) :=
                        ⟨rfl, grow_cells_of_some _ (grow_cells_of_some _ hd)⟩
                      have htop : ((s.heap.grow (.str (s.heap.top + 1))).grow (.functor f)).ValueAt
                          s.heap.top (.struct f (s.heap.top + 2)) :=
                        ⟨s.heap.top + 1, by simp [grow_cells], by simp [grow_cells], rfl⟩
                      obtain ⟨h', v, w, hb, hred, hvv, hvw, hdown⟩ :=
                        bind_ok hd' htop (Nat.ne_of_lt hlt) (.inl ⟨u, rfl⟩)
                      have hwt : ((s.heap.grow (.str (s.heap.top + 1))).grow (.functor f)).TermAt w := by
                        rcases hvw with ⟨-, rfl⟩ | ⟨-, rfl⟩
                        · exact htop.termAt
                        · exact hd'.termAt
                      have hreb := hred.rebinds hvv
                      have hwf := hred.wellFormed hs'.heap_wf hvv hwt (hdown.imp Nat.le_of_lt id)
                      simp only [Exec.wp_bind, Exec.wp_get, Exec.wp_fromHeap, hb, Exec.wp_modify]
                      exact hs'.rebind hreb hwf
          | struct g first =>
              dsimp only
              split
              · subst g
                rw [Exec.wp_startVisit]
                split
                · exact ⟨hs, trivial⟩
                · rename_i hc
                  exact hs.startRead (by simpa using hc) hv
              · rw [Exec.wp_backtrack]
                exact hs.settle

theorem unifyVariable_sound (hs : s.Sound) (x : Nat) :
    Exec.wp (Exec.execute (.unifyVariable x)) (fun _ s' => s'.Sound)
      (Halt.Allowed (.unifyVariable x) s.cursor) s := by
  simp only [Exec.execute, Exec.wp_bind, Exec.wp_currentMode]
  cases hc : s.cursor with
  | none => exact ⟨hs, trivial⟩
  | some c =>
      have hfit := hs.cursor hc
      dsimp only
      cases hm : c.mode with
      | read =>
          simp only [Exec.wp_bind, Exec.wp_readNext, hc, if_neg (Nat.ne_of_lt hfit.1),
            Exec.wp_registerStore]
          have hs' := hs.advanceRead hc hm
          split
          · exact hs'.setRegister (hfit.next_termAt hm) x
          · exact ⟨hs', trivial⟩
      | write =>
          refine Exec.wp_allowed_of_write (writeVariable_sound hs x) fun e he => ?_
          rw [hc] at he
          exact he.allowed_writing hm _

theorem unifyValue_sound (hs : s.Sound) (x : Nat) :
    Exec.wp (Exec.execute (.unifyValue x)) (fun _ s' => s'.Sound)
      (Halt.Allowed (.unifyValue x) s.cursor) s := by
  simp only [Exec.execute, Exec.wp_bind, Exec.wp_currentMode]
  cases hc : s.cursor with
  | none => exact ⟨hs, trivial⟩
  | some c =>
      have hfit := hs.cursor hc
      dsimp only
      cases hm : c.mode with
      | read =>
          simp only [Exec.wp_bind, Exec.wp_readNext, hc, if_neg (Nat.ne_of_lt hfit.1),
            Exec.wp_registerLoad]
          have hs' := hs.advanceRead hc hm
          cases hx : s.registers[x]? with
          | none => exact ⟨hs', trivial⟩
          | some v =>
              cases v with
              | none => exact ⟨hs', trivial⟩
              | some r =>
                  -- reading never leaves a structure half written, so the heap is complete
                  have hcomplete : s.heap.Complete none := by
                    simpa [hc, Cursor.pending_read hm] using hs.complete
                  have hpairs : s.heap.PairsAt [(r, c.next)] := by
                    intro p hp
                    simp only [List.mem_singleton] at hp
                    subst hp
                    exact ⟨hs.registers x r hx, hfit.next_termAt hm⟩
                  obtain ⟨hreb, hwf, hnf⟩ := unifyPairs_safe s.unifyBudget hs.heap_wf hcomplete hpairs
                  dsimp only
                  rw [Exec.wp_unifyAt]
                  dsimp only [Heap.unify]
                  generalize hu : s.heap.unifyPairs s.unifyBudget [(r, c.next)] = res at hreb hwf hnf
                  obtain ⟨h', outcome⟩ := res
                  cases outcome with
                  | unified => exact hs'.rebind hreb hwf
                  | clash => exact ⟨hwf, hs.registers.rebind hreb, rfl⟩
                  | fault e => exact (hnf e rfl).elim
                  | unfinished => exact ⟨hs'.rebind hreb hwf, trivial⟩
      | write =>
          refine Exec.wp_allowed_of_write (writeValue_sound hs x) fun e he => ?_
          rw [hc] at he
          exact he.allowed_writing hm _

/-- Every instruction, run from a sound machine, ends in a sound machine, or in a settled one
after a failure to unify, and stops only with the errors `MachineError.Allowed` lets through. -/
theorem execute_sound (hs : s.Sound) (i : Instruction) :
    Exec.wp (Exec.execute i) (fun _ s' => s'.Sound) (Halt.Allowed i s.cursor) s := by
  cases i with
  | putStructure f x => exact putStructure_sound hs f x
  | setVariable x =>
      exact Exec.wp_allowed_of_write (writeVariable_sound hs x) fun _ he =>
        he.allowed_set ⟨x, .inl rfl⟩
  | setValue x =>
      exact Exec.wp_allowed_of_write (writeValue_sound hs x) fun _ he =>
        he.allowed_set ⟨x, .inr rfl⟩
  | getStructure f x => exact getStructure_sound hs f x
  | unifyVariable x => exact unifyVariable_sound hs x
  | unifyValue x => exact unifyValue_sound hs x

end State

end UnifyMachine.Machine
