import UnifyMachine.Proofs.Machine.Runs

/-!
# What an instruction leaves alone

An instruction changes only the cells of the heap, the contents of the registers and the
cursor. The status, the step count, the step limit, the unification budget, the number of
registers and the capacity of the heap stay as they were, whether the instruction goes through
or stops, and it never stops on the step limit, which only a run checks. The heap grows only by
pushes, each checked against the capacity before anything is written, and is otherwise only
rewritten in place: a heap within its capacity stays within it.

A push that does not fit fails before it changes anything, and no other heap operation can
overflow; in every instruction, the pushes come before anything else is changed. So an
instruction that stops on an overflow leaves the machine exactly as it found it.
-/

namespace UnifyMachine.Machine

/-- A fault other than running out of room: what reading, binding and unifying can report. -/
def HeapError.NotOverflow : HeapError → Prop
  | .heapOverflow _ => False
  | _ => True

namespace Heap

variable {h h' : Heap}

/-- The heap holds no more cells than its capacity, if it has one. -/
def Fits (h : Heap) : Prop :=
  ∀ c, h.capacity = some c → h.top ≤ c

/-- `h'` keeps the capacity of `h`, and fits in it whenever `h` does. -/
structure StaysFit (h h' : Heap) : Prop where
  capacity : h'.capacity = h.capacity
  fits : h.Fits → h'.Fits

theorem StaysFit.refl (h : Heap) : h.StaysFit h :=
  ⟨rfl, id⟩

theorem StaysFit.trans {h₁ h₂ h₃ : Heap} (h₁₂ : h₁.StaysFit h₂) (h₂₃ : h₂.StaysFit h₃) :
    h₁.StaysFit h₃ :=
  ⟨h₂₃.capacity.trans h₁₂.capacity, fun hf => h₂₃.fits (h₁₂.fits hf)⟩

theorem StaysFit.of_top_eq (hc : h'.capacity = h.capacity) (ht : h'.top = h.top) :
    h.StaysFit h' :=
  ⟨hc, fun hf c hcap => ht ▸ hf c (hc ▸ hcap)⟩

theorem reserve_ok_le {n : Nat} {u : Unit} (hr : h.reserve n = .ok u) (c : Nat)
    (hc : h.capacity = some c) : h.top + n ≤ c := by
  unfold reserve at hr
  rw [hc] at hr
  by_cases hlt : c < h.top + n
  · simp [hlt] at hr
  · omega

theorem StaysFit.of_reserve {n : Nat} {u : Unit} (hr : h.reserve n = .ok u)
    (hc : h'.capacity = h.capacity) (ht : h'.top ≤ h.top + n) : h.StaysFit h' :=
  ⟨hc, fun _ cap hcap => Nat.le_trans ht (reserve_ok_le hr cap (hc ▸ hcap))⟩

/-! ## Appending and rewriting cells -/

theorem staysFit_push {c : Cell} {a : Nat} (hp : h.push c = .ok (h', a)) : h.StaysFit h' := by
  rw [push_eq] at hp
  cases hr : h.reserve 1 with
  | error e => simp [hr, Except.map] at hp
  | ok u =>
      simp only [hr, Except.map, Except.ok.injEq, Prod.mk.injEq] at hp
      obtain ⟨rfl, -⟩ := hp
      exact .of_reserve hr rfl (Nat.le_of_eq (grow_top h c))

theorem staysFit_newStructure {f : Functor} {a : Nat} (hp : h.newStructure f = .ok (h', a)) :
    h.StaysFit h' := by
  rw [newStructure_eq] at hp
  cases hr : h.reserve 2 with
  | error e => simp [hr, Except.map] at hp
  | ok u =>
      simp only [hr, Except.map, Except.ok.injEq, Prod.mk.injEq] at hp
      obtain ⟨rfl, -⟩ := hp
      exact .of_reserve hr rfl (by simp only [grow_top]; omega)

theorem staysFit_pushCopy {a b : Nat} (hp : h.pushCopy a = .ok (h', b)) : h.StaysFit h' := by
  unfold pushCopy at hp
  cases hl : h.load a with
  | error e =>
      rw [hl] at hp
      cases hp
  | ok c =>
      rw [hl, ok_bind] at hp
      exact staysFit_push hp

theorem staysFit_store {a : Nat} {c : Cell} (hs : h.store a c = .ok h') : h.StaysFit h' := by
  unfold store at hs
  split at hs
  · cases hs
    exact .of_top_eq rfl (by simp [top])
  · cases hs

theorem staysFit_bind {a₁ a₂ : Nat} (hb : h.bind a₁ a₂ = .ok h') : h.StaysFit h' := by
  unfold bind at hb
  cases h₁ : h.isFree a₁ with
  | error e =>
      rw [h₁] at hb
      cases hb
  | ok free₁ =>
      cases h₂ : h.isFree a₂ with
      | error e =>
          rw [h₁, ok_bind, h₂] at hb
          cases hb
      | ok free₂ =>
          rw [h₁, ok_bind, h₂, ok_bind] at hb
          cases free₁ <;> cases free₂
          case false.false => cases hb
          all_goals exact staysFit_store hb

/-! ## Faults other than overflows -/

theorem load_error {a : Nat} {e : HeapError} (hl : h.load a = .error e) : e.NotOverflow := by
  unfold load at hl
  split at hl
  · cases hl
  · cases hl
    trivial

theorem derefWithin_error {fuel a : Nat} {e : HeapError} (hd : h.derefWithin fuel a = .error e) :
    e.NotOverflow := by
  fun_induction h.derefWithin fuel a with
  | case1 fuel a e' hl =>
      cases hd
      exact load_error hl
  | case4 a r hl hne fuel ih => exact ih hd
  | case2 | case5 => cases hd
  | case3 | case6 =>
      cases hd
      trivial

theorem getValue_error {a : Nat} {e : HeapError} (hg : h.getValue a = .error e) : e.NotOverflow := by
  unfold getValue at hg
  cases hd : h.deref a with
  | error e' =>
      rw [hd] at hg
      cases hg
      exact derefWithin_error hd
  | ok d =>
      rw [hd, ok_bind] at hg
      cases hl : h.load d with
      | error e' =>
          rw [hl] at hg
          cases hg
          exact load_error hl
      | ok c =>
          rw [hl, ok_bind] at hg
          cases c with
          | ref r => cases hg
          | functor f =>
              cases hg
              trivial
          | str fa =>
              dsimp only at hg
              cases hf : h.load fa with
              | error e' =>
                  rw [hf] at hg
                  cases hg
                  exact load_error hf
              | ok c' =>
                  rw [hf, ok_bind] at hg
                  cases c' <;> cases hg <;> trivial

theorem store_error {a : Nat} {c : Cell} {e : HeapError} (hs : h.store a c = .error e) :
    e.NotOverflow := by
  unfold store at hs
  split at hs
  · cases hs
  · cases hs
    trivial

theorem isFree_error {a : Nat} {e : HeapError} (hf : h.isFree a = .error e) : e.NotOverflow := by
  unfold isFree at hf
  cases hl : h.load a with
  | error e' =>
      rw [hl] at hf
      cases hf
      exact load_error hl
  | ok c =>
      rw [hl, ok_bind] at hf
      cases c <;> cases hf

theorem bind_error {a₁ a₂ : Nat} {e : HeapError} (hb : h.bind a₁ a₂ = .error e) :
    e.NotOverflow := by
  unfold bind at hb
  cases h₁ : h.isFree a₁ with
  | error e' =>
      rw [h₁] at hb
      cases hb
      exact isFree_error h₁
  | ok free₁ =>
      cases h₂ : h.isFree a₂ with
      | error e' =>
          rw [h₁, ok_bind, h₂] at hb
          cases hb
          exact isFree_error h₂
      | ok free₂ =>
          rw [h₁, ok_bind, h₂, ok_bind] at hb
          cases free₁ <;> cases free₂
          case false.false =>
            cases hb
            trivial
          all_goals exact store_error hb

/-- Unification keeps the heap within its capacity, and its faults are never overflows. -/
theorem unifyPairs_footprint (budget : Nat) (stack : List (Nat × Nat)) :
    h.StaysFit (h.unifyPairs budget stack).1 ∧
      ∀ e, (h.unifyPairs budget stack).2 = .fault e → e.NotOverflow := by
  induction budget generalizing h stack with
  | zero =>
      cases stack with
      | nil => exact ⟨.refl h, fun e he => by simp [unifyPairs] at he⟩
      | cons p rest => exact ⟨.refl h, fun e he => by simp [unifyPairs] at he⟩
  | succ budget ih =>
      cases stack with
      | nil => exact ⟨.refl h, fun e he => by simp [unifyPairs] at he⟩
      | cons p rest =>
          obtain ⟨a₁, a₂⟩ := p
          rw [unifyPairs]
          cases hg₁ : h.getValue a₁ with
          | error e₁ => exact ⟨.refl h, fun e he => by cases he; exact getValue_error hg₁⟩
          | ok r₁ =>
              obtain ⟨d₁, v₁⟩ := r₁
              cases hg₂ : h.getValue a₂ with
              | error e₂ => exact ⟨.refl h, fun e he => by cases he; exact getValue_error hg₂⟩
              | ok r₂ =>
                  obtain ⟨d₂, v₂⟩ := r₂
                  dsimp only
                  -- the pair is done, clashes, pushes its arguments, or binds a variable
                  split
                  · exact ih rest
                  · split
                    · split
                      · exact ⟨.refl h, fun e he => by cases he⟩
                      · split
                        · exact ih rest
                        · exact ih _
                    · cases hb : h.bind d₁ d₂ with
                      | error e₃ => exact ⟨.refl h, fun e he => by cases he; exact bind_error hb⟩
                      | ok h'' =>
                          obtain ⟨hfit, hfault⟩ := ih (h := h'') rest
                          exact ⟨(staysFit_bind hb).trans hfit, hfault⟩

end Heap

namespace State

/-- What a step keeps from `s` to `s'`: everything but the cells of the heap, the contents of
the registers and the cursor; and the heap keeps its capacity and its fit. -/
structure Frame (s s' : State) : Prop where
  status : s'.status = s.status
  steps : s'.steps = s.steps
  maxSteps : s'.maxSteps = s.maxSteps
  unifyBudget : s'.unifyBudget = s.unifyBudget
  size : s'.registers.size = s.registers.size
  heap : s.heap.StaysFit s'.heap

theorem Frame.refl (s : State) : s.Frame s :=
  ⟨rfl, rfl, rfl, rfl, rfl, .refl _⟩

theorem Frame.trans {s₁ s₂ s₃ : State} (h₁₂ : s₁.Frame s₂) (h₂₃ : s₂.Frame s₃) : s₁.Frame s₃ :=
  ⟨h₂₃.status.trans h₁₂.status, h₂₃.steps.trans h₁₂.steps, h₂₃.maxSteps.trans h₁₂.maxSteps,
    h₂₃.unifyBudget.trans h₁₂.unifyBudget, h₂₃.size.trans h₁₂.size, h₁₂.heap.trans h₂₃.heap⟩

theorem Frame.update (s : State) {h : Heap} (hh : s.heap.StaysFit h) {r : Array (Option Nat)}
    (hr : r.size = s.registers.size) (c : Option Cursor) :
    s.Frame { s with heap := h, registers := r, cursor := c } :=
  ⟨rfl, rfl, rfl, rfl, hr, hh⟩

end State

/-- A reason a step can stop with: anything but the step limit, which only a run checks. -/
def Halt.OfStep : Halt → Prop
  | .error (.stepLimitExceeded _) => False
  | _ => True

namespace Exec

open State

/-- `x` keeps the frame between the state it starts in and the state it ends in, whether it
returns or stops, and never stops on the step limit. -/
def Framed (x : Exec α) : Prop :=
  ∀ s, wp x (fun _ s' => s.Frame s') (fun h s' => s.Frame s' ∧ h.OfStep) s

theorem Framed.bind {x : Exec α} {f : α → Exec β} (hx : Framed x) (hf : ∀ a, Framed (f a)) :
    Framed (x >>= f) := by
  intro s
  rw [wp_bind]
  refine wp_mono (hx s) (fun a s₁ h₁ => ?_) (fun _ _ h => h)
  exact wp_mono (hf a s₁) (fun _ _ h₂ => h₁.trans h₂) (fun _ _ h₂ => ⟨h₁.trans h₂.1, h₂.2⟩)

theorem Framed.get_bind {f : State → Exec α} (hf : ∀ m, Framed (f m)) : Framed (get >>= f) := by
  intro s
  rw [wp_bind, wp_get]
  exact hf s s

theorem framed_pure (a : α) : Framed (pure a : Exec α) := by
  intro s
  rw [wp_pure]
  exact .refl s

theorem framed_fromHeap (r : Except HeapError α) : Framed (fromHeap r) := by
  intro s
  rw [wp_fromHeap]
  cases r
  · exact ⟨.refl s, trivial⟩
  · exact .refl s

theorem Framed.onHeap {f : Heap → Except HeapError (Heap × Nat)}
    (hf : ∀ h h' a, f h = .ok (h', a) → h.StaysFit h') : Framed (onHeap f) := by
  intro s
  rw [wp_onHeap]
  cases hr : f s.heap with
  | error e => exact ⟨.refl s, trivial⟩
  | ok p =>
      obtain ⟨h', a⟩ := p
      exact .update s (hf _ _ _ hr) rfl s.cursor

theorem framed_registerLoad (x : Nat) : Framed (registerLoad x) := by
  intro s
  rw [wp_registerLoad]
  split
  · exact .refl s
  · exact ⟨.refl s, trivial⟩
  · exact ⟨.refl s, trivial⟩

theorem framed_registerStore (x a : Nat) : Framed (registerStore x a) := by
  intro s
  rw [wp_registerStore]
  split
  · exact .update s (.refl _) (Array.size_modify ..) s.cursor
  · exact ⟨.refl s, trivial⟩

theorem framed_startVisit (mode : Mode) (first count : Nat) :
    Framed (startVisit mode first count) := by
  intro s
  rw [wp_startVisit]
  split
  · exact ⟨.refl s, trivial⟩
  · exact .update s (.refl _) rfl _

theorem framed_currentMode : Framed currentMode := by
  intro s
  rw [wp_currentMode]
  split
  · exact .refl s
  · exact ⟨.refl s, trivial⟩

theorem framed_backtrack : Framed (backtrack : Exec α) := by
  intro s
  rw [wp_backtrack]
  exact ⟨.update s (.refl _) rfl none, trivial⟩

theorem Framed.visitNext {action : Nat → Nat → Exec Nat} (ha : ∀ i a, Framed (action i a)) :
    Framed (visitNext action) := by
  intro s
  rw [wp_visitNext]
  split
  · exact ⟨.refl s, trivial⟩
  · split
    · exact ⟨.refl s, trivial⟩
    · exact wp_mono (ha _ _ s) (fun _ s' hs' => hs'.trans (.update s' (.refl _) rfl _))
        (fun _ _ h => h)

theorem Framed.writeNext {write : Heap → Except HeapError (Heap × Nat)}
    (hw : ∀ h h' a, write h = .ok (h', a) → h.StaysFit h') : Framed (writeNext write) := by
  refine Framed.visitNext fun index expected => Framed.bind (Framed.onHeap hw) fun found => ?_
  split
  · exact framed_pure found
  · intro s
    exact ⟨.refl s, trivial⟩

theorem framed_newStructure (f : Functor) : Framed (newStructure f) := by
  intro s
  cases hc : s.cursor with
  | some c =>
      rw [wp_newStructure_active hc]
      exact ⟨.refl s, trivial⟩
  | none =>
      rw [wp_newStructure_idle hc]
      cases hr : s.heap.reserve 2 with
      | error e => exact ⟨.refl s, trivial⟩
      | ok u =>
          have hp : s.heap.newStructure f =
              .ok ((s.heap.grow (.str (s.heap.top + 1))).grow (.functor f), s.heap.top) := by
            rw [Heap.newStructure_eq, hr]
            rfl
          exact .update s (Heap.staysFit_newStructure hp) rfl _

theorem framed_unifyAt (a₁ a₂ : Nat) : Framed (unifyAt a₁ a₂) := by
  intro s
  rw [wp_unifyAt]
  have hfit := (s.heap.unifyPairs_footprint s.unifyBudget [(a₁, a₂)]).1
  unfold Heap.unify
  rcases hu : s.heap.unifyPairs s.unifyBudget [(a₁, a₂)] with ⟨h, _ | _ | e | _⟩
  all_goals
    rw [hu] at hfit
  · exact .update s hfit rfl s.cursor
  · exact ⟨.update s hfit rfl none, trivial⟩
  · exact ⟨.update s hfit rfl s.cursor, trivial⟩
  · exact ⟨.update s hfit rfl s.cursor, trivial⟩

theorem framed_writeVariable (x : Nat) : Framed (writeVariable x) :=
  Framed.bind (Framed.writeNext fun _ _ _ hp => Heap.staysFit_push hp) fun a =>
    framed_registerStore x a

theorem framed_writeValue (x : Nat) : Framed (writeValue x) :=
  Framed.bind (framed_registerLoad x) fun _ =>
    Framed.bind (Framed.writeNext fun _ _ _ hp => Heap.staysFit_pushCopy hp) fun _ =>
      framed_pure ()

/-- Every instruction keeps the frame and never stops on the step limit. -/
theorem framed_execute (i : Instruction) : Framed (execute i) := by
  cases i with
  | putStructure f x =>
      exact Framed.bind (framed_newStructure f) fun a => framed_registerStore x a
  | setVariable x => exact framed_writeVariable x
  | setValue x => exact framed_writeValue x
  | getStructure f x =>
      refine Framed.bind (framed_registerLoad x) fun r => Framed.get_bind fun m =>
        Framed.bind (framed_fromHeap _) fun v => ?_
      obtain ⟨d, v⟩ := v
      cases v with
      | unbound u =>
          refine Framed.bind (framed_newStructure f) fun a => ?_
          -- binding the variable rewrites a cell of the heap the structure was built on
          intro s
          simp only [wp_bind, wp_get, wp_fromHeap]
          cases hb : s.heap.bind u a with
          | error e => exact ⟨.refl s, trivial⟩
          | ok h' => exact .update s (Heap.staysFit_bind hb) rfl s.cursor
      | struct g first =>
          dsimp only
          split
          · exact framed_startVisit .read first g.arity
          · exact framed_backtrack
  | unifyVariable x =>
      refine Framed.bind framed_currentMode fun mode => ?_
      cases mode with
      | read =>
          exact Framed.bind (Framed.visitNext fun _ _ => framed_pure _) fun a =>
            framed_registerStore x a
      | write => exact framed_writeVariable x
  | unifyValue x =>
      refine Framed.bind framed_currentMode fun mode => ?_
      cases mode with
      | read =>
          exact Framed.bind (Framed.visitNext fun _ _ => framed_pure _) fun a =>
            Framed.bind (framed_registerLoad x) fun r => framed_unifyAt r a
      | write => exact framed_writeValue x

end Exec

/-! ## Overflows -/

/-- The step stopped because the heap was full. -/
def Halt.IsOverflow : Halt → Prop
  | .error (.heap (.heapOverflow _)) => True
  | _ => False

theorem HeapError.NotOverflow.not_isOverflow {e : HeapError} (he : e.NotOverflow) :
    ¬ (Halt.error (.heap e)).IsOverflow := by
  cases e with
  | heapOverflow => exact he.elim
  | _ => exact id

namespace Exec

/-- `x` never stops on an overflow. -/
def Quiet (x : Exec α) : Prop :=
  ∀ s, wp x (fun _ _ => True) (fun h _ => ¬ h.IsOverflow) s

/-- `x` only reads: it returns in the state it started from, and never stops on an overflow. -/
def Reads (x : Exec α) : Prop :=
  ∀ s, wp x (fun _ s' => s' = s) (fun h _ => ¬ h.IsOverflow) s

/-- `x` stops on an overflow only in the state it started from. -/
def KeepsOnOverflow (x : Exec α) : Prop :=
  ∀ s, wp x (fun _ _ => True) (fun h s' => h.IsOverflow → s' = s) s

variable {x : Exec α} {f : α → Exec β}

theorem Reads.quiet (hx : Reads x) : Quiet x :=
  fun s => wp_mono (hx s) (fun _ _ _ => trivial) (fun _ _ h => h)

theorem Quiet.keeps (hx : Quiet x) : KeepsOnOverflow x :=
  fun s => wp_mono (hx s) (fun _ _ h => h) (fun _ _ hq hov => absurd hov hq)

theorem Quiet.bind (hx : Quiet x) (hf : ∀ a, Quiet (f a)) : Quiet (x >>= f) := by
  intro s
  rw [wp_bind]
  exact wp_mono (hx s) (fun a s₁ _ => hf a s₁) (fun _ _ h => h)

theorem Reads.bind (hx : Reads x) (hf : ∀ a, KeepsOnOverflow (f a)) :
    KeepsOnOverflow (x >>= f) := by
  intro s
  rw [wp_bind]
  refine wp_mono (hx s) (fun a s₁ h₁ => ?_) (fun _ _ hq hov => absurd hov hq)
  subst h₁
  exact hf a s₁

theorem KeepsOnOverflow.bind (hx : KeepsOnOverflow x) (hf : ∀ a, Quiet (f a)) :
    KeepsOnOverflow (x >>= f) := by
  intro s
  rw [wp_bind]
  refine wp_mono (hx s) (fun a s₁ _ => ?_) (fun _ _ h => h)
  exact wp_mono (hf a s₁) (fun _ _ h => h) (fun _ _ hq hov => absurd hov hq)

theorem reads_pure (a : α) : Reads (pure a : Exec α) :=
  fun _ => rfl

theorem reads_get : Reads (get : Exec State) :=
  fun _ => rfl

theorem reads_fromHeap {r : Except HeapError α} (hr : ∀ e, r = .error e → e.NotOverflow) :
    Reads (fromHeap r) := by
  intro s
  rw [wp_fromHeap]
  cases r with
  | ok a => rfl
  | error e => exact (hr e rfl).not_isOverflow

theorem reads_registerLoad (x : Nat) : Reads (registerLoad x) := by
  intro s
  rw [wp_registerLoad]
  split
  · rfl
  · exact id
  · exact id

theorem reads_currentMode : Reads currentMode := by
  intro s
  rw [wp_currentMode]
  split
  · rfl
  · exact id

theorem quiet_modify (g : State → State) : Quiet (modify g) :=
  fun _ => trivial

theorem quiet_registerStore (x a : Nat) : Quiet (registerStore x a) := by
  intro s
  rw [wp_registerStore]
  split
  · trivial
  · exact id

theorem quiet_readNext : Quiet readNext := by
  intro s
  rw [wp_readNext]
  split
  · exact id
  · split
    · exact id
    · trivial

theorem quiet_startVisit (mode : Mode) (first count : Nat) : Quiet (startVisit mode first count) := by
  intro s
  rw [wp_startVisit]
  split
  · exact id
  · trivial

theorem quiet_backtrack : Quiet (backtrack : Exec α) :=
  fun _ => id

theorem quiet_unifyAt (a₁ a₂ : Nat) : Quiet (unifyAt a₁ a₂) := by
  intro s
  rw [wp_unifyAt]
  have hfault := (s.heap.unifyPairs_footprint s.unifyBudget [(a₁, a₂)]).2
  unfold Heap.unify
  rcases hu : s.heap.unifyPairs s.unifyBudget [(a₁, a₂)] with ⟨h, _ | _ | e | _⟩
  · trivial
  · exact id
  · rw [hu] at hfault
    exact (hfault e rfl).not_isOverflow
  · exact id

theorem keeps_writeNext (write : Heap → Except HeapError (Heap × Nat)) :
    KeepsOnOverflow (writeNext write) := by
  intro s
  rw [wp_writeNext]
  cases s.cursor with
  | none => exact fun _ => rfl
  | some c =>
      dsimp only
      split
      · exact fun _ => rfl
      · cases write s.heap with
        | error e => exact fun _ => rfl
        | ok p =>
            dsimp only
            split
            · trivial
            · exact False.elim

theorem keeps_newStructure (f : Functor) : KeepsOnOverflow (newStructure f) := by
  intro s
  cases hc : s.cursor with
  | some c =>
      rw [wp_newStructure_active hc]
      exact fun _ => rfl
  | none =>
      rw [wp_newStructure_idle hc]
      split
      · exact fun _ => rfl
      · trivial

theorem keeps_writeVariable (x : Nat) : KeepsOnOverflow (writeVariable x) :=
  KeepsOnOverflow.bind (keeps_writeNext _) fun a => quiet_registerStore x a

theorem keeps_writeValue (x : Nat) : KeepsOnOverflow (writeValue x) :=
  Reads.bind (reads_registerLoad x) fun _ =>
    KeepsOnOverflow.bind (keeps_writeNext _) fun _ => (reads_pure ()).quiet

/-- An instruction that stops on an overflow has changed nothing: in every instruction, a push
comes before any other change, and nothing but a push can overflow. -/
theorem keeps_execute (i : Instruction) : KeepsOnOverflow (execute i) := by
  cases i with
  | putStructure f x =>
      exact KeepsOnOverflow.bind (keeps_newStructure f) fun a => quiet_registerStore x a
  | setVariable x => exact keeps_writeVariable x
  | setValue x => exact keeps_writeValue x
  | getStructure f x =>
      refine Reads.bind (reads_registerLoad x) fun r => Reads.bind reads_get fun m =>
        Reads.bind (reads_fromHeap fun _ he => Heap.getValue_error he) fun v => ?_
      obtain ⟨d, v⟩ := v
      cases v with
      | unbound u =>
          -- binding rewrites a cell and can only fail on a bad address
          exact KeepsOnOverflow.bind (keeps_newStructure f) fun a =>
            Quiet.bind reads_get.quiet fun m =>
              Quiet.bind (reads_fromHeap fun _ he => Heap.bind_error he).quiet fun h' =>
                quiet_modify _
      | struct g first =>
          dsimp only
          split
          · exact (quiet_startVisit .read first g.arity).keeps
          · exact quiet_backtrack.keeps
  | unifyVariable x =>
      refine Reads.bind reads_currentMode fun mode => ?_
      cases mode with
      | read => exact (Quiet.bind quiet_readNext fun a => quiet_registerStore x a).keeps
      | write => exact keeps_writeVariable x
  | unifyValue x =>
      refine Reads.bind reads_currentMode fun mode => ?_
      cases mode with
      | read =>
          exact (Quiet.bind quiet_readNext fun a =>
            Quiet.bind (reads_registerLoad x).quiet fun r => quiet_unifyAt r a).keeps
      | write => exact keeps_writeValue x

end Exec

/-! ## Steps of a run -/

namespace State

variable {s s' : State} {i : Instruction}

theorem frame_of_execute_ok (h : (Exec.execute i).run s = .ok () s') : s.Frame s' := by
  have hw := Exec.framed_execute i s
  unfold Exec.wp at hw
  rw [h] at hw
  exact hw

theorem frame_of_execute_error {e : Halt} (h : (Exec.execute i).run s = .error e s') :
    s.Frame s' ∧ e.OfStep := by
  have hw := Exec.framed_execute i s
  unfold Exec.wp at hw
  rw [h] at hw
  exact hw

/-- An instruction that stops on an overflow leaves the machine as it found it. -/
theorem execute_overflow_unchanged {c : Nat}
    (h : (Exec.execute i).run s = .error (.error (.heap (.heapOverflow c))) s') : s' = s := by
  have hw := Exec.keeps_execute i s
  unfold Exec.wp at hw
  rw [h] at hw
  exact hw trivial

end State

end UnifyMachine.Machine
