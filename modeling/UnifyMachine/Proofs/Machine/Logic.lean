import UnifyMachine.Machine.Exec

/-!
# Weakest preconditions of machine steps

A step of the machine changes the state and either returns a value or stops, keeping what it
changed. `Exec.wp x ok halt s` is the condition on `s` under which running `x` from `s` ends in
a state where `ok` holds of the value, or `halt` of the reason it stopped. Each step of the
machine gets one lemma computing its weakest precondition from those of the steps it is made of;
tagged for `simp`, they turn the weakest precondition of a whole instruction into a condition on
the state it starts from, with no step unfolded by hand.
-/

namespace UnifyMachine.Machine

namespace Exec

/-- The condition on a state for `x`, run from it, to return a value `a` in a state where
`ok a` holds, or to stop with `h` in a state where `halt h` holds. -/
def wp (x : Exec α) (ok : α → State → Prop) (halt : Halt → State → Prop) (s : State) : Prop :=
  match x.run s with
  | .ok a s' => ok a s'
  | .error h s' => halt h s'

variable {ok : α → State → Prop} {halt : Halt → State → Prop} {s : State}

/-! ## The monad's own steps -/

@[simp] theorem wp_pure (a : α) : wp (pure a) ok halt s = ok a s := rfl

@[simp] theorem wp_bind (x : Exec β) (f : β → Exec α) :
    wp (x >>= f) ok halt s = wp x (fun b s' => wp (f b) ok halt s') halt s := by
  unfold wp
  rw [EStateM.run_bind]
  cases x.run s <;> rfl

@[simp] theorem wp_map (f : β → α) (x : Exec β) :
    wp (f <$> x) ok halt s = wp x (fun b s' => ok (f b) s') halt s := by
  unfold wp
  change (match EStateM.map f x s with | .ok a s' => ok a s' | .error h s' => halt h s') =
    (match x s with | .ok b s' => ok (f b) s' | .error h s' => halt h s')
  unfold EStateM.map
  cases x s <;> rfl

@[simp] theorem wp_mapConst (a : α) (x : Exec β) :
    wp (Functor.mapConst a x) ok halt s = wp x (fun _ s' => ok a s') halt s :=
  wp_map (fun _ => a) x

@[simp] theorem wp_get {ok : State → State → Prop} : wp get ok halt s = ok s s := rfl

@[simp] theorem wp_set {ok : PUnit → State → Prop} (s' : State) :
    wp (set s') ok halt s = ok () s' := rfl

@[simp] theorem wp_modify {ok : PUnit → State → Prop} (f : State → State) :
    wp (modify f) ok halt s = ok () (f s) := rfl

@[simp] theorem wp_throw (h : Halt) : wp (throw h) ok halt s = halt h s := rfl

theorem wp_mono {x : Exec α} {ok ok' : α → State → Prop} {halt halt' : Halt → State → Prop}
    (hw : wp x ok halt s) (hok : ∀ a s', ok a s' → ok' a s')
    (hhalt : ∀ h s', halt h s' → halt' h s') : wp x ok' halt' s := by
  unfold wp at hw ⊢
  cases hr : x.run s with
  | ok a s' =>
      simp only [hr] at hw
      exact hok a s' hw
  | error h s' =>
      simp only [hr] at hw
      exact hhalt h s' hw

/-- A step whose weakest precondition for ending in `r` holds ends in `r`. -/
theorem run_eq_of_wp {x : Exec α} {r : EStateM.Result Halt State α}
    (hw : wp x (fun a s' => .ok a s' = r) (fun h s' => .error h s' = r) s) : x.run s = r := by
  unfold wp at hw
  cases hr : x.run s with
  | ok a s' =>
      simp only [hr] at hw
      exact hw
  | error h s' =>
      simp only [hr] at hw
      exact hw

/-! ## Errors, heap access and registers -/

@[simp] theorem wp_raise (e : MachineError) : wp (raise e) ok halt s = halt (.error e) s := rfl

@[simp] theorem wp_fromHeap (r : Except HeapError α) :
    wp (fromHeap r) ok halt s =
      match r with
      | .ok a => ok a s
      | .error e => halt (.error (.heap e)) s := by
  cases r <;> rfl

@[simp] theorem wp_onHeap {ok : Nat → State → Prop}
    (f : Heap → Except HeapError (Heap × Nat)) :
    wp (onHeap f) ok halt s =
      match f s.heap with
      | .ok (h, a) => ok a { s with heap := h }
      | .error e => halt (.error (.heap e)) s := by
  simp only [onHeap, wp_bind, wp_get, wp_fromHeap]
  rcases f s.heap with e | ⟨h, a⟩ <;> rfl

@[simp] theorem wp_registerGet {ok : Option Nat → State → Prop} (x : Nat) :
    wp (registerGet x) ok halt s =
      match s.registers[x]? with
      | some v => ok v s
      | none => halt (.error (.indexOutOfRange x s.registers.size)) s := by
  simp only [registerGet, wp_bind, wp_get, State.register]
  cases s.registers[x]? <;> rfl

@[simp] theorem wp_registerLoad {ok : Nat → State → Prop} (x : Nat) :
    wp (registerLoad x) ok halt s =
      match s.registers[x]? with
      | some (some a) => ok a s
      | some none => halt (.error (.noValue x)) s
      | none => halt (.error (.indexOutOfRange x s.registers.size)) s := by
  simp only [registerLoad, wp_bind, wp_registerGet]
  rcases s.registers[x]? with _ | _ | a <;> rfl

@[simp] theorem wp_registerStore {ok : Unit → State → Prop} (x a : Nat) :
    wp (registerStore x a) ok halt s =
      if x < s.registers.size then
        ok () { s with registers := s.registers.modify x fun _ => some a }
      else halt (.error (.indexOutOfRange x s.registers.size)) s := by
  simp only [registerStore, wp_bind, wp_get]
  split <;> rfl

/-! ## The cursor -/

@[simp] theorem wp_verifyNotActive {ok : Unit → State → Prop} :
    wp verifyNotActive ok halt s =
      if s.cursor.isSome then halt (.error .currentlyActive) s else ok () s := by
  simp only [verifyNotActive, wp_bind, wp_get]
  split <;> rfl

@[simp] theorem wp_startVisit {ok : Unit → State → Prop} (mode : Mode) (first count : Nat) :
    wp (startVisit mode first count) ok halt s =
      if s.cursor.isSome then halt (.error .currentlyActive) s
      else ok () { s with cursor := Cursor.start mode first count } := by
  simp only [startVisit, wp_bind, wp_verifyNotActive]
  split <;> rfl

@[simp] theorem wp_currentMode {ok : Mode → State → Prop} :
    wp currentMode ok halt s =
      match s.cursor with
      | some c => ok c.mode s
      | none => halt (.error .notActive) s := by
  simp only [currentMode, wp_bind, wp_get]
  cases s.cursor <;> rfl

@[simp] theorem wp_visitNext {ok : Nat → State → Prop} (action : Nat → Nat → Exec Nat) :
    wp (visitNext action) ok halt s =
      match s.cursor with
      | none => halt (.error .notActive) s
      | some c =>
        if c.index = c.count then halt (.error (.noMoreTerms c.count)) s
        else wp (action c.index c.next) (fun r s' => ok r { s' with cursor := c.advance }) halt s := by
  simp only [visitNext, wp_bind, wp_get]
  rcases s.cursor with _ | c
  · rfl
  · by_cases hc : c.index = c.count
    · simp [hc]
    · simp [hc]

@[simp] theorem wp_readNext {ok : Nat → State → Prop} :
    wp readNext ok halt s =
      match s.cursor with
      | none => halt (.error .notActive) s
      | some c =>
        if c.index = c.count then halt (.error (.noMoreTerms c.count)) s
        else ok c.next { s with cursor := c.advance } := by
  simp [readNext]

@[simp] theorem wp_writeNext {ok : Nat → State → Prop} (write : Heap → Except HeapError (Heap × Nat)) :
    wp (writeNext write) ok halt s =
      match s.cursor with
      | none => halt (.error .notActive) s
      | some c =>
        if c.index = c.count then halt (.error (.noMoreTerms c.count)) s
        else
          match write s.heap with
          | .ok (h, found) =>
            if found = c.next then ok found { s with heap := h, cursor := c.advance }
            else halt (.error (.termOutOfPlace c.index c.next found)) { s with heap := h }
          | .error e => halt (.error (.heap e)) s := by
  simp only [writeNext, wp_visitNext]
  cases hc : s.cursor with
  | none => rfl
  | some c =>
      simp only
      split
      · rfl
      · simp only [wp_bind, wp_onHeap]
        rcases write s.heap with e | ⟨h, found⟩
        · rfl
        · simp only
          split <;> simp [hc]

@[simp] theorem wp_resetCursor {ok : Unit → State → Prop} :
    wp resetCursor ok halt s = ok () { s with cursor := none } :=
  rfl

@[simp] theorem wp_backtrack : wp backtrack ok halt s = halt .failed { s with cursor := none } :=
  rfl

/-! ## Compound steps -/

@[simp] theorem wp_unifyAt {ok : Unit → State → Prop} (a1 a2 : Nat) :
    wp (unifyAt a1 a2) ok halt s =
      match s.heap.unify s.unifyBudget a1 a2 with
      | (h, .unified) => ok () { s with heap := h }
      | (h, .clash) => halt .failed { s with heap := h, cursor := none }
      | (h, .fault e) => halt (.error (.heap e)) { s with heap := h }
      | (h, .unfinished) => halt (.error (.unificationUnfinished s.unifyBudget)) { s with heap := h } := by
  simp only [unifyAt, wp_bind, wp_get, wp_set]
  rcases s.heap.unify s.unifyBudget a1 a2 with ⟨h, _ | _ | e | _⟩ <;> rfl

@[simp] theorem wp_writeVariable {ok : Unit → State → Prop} (x : Nat) :
    wp (writeVariable x) ok halt s =
      wp (writeNext Heap.newVariable) (fun a s' => wp (registerStore x a) ok halt s') halt s := by
  simp [writeVariable]

@[simp] theorem wp_writeValue {ok : Unit → State → Prop} (x : Nat) :
    wp (writeValue x) ok halt s =
      match s.registers[x]? with
      | some (some a) => wp (writeNext fun h => h.pushCopy a) (fun _ s' => ok () s') halt s
      | some none => halt (.error (.noValue x)) s
      | none => halt (.error (.indexOutOfRange x s.registers.size)) s := by
  simp only [writeValue, wp_bind, wp_registerLoad]
  rcases s.registers[x]? with _ | _ | a <;> simp [discard]

end Exec

end UnifyMachine.Machine
