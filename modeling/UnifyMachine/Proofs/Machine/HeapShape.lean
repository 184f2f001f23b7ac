import UnifyMachine.Machine.Heap

/-!
# The shape of a well-formed heap

A heap is well formed when every reference points at a term cell (a reference or a structure
pointer), no higher than itself unless it points at a structure pointer, and every structure
pointer points at a functor cell. The first condition makes every chain of references end at an
unbound variable or a structure pointer within as many links as the heap has cells, so that
dereferencing never runs out of fuel; the second lets every structure be read.

A heap is complete, apart from at most one pending functor cell, when every other functor cell
is followed by as many term cells as its arity. The heap operations the machine uses keep both
conditions: appending a new variable, a structure or a copy of a term cell, and binding an
unbound variable to a term, which only ever redirects a reference.
-/

namespace UnifyMachine.Machine

/-- A term cell: a reference or a structure pointer, as opposed to a functor cell. -/
def Cell.IsTerm : Cell → Prop
  | .functor _ => False
  | _ => True

@[simp] theorem Cell.isTerm_ref (r : Nat) : (Cell.ref r).IsTerm := trivial

@[simp] theorem Cell.isTerm_str (fa : Nat) : (Cell.str fa).IsTerm := trivial

@[simp] theorem Cell.not_isTerm_functor (f : Functor) : ¬ (Cell.functor f).IsTerm := id

namespace Heap

/-- The cell at `a` exists and is a term cell. -/
def TermAt (h : Heap) (a : Nat) : Prop :=
  ∃ c, h.cells[a]? = some c ∧ c.IsTerm

/-- What a well-formed heap requires of the cell `c` at address `a`: a reference points at a
term cell, no higher than `a` unless at a structure pointer; a structure pointer points at a
functor cell. -/
def CellOK (h : Heap) (a : Nat) : Cell → Prop
  | .ref r => h.TermAt r ∧ (r ≤ a ∨ ∃ fa, h.cells[r]? = some (.str fa))
  | .str fa => ∃ f, h.cells[fa]? = some (.functor f)
  | .functor _ => True

/-- Every cell of the heap is as `CellOK` requires. -/
structure WellFormed (h : Heap) : Prop where
  cell_ok : ∀ {a c}, h.cells[a]? = some c → h.CellOK a c

/-- The `n` cells from `first` on are term cells. -/
def ArgsAt (h : Heap) (first n : Nat) : Prop :=
  ∀ i < n, h.TermAt (first + i)

/-- Every functor cell, except the one at `pending` if any, is followed by as many term cells
as its arity. -/
def Complete (h : Heap) (pending : Option Nat) : Prop :=
  ∀ a f, h.cells[a]? = some (.functor f) → pending ≠ some a → h.ArgsAt (a + 1) f.arity

/-- `h'` is `h` with some references redirected: the same capacity and cells, except that a
reference may point elsewhere. -/
def Rebinds (h h' : Heap) : Prop :=
  h'.capacity = h.capacity ∧ h'.cells.size = h.cells.size ∧
    ∀ a : Nat, h'.cells[a]? = h.cells[a]? ∨
      ∃ r r', h.cells[a]? = some (Cell.ref r) ∧ h'.cells[a]? = some (Cell.ref r')

/-! ## Term cells -/

theorem TermAt.lt_top {h : Heap} {a : Nat} (ha : h.TermAt a) : a < h.top := by
  obtain ⟨c, hc, -⟩ := ha
  exact (Array.getElem?_eq_some_iff.1 hc).1

theorem termAt_of_ref {h : Heap} {a r : Nat} (hc : h.cells[a]? = some (.ref r)) : h.TermAt a :=
  ⟨_, hc, trivial⟩

theorem termAt_of_str {h : Heap} {a fa : Nat} (hc : h.cells[a]? = some (.str fa)) :
    h.TermAt a :=
  ⟨_, hc, trivial⟩

theorem TermAt.cases {h : Heap} {a : Nat} (ha : h.TermAt a) :
    (∃ r, h.cells[a]? = some (.ref r)) ∨ ∃ fa, h.cells[a]? = some (.str fa) := by
  obtain ⟨c, hc, hterm⟩ := ha
  cases c with
  | ref r => exact .inl ⟨r, hc⟩
  | str fa => exact .inr ⟨fa, hc⟩
  | functor f => exact hterm.elim

/-! ## Appending cells -/

/-- The heap with one more cell on top. -/
def grow (h : Heap) (c : Cell) : Heap :=
  { h with cells := h.cells.push c }

@[simp] theorem grow_capacity (h : Heap) (c : Cell) : (h.grow c).capacity = h.capacity := rfl

@[simp] theorem grow_top (h : Heap) (c : Cell) : (h.grow c).top = h.top + 1 := by
  simp [grow, top]

theorem grow_cells (h : Heap) (c : Cell) (a : Nat) :
    (h.grow c).cells[a]? = if a = h.top then some c else h.cells[a]? :=
  Array.getElem?_push

theorem grow_cells_top (h : Heap) (c : Cell) : (h.grow c).cells[h.top]? = some c := by
  simp [grow_cells]

theorem grow_cells_of_lt {h : Heap} {a : Nat} (c : Cell) (ha : a < h.top) :
    (h.grow c).cells[a]? = h.cells[a]? := by
  rw [grow_cells, if_neg (by omega)]

theorem grow_cells_of_some {h : Heap} {a : Nat} {c' : Cell} (c : Cell)
    (ha : h.cells[a]? = some c') : (h.grow c).cells[a]? = some c' := by
  rw [grow_cells_of_lt c (Array.getElem?_eq_some_iff.1 ha).1, ha]

theorem TermAt.grow {h : Heap} {a : Nat} (ha : h.TermAt a) (c : Cell) : (h.grow c).TermAt a := by
  obtain ⟨c', hc', hterm⟩ := ha
  exact ⟨c', grow_cells_of_some c hc', hterm⟩

theorem ArgsAt.grow {h : Heap} {first n : Nat} (ha : h.ArgsAt first n) (c : Cell) :
    (h.grow c).ArgsAt first n :=
  fun i hi => (ha i hi).grow c

theorem CellOK.grow {h : Heap} {a : Nat} {c' : Cell} (hc : h.CellOK a c') (c : Cell) :
    (h.grow c).CellOK a c' := by
  cases c' with
  | ref r =>
      obtain ⟨hr, hdown⟩ := hc
      refine ⟨hr.grow c, ?_⟩
      rcases hdown with hle | ⟨fa, hfa⟩
      · exact .inl hle
      · exact .inr ⟨fa, grow_cells_of_some c hfa⟩
  | str fa =>
      obtain ⟨f, hf⟩ := hc
      exact ⟨f, grow_cells_of_some c hf⟩
  | functor f => trivial

theorem WellFormed.grow {h : Heap} (hw : h.WellFormed) {c : Cell}
    (hc : (h.grow c).CellOK h.top c) : (h.grow c).WellFormed := by
  constructor
  intro a c' ha
  rw [grow_cells] at ha
  split at ha
  · cases ha
    subst a
    exact hc
  · exact (hw.cell_ok ha).grow c

theorem Complete.grow {h : Heap} {pending : Option Nat} (hc : h.Complete pending) {c : Cell}
    (hterm : c.IsTerm) : (h.grow c).Complete pending := by
  intro a f ha hpending
  rw [grow_cells] at ha
  split at ha
  · cases c with
    | functor g => exact hterm.elim
    | _ => cases ha
  · exact (hc a f ha hpending).grow c

/-! ## The appending operations -/

theorem push_eq (h : Heap) (c : Cell) :
    h.push c = (h.reserve 1).map fun _ => (h.grow c, h.top) := by
  unfold push
  cases h.reserve 1 <;> rfl

@[simp] theorem ok_bind {α β : Type} (a : α) (f : α → Except HeapError β) :
    (Except.ok a >>= f) = f a := rfl

theorem reserve_of_le {h : Heap} {m n : Nat} (hmn : m ≤ n) {u : Unit} (hr : h.reserve n = .ok u) :
    h.reserve m = .ok () := by
  unfold reserve at hr ⊢
  cases hc : h.capacity with
  | none => rfl
  | some c =>
      simp only [hc] at hr ⊢
      have hfit : ¬ c < h.top + n := fun hlt => by simp [hlt] at hr
      rw [if_neg (by omega)]

theorem grow_reserve (h : Heap) (c : Cell) (n : Nat) : (h.grow c).reserve n = h.reserve (n + 1) := by
  unfold reserve
  rw [grow_capacity, grow_top, Nat.add_assoc, Nat.add_comm 1 n]

theorem newStructure_eq (h : Heap) (f : Functor) :
    h.newStructure f =
      (h.reserve 2).map fun _ => ((h.grow (.str (h.top + 1))).grow (.functor f), h.top) := by
  unfold newStructure
  cases hr : h.reserve 2 with
  | error e => rfl
  | ok u =>
      -- both pushes fit in the two cells reserved
      have h1 : h.reserve 1 = .ok () := reserve_of_le (by omega) hr
      have h2 : (h.grow (.str (h.top + 1))).reserve 1 = .ok () := by
        rw [grow_reserve]
        exact reserve_of_le (Nat.le_refl 2) hr
      simp only [push_eq, h1, h2, Except.map, ok_bind]
      rfl

theorem reserve_error {h : Heap} {n : Nat} {e : HeapError} (hr : h.reserve n = .error e) :
    ∃ c, e = .heapOverflow c := by
  unfold reserve at hr
  split at hr
  · split at hr
    · cases hr
      exact ⟨_, rfl⟩
    · cases hr
  · cases hr

theorem push_ok {h h' : Heap} {c : Cell} {a : Nat} (hp : h.push c = .ok (h', a)) :
    h' = h.grow c ∧ a = h.top := by
  rw [push_eq] at hp
  cases hr : h.reserve 1 <;> simp [hr, Except.map] at hp
  exact ⟨hp.1.symm, hp.2.symm⟩

theorem push_error {h : Heap} {c : Cell} {e : HeapError} (hp : h.push c = .error e) :
    ∃ cap, e = .heapOverflow cap := by
  rw [push_eq] at hp
  cases hr : h.reserve 1 <;> simp [hr, Except.map] at hp
  exact reserve_error (hp ▸ hr)

theorem newVariable_ok {h h' : Heap} {a : Nat} (hp : h.newVariable = .ok (h', a)) :
    h' = h.grow (.ref h.top) ∧ a = h.top :=
  push_ok hp

theorem newStructure_ok {h h' : Heap} {f : Functor} {a : Nat}
    (hp : h.newStructure f = .ok (h', a)) :
    h' = (h.grow (.str (h.top + 1))).grow (.functor f) ∧ a = h.top := by
  rw [newStructure_eq] at hp
  cases hr : h.reserve 2 <;> simp [hr, Except.map] at hp
  exact ⟨hp.1.symm, hp.2.symm⟩

theorem newStructure_error {h : Heap} {f : Functor} {e : HeapError}
    (hp : h.newStructure f = .error e) : ∃ cap, e = .heapOverflow cap := by
  rw [newStructure_eq] at hp
  cases hr : h.reserve 2 <;> simp [hr, Except.map] at hp
  exact reserve_error (hp ▸ hr)

theorem load_ok {h : Heap} {a : Nat} {c : Cell} (hc : h.cells[a]? = some c) : h.load a = .ok c := by
  simp [load, hc]

theorem pushCopy_ok {h h' : Heap} {a b : Nat} (hw : h.TermAt a) (hp : h.pushCopy a = .ok (h', b)) :
    ∃ c, h.cells[a]? = some c ∧ h' = h.grow c ∧ b = h.top := by
  obtain ⟨c, hc, -⟩ := hw
  unfold pushCopy at hp
  simp only [load_ok hc] at hp
  exact ⟨c, hc, push_ok hp⟩

theorem WellFormed.newVariable {h : Heap} (hw : h.WellFormed) :
    (h.grow (.ref h.top)).WellFormed := by
  apply hw.grow
  exact ⟨termAt_of_ref (grow_cells_top h _), .inl (Nat.le_refl _)⟩

theorem WellFormed.newStructure {h : Heap} (hw : h.WellFormed) (f : Functor) :
    ((h.grow (.str (h.top + 1))).grow (.functor f)).WellFormed := by
  constructor
  intro a c ha
  rw [grow_cells, grow_cells, grow_top] at ha
  split at ha
  · cases ha
    trivial
  · split at ha
    · cases ha
      exact ⟨f, by simp [grow_cells]⟩
    · exact ((hw.cell_ok ha).grow _).grow _

theorem WellFormed.pushCopy {h : Heap} (hw : h.WellFormed) {a : Nat} {c : Cell}
    (hc : h.cells[a]? = some c) : (h.grow c).WellFormed := by
  have ha : a < h.top := (Array.getElem?_eq_some_iff.1 hc).1
  apply hw.grow
  have hok := (hw.cell_ok hc).grow c
  cases c with
  | ref r => exact ⟨hok.1, hok.2.imp (fun hle => by omega) id⟩
  | str fa => exact hok
  | functor f => trivial

/-! ## Redirecting references -/

theorem Rebinds.refl (h : Heap) : h.Rebinds h :=
  ⟨rfl, rfl, fun _ => .inl rfl⟩

theorem Rebinds.trans {h₁ h₂ h₃ : Heap} (h₁₂ : h₁.Rebinds h₂) (h₂₃ : h₂.Rebinds h₃) :
    h₁.Rebinds h₃ := by
  refine ⟨h₂₃.1.trans h₁₂.1, h₂₃.2.1.trans h₁₂.2.1, fun a => ?_⟩
  rcases h₂₃.2.2 a with e₂₃ | ⟨r₂, r₃, hr₂, hr₃⟩
  · rw [e₂₃]
    exact h₁₂.2.2 a
  · rcases h₁₂.2.2 a with e₁₂ | ⟨r₁, r₂', hr₁, hr₂'⟩
    · exact .inr ⟨r₂, r₃, e₁₂ ▸ hr₂, hr₃⟩
    · exact .inr ⟨r₁, r₃, hr₁, hr₃⟩

theorem Rebinds.top_eq {h h' : Heap} (hr : h.Rebinds h') : h'.top = h.top :=
  hr.2.1

theorem Rebinds.cells_of_not_ref {h h' : Heap} (hr : h.Rebinds h') {a : Nat} {c : Cell}
    (hc : h.cells[a]? = some c) (hnot : ∀ r, c ≠ .ref r) : h'.cells[a]? = some c := by
  rcases hr.2.2 a with e | ⟨r, r', hr₁, -⟩
  · rw [e, hc]
  · rw [hc] at hr₁
    cases hr₁
    exact (hnot r rfl).elim

theorem Rebinds.cells_of_not_ref' {h h' : Heap} (hr : h.Rebinds h') {a : Nat} {c : Cell}
    (hc : h'.cells[a]? = some c) (hnot : ∀ r, c ≠ .ref r) : h.cells[a]? = some c := by
  rcases hr.2.2 a with e | ⟨r, r', -, hr₂⟩
  · rw [← e, hc]
  · rw [hc] at hr₂
    cases hr₂
    exact (hnot r' rfl).elim

theorem TermAt.rebind {h h' : Heap} (hr : h.Rebinds h') {a : Nat} (ha : h.TermAt a) :
    h'.TermAt a := by
  rcases ha.cases with ⟨r, hc⟩ | ⟨fa, hc⟩
  · rcases hr.2.2 a with e | ⟨r₁, r₂, -, hr₂⟩
    · exact termAt_of_ref (e.trans hc)
    · exact termAt_of_ref hr₂
  · exact termAt_of_str (hr.cells_of_not_ref hc (fun _ => nofun))

theorem ArgsAt.rebind {h h' : Heap} (hr : h.Rebinds h') {first n : Nat} (ha : h.ArgsAt first n) :
    h'.ArgsAt first n :=
  fun i hi => (ha i hi).rebind hr

theorem Complete.rebind {h h' : Heap} (hr : h.Rebinds h') {pending : Option Nat}
    (hc : h.Complete pending) : h'.Complete pending := by
  intro a f ha hpending
  exact (hc a f (hr.cells_of_not_ref' ha (fun _ => nofun)) hpending).rebind hr

end Heap

end UnifyMachine.Machine
