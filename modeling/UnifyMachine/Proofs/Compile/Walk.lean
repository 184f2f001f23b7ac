import UnifyMachine.Compile.Allocation

/-!
# The allocating walk

`allocate` walks a term parent first, keeping a stack of the structure registers whose arguments
still need registers. This module shows that the walk computes a recursive numbering,
`numberRegisters`: `X0` holds the term, and each compound term, from `X0` down, gives registers to
all its arguments, left to right, before any of them is numbered in turn. The walk meets the
compound arguments of a term in the order their registers went on the stack, the first on top, so
every compound term it meets finds its own register on top; that register still holds a
structure, since no allocating operation turns a structure entry into another kind. Hence the walk
never fails, and it ends with the numbering's registers.

The modules after this one reason about the numbering, by induction along its recursion.
-/

namespace UnifyMachine.Compile

namespace Allocation

/-! ## Entries under the allocating operations -/

@[simp] theorem registerCount_empty : empty.registerCount = 0 := rfl

@[simp] theorem registerCount_push (a : Allocation) (e : RegisterEntry) :
    (a.push e).1.registerCount = a.registerCount + 1 := by
  simp [push, registerCount]

@[simp] theorem push_snd (a : Allocation) (e : RegisterEntry) : (a.push e).2 = a.registerCount :=
  rfl

@[simp] theorem vars_push (a : Allocation) (e : RegisterEntry) : (a.push e).1.vars = a.vars := rfl

theorem entry_push (a : Allocation) (e : RegisterEntry) (y : Nat) :
    (a.push e).1.entries[y]? = if y = a.registerCount then some e else a.entries[y]? := by
  simp only [push, registerCount]
  exact Array.getElem?_push

theorem entry_push_of_lt {a : Allocation} (e : RegisterEntry) {y : Nat} (hy : y < a.registerCount) :
    (a.push e).1.entries[y]? = a.entries[y]? := by
  rw [entry_push, if_neg (Nat.ne_of_lt hy)]

theorem entry_push_self (a : Allocation) (e : RegisterEntry) :
    (a.push e).1.entries[a.registerCount]? = some e := by
  rw [entry_push, if_pos rfl]

theorem lt_of_entry {a : Allocation} {y : Nat} {e : RegisterEntry} (he : a.entries[y]? = some e) :
    y < a.registerCount := by
  unfold registerCount
  exact (Array.getElem?_eq_some_iff.1 he).1

theorem allocVar_eq (a : Allocation) (name : String) :
    a.allocVar name =
      match a.varRegister? name with
      | some x => (a, x)
      | none => ({ (a.push (.var name)).1 with vars := a.vars ++ [(name, a.registerCount)] },
          a.registerCount) := rfl

theorem varRegister_append {a : Allocation} {name : String} (hn : a.varRegister? name = none)
    (x : Nat) (v : String) :
    (a.vars ++ [(name, x)]).lookup v = if v = name then some x else a.varRegister? v := by
  rw [List.lookup_append]
  by_cases hv : v = name
  · subst hv
    have hn' : a.vars.lookup v = none := hn
    rw [hn', if_pos rfl, List.lookup_cons_self]
    rfl
  · have hne : (v == name) = false := by simpa using hv
    rw [if_neg hv, List.lookup_cons, hne, List.lookup_nil, Option.or_none]
    rfl

theorem allocArguments_cons_eq_iff {a a' : Allocation} {t : Term} {ts : List Term}
    {regs : List Nat} :
    a.allocArguments (t :: ts) = (a', regs) ↔
      ∃ a₁ x xs, a.allocArgument t = (a₁, x) ∧ a₁.allocArguments ts = (a', xs) ∧
        regs = x :: xs := by
  constructor
  · intro ha
    cases h₁ : a.allocArgument t with
    | mk a₁ x =>
    cases h₂ : a₁.allocArguments ts with
    | mk a₂ xs =>
    simp only [allocArguments, h₁, h₂, Prod.mk.injEq] at ha
    obtain ⟨rfl, rfl⟩ := ha
    exact ⟨a₁, x, xs, rfl, h₂, rfl⟩
  · rintro ⟨a₁, x, xs, h₁, h₂, rfl⟩
    simp only [allocArguments, h₁, h₂]

theorem entry_setArguments (a : Allocation) (x : Nat) (args : List Nat) (y : Nat) :
    (a.setArguments x args).entries[y]? =
      if x = y then (a.entries[y]?).map (fun
        | .compound name arity _ => .compound name arity args
        | e => e)
      else a.entries[y]? := by
  simp only [setArguments]
  exact Array.getElem?_modify

@[simp] theorem registerCount_setArguments (a : Allocation) (x : Nat) (args : List Nat) :
    (a.setArguments x args).registerCount = a.registerCount := by
  simp [setArguments, registerCount]

@[simp] theorem vars_setArguments (a : Allocation) (x : Nat) (args : List Nat) :
    (a.setArguments x args).vars = a.vars := rfl

theorem entry_setArguments_self {a : Allocation} {x : Nat} {name : String} {arity : Nat}
    {old : List Nat} (hx : a.entries[x]? = some (.compound name arity old)) (args : List Nat) :
    (a.setArguments x args).entries[x]? = some (.compound name arity args) := by
  rw [entry_setArguments, if_pos rfl, hx]
  rfl

theorem entry_setArguments_of_ne (a : Allocation) {x y : Nat} (hy : x ≠ y) (args : List Nat) :
    (a.setArguments x args).entries[y]? = a.entries[y]? := by
  rw [entry_setArguments, if_neg hy]


/-! ## The recursive numbering -/

mutual
/-- Numbers the arguments of the compound term in register `x` with arguments `args`, then the
compound arguments in order. -/
def visitCompound (a : Allocation) (x : Nat) (args : List Term) : Allocation :=
  let (a, regs) := a.allocArguments args
  visitArguments (a.setArguments x regs) args regs

/-- Numbers the compound terms among `args`, whose registers are `regs`, in order. -/
def visitArguments (a : Allocation) : List Term → List Nat → Allocation
  | .compound _ sub :: rest, r :: regs => visitArguments (visitCompound a r sub) rest regs
  | _ :: rest, _ :: regs => visitArguments a rest regs
  | _, _ => a
end

end Allocation

/-- The registers of a term numbered recursively: `X0` holds the term, and each compound term
numbers its arguments before their own arguments. -/
def numberRegisters (t : Term) : Allocation :=
  match t with
  | .atom _ | .number _ => (Allocation.empty.push .constant).1
  | .var name => (Allocation.empty.allocVar name).1
  | .compound name args =>
    (Allocation.empty.push (.compound name args.length [])).1.visitCompound 0 args

namespace Allocation

/-! ## Structure registers stay structure registers -/

/-- Register `x` holds a structure. -/
def IsStructure (a : Allocation) (x : Nat) : Prop :=
  ∃ name arity args, a.entries[x]? = some (.compound name arity args)

section Kept

variable {a : Allocation} {x : Nat}

theorem IsStructure.push (h : a.IsStructure x) (e : RegisterEntry) : (a.push e).1.IsStructure x := by
  obtain ⟨name, arity, args, he⟩ := h
  exact ⟨name, arity, args, by rw [entry_push_of_lt e (lt_of_entry he), he]⟩

theorem IsStructure.allocVar (h : a.IsStructure x) (name : String) :
    (a.allocVar name).1.IsStructure x := by
  rw [allocVar_eq]
  split
  · exact h
  · exact h.push (.var name)

theorem IsStructure.allocArgument (h : a.IsStructure x) (t : Term) :
    (a.allocArgument t).1.IsStructure x := by
  cases t with
  | var name => exact h.allocVar name
  | atom name => exact h.push _
  | number d => exact h.push _
  | compound name args => exact h.push _

theorem IsStructure.allocArguments {args : List Term} {a' : Allocation} {regs : List Nat}
    (ha : a.allocArguments args = (a', regs)) (h : a.IsStructure x) : a'.IsStructure x := by
  induction args generalizing a a' regs with
  | nil =>
      simp only [allocArguments, Prod.mk.injEq] at ha
      exact ha.1 ▸ h
  | cons t ts ih =>
      obtain ⟨a₁, y, ys, h₁, h₂, rfl⟩ := allocArguments_cons_eq_iff.1 ha
      have h₁' : a₁.IsStructure x := by simpa only [h₁] using h.allocArgument t
      exact ih h₂ h₁'

theorem IsStructure.setArguments (h : a.IsStructure x) (y : Nat) (regs : List Nat) :
    (a.setArguments y regs).IsStructure x := by
  obtain ⟨name, arity, args, he⟩ := h
  by_cases hy : y = x
  · subst hy
    exact ⟨name, arity, regs, entry_setArguments_self he regs⟩
  · exact ⟨name, arity, args, by rw [entry_setArguments_of_ne a hy, he]⟩

theorem IsStructure.visitCompound (h : a.IsStructure x) (y : Nat) (args : List Term) :
    (a.visitCompound y args).IsStructure x :=
  visitCompound.induct (fun a y args => a.IsStructure x → (a.visitCompound y args).IsStructure x)
    (fun a args regs => a.IsStructure x → (a.visitArguments args regs).IsStructure x)
    (fun _ y _ _ regs hregs ih h => by
      rw [visitCompound.eq_1, hregs]
      exact ih ((h.allocArguments hregs).setArguments y regs))
    (fun _ _ _ _ _ _ ih₁ ih₂ h => by
      rw [visitArguments.eq_1]
      exact ih₂ (ih₁ h))
    (fun _ _ _ _ _ hnot ih h => by
      rw [visitArguments.eq_2 _ _ _ _ _ hnot]
      exact ih h)
    (fun _ _ _ h₁ h₂ h => by
      rw [visitArguments.eq_3 _ _ _ h₁ h₂]
      exact h) a y args h

end Kept

theorem allocArguments_length {a a' : Allocation} {args : List Term} {regs : List Nat}
    (ha : a.allocArguments args = (a', regs)) : regs.length = args.length := by
  induction args generalizing a a' regs with
  | nil =>
      simp only [allocArguments, Prod.mk.injEq] at ha
      simp [← ha.2]
  | cons t ts ih =>
      obtain ⟨a₁, y, ys, h₁, h₂, rfl⟩ := allocArguments_cons_eq_iff.1 ha
      simp [ih h₂]

theorem allocArguments_structures {a a' : Allocation} {args : List Term} {regs : List Nat}
    (ha : a.allocArguments args = (a', regs)) : ∀ r ∈ structureRegisters args regs, a'.IsStructure r := by
  induction args generalizing a a' regs with
  | nil =>
      simp only [allocArguments, Prod.mk.injEq] at ha
      simp [structureRegisters]
  | cons t ts ih =>
      obtain ⟨a₁, y, ys, h₁, h₂, rfl⟩ := allocArguments_cons_eq_iff.1 ha
      cases t with
      | compound name sub =>
          intro r hr
          rw [structureRegisters.eq_1, List.mem_cons] at hr
          rcases hr with rfl | hr
          · -- a compound argument takes the next free register, as a structure
            simp only [allocArgument, push, Prod.mk.injEq] at h₁
            obtain ⟨rfl, rfl⟩ := h₁
            exact IsStructure.allocArguments h₂ ⟨name, sub.length, [], entry_push_self a _⟩
          · exact ih h₂ r hr
      | _ =>
          rw [structureRegisters.eq_2 _ _ _ _ (by simp)]
          exact ih h₂

end Allocation

/-! ## The walk computes the numbering -/

namespace AllocationWalk

open Allocation

variable (root : Nat)

theorem walk_of_not_compound {t : Term} (ht : ∀ name args, t = .compound name args → False)
    (w : AllocationWalk) : t.walk (visit root) w = w := by
  rw [Term.walk.eq_2 _ _ _ ht]
  cases t with
  | compound name args => exact (ht name args rfl).elim
  | _ => rfl

/-- The walk over a compound term whose register `x`, a structure, tops the stack: it numbers the
term from `x` as the recursion does, and leaves the stack below `x`. -/
def WalksCompound (a : Allocation) (x : Nat) (args : List Term) : Prop :=
  ∀ name rest, a.IsStructure x →
    (Term.compound name args).walk (visit root) ⟨a, x :: rest, none⟩ =
      ⟨a.visitCompound x args, rest, none⟩

/-- The walk over the arguments `args`, whose registers are `regs`, when the registers of the
compound ones top the stack, first on top, and hold structures. -/
def WalksArguments (a : Allocation) (args : List Term) (regs : List Nat) : Prop :=
  ∀ rest, regs.length = args.length → (∀ r ∈ structureRegisters args regs, a.IsStructure r) →
    Term.walkList (visit root) ⟨a, structureRegisters args regs ++ rest, none⟩ args =
      ⟨a.visitArguments args regs, rest, none⟩

theorem walksCompound_of {a a₁ : Allocation} {x : Nat} {args : List Term} {regs : List Nat}
    (ha : a.allocArguments args = (a₁, regs)) (ih : WalksArguments root (a₁.setArguments x regs) args regs) :
    WalksCompound root a x args := by
  intro name rest hx
  obtain ⟨n, k, old, hx₁⟩ := hx.allocArguments ha
  -- the term takes `x` off the stack and puts its compound arguments' registers on
  have hvisit : visit root ⟨a, x :: rest, none⟩ (.compound name args) =
      ⟨a₁.setArguments x regs, structureRegisters args regs ++ rest, none⟩ := by
    simp only [visit, ha, hx₁]
  rw [Term.walk.eq_1, hvisit, visitCompound.eq_1, ha]
  exact ih rest (allocArguments_length ha)
    fun r hr => (allocArguments_structures ha r hr).setArguments x regs

theorem walksArguments_compound {a : Allocation} {name : String} {sub rest : List Term} {r : Nat}
    {regs : List Nat} (ih₁ : WalksCompound root a r sub)
    (ih₂ : WalksArguments root (a.visitCompound r sub) rest regs) :
    WalksArguments root a (.compound name sub :: rest) (r :: regs) := by
  intro rest' hlen hs
  rw [structureRegisters.eq_1] at hs ⊢
  rw [Term.walkList.eq_2, List.cons_append, ih₁ name _ (hs r List.mem_cons_self),
    visitArguments.eq_1]
  exact ih₂ rest' (by simpa using hlen)
    fun q hq => (hs q (List.mem_cons_of_mem r hq)).visitCompound r sub

theorem walksArguments_other {a : Allocation} {head : Term} {rest : List Term} {r : Nat}
    {regs : List Nat} (hnot : ∀ name sub, head = .compound name sub → False)
    (ih : WalksArguments root a rest regs) : WalksArguments root a (head :: rest) (r :: regs) := by
  intro rest' hlen hs
  rw [structureRegisters.eq_2 _ _ _ _ hnot] at hs ⊢
  rw [Term.walkList.eq_2, walk_of_not_compound root hnot, visitArguments.eq_2 _ _ _ _ _ hnot]
  exact ih rest' (by simpa using hlen) hs

theorem walksArguments_done {a : Allocation} {args : List Term} {regs : List Nat}
    (h₁ : ∀ name sub rest r regs', args = .compound name sub :: rest → regs = r :: regs' → False)
    (h₂ : ∀ head rest r regs', args = head :: rest → regs = r :: regs' → False) :
    WalksArguments root a args regs := by
  intro rest hlen _
  rw [visitArguments.eq_3 _ _ _ h₁ h₂]
  -- with as many registers as arguments, both lists are empty
  cases args with
  | nil =>
      cases regs with
      | nil => rfl
      | cons r regs' => simp at hlen
  | cons t ts =>
      cases regs with
      | nil => simp at hlen
      | cons r regs' => exact (h₂ t ts r regs' rfl rfl).elim

theorem walksCompound (a : Allocation) (x : Nat) (args : List Term) : WalksCompound root a x args :=
  visitCompound.induct (fun a x args => WalksCompound root a x args)
    (fun a args regs => WalksArguments root a args regs)
    (fun _ _ _ _ _ h ih => walksCompound_of root h ih)
    (fun _ _ _ _ _ _ ih₁ ih₂ => walksArguments_compound root ih₁ ih₂)
    (fun _ _ _ _ _ hnot ih => walksArguments_other root hnot ih)
    (fun _ _ _ h₁ h₂ => walksArguments_done root h₁ h₂) a x args

/-- The walk over a whole term numbers it recursively, and never fails. -/
theorem run_eq (t : Term) :
    (run t).alloc = numberRegisters t ∧ (run t).unresolved = none := by
  cases t with
  | compound name args =>
      have h := walksCompound 0 (Allocation.empty.push (.compound name args.length [])).1 0 args
        name [] ⟨name, args.length, [], entry_push_self empty _⟩
      simp only [run, Allocation.root, push_snd, registerCount_empty] at h ⊢
      rw [h]
      exact ⟨rfl, rfl⟩
  | atom name => exact ⟨rfl, rfl⟩
  | number d => exact ⟨rfl, rfl⟩
  | var name => exact ⟨rfl, rfl⟩

end AllocationWalk

/-- The registers compiling a term uses are its recursive numbering. -/
theorem allocate_eq_numberRegisters (t : Term) : allocate t = numberRegisters t :=
  (AllocationWalk.run_eq t).1

end UnifyMachine.Compile
