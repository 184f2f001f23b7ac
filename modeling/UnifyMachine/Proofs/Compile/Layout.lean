import UnifyMachine.Proofs.Compile.Allocation
import UnifyMachine.Compile.Code
import UnifyMachine.Proofs.Term.Trees

/-!
# How registers are laid out

The allocation of a term is a tree of registers: a register other than a variable's is the
argument of one structure at one position, and comes after that structure; a structure's
arguments that are not variables come in ascending order; and each variable has one register,
the one its name records. These facts hold of every allocation the visits make, from any
allocation that has them, without conditions on the entries being visited.

Compiled code relies on them: a register is written once while a term is built or matched, so
what an earlier instruction left in it is still there when a later one reads it. Given trees for
its variables, an allocation also has a tree at every register (`Allocation.regTree`), and any
assignment of trees to registers that follows the structure entries gives the root register
the term's tree.
-/

namespace UnifyMachine.Compile

namespace Allocation

/-- Whether register `y` holds a variable. -/
def isVarRegister (a : Allocation) (y : Nat) : Bool :=
  match a.entries[y]? with
  | some (.var _) => true
  | _ => false

theorem isVarRegister_of_var {a : Allocation} {y : Nat} {name : String}
    (he : a.entries[y]? = some (.var name)) : a.isVarRegister y = true := by
  simp [isVarRegister, he]

theorem isVarRegister_of_not_var {a : Allocation} {y : Nat}
    (h : ∀ name, a.entries[y]? ≠ some (.var name)) : a.isVarRegister y = false := by
  unfold isVarRegister
  split
  · rename_i name he
    exact absurd he (h name)
  · rfl

theorem isVarRegister_of_compound {a : Allocation} {y arity : Nat} {name : String}
    {args : List Nat} (he : a.entries[y]? = some (.compound name arity args)) :
    a.isVarRegister y = false :=
  isVarRegister_of_not_var fun _ => by simp [he]

/-- The register of each variable entry is the one its name records. -/
def VarsOwned (a : Allocation) : Prop :=
  ∀ (y : Nat) (name : String), a.entries[y]? = some (.var name) → a.varRegister? name = some y

/-- The arguments of a structure that are not variables come after it, in ascending order. -/
def ArgsOrdered (a : Allocation) : Prop :=
  ∀ (x : Nat) (name : String) (arity : Nat) (args : List Nat),
    a.entries[x]? = some (.compound name arity args) →
      args.Pairwise (fun r s => a.isVarRegister s = false → r < s) ∧
        ∀ r ∈ args, a.isVarRegister r = false → x < r

/-- A register that holds no variable is an argument at one position of one structure at most. -/
def ArgsOnce (a : Allocation) : Prop :=
  ∀ (y₁ y₂ i₁ i₂ r : Nat), (a.argumentsOf y₁)[i₁]? = some r → (a.argumentsOf y₂)[i₂]? = some r →
    a.isVarRegister r = false → y₁ = y₂ ∧ i₁ = i₂

/-- The registers of an allocation form a tree with its variables at the leaves. -/
structure Layout (a : Allocation) : Prop where
  varsHeld : a.VarsHeld
  varsOwned : a.VarsOwned
  argsAllocated : a.ArgsAllocated
  ordered : a.ArgsOrdered
  once : a.ArgsOnce

theorem argumentsOf_of_entry {a : Allocation} {x : Nat} {name : String} {arity : Nat}
    {args : List Nat} (he : a.entries[x]? = some (.compound name arity args)) :
    a.argumentsOf x = args := by
  simp [argumentsOf, entry?, he]

theorem argumentsOf_of_not_compound {a : Allocation} {x : Nat}
    (he : ∀ name arity args, a.entries[x]? ≠ some (.compound name arity args)) :
    a.argumentsOf x = [] := by
  unfold argumentsOf entry?
  split
  · rename_i h
    exact absurd h (he _ _ _)
  · rfl

theorem entry_of_argumentsOf {a : Allocation} {x r : Nat} (hr : r ∈ a.argumentsOf x) :
    ∃ name arity args, a.entries[x]? = some (.compound name arity args) ∧ r ∈ args := by
  unfold argumentsOf entry? at hr
  split at hr
  · rename_i name arity args he
    exact ⟨name, arity, args, he, hr⟩
  · cases hr

theorem argumentsOf_lt {a : Allocation} (hargs : a.ArgsAllocated) {x r : Nat}
    (hr : r ∈ a.argumentsOf x) : r < a.registerCount := by
  obtain ⟨name, arity, args, he, hmem⟩ := entry_of_argumentsOf hr
  exact hargs x name arity args he r hmem

theorem isVarRegister_of_eq {a a' : Allocation} {y : Nat} (h : a'.entries[y]? = a.entries[y]?) :
    a'.isVarRegister y = a.isVarRegister y := by
  simp only [isVarRegister, h]

/-! ## Extending an allocation by entries without arguments -/

theorem Layout.extend {a a' : Allocation} (hl : a.Layout) (hext : a.Extends a' fun _ => False)
    (hnew : ∀ y, a.registerCount ≤ y → a'.argumentsOf y = []) (hv : a'.VarsHeld)
    (ho : a'.VarsOwned) (hargs : a'.ArgsAllocated) : a'.Layout := by
  -- the old registers keep their entries, hence their arguments and their kind
  have hold : ∀ y, y < a.registerCount → a'.entries[y]? = a.entries[y]? :=
    fun y hy => hext.entry_eq y hy id
  have hargsOf : ∀ y, a'.argumentsOf y = a.argumentsOf y ∨ a'.argumentsOf y = [] := by
    intro y
    by_cases hy : y < a.registerCount
    · left
      simp [argumentsOf, entry?, hold y hy]
    · exact .inr (hnew y (Nat.le_of_not_lt hy))
  refine ⟨hv, ho, hargs, fun x name arity args hx => ?_, fun y₁ y₂ i₁ i₂ r h₁ h₂ hr => ?_⟩
  · by_cases hxa : x < a.registerCount
    · rw [hold x hxa] at hx
      obtain ⟨hpair, habove⟩ := hl.ordered x name arity args hx
      have hkind : ∀ r ∈ args, a'.isVarRegister r = a.isVarRegister r := fun r hr =>
        isVarRegister_of_eq (hold r (hl.argsAllocated x name arity args hx r hr))
      refine ⟨hpair.imp_of_mem fun _ hs hlt hvar => hlt (by rw [← hkind _ hs]; exact hvar),
        fun r hr hvar => habove r hr (by rw [← hkind r hr]; exact hvar)⟩
    · have hnil := hnew x (Nat.le_of_not_lt hxa)
      rw [argumentsOf_of_entry hx] at hnil
      subst hnil
      exact ⟨List.Pairwise.nil, fun _ h => absurd h List.not_mem_nil⟩
  · -- both occurrences are in old argument lists, so `r` is an old register
    have hold₁ : a'.argumentsOf y₁ = a.argumentsOf y₁ := by
      rcases hargsOf y₁ with h | h
      · exact h
      · rw [h] at h₁
        cases h₁
    have hold₂ : a'.argumentsOf y₂ = a.argumentsOf y₂ := by
      rcases hargsOf y₂ with h | h
      · exact h
      · rw [h] at h₂
        cases h₂
    rw [hold₁] at h₁
    rw [hold₂] at h₂
    have hrlt := argumentsOf_lt hl.argsAllocated (List.mem_of_getElem? h₁)
    rw [isVarRegister_of_eq (hold r hrlt)] at hr
    exact hl.once y₁ y₂ i₁ i₂ r h₁ h₂ hr

theorem empty_layout : empty.Layout := by
  refine ⟨fun name x hx => by simp [varRegister?, empty] at hx, fun y name hy => ?_,
    fun y name arity args hy => ?_, fun x name arity args hx => ?_, fun y₁ y₂ i₁ i₂ r h₁ _ _ => ?_⟩
  · simp [empty] at hy
  · simp [empty] at hy
  · simp [empty] at hx
  · simp [argumentsOf, entry?, empty] at h₁

theorem isVarRegister_argumentEntry {a : Allocation} {r : Nat} {t : Term}
    (he : a.entries[r]? = some (argumentEntry t)) : a.isVarRegister r = t.isVar := by
  cases t <;> simp [isVarRegister, he, argumentEntry, Term.isVar]

theorem argumentsOf_argumentEntry {a : Allocation} {r : Nat} {t : Term}
    (he : a.entries[r]? = some (argumentEntry t)) : a.argumentsOf r = [] := by
  cases t <;> simp [argumentsOf, entry?, he, argumentEntry]

theorem VarsOwned.push {a : Allocation} (ho : a.VarsOwned) {e : RegisterEntry}
    (hvar : ∀ name, e ≠ .var name) : (a.push e).1.VarsOwned := by
  intro y name hy
  rw [entry_push] at hy
  split at hy
  · cases hy
    exact absurd rfl (hvar name)
  · exact ho y name hy

theorem Layout.push {a : Allocation} (hl : a.Layout) {e : RegisterEntry}
    (he : ∀ name arity args, e = .compound name arity args → args = [])
    (hvar : ∀ name, e ≠ .var name) : (a.push e).1.Layout := by
  have hv : (a.push e).1.VarsHeld := fun name x hx => by
    rw [entry_push_of_lt e (lt_of_entry (hl.varsHeld name x hx))]
    exact hl.varsHeld name x hx
  refine hl.extend ⟨by simp, fun y hy _ => entry_push_of_lt e hy, fun _ _ h => h⟩
    (fun y hy => ?_) hv (hl.varsOwned.push hvar) (fun y name arity args hy r hr => ?_)
  · by_cases hyc : y = a.registerCount
    · subst hyc
      simp only [argumentsOf, entry?, entry_push_self]
      cases e with
      | compound name arity args => simp [he name arity args rfl]
      | _ => rfl
    · have hnone : (a.push e).1.entries[y]? = none := by
        rw [entry_push, if_neg hyc, Array.getElem?_eq_none_iff]
        unfold registerCount at hy
        omega
      simp [argumentsOf, entry?, hnone]
  · rw [entry_push] at hy
    split at hy
    · cases hy
      rw [he name arity args rfl] at hr
      cases hr
    · simp only [registerCount_push]
      exact Nat.lt_succ_of_lt (hl.argsAllocated y name arity args hy r hr)

/-! ## Allocating arguments -/

theorem allocArgument_varsOwned {a a' : Allocation} {t : Term} {x : Nat}
    (ha : a.allocArgument t = (a', x)) (ho : a.VarsOwned) : a'.VarsOwned := by
  have pushed : ∀ e : RegisterEntry, (∀ name, e ≠ .var name) → a.push e = (a', x) →
      a'.VarsOwned := by
    intro e hvar hp
    have h₁ : (a.push e).1 = a' := congrArg Prod.fst hp
    rw [← h₁]
    exact ho.push hvar
  cases t with
  | atom name => exact pushed (.compound name 0 []) (fun _ => nofun) ha
  | number d => exact pushed (.compound d.render 0 []) (fun _ => nofun) ha
  | compound name args => exact pushed (.compound name args.length []) (fun _ => nofun) ha
  | var name =>
      simp only [allocArgument, allocVar_eq] at ha
      cases hreg : a.varRegister? name with
      | some r =>
          rw [hreg] at ha
          cases ha
          exact ho
      | none =>
          -- a new variable: its register is the new one, recorded after the old ones
          rw [hreg] at ha
          cases ha
          intro y v hy
          change (a.vars ++ [(name, a.registerCount)]).lookup v = some y
          change (a.push (.var name)).1.entries[y]? = some (.var v) at hy
          rw [varRegister_append hreg, entry_push] at *
          split at hy
          · cases hy
            rename_i hyc
            rw [if_pos rfl, hyc]
          · have hold := ho y v hy
            rw [if_neg]
            · exact hold
            · rintro rfl
              rw [hreg] at hold
              cases hold

theorem Layout.allocArgument {a a' : Allocation} (hl : a.Layout) {t : Term} {x : Nat}
    (ha : a.allocArgument t = (a', x)) : a'.Layout := by
  obtain ⟨hx, hext, hv, -, hnew, hargs⟩ := allocArgument_spec ha hl.varsHeld
  refine hl.extend hext (fun y hy => ?_) hv (allocArgument_varsOwned ha hl.varsOwned)
    (hargs hl.argsAllocated)
  by_cases hy' : y < a'.registerCount
  · rw [hnew y hy hy']
    exact argumentsOf_argumentEntry hx
  · have hnone : a'.entries[y]? = none := by
      rw [Array.getElem?_eq_none_iff]
      unfold registerCount at hy'
      omega
    simp [argumentsOf, entry?, hnone]

theorem Layout.allocArguments {a a' : Allocation} (hl : a.Layout) {args : List Term}
    {regs : List Nat} (ha : a.allocArguments args = (a', regs)) : a'.Layout := by
  induction args generalizing a a' regs with
  | nil =>
      simp only [Allocation.allocArguments, Prod.mk.injEq] at ha
      rw [← ha.1]
      exact hl
  | cons t ts ih =>
      obtain ⟨a₁, x, xs, h₁, h₂, rfl⟩ := Allocation.allocArguments_cons_eq_iff.1 ha
      exact ih (hl.allocArgument h₁) h₂

theorem allocArguments_argumentsOf {a a' : Allocation} {args : List Term} {regs : List Nat}
    (ha : a.allocArguments args = (a', regs)) (hv : a.VarsHeld) :
    ∀ y, a'.argumentsOf y = a.argumentsOf y ∨ (a.registerCount ≤ y ∧ a'.argumentsOf y = []) := by
  obtain ⟨hlen, hext, -, hzip, hnew, -, -⟩ := allocArguments_spec ha hv
  intro y
  by_cases hy : y < a.registerCount
  · left
    simp [argumentsOf, entry?, hext.entry_eq y hy id]
  · refine .inr ⟨Nat.le_of_not_lt hy, ?_⟩
    by_cases hy' : y < a'.registerCount
    · obtain ⟨t, ht⟩ := exists_zip_of_mem hlen (hnew y (Nat.le_of_not_lt hy) hy')
      exact argumentsOf_argumentEntry (hzip _ ht).1
    · have hnone : a'.entries[y]? = none := by
        rw [Array.getElem?_eq_none_iff]
        unfold registerCount at hy'
        omega
      simp [argumentsOf, entry?, hnone]

/-! ## Recording the arguments of a structure -/

theorem isVarRegister_setArguments (a : Allocation) (x : Nat) (xs : List Nat) (y : Nat) :
    (a.setArguments x xs).isVarRegister y = a.isVarRegister y := by
  unfold isVarRegister
  rw [entry_setArguments]
  by_cases hxy : x = y
  · rw [if_pos hxy]
    cases a.entries[y]? with
    | none => rfl
    | some e => cases e <;> rfl
  · rw [if_neg hxy]

theorem entry_setArguments_var {a : Allocation} {x y : Nat} {xs : List Nat} {name : String} :
    (a.setArguments x xs).entries[y]? = some (.var name) ↔ a.entries[y]? = some (.var name) := by
  rw [entry_setArguments]
  by_cases hxy : x = y
  · rw [if_pos hxy]
    cases a.entries[y]? with
    | none => simp
    | some e => cases e <;> simp
  · rw [if_neg hxy]

theorem entry_setArguments_compound {a : Allocation} {x y : Nat} {xs : List Nat} {name : String}
    {arity : Nat} {args : List Nat}
    (he : (a.setArguments x xs).entries[y]? = some (.compound name arity args)) :
    (x = y ∧ args = xs) ∨ (x ≠ y ∧ a.entries[y]? = some (.compound name arity args)) := by
  rw [entry_setArguments] at he
  by_cases hxy : x = y
  · rw [if_pos hxy] at he
    left
    refine ⟨hxy, ?_⟩
    cases hy : a.entries[y]? with
    | none => rw [hy] at he; cases he
    | some e =>
        rw [hy] at he
        cases e <;> simp at he
        exact he.2.2.symm
  · rw [if_neg hxy] at he
    exact .inr ⟨hxy, he⟩

theorem argumentsOf_setArguments (a : Allocation) (x : Nat) (xs : List Nat) (y : Nat) :
    (a.setArguments x xs).argumentsOf y = a.argumentsOf y ∨
      (x = y ∧ (a.setArguments x xs).argumentsOf y = xs) := by
  unfold argumentsOf entry?
  rw [entry_setArguments]
  by_cases hxy : x = y
  · rw [if_pos hxy]
    cases a.entries[y]? with
    | none => exact .inl rfl
    | some e =>
        cases e with
        | compound name arity args => exact .inr ⟨hxy, rfl⟩
        | var name => exact .inl rfl
        | constant => exact .inl rfl
  · rw [if_neg hxy]
    exact .inl rfl

theorem index_unique {l : List Nat} {P : Nat → Prop}
    (hl : l.Pairwise fun r s => P s → r < s) {i j r : Nat} (hi : l[i]? = some r)
    (hj : l[j]? = some r) (hr : P r) : i = j := by
  obtain ⟨hi', rfl⟩ := List.getElem?_eq_some_iff.1 hi
  obtain ⟨hj', hji⟩ := List.getElem?_eq_some_iff.1 hj
  have hpair := List.pairwise_iff_getElem.1 hl
  rcases Nat.lt_trichotomy i j with hij | hij | hij
  · have := hpair i j hi' hj' hij (by rw [hji]; exact hr)
    omega
  · exact hij
  · have := hpair j i hj' hi' hij hr
    omega

theorem Layout.setArguments {a : Allocation} (hl : a.Layout) {x : Nat} (lo : Nat) {xs : List Nat}
    (hx : x < lo) (hlo : ∀ y, ∀ r ∈ a.argumentsOf y, r < lo)
    (hxs : ∀ r ∈ xs, r < a.registerCount)
    (hfresh : ∀ r ∈ xs, a.isVarRegister r = false → lo ≤ r)
    (hpair : xs.Pairwise fun r s => a.isVarRegister s = false → r < s) :
    (a.setArguments x xs).Layout := by
  have hkind := isVarRegister_setArguments a x xs
  refine ⟨fun name r hr => entry_setArguments_var.2 (hl.varsHeld name r hr),
    fun y name hy => hl.varsOwned y name (entry_setArguments_var.1 hy),
    fun y name arity args hy r hr => ?_, fun y name arity args hy => ?_,
    fun y₁ y₂ i₁ i₂ r h₁ h₂ hr => ?_⟩
  · rw [registerCount_setArguments]
    rcases entry_setArguments_compound hy with ⟨-, rfl⟩ | ⟨-, hy⟩
    · exact hxs r hr
    · exact hl.argsAllocated y name arity args hy r hr
  · simp only [hkind]
    rcases entry_setArguments_compound hy with ⟨rfl, rfl⟩ | ⟨-, hy⟩
    · exact ⟨hpair, fun r hr hvar => Nat.lt_of_lt_of_le hx (hfresh r hr hvar)⟩
    · exact hl.ordered y name arity args hy
  · rw [hkind] at hr
    -- an occurrence among the fresh registers is at or above `lo`, any other below it
    rcases argumentsOf_setArguments a x xs y₁ with e₁ | ⟨hx₁, e₁⟩ <;>
      rcases argumentsOf_setArguments a x xs y₂ with e₂ | ⟨hx₂, e₂⟩ <;>
      rw [e₁] at h₁ <;> rw [e₂] at h₂
    · exact hl.once y₁ y₂ i₁ i₂ r h₁ h₂ hr
    · have := hfresh r (List.mem_of_getElem? h₂) hr
      have := hlo y₁ r (List.mem_of_getElem? h₁)
      omega
    · have := hfresh r (List.mem_of_getElem? h₁) hr
      have := hlo y₂ r (List.mem_of_getElem? h₂)
      omega
    · exact ⟨hx₁.symm.trans hx₂, index_unique hpair h₁ h₂ hr⟩

/-! ## Visits -/

/-- What visiting a compound term in register `x` keeps: the layout, and every register. -/
def CompoundLaid (a : Allocation) (x : Nat) (args : List Term) : Prop :=
  a.Layout → x < a.registerCount →
    (a.visitCompound x args).Layout ∧ a.registerCount ≤ (a.visitCompound x args).registerCount

/-- What visiting the compound ones among `args`, in registers `regs`, keeps. -/
def ArgumentsLaid (a : Allocation) (args : List Term) (regs : List Nat) : Prop :=
  a.Layout → (∀ r ∈ regs, r < a.registerCount) →
    (a.visitArguments args regs).Layout ∧
      a.registerCount ≤ (a.visitArguments args regs).registerCount

theorem compoundLaid_of {a a₁ : Allocation} {x : Nat} {args : List Term} {xs : List Nat}
    (h : a.allocArguments args = (a₁, xs))
    (ih : ArgumentsLaid (a₁.setArguments x xs) args xs) : CompoundLaid a x args := by
  intro hl hx
  rw [visitCompound.eq_1, h]
  obtain ⟨hlen, hext, -, hzip, -, hpair, hargs⟩ := allocArguments_spec h hl.varsHeld
  have hmem : ∀ r ∈ xs, ∃ t, (r, t) ∈ xs.zip args := fun r hr => exists_zip_of_mem hlen hr
  -- the fresh argument registers are above every argument listed before the visit
  have hlo : ∀ y, ∀ r ∈ a₁.argumentsOf y, r < a.registerCount := by
    intro y r hr
    rcases allocArguments_argumentsOf h hl.varsHeld y with e | ⟨-, e⟩ <;> rw [e] at hr
    · exact argumentsOf_lt hl.argsAllocated hr
    · cases hr
  have hfresh : ∀ r ∈ xs, a₁.isVarRegister r = false → a.registerCount ≤ r := by
    intro r hr hvar
    obtain ⟨t, ht⟩ := hmem r hr
    rw [isVarRegister_argumentEntry (hzip _ ht).1] at hvar
    exact (hzip _ ht).2 hvar
  have hpair' : xs.Pairwise fun r s => a₁.isVarRegister s = false → r < s := by
    have hfst : (xs.zip args).map Prod.fst = xs := List.map_fst_zip (Nat.le_of_eq hlen)
    rw [← hfst, List.pairwise_map]
    refine hpair.imp_of_mem fun _ hq hlt hvar => hlt ?_
    rwa [isVarRegister_argumentEntry (hzip _ hq).1] at hvar
  have hl₂ := (hl.allocArguments h).setArguments a.registerCount hx hlo
    (fun r hr => by obtain ⟨t, ht⟩ := hmem r hr; exact lt_of_entry (hzip _ ht).1) hfresh hpair'
  obtain ⟨hl₃, hcount⟩ := ih hl₂ fun r hr => by
    obtain ⟨t, ht⟩ := hmem r hr
    rw [registerCount_setArguments]
    exact lt_of_entry (hzip _ ht).1
  rw [registerCount_setArguments] at hcount
  exact ⟨hl₃, Nat.le_trans hext.count_le hcount⟩

theorem argumentsLaid_compound {a : Allocation} {name : String} {sub rest : List Term} {r : Nat}
    {regs : List Nat} (ih₁ : CompoundLaid a r sub)
    (ih₂ : ArgumentsLaid (a.visitCompound r sub) rest regs) :
    ArgumentsLaid a (.compound name sub :: rest) (r :: regs) := by
  intro hl hregs
  rw [visitArguments.eq_1]
  obtain ⟨hl₁, hcount₁⟩ := ih₁ hl (hregs r List.mem_cons_self)
  obtain ⟨hl₂, hcount₂⟩ := ih₂ hl₁ fun s hs =>
    Nat.lt_of_lt_of_le (hregs s (List.mem_cons_of_mem r hs)) hcount₁
  exact ⟨hl₂, Nat.le_trans hcount₁ hcount₂⟩

theorem argumentsLaid_other {a : Allocation} {head : Term} {rest : List Term} {r : Nat}
    {regs : List Nat} (hnot : ∀ (name : String) (sub : List Term), head = .compound name sub → False)
    (ih : ArgumentsLaid a rest regs) : ArgumentsLaid a (head :: rest) (r :: regs) := by
  intro hl hregs
  rw [visitArguments.eq_2 a head rest r regs hnot]
  exact ih hl fun s hs => hregs s (List.mem_cons_of_mem r hs)

theorem argumentsLaid_done {a : Allocation} {args : List Term} {regs : List Nat}
    (h₁ : ∀ (name : String) (sub rest : List Term) (r : Nat) (rs : List Nat),
      args = .compound name sub :: rest → regs = r :: rs → False)
    (h₂ : ∀ (head : Term) (rest : List Term) (r : Nat) (rs : List Nat),
      args = head :: rest → regs = r :: rs → False) :
    ArgumentsLaid a args regs := by
  intro hl _
  rw [visitArguments.eq_3 a args regs h₁ h₂]
  exact ⟨hl, Nat.le_refl _⟩

theorem visitCompound_laid (a : Allocation) (x : Nat) (args : List Term) :
    CompoundLaid a x args :=
  visitCompound.induct (fun a x args => CompoundLaid a x args)
    (fun a args regs => ArgumentsLaid a args regs)
    (fun _ _ _ _ _ h ih => compoundLaid_of h ih)
    (fun _ _ _ _ _ _ ih₁ ih₂ => argumentsLaid_compound ih₁ ih₂)
    (fun _ _ _ _ _ hnot ih => argumentsLaid_other hnot ih)
    (fun _ _ _ h₁ h₂ => argumentsLaid_done h₁ h₂) a x args

/-- The registers of every term are laid out as a tree. -/
theorem allocate_layout (t : Term) : (allocate t).Layout := by
  rw [allocate_eq_numberRegisters]
  cases t with
  | atom name => exact empty_layout.push (fun _ _ _ h => by cases h) (fun _ => nofun)
  | number d => exact empty_layout.push (fun _ _ _ h => by cases h) (fun _ => nofun)
  | var name =>
      have ha : empty.allocArgument (.var name) =
          ((empty.allocVar name).1, (empty.allocVar name).2) := rfl
      exact empty_layout.allocArgument ha
  | compound name args =>
      have hl := empty_layout.push (e := .compound name args.length [])
        (fun _ _ _ h => by cases h; rfl) (fun _ => nofun)
      exact (visitCompound_laid _ 0 args hl (by simp)).1

/-! ## Trees of registers -/

variable {V : Type}

/-- `E` gives each structure register its functor over the trees of its argument registers. -/
def Satisfies (a : Allocation) (E : Nat → Tree V) : Prop :=
  ∀ (x : Nat) (name : String) (arity : Nat) (args : List Nat),
    a.entries[x]? = some (.compound name arity args) →
      E x = Tree.node ⟨name, arity⟩ fun i => E (args.getD i 0)

/-- The tree of each register, the variables read in `ρ`. -/
def regTree (a : Allocation) (ρ : String → Tree V) : Nat → Tree V
  | x, [] =>
    match a.entries[x]? with
    | some (.compound name arity _) => some (.fn ⟨name, arity⟩)
    | some (.var name) => ρ name []
    | _ => none
  | x, i :: path =>
    match a.entries[x]? with
    | some (.compound _ arity args) =>
      if i < arity then a.regTree ρ (args.getD i 0) path else none
    | some (.var name) => ρ name (i :: path)
    | _ => none

theorem regTree_satisfies (a : Allocation) (ρ : String → Tree V) : a.Satisfies (a.regTree ρ) := by
  intro x name arity args hx
  ext path
  cases path <;> simp [regTree, hx, Tree.node]

theorem regTree_var (a : Allocation) (ρ : String → Tree V) {y : Nat} {name : String}
    (hy : a.entries[y]? = some (.var name)) : a.regTree ρ y = ρ name := by
  ext path
  cases path <;> simp [regTree, hy]

/-- Trees that follow the structure entries give a register holding a term that term's tree,
its variables read at their registers. The induction follows the register tree. -/
theorem Holds.tree_eq {a : Allocation} (ho : a.VarsOwned) {E : Nat → Tree V} (hE : a.Satisfies E)
    {lo x : Nat} {t : Term} (hh : a.Holds lo x t) :
    E x = t.tree fun name => E ((a.varRegister? name).getD 0) := by
  induction hh with
  | var he => simp [Term.tree, ho _ _ he]
  | atom he | number he =>
      rw [hE _ _ _ _ he, Term.tree, Tree.node_eq_node]
      exact ⟨rfl, fun i hi => absurd hi (Nat.not_lt_zero i)⟩
  | @compound x name args regs he hlen _ _ ih =>
      rw [hE _ _ _ _ he, Term.tree, Tree.node_eq_node]
      refine ⟨rfl, fun i hi => ?_⟩
      have hi' : i < regs.length := by rw [hlen]; exact hi
      have hmem : (regs[i], args[i]) ∈ regs.zip args := getElem_mem_zip hlen hi
      have hget : regs.getD i 0 = regs[i] := by simp [List.getD_eq_getElem?_getD, hi']
      rw [Term.argTree_eq, hget, List.getElem?_eq_getElem hi, Option.map_some, Option.getD_some]
      exact ih _ hmem


section Held

variable {a : Allocation}

theorem Holds.isVarRegister {lo x : Nat} {t : Term} (hh : a.Holds lo x t) :
    a.isVarRegister x = t.isVar := by
  cases hh with
  | var he => exact isVarRegister_of_var he
  | atom he => exact isVarRegister_of_compound he
  | number he => exact isVarRegister_of_compound he
  | compound he => exact isVarRegister_of_compound he

theorem Holds.varRegister_isSome (ho : a.VarsOwned) {lo x : Nat} {t : Term}
    (hh : a.Holds lo x t) : ∀ n ∈ t.variableNames, ∃ y, a.varRegister? n = some y := by
  induction hh with
  | var he =>
      intro n hn
      simp only [Term.variableNames, Term.gatherVars, List.contains_nil, Bool.false_eq_true,
        if_false, List.nil_append, List.mem_singleton] at hn
      subst hn
      exact ⟨_, ho _ _ he⟩
  | atom => simp [Term.variableNames, Term.gatherVars]
  | number => simp [Term.variableNames, Term.gatherVars]
  | @compound x name args regs he hlen _ _ ih =>
      intro n hn
      obtain ⟨u, hu, hnu⟩ := Term.mem_variableNames_compound.1 hn
      obtain ⟨i, hi, rfl⟩ := List.mem_iff_getElem.1 hu
      exact ih _ (getElem_mem_zip hlen hi) n hnu

theorem IsStructure.isVarRegister {r : Nat} (h : a.IsStructure r) : a.isVarRegister r = false := by
  obtain ⟨name, arity, args, he⟩ := h
  exact isVarRegister_of_compound he

end Held

section Compound

variable (name : String) (args : List Term)

theorem regTree_varRegister (σ : String → Tree V) {x : String}
    (hx : x ∈ (Term.compound name args).variableNames) :
    (allocate (.compound name args)).regTree σ
      (((allocate (.compound name args)).varRegister? x).getD 0) = σ x := by
  obtain ⟨y, hy⟩ :=
    (allocate_holds name args).varRegister_isSome (allocate_layout _).varsOwned x hx
  rw [hy, Option.getD_some]
  exact regTree_var _ σ ((allocate_layout _).varsHeld x y hy)

/-- The register tree gives the root of a compound term the term's tree. -/
theorem regTree_root (σ : String → Tree V) :
    (allocate (.compound name args)).regTree σ 0 = (Term.compound name args).tree σ := by
  rw [(allocate_holds name args).tree_eq (allocate_layout _).varsOwned (regTree_satisfies _ σ)]
  exact Term.tree_congr _ fun x hx => regTree_varRegister name args σ hx

end Compound

end Allocation

/-! ## The numbering of a term -/

open Allocation

/-- The walk allocating a term's registers never fails, and gives the term's recursive
numbering. That numbering is a tree of registers: each structure lists as many argument
registers as its arity, all of them allocated, and those of structures after its own; the
registers the variables record are exactly the variable entries, so distinct variables have
distinct registers; and unless the term is an atom or a number, the tree read from `X0` is the
term's, whatever trees its variables stand for. -/
theorem allocation_walk_numbers_registers (t : Term) :
    Allocation.new t = .ok (numberRegisters t) ∧
      (∀ x name arity args, (numberRegisters t).entries[x]? = some (.compound name arity args) →
        args.length = arity ∧ ∀ r ∈ args, r < (numberRegisters t).registerCount ∧
          ((numberRegisters t).IsStructure r → x < r)) ∧
      (∀ name x, (numberRegisters t).varRegister? name = some x ↔
        (numberRegisters t).entries[x]? = some (.var name)) ∧
      (∀ n₁ n₂ x, (numberRegisters t).varRegister? n₁ = some x →
        (numberRegisters t).varRegister? n₂ = some x → n₁ = n₂) ∧
      (t.isVar = true ∨ t.isCompound = true →
        ∀ {V : Type} (σ : String → Tree V), (numberRegisters t).regTree σ 0 = t.tree σ) := by
  have hnew : Allocation.new t = .ok (allocate t) := by
    simp only [Allocation.new, allocate, (AllocationWalk.run_eq t).2]
  rw [← allocate_eq_numberRegisters]
  have hw := allocate_wellFormed t
  have hl := allocate_layout t
  refine ⟨hnew, fun x name arity args he => ⟨hw.complete x _ he, fun r hr =>
    ⟨hw.argsAllocated x name arity args he r hr,
      fun hs => (hl.ordered x name arity args he).2 r hr hs.isVarRegister⟩⟩,
    fun name x => ⟨hl.varsHeld name x, hl.varsOwned x name⟩, fun n₁ n₂ x h₁ h₂ => ?_, ?_⟩
  · -- register `x` holds one variable, the one each name records it for
    have he := hl.varsHeld n₁ x h₁
    rw [hl.varsHeld n₂ x h₂] at he
    cases he
    rfl
  · intro ht V σ
    cases t with
    | var name =>
        have he : (allocate (.var name)).entries[0]? = some (.var name) := by
          simp [allocate_eq_numberRegisters, numberRegisters, allocVar, varRegister?, empty,
            push]
        rw [regTree_var _ σ he]
        rfl
    | compound name args => exact regTree_root name args σ
    | atom name => simp [Term.isVar, Term.isCompound] at ht
    | number d => simp [Term.isVar, Term.isCompound] at ht

/-- The compound term `f(X, g(X, a))` is read back from its registers. -/
theorem numberRegisters_reads_back_sample :
    (Term.compound "f" [.var "X", .compound "g" [.var "X", .atom "a"]]).isCompound = true ∧
      (numberRegisters (.compound "f" [.var "X", .compound "g" [.var "X", .atom "a"]])).regTree
          Tree.leaf 0 =
        (Term.compound "f" [.var "X", .compound "g" [.var "X", .atom "a"]]).tree Tree.leaf :=
  ⟨rfl, (allocation_walk_numbers_registers _).2.2.2.2 (.inr rfl) Tree.leaf⟩

example :
    (allocate (.compound "a" [.compound "b" [.compound "c" [.var "X"]],
      .compound "d" [.var "X"]])).listing =
      ["X0 = a(X1, X2)", "X1 = b(X3)", "X2 = d(X4)", "X3 = c(X4)", "X4 = X"] := by
  decide

end UnifyMachine.Compile
