import UnifyMachine.Proofs.Compile.Walk

/-!
# The registers of a term

The allocation of a compound term gives the root register `X0` and visits the compound terms
parent first. Three facts hold of every allocation between two visits: a variable's register
holds that variable, the argument registers of every entry are allocated, and every register
but the root is an argument of a lower one. A visit changes no entry but that of the term it
visits, and only adds registers; once it is done, the registers from the visited one down form
a tree shaped like the term (`Allocation.Holds`), and each of them lists as many arguments as
its arity.

These are what compiled code relies on: a query builds each argument before the structure that
holds it, and a program term reads each register after the structure above it has been read.
-/

namespace UnifyMachine

/-- Whether a term is a variable. -/
def Term.isVar : Term → Bool
  | .var _ => true
  | _ => false

/-- Whether a term is compound. -/
def Term.isCompound : Term → Bool
  | .compound _ _ => true
  | _ => false

namespace Compile

/-- An entry that lists as many argument registers as its arity. -/
def RegisterEntry.Complete : RegisterEntry → Prop
  | .compound _ arity args => args.length = arity
  | _ => True

namespace Allocation

/-! ## The invariants of an allocation -/

/-- The entry an argument's register gets when the term holding it is visited. -/
def argumentEntry : Term → RegisterEntry
  | .var name => .var name
  | .atom name => .compound name 0 []
  | .number d => .compound d.render 0 []
  | .compound name args => .compound name args.length []

/-- A variable's register holds that variable. -/
def VarsHeld (a : Allocation) : Prop :=
  ∀ (name : String) (x : Nat), a.varRegister? name = some x → a.entries[x]? = some (.var name)

/-- The argument registers of every entry are allocated. -/
def ArgsAllocated (a : Allocation) : Prop :=
  ∀ (y : Nat) (name : String) (arity : Nat) (args : List Nat),
    a.entries[y]? = some (.compound name arity args) → ∀ r ∈ args, r < a.registerCount

/-- Every register but the root is an argument of a lower one. -/
def Parented (a : Allocation) : Prop :=
  ∀ y, 0 < y → y < a.registerCount →
    ∃ p < y, ∃ (name : String) (arity : Nat) (args : List Nat),
      a.entries[p]? = some (.compound name arity args) ∧ y ∈ args

/-- `a'` has every register of `a`, with the same entry unless `changed` holds of it, and every
variable register of `a`. -/
structure Extends (a a' : Allocation) (changed : Nat → Prop) : Prop where
  count_le : a.registerCount ≤ a'.registerCount
  entry_eq : ∀ y, y < a.registerCount → ¬ changed y → a'.entries[y]? = a.entries[y]?
  var_eq : ∀ (name : String) (x : Nat), a.varRegister? name = some x → a'.varRegister? name = some x

theorem Extends.refl (a : Allocation) (changed : Nat → Prop) : a.Extends a changed :=
  ⟨Nat.le_refl _, fun _ _ _ => rfl, fun _ _ h => h⟩

theorem Extends.trans {a b c : Allocation} {C₁ C₂ : Nat → Prop} (h₁ : a.Extends b C₁)
    (h₂ : b.Extends c C₂) : a.Extends c (fun y => C₁ y ∨ C₂ y) where
  count_le := Nat.le_trans h₁.count_le h₂.count_le
  entry_eq y hy hc := by
    rw [h₂.entry_eq y (Nat.lt_of_lt_of_le hy h₁.count_le) (fun h => hc (.inr h)),
      h₁.entry_eq y hy (fun h => hc (.inl h))]
  var_eq name x hx := h₂.var_eq name x (h₁.var_eq name x hx)

theorem Extends.mono {a a' : Allocation} {C C' : Nat → Prop} (h : a.Extends a' C)
    (hC : ∀ y, C y → C' y) : a.Extends a' C' :=
  ⟨h.count_le, fun y hy hc => h.entry_eq y hy (fun h => hc (hC y h)), h.var_eq⟩

/-! ## Allocating the arguments of a term -/

theorem allocArgument_spec {a a' : Allocation} {t : Term} {x : Nat}
    (ha : a.allocArgument t = (a', x)) (hv : a.VarsHeld) :
    a'.entries[x]? = some (argumentEntry t) ∧ a.Extends a' (fun _ => False) ∧ a'.VarsHeld ∧
      (t.isVar = false → x = a.registerCount) ∧
      (∀ y, a.registerCount ≤ y → y < a'.registerCount → y = x) ∧
      (a.ArgsAllocated → a'.ArgsAllocated) := by
  -- every argument but an old variable is pushed as a new register
  have pushed : ∀ e, (∀ name arity args, e = .compound name arity args → args = []) →
      a.push e = (a', x) →
      a'.entries[x]? = some e ∧ a.Extends a' (fun _ => False) ∧ a'.VarsHeld ∧ x = a.registerCount ∧
      (∀ y, a.registerCount ≤ y → y < a'.registerCount → y = x) ∧
      (a.ArgsAllocated → a'.ArgsAllocated) := by
    intro e he hp
    have h₁ : (a.push e).1 = a' := congrArg Prod.fst hp
    have h₂ : a.registerCount = x := congrArg Prod.snd hp
    subst h₁ h₂
    refine ⟨entry_push_self a e, ⟨by simp, fun y hy _ => entry_push_of_lt e hy, fun _ _ h => h⟩,
      fun name r hr => ?_, rfl, fun y h₁ h₂ => by simp at h₂; omega, fun hargs => ?_⟩
    · have hr' := hv name r hr
      rw [entry_push_of_lt e (lt_of_entry hr')]
      exact hr'
    · intro y name arity args hy r hr
      rw [entry_push] at hy
      split at hy
      · cases hy
        rw [he name arity args rfl] at hr
        cases hr
      · simp only [registerCount_push]
        exact Nat.lt_succ_of_lt (hargs y name arity args hy r hr)
  cases t with
  | atom name | number d | compound name args =>
      obtain ⟨he, hx, hv', hn, hnew, hargs⟩ := pushed _ (by simp) ha
      exact ⟨he, hx, hv', fun _ => hn, hnew, hargs⟩
  | var name =>
      simp only [allocArgument, allocVar_eq] at ha
      cases hreg : a.varRegister? name with
      | some r =>
          -- an old variable keeps its register and changes nothing
          rw [hreg] at ha
          cases ha
          exact ⟨hv name x hreg, Extends.refl a _, hv, by simp [Term.isVar],
            fun y h₁ h₂ => absurd h₂ (Nat.not_lt_of_le h₁), id⟩
      | none =>
          rw [hreg] at ha
          cases ha
          have hentry : ∀ y : Nat, ({ (a.push (.var name)).1 with
              vars := a.vars ++ [(name, a.registerCount)] } : Allocation).entries[y]? =
                (a.push (.var name)).1.entries[y]? := fun (_ : Nat) => rfl
          refine ⟨by rw [hentry]; exact entry_push_self a _, ⟨by simp [registerCount, push],
            fun y hy _ => by rw [hentry]; exact entry_push_of_lt _ hy, fun v r hr => ?_⟩,
            fun v r hr => ?_, by simp [Term.isVar], fun y h₁ h₂ => ?_, fun hargs => ?_⟩
          · have hne : v ≠ name := fun h => by subst h; rw [hreg] at hr; cases hr
            show (a.vars ++ [(name, a.registerCount)]).lookup v = some r
            rw [varRegister_append hreg, if_neg hne]
            exact hr
          · change (a.vars ++ [(name, a.registerCount)]).lookup v = some r at hr
            rw [varRegister_append hreg] at hr
            rw [hentry]
            split at hr
            · cases hr
              rename_i hvn
              rw [hvn]
              exact entry_push_self a _
            · have hr' := hv v r hr
              rw [entry_push_of_lt _ (lt_of_entry hr')]
              exact hr'
          · change y < (a.push (.var name)).1.registerCount at h₂
            simp only [registerCount_push] at h₂
            omega
          · intro y n arity args hy r hr
            rw [hentry, entry_push] at hy
            split at hy
            · cases hy
            · change r < (a.push (.var name)).1.registerCount
              simp only [registerCount_push]
              exact Nat.lt_succ_of_lt (hargs y n arity args hy r hr)

/-- The registers of the arguments of a term, one per argument: each holds the argument's entry,
every register allocated on the way is one of them, and every argument but a variable has a new
register, above those of the arguments before it. -/
theorem allocArguments_spec {a a' : Allocation} {args : List Term} {regs : List Nat}
    (ha : a.allocArguments args = (a', regs)) (hv : a.VarsHeld) :
    regs.length = args.length ∧ a.Extends a' (fun _ => False) ∧ a'.VarsHeld ∧
      (∀ p ∈ regs.zip args, a'.entries[p.1]? = some (argumentEntry p.2) ∧
        (p.2.isVar = false → a.registerCount ≤ p.1)) ∧
      (∀ y, a.registerCount ≤ y → y < a'.registerCount → y ∈ regs) ∧
      (regs.zip args).Pairwise (fun p q => q.2.isVar = false → p.1 < q.1) ∧
      (a.ArgsAllocated → a'.ArgsAllocated) := by
  induction args generalizing a a' regs with
  | nil =>
      simp only [allocArguments, Prod.mk.injEq] at ha
      obtain ⟨rfl, rfl⟩ := ha
      exact ⟨rfl, Extends.refl a _, hv, by simp, fun y h₁ h₂ => absurd h₂ (Nat.not_lt_of_le h₁),
        List.Pairwise.nil, id⟩
  | cons t ts ih =>
      obtain ⟨a₁, x, xs, h₁, h₂, rfl⟩ := allocArguments_cons_eq_iff.1 ha
      obtain ⟨hx, he₁, hv₁, hfresh, hnew₁, hargs₁⟩ := allocArgument_spec h₁ hv
      obtain ⟨hlen, he₂, hv₂, hzip, hnew₂, hpair, hargs₂⟩ := ih h₂ hv₁
      have hx₁ : x < a₁.registerCount := lt_of_entry hx
      refine ⟨by simp [hlen], (he₁.trans he₂).mono (fun _ h => by simp at h), hv₂,
        fun p hp => ?_, fun y h₁ h₂ => ?_, ?_, hargs₂ ∘ hargs₁⟩
      · rw [List.zip_cons_cons, List.mem_cons] at hp
        rcases hp with rfl | hp
        · exact ⟨by rw [he₂.entry_eq x hx₁ id]; exact hx, fun hvar => Nat.le_of_eq (hfresh hvar).symm⟩
        · obtain ⟨hent, hlo⟩ := hzip p hp
          exact ⟨hent, fun hvar => Nat.le_trans he₁.count_le (hlo hvar)⟩
      · by_cases hy : y < a₁.registerCount
        · exact List.mem_cons.2 (.inl (hnew₁ y h₁ hy))
        · exact List.mem_cons.2 (.inr (hnew₂ y (Nat.le_of_not_lt hy) h₂))
      · rw [List.zip_cons_cons, List.pairwise_cons]
        exact ⟨fun q hq hvar => Nat.lt_of_lt_of_le hx₁ ((hzip q hq).2 hvar), hpair⟩

theorem eq_of_pairwise {l : List (Nat × Term)}
    (hl : l.Pairwise (fun p q => q.2.isVar = false → p.1 < q.1)) {p q : Nat × Term}
    (hp : p ∈ l) (hq : q ∈ l) (hpv : p.2.isVar = false) (hqv : q.2.isVar = false)
    (h : p.1 = q.1) : p = q := by
  induction l with
  | nil => cases hp
  | cons r l ih =>
      rw [List.pairwise_cons] at hl
      rcases List.mem_cons.1 hp with rfl | hp' <;> rcases List.mem_cons.1 hq with rfl | hq'
      · rfl
      · exact absurd h (Nat.ne_of_lt (hl.1 q hq' hqv))
      · exact absurd h.symm (Nat.ne_of_lt (hl.1 p hp' hpv))
      · exact ih hl.2 hp' hq'

theorem exists_zip_of_mem {xs : List Nat} {ts : List Term} (hlen : xs.length = ts.length) {y : Nat}
    (hy : y ∈ xs) : ∃ t, (y, t) ∈ xs.zip ts := by
  induction xs generalizing ts with
  | nil => cases hy
  | cons x xs ih =>
      cases ts with
      | nil => cases hlen
      | cons t ts =>
          rw [List.zip_cons_cons]
          rcases List.mem_cons.1 hy with rfl | hy
          · exact ⟨t, List.mem_cons_self⟩
          · obtain ⟨t', ht'⟩ := ih (Nat.succ.inj hlen) hy
            exact ⟨t', List.mem_cons_of_mem _ ht'⟩

theorem getElem_mem_zip {xs : List Nat} {ts : List Term} (hlen : xs.length = ts.length) {i : Nat}
    (hi : i < ts.length) : (xs[i], ts[i]) ∈ xs.zip ts := by
  have hz : i < (xs.zip ts).length := by simp [hlen, hi]
  have := List.getElem_mem hz
  rwa [List.getElem_zip] at this

/-! ## The tree of registers of a term -/

/-- Register `x` holds the term `t`: its entry is the term's, and, for a compound term, each
argument register holds its argument and, unless it holds a variable, is at `lo` or above. -/
inductive Holds (a : Allocation) (lo : Nat) : Nat → Term → Prop
  | var {x : Nat} {name : String} : a.entries[x]? = some (.var name) → Holds a lo x (.var name)
  | atom {x : Nat} {name : String} :
      a.entries[x]? = some (.compound name 0 []) → Holds a lo x (.atom name)
  | number {x : Nat} {d : Decimal} :
      a.entries[x]? = some (.compound d.render 0 []) → Holds a lo x (.number d)
  | compound {x : Nat} {name : String} {args : List Term} {regs : List Nat} :
      a.entries[x]? = some (.compound name args.length regs) → regs.length = args.length →
      (∀ p ∈ regs.zip args, p.2.isVar = true ∨ lo ≤ p.1) →
      (∀ p ∈ regs.zip args, Holds a lo p.1 p.2) → Holds a lo x (.compound name args)

theorem Holds.lt {a : Allocation} {lo x : Nat} {t : Term} (h : a.Holds lo x t) :
    x < a.registerCount := by
  cases h with
  | var he => exact lt_of_entry he
  | atom he => exact lt_of_entry he
  | number he => exact lt_of_entry he
  | compound he _ _ _ => exact lt_of_entry he

theorem Holds.mono {a : Allocation} {lo lo' x : Nat} {t : Term} (h : a.Holds lo x t)
    (hlo : lo' ≤ lo) : a.Holds lo' x t := by
  induction h with
  | var he => exact .var he
  | atom he => exact .atom he
  | number he => exact .number he
  | compound he hlen hlow _ ih =>
      exact .compound he hlen (fun p hp => (hlow p hp).imp_right (Nat.le_trans hlo)) ih

theorem Holds.frame {a a' : Allocation} {lo x : Nat} {t : Term} (h : a.Holds lo x t)
    (hx : a'.entries[x]? = a.entries[x]?)
    (hlo : ∀ y, lo ≤ y → y < a.registerCount → a'.entries[y]? = a.entries[y]?)
    (hvar : ∀ (y : Nat) (name : String), a.entries[y]? = some (.var name) →
      a'.entries[y]? = some (.var name)) :
    a'.Holds lo x t := by
  -- the induction carries the root's entry, kept either as it is or because it is a variable
  suffices key : ∀ {x t}, a.Holds lo x t → (t.isVar = true ∨ a'.entries[x]? = a.entries[x]?) →
      a'.Holds lo x t from key h (.inr hx)
  intro x t h
  induction h with
  | var he => exact fun _ => .var (hvar _ _ he)
  | atom he =>
      exact fun hx => .atom (by rw [hx.resolve_left (by simp [Term.isVar])]; exact he)
  | number he =>
      exact fun hx => .number (by rw [hx.resolve_left (by simp [Term.isVar])]; exact he)
  | compound he hlen hlow hargs ih =>
      intro hx
      refine .compound (by rw [hx.resolve_left (by simp [Term.isVar])]; exact he) hlen hlow
        fun p hp => ih p hp ?_
      rcases hlow p hp with hv | hle
      · exact .inl hv
      · exact .inr (hlo p.1 hle (hargs p hp).lt)

/-! ## Visiting compound terms -/

/-- What a visit keeps and makes: the three invariants, no entry changed below the registers it
found except those it visited, and every entry it visited or added complete. -/
structure Visit (a a' : Allocation) (changed : Nat → Prop) : Prop where
  varsHeld : a'.VarsHeld
  argsAllocated : a'.ArgsAllocated
  parented : a'.Parented
  grows : a.Extends a' changed
  complete : ∀ y e, (changed y ∨ a.registerCount ≤ y) → a'.entries[y]? = some e → e.Complete

theorem holds_of_argumentEntry {a : Allocation} {lo x : Nat} {t : Term}
    (ht : t.isCompound = false) (he : a.entries[x]? = some (argumentEntry t)) : a.Holds lo x t := by
  cases t with
  | var name => exact .var he
  | atom name => exact .atom he
  | number d => exact .number he
  | compound name args => simp [Term.isCompound] at ht

theorem argumentEntry_complete {t : Term} (ht : t.isCompound = false) :
    (argumentEntry t).Complete := by
  cases t <;> simp_all [argumentEntry, RegisterEntry.Complete, Term.isCompound]

theorem argumentEntry_isVar {t t' : Term} (ht : t.isVar = true) (ht' : t'.isVar = false) :
    argumentEntry t ≠ argumentEntry t' := by
  cases t <;> cases t' <;> simp_all [argumentEntry, Term.isVar]

theorem isVar_of_isCompound {t : Term} (ht : t.isCompound = true) : t.isVar = false := by
  cases t <;> simp_all [Term.isVar, Term.isCompound]

/-- What visiting the compound term `name(args)` in register `x` achieves, whatever `name`. -/
def CompoundVisited (a : Allocation) (x : Nat) (args : List Term) : Prop :=
  ∀ name, a.VarsHeld → a.ArgsAllocated → a.Parented →
    a.entries[x]? = some (.compound name args.length []) →
    Visit a (a.visitCompound x args) (· = x) ∧
      (a.visitCompound x args).Holds a.registerCount x (.compound name args)

/-- What visiting the compound ones among the arguments `args`, in registers `regs`, achieves. -/
def ArgumentsVisited (a : Allocation) (args : List Term) (regs : List Nat) : Prop :=
  a.VarsHeld → a.ArgsAllocated → a.Parented →
    (∀ p ∈ regs.zip args, ∀ name sub, p.2 = .compound name sub →
      a.entries[p.1]? = some (.compound name sub.length [])) →
    (regs.zip args).Pairwise (fun p q => q.2.isVar = false → p.1 < q.1) →
    Visit a (a.visitArguments args regs)
        (fun y => ∃ p ∈ regs.zip args, p.2.isCompound = true ∧ y = p.1) ∧
      ∀ p ∈ regs.zip args, p.2.isCompound = true →
        (a.visitArguments args regs).Holds a.registerCount p.1 p.2

theorem argumentsVisited_done {a : Allocation} {args : List Term} {regs : List Nat}
    (h₁ : ∀ (name : String) (sub rest : List Term) (r : Nat) (rs : List Nat),
      args = .compound name sub :: rest → regs = r :: rs → False)
    (h₂ : ∀ (head : Term) (rest : List Term) (r : Nat) (rs : List Nat),
      args = head :: rest → regs = r :: rs → False) :
    ArgumentsVisited a args regs := by
  have hzip : regs.zip args = [] := by
    cases args with
    | nil => simp
    | cons head rest =>
        cases regs with
        | nil => simp
        | cons r rs => exact (h₂ head rest r rs rfl rfl).elim
  intro hv hargs hpar _ _
  rw [visitArguments.eq_3 a args regs h₁ h₂, hzip]
  refine ⟨⟨hv, hargs, hpar, Extends.refl a _, fun y e hy he => ?_⟩, by simp⟩
  rcases hy with ⟨p, hp, _⟩ | hy
  · cases hp
  · exact absurd (lt_of_entry he) (Nat.not_lt_of_le hy)

theorem argumentsVisited_other {a : Allocation} {head : Term} {rest : List Term} {r : Nat}
    {regs : List Nat} (hnot : ∀ (name : String) (sub : List Term), head = .compound name sub → False)
    (ih : ArgumentsVisited a rest regs) : ArgumentsVisited a (head :: rest) (r :: regs) := by
  intro hv hargs hpar hpre hpair
  rw [visitArguments.eq_2 a head rest r regs hnot]
  simp only [List.zip_cons_cons, List.pairwise_cons, List.mem_cons, forall_eq_or_imp,
    exists_eq_or_imp] at hpre hpair ⊢
  have hhead : head.isCompound = false := by
    cases head with
    | compound name sub => exact (hnot name sub rfl).elim
    | _ => rfl
  obtain ⟨visit, holds⟩ := ih hv hargs hpar hpre.2 hpair.2
  refine ⟨⟨visit.varsHeld, visit.argsAllocated, visit.parented,
    visit.grows.mono fun y hy => .inr hy, fun y e hy he => visit.complete y e ?_ he⟩, ?_, holds⟩
  · simp only [hhead, Bool.false_eq_true, false_and, false_or] at hy
    exact hy
  · simp [hhead]

theorem argumentsVisited_compound {a : Allocation} {name : String} {sub rest : List Term}
    {r : Nat} {regs : List Nat} (ih₁ : CompoundVisited a r sub)
    (ih₂ : ArgumentsVisited (a.visitCompound r sub) rest regs) :
    ArgumentsVisited a (.compound name sub :: rest) (r :: regs) := by
  intro hv hargs hpar hpre hpair
  rw [visitArguments.eq_1]
  simp only [List.zip_cons_cons, List.pairwise_cons, List.mem_cons, forall_eq_or_imp,
    exists_eq_or_imp] at hpre hpair ⊢
  have hr : a.entries[r]? = some (.compound name sub.length []) := hpre.1 name sub rfl
  obtain ⟨v₁, h₁⟩ := ih₁ name hv hargs hpar hr
  -- the compound arguments after this one have registers above it and below the visit
  have hrest : ∀ q ∈ regs.zip rest, q.2.isCompound = true → r < q.1 ∧ q.1 < a.registerCount := by
    intro q hq hc
    refine ⟨hpair.1 q hq (isVar_of_isCompound hc), ?_⟩
    cases hq2 : q.2 with
    | compound n s => exact lt_of_entry (hpre.2 q hq n s hq2)
    | _ => simp [hq2, Term.isCompound] at hc
  have hpre₂ : ∀ q ∈ regs.zip rest, ∀ n s, q.2 = .compound n s →
      (a.visitCompound r sub).entries[q.1]? = some (.compound n s.length []) := by
    intro q hq n s hqs
    have hc : q.2.isCompound = true := by rw [hqs]; rfl
    rw [v₁.grows.entry_eq q.1 (hrest q hq hc).2 (Nat.ne_of_gt (hrest q hq hc).1)]
    exact hpre.2 q hq n s hqs
  obtain ⟨v₂, h₂⟩ := ih₂ v₁.varsHeld v₁.argsAllocated v₁.parented hpre₂ hpair.2
  -- an entry the later visits change is one of theirs, below the count before this visit
  have hkept : ∀ y, y < (a.visitCompound r sub).registerCount →
      (¬ ∃ q ∈ regs.zip rest, q.2.isCompound = true ∧ y = q.1) →
      ((a.visitCompound r sub).visitArguments rest regs).entries[y]? =
        (a.visitCompound r sub).entries[y]? :=
    fun y hy hc => v₂.grows.entry_eq y hy hc
  have hnr : ¬ ∃ q ∈ regs.zip rest, q.2.isCompound = true ∧ r = q.1 := by
    rintro ⟨q, hq, hc, rfl⟩
    exact Nat.lt_irrefl _ (hrest q hq hc).1
  have hrb : r < (a.visitCompound r sub).registerCount :=
    Nat.lt_of_lt_of_le (lt_of_entry hr) v₁.grows.count_le
  refine ⟨⟨v₂.varsHeld, v₂.argsAllocated, v₂.parented, ?_, ?_⟩, ?_,
    fun p hp hc => (h₂ p hp hc).mono v₁.grows.count_le⟩
  · refine (v₁.grows.trans v₂.grows).mono fun y hy => ?_
    rcases hy with rfl | hy
    · exact .inl ⟨rfl, rfl⟩
    · exact .inr hy
  · intro y e hy he
    by_cases hyr : y = r
    · subst hyr
      exact v₁.complete y e (.inl rfl) (by rw [← hkept y hrb hnr]; exact he)
    · by_cases hyq : ∃ q ∈ regs.zip rest, q.2.isCompound = true ∧ y = q.1
      · exact v₂.complete y e (.inl hyq) he
      · have hle : a.registerCount ≤ y := by
          rcases hy with ((⟨-, hyr'⟩ | hyq') | hy)
          · exact absurd hyr' hyr
          · exact absurd hyq' hyq
          · exact hy
        by_cases hyb : y < (a.visitCompound r sub).registerCount
        · exact v₁.complete y e (.inr hle) (by rw [← hkept y hyb hyq]; exact he)
        · exact v₂.complete y e (.inr (Nat.le_of_not_lt hyb)) he
  · intro _
    refine h₁.frame (hkept r hrb hnr) (fun y hy hyb => hkept y hyb ?_) (fun y n hy => ?_)
    · rintro ⟨q, hq, hc, rfl⟩
      exact Nat.not_lt_of_le hy (hrest q hq hc).2
    · rw [hkept y (lt_of_entry hy) ?_]
      · exact hy
      · rintro ⟨q, hq, hc, rfl⟩
        cases hq2 : q.2 with
        | compound n' s => rw [hpre₂ q hq n' s hq2] at hy; cases hy
        | _ => simp [hq2, Term.isCompound] at hc

/-! ## Recording the argument registers -/

theorem varsHeld_setArguments {a : Allocation} (hv : a.VarsHeld) (x : Nat) (args : List Nat) :
    (a.setArguments x args).VarsHeld := by
  intro v r hr
  rw [entry_setArguments, hv v r hr]
  split <;> rfl

theorem argsAllocated_setArguments {a : Allocation} (ha : a.ArgsAllocated) {x : Nat}
    {name : String} {arity : Nat} {old : List Nat} (hx : a.entries[x]? = some (.compound name arity old))
    {args : List Nat} (hargs : ∀ r ∈ args, r < a.registerCount) :
    (a.setArguments x args).ArgsAllocated := by
  intro y n k rs hy r hr
  rw [registerCount_setArguments]
  by_cases hxy : x = y
  · subst hxy
    rw [entry_setArguments_self hx] at hy
    cases hy
    exact hargs r hr
  · rw [entry_setArguments_of_ne a hxy] at hy
    exact ha y n k rs hy r hr

theorem parented_setArguments {a a₁ : Allocation} {x : Nat} {name : String} {args : List Term}
    {xs : List Nat} (h : a.allocArguments args = (a₁, xs)) (hv : a.VarsHeld) (hpar : a.Parented)
    (hx : a.entries[x]? = some (.compound name args.length [])) :
    (a₁.setArguments x xs).Parented := by
  obtain ⟨-, g₁, -, -, hnew, -, -⟩ := allocArguments_spec h hv
  have hxa : x < a.registerCount := lt_of_entry hx
  have hx₁ : a₁.entries[x]? = some (.compound name args.length []) := by
    rw [g₁.entry_eq x hxa id]
    exact hx
  intro y hy0 hy
  rw [registerCount_setArguments] at hy
  by_cases hya : y < a.registerCount
  · obtain ⟨p, hp, n, k, rs, hpe, hyr⟩ := hpar y hy0 hya
    have hpx : x ≠ p := fun hpx => by
      subst hpx
      rw [hx] at hpe
      cases hpe
      cases hyr
    refine ⟨p, hp, n, k, rs, ?_, hyr⟩
    rw [entry_setArguments_of_ne a₁ hpx, g₁.entry_eq p (Nat.lt_trans hp hya) id]
    exact hpe
  · exact ⟨x, Nat.lt_of_lt_of_le hxa (Nat.le_of_not_lt hya), name, args.length, xs,
      entry_setArguments_self hx₁ xs, hnew y (Nat.le_of_not_lt hya) hy⟩

theorem allocArguments_other_apart {a a₁ : Allocation} {args : List Term} {xs : List Nat}
    (h : a.allocArguments args = (a₁, xs)) (hv : a.VarsHeld) {x : Nat} {name : String}
    (hx : a.entries[x]? = some (.compound name args.length [])) {p : Nat × Term}
    (hp : p ∈ xs.zip args) (hc : p.2.isCompound = false) :
    x ≠ p.1 ∧ ¬ ∃ q ∈ xs.zip args, q.2.isCompound = true ∧ p.1 = q.1 := by
  obtain ⟨-, g₁, -, hzip, -, hpair, -⟩ := allocArguments_spec h hv
  have hxa : x < a.registerCount := lt_of_entry hx
  refine ⟨fun hxp => ?_, ?_⟩
  · cases hpv : p.2.isVar
    · exact Nat.ne_of_lt (Nat.lt_of_lt_of_le hxa ((hzip p hp).2 hpv)) hxp
    · have hp' := (hzip p hp).1
      rw [← hxp, g₁.entry_eq x hxa id, hx] at hp'
      exact argumentEntry_isVar hpv (show (Term.compound name args).isVar = false from rfl)
        (Option.some.inj hp').symm
  · rintro ⟨q, hq, hqc, hpq⟩
    cases hpv : p.2.isVar
    · have hpq' := eq_of_pairwise hpair hp hq hpv (isVar_of_isCompound hqc) hpq
      rw [hpq', hqc] at hc
      cases hc
    · have hq' := (hzip q hq).1
      rw [← hpq, (hzip p hp).1] at hq'
      exact argumentEntry_isVar hpv (isVar_of_isCompound hqc) (Option.some.inj hq')

theorem compoundVisited_of {a a₁ : Allocation} {x : Nat} {args : List Term} {xs : List Nat}
    (h : a.allocArguments args = (a₁, xs))
    (ih : ArgumentsVisited (a₁.setArguments x xs) args xs) : CompoundVisited a x args := by
  intro name hv hargs hpar hx
  rw [visitCompound.eq_1, h]
  obtain ⟨hlen, g₁, hv₁, hzip, hnew, hpair, hargs₁⟩ := allocArguments_spec h hv
  have hxa : x < a.registerCount := lt_of_entry hx
  have hx₁ : a₁.entries[x]? = some (.compound name args.length []) := by
    rw [g₁.entry_eq x hxa id]
    exact hx
  have hx₂ := entry_setArguments_self hx₁ xs
  have h₂ : ∀ y, x ≠ y → (a₁.setArguments x xs).entries[y]? = a₁.entries[y]? :=
    fun y hy => entry_setArguments_of_ne a₁ hy xs
  have hcount₂ : (a₁.setArguments x xs).registerCount = a₁.registerCount :=
    registerCount_setArguments a₁ x xs
  -- every argument but a variable has a new register, above `x`
  have hxlt : ∀ p ∈ xs.zip args, p.2.isVar = false → x < p.1 :=
    fun p hp hvar => Nat.lt_of_lt_of_le hxa ((hzip p hp).2 hvar)
  have hxs : ∀ r ∈ xs, r < a₁.registerCount := by
    intro r hr
    obtain ⟨t, ht⟩ := exists_zip_of_mem hlen hr
    exact lt_of_entry (hzip _ ht).1
  have hpre : ∀ p ∈ xs.zip args, ∀ n s, p.2 = .compound n s →
      (a₁.setArguments x xs).entries[p.1]? = some (.compound n s.length []) := by
    intro p hp n s hps
    rw [h₂ p.1 (Nat.ne_of_lt (hxlt p hp (by rw [hps]; rfl))), (hzip p hp).1, hps]
    rfl
  -- the invariants hold again once `x` lists its argument registers
  obtain ⟨visit, holds⟩ := ih (varsHeld_setArguments hv₁ x xs)
    (argsAllocated_setArguments (hargs₁ hargs) hx₁ hxs) (parented_setArguments h hv hpar hx) hpre
    hpair
  -- the registers the argument visits change are compound arguments', above the old count
  have hchanged : ∀ y, (∃ p ∈ xs.zip args, p.2.isCompound = true ∧ y = p.1) →
      a.registerCount ≤ y := by
    rintro y ⟨p, hp, hc, rfl⟩
    exact (hzip p hp).2 (isVar_of_isCompound hc)
  have hkept : ∀ y, y < a₁.registerCount → y < a.registerCount ∨ x ≠ y →
      (¬ ∃ p ∈ xs.zip args, p.2.isCompound = true ∧ y = p.1) →
      ((a₁.setArguments x xs).visitArguments args xs).entries[y]? =
        (a₁.setArguments x xs).entries[y]? :=
    fun y hy _ hc => visit.grows.entry_eq y (by rw [hcount₂]; exact hy) hc
  have hx' : ((a₁.setArguments x xs).visitArguments args xs).entries[x]? =
      some (.compound name args.length xs) := by
    rw [hkept x (Nat.lt_of_lt_of_le hxa g₁.count_le) (.inl hxa)
      (fun hc => Nat.lt_irrefl _ (Nat.lt_of_lt_of_le hxa (hchanged x hc)))]
    exact hx₂
  -- an argument that is not compound keeps the entry it was given
  have hother : ∀ p ∈ xs.zip args, p.2.isCompound = false →
      ((a₁.setArguments x xs).visitArguments args xs).entries[p.1]? = some (argumentEntry p.2) := by
    intro p hp hc
    obtain ⟨hxp, hnc⟩ := allocArguments_other_apart h hv hx hp hc
    rw [hkept p.1 (lt_of_entry (hzip p hp).1) (.inr hxp) hnc, h₂ p.1 hxp]
    exact (hzip p hp).1
  refine ⟨⟨visit.varsHeld, visit.argsAllocated, visit.parented, ?_, ?_⟩, ?_⟩
  · refine ⟨Nat.le_trans g₁.count_le (hcount₂ ▸ visit.grows.count_le), fun y hy hyx => ?_,
      fun v r hr => visit.grows.var_eq v r (g₁.var_eq v r hr)⟩
    rw [hkept y (Nat.lt_of_lt_of_le hy g₁.count_le) (.inl hy)
      (fun hc => Nat.lt_irrefl _ (Nat.lt_of_lt_of_le hy (hchanged y hc))),
      h₂ y (Ne.symm hyx), g₁.entry_eq y hy id]
  · intro y e hy he
    rcases hy with rfl | hle
    · rw [hx'] at he
      cases he
      exact hlen
    · by_cases hc : ∃ p ∈ xs.zip args, p.2.isCompound = true ∧ y = p.1
      · exact visit.complete y e (.inl hc) he
      · by_cases hy₁ : y < a₁.registerCount
        · obtain ⟨t, ht⟩ := exists_zip_of_mem hlen (hnew y hle hy₁)
          have htc : t.isCompound = false := by
            cases htc : t.isCompound
            · rfl
            · exact (hc ⟨(y, t), ht, htc, rfl⟩).elim
          rw [hother (y, t) ht htc] at he
          cases he
          exact argumentEntry_complete htc
        · exact visit.complete y e (.inr (by rw [hcount₂]; exact Nat.le_of_not_lt hy₁)) he
  · refine .compound hx' hlen (fun p hp => ?_) (fun p hp => ?_)
    · cases hpv : p.2.isVar
      · exact .inr ((hzip p hp).2 hpv)
      · exact .inl rfl
    · cases hpc : p.2.isCompound
      · exact holds_of_argumentEntry hpc (hother p hp hpc)
      · exact (holds p hp hpc).mono (Nat.le_trans g₁.count_le (Nat.le_of_eq hcount₂.symm))

theorem visitCompound_visited (a : Allocation) (x : Nat) (args : List Term) :
    CompoundVisited a x args :=
  visitCompound.induct (fun a x args => CompoundVisited a x args)
    (fun a args regs => ArgumentsVisited a args regs)
    (fun _ _ _ _ _ h ih => compoundVisited_of h ih)
    (fun _ _ _ _ _ _ ih₁ ih₂ => argumentsVisited_compound ih₁ ih₂)
    (fun _ _ _ _ _ hnot ih => argumentsVisited_other hnot ih)
    (fun _ _ _ h₁ h₂ => argumentsVisited_done h₁ h₂) a x args

/-! ## The allocation of a term -/

/-- The facts every finished allocation has: the three invariants, and every entry complete. -/
structure WellFormed (a : Allocation) : Prop where
  varsHeld : a.VarsHeld
  argsAllocated : a.ArgsAllocated
  parented : a.Parented
  complete : ∀ (y : Nat) (e : RegisterEntry), a.entries[y]? = some e → e.Complete

theorem single_invariants (e : RegisterEntry) (he : ∀ name arity args,
    e = .compound name arity args → args = []) :
    (empty.push e).1.VarsHeld ∧ (empty.push e).1.ArgsAllocated ∧ (empty.push e).1.Parented := by
  refine ⟨fun name x hx => by simp [varRegister?, empty] at hx, fun y n k rs hy r hr => ?_,
    fun y hy0 hy => by simp only [registerCount_push, registerCount_empty] at hy; omega⟩
  rw [entry_push] at hy
  split at hy
  · cases hy
    rw [he n k rs rfl] at hr
    cases hr
  · simp [empty] at hy

theorem allocate_compound_visited (name : String) (args : List Term) :
    Visit (empty.push (.compound name args.length [])).1 (allocate (.compound name args)) (· = 0) ∧
      (allocate (.compound name args)).Holds 1 0 (.compound name args) := by
  obtain ⟨hv, hargs, hpar⟩ := single_invariants (.compound name args.length [])
    (fun _ _ _ h => by cases h; rfl)
  rw [allocate_eq_numberRegisters]
  exact visitCompound_visited _ 0 args name hv hargs hpar (entry_push_self empty _)

/-- The registers of every term are well formed. -/
theorem allocate_wellFormed (t : Term) : (allocate t).WellFormed := by
  -- an allocation of one register has every entry complete when that one is
  have single : ∀ e : RegisterEntry, e.Complete → ∀ (y : Nat) (e' : RegisterEntry),
      (empty.push e).1.entries[y]? = some e' →
      e'.Complete := by
    intro e he y e' hy
    rw [entry_push] at hy
    split at hy
    · cases hy
      exact he
    · simp [empty] at hy
  cases t with
  | atom name | number d =>
      rw [allocate_eq_numberRegisters]
      obtain ⟨hv, hargs, hpar⟩ := single_invariants .constant (fun _ _ _ h => by cases h)
      exact ⟨hv, hargs, hpar, single _ trivial⟩
  | var name =>
      have ha : empty.allocArgument (.var name) =
          ((empty.allocVar name).1, (empty.allocVar name).2) := rfl
      obtain ⟨hentry, hgrow, hv, -, hnew, hargs⟩ :=
        allocArgument_spec ha (fun n x hx => by simp [varRegister?, empty] at hx)
      -- the variable's register is the only one, `X0`
      have hx0 : (empty.allocVar name).2 = 0 :=
        (hnew 0 (Nat.zero_le _) (Nat.lt_of_le_of_lt (Nat.zero_le _) (lt_of_entry hentry))).symm
      rw [allocate_eq_numberRegisters]
      show (empty.allocVar name).1.WellFormed
      refine ⟨hv, hargs (fun y _ _ _ hy => by simp [empty] at hy), fun y hy0 hy => ?_,
        fun y e he => ?_⟩
      · have hyx := hnew y (Nat.zero_le _) hy
        omega
      · have hyx := hnew y (Nat.zero_le _) (lt_of_entry he)
        rw [hyx, hentry] at he
        cases he
        trivial
  | compound name args =>
      obtain ⟨visit, -⟩ := allocate_compound_visited name args
      refine ⟨visit.varsHeld, visit.argsAllocated, visit.parented, fun y e he => ?_⟩
      cases y with
      | zero => exact visit.complete 0 e (.inl rfl) he
      | succ y =>
          exact visit.complete (y + 1) e
            (.inr (by simp only [registerCount_push, registerCount_empty]; omega)) he

/-- The registers of a compound term hold it, from `X0` down. -/
theorem allocate_holds (name : String) (args : List Term) :
    (allocate (.compound name args)).Holds 0 0 (.compound name args) :=
  (allocate_compound_visited name args).2.mono (Nat.zero_le 1)

end Allocation

end Compile

end UnifyMachine
