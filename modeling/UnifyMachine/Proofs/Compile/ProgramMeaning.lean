import Mathlib.Data.List.GetD
import UnifyMachine.Proofs.Compile.Matching
import UnifyMachine.Proofs.Compile.QueryMeaning
import UnifyMachine.Proofs.Machine.CursorProtocol

/-!
# What the code of a program term decides

The code of a program term runs on the heap a query left, with the query's root `A` in `X0`.
It succeeds exactly when some model of that heap gives `A` the program term's tree, and then it
leaves the most general such heap.

Two facts are carried from block to block (`Matches`, and `MatchesIn` within a block). In every
model of the heap reached, each structure register matched so far holds its functor over the
trees of its argument registers (`Allocation.Respects`). And every model of the query's heap,
with trees for the program's registers that follow its structures and agree at the root,
extends to a model of the heap reached that agrees below the query's top and on the registers
written (`Reaches`). A failure to unify contradicts the second fact, so it happens only when no
such trees exist (`Apart`).

A register is written once: the argument registers of a structure that are not variables are
arguments of it alone (`Allocation.ArgsOnce`), a variable's register is written at its first
occurrence, and `X0` is no argument.
-/

namespace UnifyMachine

namespace Machine

theorem Cursor.At.awaits {cursor : Option Cursor} {mode : Mode} {first count j : Nat}
    (h : Cursor.At cursor mode first count j) (hj : j ≤ count) :
    Cursor.Awaits cursor mode (count - j) := by
  by_cases hlt : j < count
  · obtain ⟨k, hk⟩ : ∃ k, count - j = k + 1 := ⟨count - j - 1, by omega⟩
    rw [hk]
    exact ⟨_, h.eq_some hlt, rfl, by simp only; omega⟩
  · rw [show count - j = 0 by omega, h.eq_none hlt]
    rfl

namespace State

theorem Ready.pred_awaited {N B : Nat} {mode : Mode} {count j : Nat} {D : List Nat} {m : State}
    (hr : m.Ready N B mode (count - j) D) (hj : j < count) :
    m.Ready N B mode (count - (j + 1) + 1) D := by
  rwa [show count - (j + 1) + 1 = count - j by omega]

variable {m : State}

theorem address_of_modify {m' : State} {x v : Nat}
    (h : m'.registers = m.registers.modify x fun _ => some v) (hx : x < m.registers.size) :
    m'.address x = v :=
  State.address_of (State.register_of_modify h hx)

theorem Ready.address_lt {N B : Nat} {mode : Mode} {k : Nat} {D : List Nat}
    (hr : m.Ready N B mode k D) {r : Nat} (hrD : r ∈ D) : m.address r < m.heap.top := by
  obtain ⟨R, hR⟩ := hr.defined r hrD
  rw [State.address_of hR]
  exact (hr.isOpen.sound.registers r R hR).lt_top

end State

end Machine

namespace Compile

open Machine State Heap

namespace Allocation

variable {a : Allocation}

/-- The argument registers of the structure registers below `k`. -/
def argsBelow (a : Allocation) (k : Nat) : List Nat :=
  (List.range k).flatMap a.argumentsOf

theorem matchedBelow_eq (a : Allocation) (k : Nat) : a.matchedBelow k = 0 :: a.argsBelow k :=
  rfl

theorem argsBelow_succ (a : Allocation) (k : Nat) :
    a.argsBelow (k + 1) = a.argsBelow k ++ a.argumentsOf k := by
  simp [argsBelow, List.range_succ, List.flatMap_append]

theorem mem_argsBelow {k r : Nat} : r ∈ a.argsBelow k ↔ ∃ y < k, r ∈ a.argumentsOf y := by
  simp [argsBelow]

theorem matchedBelow_mono {k k' : Nat} (h : k ≤ k') : a.matchedBelow k ⊆ a.matchedBelow k' := by
  intro r hr
  rcases List.mem_cons.1 hr with rfl | hr
  · exact List.mem_cons_self
  · obtain ⟨y, hy, hry⟩ := mem_argsBelow.1 hr
    exact List.mem_cons_of_mem _ (mem_argsBelow.2 ⟨y, Nat.lt_of_lt_of_le hy h, hry⟩)

theorem getD_mem_matchedBelow {k y : Nat} (hy : y < k) (i : Nat) :
    (a.argumentsOf y).getD i 0 ∈ a.matchedBelow k := by
  by_cases hi : i < (a.argumentsOf y).length
  · rw [List.getD_eq_getElem _ _ hi]
    exact List.mem_cons_of_mem _ (mem_argsBelow.2 ⟨y, hy, List.getElem_mem hi⟩)
  · rw [List.getD_eq_default _ _ (by omega)]
    exact List.mem_cons_self

theorem fresh_of_not_var (hl : a.Layout) (h0 : ∀ y, 0 ∉ a.argumentsOf y) {x : Nat}
    {name : String} {arity : Nat} {regs : List Nat}
    (he : a.entries[x]? = some (.compound name arity regs)) {j : Nat} (hj : j < regs.length)
    (hk : a.isVarRegister (regs.getD j 0) = false) :
    regs.getD j 0 ∉ a.matchedBelow x ++ regs.take j := by
  have hat : (a.argumentsOf x)[j]? = some (regs.getD j 0) := by
    rw [argumentsOf_of_entry he, List.getD_eq_getElem _ _ hj, List.getElem?_eq_getElem hj]
  intro hmem
  rcases List.mem_append.1 hmem with hmb | htake
  · rcases List.mem_cons.1 hmb with h0' | hargs
    · exact h0 x (h0' ▸ List.mem_of_getElem? hat)
    · obtain ⟨y, hy, hry⟩ := mem_argsBelow.1 hargs
      obtain ⟨i, hi, hget⟩ := List.getElem_of_mem hry
      have := (hl.once y x i j _ (by rw [List.getElem?_eq_getElem hi, hget]) hat hk).1
      omega
  · obtain ⟨i, hi, hget⟩ := List.getElem_of_mem htake
    rw [List.length_take] at hi
    have hij : (a.argumentsOf x)[i]? = some (regs.getD j 0) := by
      rw [argumentsOf_of_entry he, ← hget, List.getElem_take, List.getElem?_eq_getElem]
    have := (hl.once x x i j _ hij hat hk).2
    omega

theorem fresh_of_unseen (h0 : ∀ y, 0 ∉ a.argumentsOf y) {x : Nat} {name : String}
    {arity : Nat} {regs : List Nat} (he : a.entries[x]? = some (.compound name arity regs))
    {j : Nat} (hj : j < regs.length) {seen : List Nat}
    (hseen : ∀ r, r ∈ seen ↔ a.isVarRegister r = true ∧ r ∈ a.argsBelow x ++ regs.take j)
    (hk : a.isVarRegister (regs.getD j 0) = true) (hr : regs.getD j 0 ∉ seen) :
    regs.getD j 0 ∉ a.matchedBelow x ++ regs.take j := by
  intro hmem
  rw [matchedBelow_eq, List.cons_append] at hmem
  rcases List.mem_cons.1 hmem with h0' | hmem
  · have hx : regs.getD j 0 ∈ a.argumentsOf x := by
      rw [argumentsOf_of_entry he, List.getD_eq_getElem _ _ hj]
      exact List.getElem_mem hj
    exact h0 x (h0' ▸ hx)
  · exact hr ((hseen _).2 ⟨hk, hmem⟩)

/-- In every model of the heap of `m`, each structure register below `k` holds its functor over
the trees of its argument registers. -/
def Respects (a : Allocation) (k : Nat) (m : State) : Prop :=
  ∀ (V : Type) (M : Nat → Tree V), m.heap.Model M → ∀ y < k, ∀ name arity args,
    a.entries[y]? = some (.compound name arity args) →
      M (m.address y) = Tree.node ⟨name, arity⟩ fun i => M (m.address (args.getD i 0))

theorem Respects.frame (hp : a.Parented) {k : Nat} {m m' : State} (hr : a.Respects k m)
    (hn : ∀ {V : Type} (M : Nat → Tree V), m'.heap.Model M → m.heap.Model M)
    (hk : ∀ r ∈ a.matchedBelow k, m'.registers[r]? = m.registers[r]?) : a.Respects k m' := by
  intro V M hM y hy name arity args he
  have hkept : ∀ r ∈ a.matchedBelow k, m'.address r = m.address r := fun r hr' => by
    simp only [State.address, hk r hr']
  have hyk : y ∈ a.matchedBelow k :=
    matchedBelow_mono (Nat.le_of_lt hy) (mem_matchedBelow hp (lt_of_entry he))
  rw [hkept y hyk, hr V M (hn M hM) y hy name arity args he]
  congr 1
  funext i
  have hi := getD_mem_matchedBelow (a := a) hy i
  rw [argumentsOf_of_entry he] at hi
  rw [hkept _ hi]

end Allocation

open Allocation

section

variable {a : Allocation} {h₁ : Heap} {A N B : Nat}

/-- No model of `h₁` gives `A` the tree of `X0` under trees for the registers of `a` that follow
its structures. -/
def Apart (a : Allocation) (h₁ : Heap) (A : Nat) : Prop :=
  ∀ (V : Type) (M₀ E : Nat → Tree V), h₁.Model M₀ → a.Satisfies E → E 0 ≠ M₀ A

/-- How the code of a program term may end a run early: by a failure to unify, and then only
when no unifier exists. -/
def Stops (a : Allocation) (h₁ : Heap) (A : Nat) (r : State × Except MachineError Unit) :
    Prop :=
  r.2 = .ok () → r.1.status = .failed ∧ Apart a h₁ A

/-- Every model of `h₁`, with trees for the registers of `a` that follow its structures and give
`X0` the tree of `A`, extends to a model of the heap of `m` that agrees with it below the top of
`h₁`, gives each register of `D` its tree at the address the register holds, and each address
of `pending` the tree of its register. -/
def Reaches (a : Allocation) (h₁ : Heap) (A : Nat) (D : List Nat) (pending : List (Nat × Nat))
    (m : State) : Prop :=
  ∀ (V : Type) (M₀ E : Nat → Tree V), h₁.Model M₀ → a.Satisfies E → E 0 = M₀ A →
    ∃ M, m.heap.Model M ∧ (∀ c < h₁.top, M c = M₀ c) ∧ (∀ r ∈ D, M (m.address r) = E r) ∧
      ∀ p ∈ pending, M p.1 = E p.2

theorem Reaches.step {D D' : List Nat} {pend pend' : List (Nat × Nat)} {m m' : State}
    (hr : Reaches a h₁ A D pend m) (htop : h₁.top ≤ m.heap.top)
    (hstep : ∀ {V : Type} (M E : Nat → Tree V), m.heap.Model M → a.Satisfies E →
      (∀ r ∈ D, M (m.address r) = E r) → (∀ p ∈ pend, M p.1 = E p.2) →
      ∃ M', m'.heap.Model M' ∧ (∀ c < m.heap.top, M' c = M c) ∧
        (∀ r ∈ D', M' (m'.address r) = E r) ∧ ∀ p ∈ pend', M' p.1 = E p.2) :
    Reaches a h₁ A D' pend' m' := by
  intro V M₀ E hM₀ hE hroot
  obtain ⟨M, hM, hagree, hD, hpend⟩ := hr V M₀ E hM₀ hE hroot
  obtain ⟨M', hM', hagree', hD', hpend'⟩ := hstep M E hM hE hD hpend
  exact ⟨M', hM', fun c hc => (hagree' c (Nat.lt_of_lt_of_le hc htop)).trans (hagree c hc),
    hD', hpend'⟩

theorem Reaches.apart {D : List Nat} {pend : List (Nat × Nat)} {m : State}
    (hr : Reaches a h₁ A D pend m)
    (hno : ∀ {V : Type} (M E : Nat → Tree V), m.heap.Model M → a.Satisfies E →
      (∀ r ∈ D, M (m.address r) = E r) → (∀ p ∈ pend, M p.1 = E p.2) → False) :
    Apart a h₁ A := by
  intro V M₀ E hM₀ hE hroot
  obtain ⟨M, hM, -, hD, hpend⟩ := hr V M₀ E hM₀ hE hroot
  exact hno M E hM hE hD hpend

/-- The argument cells of a structure from `first`, each with its argument register. -/
def blockArgs (first : Nat) (regs : List Nat) : List (Nat × Nat) :=
  (List.range regs.length).map fun i => (first + i, regs.getD i 0)

theorem mem_blockArgs {first : Nat} {regs : List Nat} {p : Nat × Nat} :
    p ∈ blockArgs first regs ↔ ∃ i < regs.length, p = (first + i, regs.getD i 0) := by
  simp [blockArgs, eq_comm]

/-- The heap of `m` came from `h₁` by steps that only lost models and kept its term cells, and
`X0` holds `A`. -/
structure Descends (h₁ : Heap) (A : Nat) (m : State) : Prop where
  root : m.registers[0]? = some (some A)
  narrows : ∀ {V : Type} (M : Nat → Tree V), m.heap.Model M → h₁.Model M
  top : h₁.top ≤ m.heap.top
  terms : ∀ c, h₁.TermAt c → m.heap.TermAt c

/-- The code of the registers below `k` has run to `m`, having met the variable registers
`seen`. -/
structure Matches (a : Allocation) (h₁ : Heap) (A N B k : Nat) (seen : List Nat) (m : State) :
    Prop extends Descends h₁ A m where
  ready : ∃ mode, m.Ready N B mode 0 (a.matchedBelow k)
  seen : ∀ r, r ∈ seen ↔ a.isVarRegister r = true ∧ r ∈ a.argsBelow k
  respects : a.Respects k m
  reaches : Reaches a h₁ A (a.matchedBelow k) [] m

/-- Within the block of the structure register `x`, the `get_structure` and `j` argument
instructions have run to `m`, visiting the arguments from `first` in `mode`. -/
structure MatchesIn (a : Allocation) (h₁ : Heap) (A N B x : Nat) (name : String)
    (regs : List Nat) (mode : Mode) (first j : Nat) (seen : List Nat) (m : State) : Prop
    extends Descends h₁ A m where
  entry : a.entries[x]? = some (.compound name regs.length regs)
  ready : m.Ready N B mode (regs.length - j) (a.matchedBelow x ++ regs.take j)
  cursor : Cursor.At m.cursor mode first regs.length j
  seen : ∀ r, r ∈ seen ↔ a.isVarRegister r = true ∧ r ∈ a.argsBelow x ++ regs.take j
  respects : a.Respects x m
  block : ∀ {V : Type} (M : Nat → Tree V), m.heap.Model M →
    M (m.address x) = Tree.node ⟨name, regs.length⟩ (fun i => M (first + i)) ∧
      ∀ i < j, M (m.address (regs.getD i 0)) = M (first + i)
  reaches : Reaches a h₁ A (a.matchedBelow x ++ regs.take j) (blockArgs first regs) m

theorem take_succ_getD {regs : List Nat} {j : Nat} (hj : j < regs.length) :
    regs.take (j + 1) = regs.take j ++ [regs.getD j 0] := by
  rw [List.take_add_one, List.getElem?_eq_getElem hj, List.getD_eq_getElem _ _ hj]
  rfl

theorem foldl_matchArgument_induction (a : Allocation) (regs : List Nat)
    {Q : Nat → List Instruction × List Nat → Prop}
    (step : ∀ j acc, j < regs.length → Q j acc → Q (j + 1) (matchArgument a acc (regs.getD j 0)))
    {acc₀ : List Instruction × List Nat} (h₀ : Q 0 acc₀) :
    Q regs.length (regs.foldl (matchArgument a) acc₀) := by
  -- by induction on the number of arguments taken so far
  have hprefix : ∀ j ≤ regs.length, Q j ((regs.take j).foldl (matchArgument a) acc₀) := by
    intro j
    induction j with
    | zero => intro _; simpa using h₀
    | succ j ih =>
        intro hj
        rw [take_succ_getD hj, List.foldl_append, List.foldl_cons, List.foldl_nil]
        exact step j _ hj (ih (by omega))
  simpa using hprefix regs.length (Nat.le_refl _)

theorem getD_mem_take {regs : List Nat} {i j : Nat} (hij : i < j) (hj : j ≤ regs.length) :
    regs.getD i 0 ∈ regs.take j := by
  rw [List.getD_eq_getElem _ _ (by omega)]
  exact List.mem_iff_getElem.2 ⟨i, by simp; omega, by simp⟩

variable {x : Nat} {name : String} {regs : List Nat}

theorem Matches.enter (hp : a.Parented) (he : a.entries[x]? = some (.compound name regs.length regs))
    {seen : List Nat} {m m' : State}
    (hm : Matches a h₁ A N B x seen m) {mode : Mode} {first : Nat} (ho : m'.Open N B)
    (hc : m'.cursor = Cursor.start mode first regs.length) (hregs : m'.registers = m.registers)
    (hn : ∀ {V : Type} (M : Nat → Tree V), m'.heap.Model M → m.heap.Model M)
    (htop : m.heap.top ≤ m'.heap.top) (hterm : ∀ c, m.heap.TermAt c → m'.heap.TermAt c)
    (hblock : ∀ {V : Type} (M : Nat → Tree V), m'.heap.Model M →
      M (m.address x) = Tree.node ⟨name, regs.length⟩ fun i => M (first + i))
    (hreach : ∀ {V : Type} (M E : Nat → Tree V), m.heap.Model M → a.Satisfies E →
      (∀ r ∈ a.matchedBelow x, M (m.address r) = E r) →
      ∃ M', m'.heap.Model M' ∧ (∀ c < m.heap.top, M' c = M c) ∧
        ∀ i < regs.length, M' (first + i) = E (regs.getD i 0)) :
    MatchesIn a h₁ A N B x name regs mode first 0 seen m' := by
  obtain ⟨mode₀, hready⟩ := hm.ready
  have haddr : ∀ r, m'.address r = m.address r := fun r => by simp only [State.address, hregs]
  refine ⟨⟨hregs ▸ hm.root, fun M hM => hm.narrows M (hn M hM), Nat.le_trans hm.top htop,
    fun c hc => hterm c (hm.terms c hc)⟩, he,
    ⟨ho, ?_, ?_⟩, hc ▸ Cursor.at_start mode first regs.length, ?_,
    hm.respects.frame hp hn fun r _ => by rw [hregs], fun M hM => ?_, ?_⟩
  · rw [hc, Nat.sub_zero]
    simpa using (Cursor.at_start mode first regs.length).awaits (Nat.zero_le _)
  · rw [List.take_zero, List.append_nil, hregs]
    exact hready.defined
  · simpa using hm.seen
  · exact ⟨by rw [haddr]; exact hblock M hM, fun i hi => absurd hi (Nat.not_lt_zero i)⟩
  · refine hm.reaches.step hm.top fun M E hM hE hD _ => ?_
    obtain ⟨M', hM', hagree, hargs⟩ := hreach M E hM hE hD
    refine ⟨M', hM', hagree, fun r hr => ?_, fun q hq => ?_⟩
    · rw [List.take_zero, List.append_nil] at hr
      rw [haddr, hagree _ (hready.address_lt hr)]
      exact hD r hr
    · obtain ⟨i, hi, rfl⟩ := mem_blockArgs.1 hq
      exact hargs i hi

theorem MatchesIn.advance (hp : a.Parented) {mode : Mode} {first j : Nat} {seen seen' : List Nat}
    {m m' : State} (hm : MatchesIn a h₁ A N B x name regs mode first j seen m)
    (hj : j < regs.length) (ho : m'.Open N B)
    (hc : ∀ c, m.cursor = some c → m'.cursor = c.advance)
    (hkeep : ∀ z ∈ a.matchedBelow x ++ regs.take j, m'.registers[z]? = m.registers[z]?)
    (hdef : ∃ R, m'.registers[regs.getD j 0]? = some (some R))
    (hseen : ∀ r, r ∈ seen' ↔ a.isVarRegister r = true ∧ r ∈ a.argsBelow x ++ regs.take (j + 1))
    (hn : ∀ {V : Type} (M : Nat → Tree V), m'.heap.Model M → m.heap.Model M)
    (htop : m.heap.top ≤ m'.heap.top) (hterm : ∀ c, m.heap.TermAt c → m'.heap.TermAt c)
    (hsolved : ∀ {V : Type} (M : Nat → Tree V), m'.heap.Model M →
      M (m'.address (regs.getD j 0)) = M (first + j))
    (hnew : m'.address (regs.getD j 0) = first + j ∨
      regs.getD j 0 ∈ a.matchedBelow x ++ regs.take j)
    (hreach : ∀ {V : Type} (M E : Nat → Tree V), m.heap.Model M →
      (∀ r ∈ a.matchedBelow x ++ regs.take j, M (m.address r) = E r) →
      (∀ q ∈ blockArgs first regs, M q.1 = E q.2) → m'.heap.Model M) :
    MatchesIn a h₁ A N B x name regs mode first (j + 1) seen' m' := by
  have htake := take_succ_getD hj
  have hkept : ∀ z ∈ a.matchedBelow x ++ regs.take j, m'.address z = m.address z :=
    fun z hz => by simp only [State.address, hkeep z hz]
  have hx : x ∈ a.matchedBelow x ++ regs.take j :=
    List.mem_append_left _ (mem_matchedBelow hp (lt_of_entry hm.entry))
  have hcur : m'.cursor = Cursor.advance ⟨mode, first, regs.length, j⟩ :=
    hc _ (hm.cursor.eq_some hj)
  refine ⟨⟨?_, fun M hM => hm.narrows M (hn M hM), Nat.le_trans hm.top htop,
    fun c hc => hterm c (hm.terms c hc)⟩, hm.entry,
    ⟨ho, ?_, ?_⟩, hcur ▸ Cursor.At.advance hj, hseen,
    hm.respects.frame hp hn fun z hz => hkeep z (List.mem_append_left _ hz), fun M hM => ?_, ?_⟩
  · rw [hkeep 0 (List.mem_append_left _ List.mem_cons_self)]
    exact hm.root
  · rw [hcur]
    exact (Cursor.At.advance hj).awaits hj
  · rw [htake, ← List.append_assoc]
    intro z hz
    rcases List.mem_append.1 hz with hz | hz
    · rw [hkeep z hz]
      exact hm.ready.defined z hz
    · rw [List.mem_singleton] at hz
      subst hz
      exact hdef
  · obtain ⟨hroot, hargs⟩ := hm.block M (hn M hM)
    refine ⟨by rw [hkept x hx]; exact hroot, fun i hi => ?_⟩
    rcases Nat.lt_succ_iff_lt_or_eq.1 hi with hi | rfl
    · rw [hkept _ (List.mem_append_right _ (getD_mem_take hi (Nat.le_of_lt hj)))]
      exact hargs i hi
    · exact hsolved M hM
  · refine hm.reaches.step hm.top fun M E hM _ hD hpend => ⟨M, hreach M E hM hD hpend,
      fun _ _ => rfl, fun z hz => ?_, hpend⟩
    rw [htake, ← List.append_assoc] at hz
    rcases List.mem_append.1 hz with hz | hz
    · rw [hkept z hz]
      exact hD z hz
    · rw [List.mem_singleton] at hz
      subst hz
      rcases hnew with hnew | hnew
      · rw [hnew]
        exact hpend _ (mem_blockArgs.2 ⟨j, hj, rfl⟩)
      · rw [hkept _ hnew]
        exact hD _ hnew

theorem MatchesIn.leave {mode : Mode} {first : Nat} {seen : List Nat} {m : State}
    (hm : MatchesIn a h₁ A N B x name regs mode first regs.length seen m) :
    Matches a h₁ A N B (x + 1) seen m := by
  have hall : regs.take regs.length = regs := List.take_length
  have hmb : a.matchedBelow (x + 1) = a.matchedBelow x ++ regs := by
    rw [Allocation.matchedBelow_succ, argumentsOf_of_entry hm.entry]
  have hab : a.argsBelow (x + 1) = a.argsBelow x ++ regs := by
    rw [argsBelow_succ, argumentsOf_of_entry hm.entry]
  refine ⟨hm.toDescends, ⟨mode, ?_⟩, fun r => ?_, fun V M hM y hy name' arity' args' he' => ?_,
    fun V M₀ E hM₀ hE hroot => ?_⟩
  · have hready := hm.ready
    rwa [Nat.sub_self, hall, ← hmb] at hready
  · rw [hab, ← hall]
    exact hm.seen r
  · rcases Nat.lt_succ_iff_lt_or_eq.1 hy with hy | rfl
    · exact hm.respects V M hM y hy name' arity' args' he'
    · rw [hm.entry] at he'
      cases he'
      obtain ⟨hroot, hargs⟩ := hm.block M hM
      rw [hroot, Tree.node_eq_node]
      exact ⟨rfl, fun i hi => (hargs i hi).symm⟩
  · obtain ⟨M, hM, hagree, hD, -⟩ := hm.reaches V M₀ E hM₀ hE hroot
    refine ⟨M, hM, hagree, fun r hr => hD r ?_, fun _ h => absurd h List.not_mem_nil⟩
    rwa [hall, ← hmb]

theorem Matches.skip (he : ∀ name arity args, a.entries[x]? ≠ some (.compound name arity args))
    {seen : List Nat} {m : State} (hm : Matches a h₁ A N B x seen m) :
    Matches a h₁ A N B (x + 1) seen m := by
  have hmb := Allocation.matchedBelow_succ_of_not_compound he
  have hab : a.argsBelow (x + 1) = a.argsBelow x := by
    rw [argsBelow_succ, argumentsOf_of_not_compound he, List.append_nil]
  obtain ⟨mode, hready⟩ := hm.ready
  refine ⟨hm.toDescends, ⟨mode, hmb ▸ hready⟩, hab ▸ hm.seen,
    fun V M hM y hy name arity args he' => ?_, hmb ▸ hm.reaches⟩
  rcases Nat.lt_succ_iff_lt_or_eq.1 hy with hy | rfl
  · exact hm.respects V M hM y hy name arity args he'
  · exact absurd he' (he _ _ _)

/-- `get_structure` on a structure register: an unbound variable is bound to a new structure,
written in the block, whose argument cells any model reached may give the trees of the argument
registers; a structure of the same functor is read; one of another functor fails the match,
and then no unifier exists. -/
theorem Matches.getStructure (hwf : a.WellFormed)
    (he : a.entries[x]? = some (.compound name regs.length regs)) {seen : List Nat} {m : State}
    (hm : Matches a h₁ A N B x seen m) :
    Concludes (Stops a h₁ A) m [.getStructure ⟨name, regs.length⟩ x] fun m' =>
      ∃ mode first, MatchesIn a h₁ A N B x name regs mode first 0 seen m' := by
  obtain ⟨mode₀, hready⟩ := hm.ready
  have ho := hready.isOpen
  have hw := ho.sound.heap_wf
  have hc0 : m.cursor = none := hready.awaits
  have hcomplete := hready.complete
  have hx : x ∈ a.matchedBelow x := mem_matchedBelow hwf.parented (lt_of_entry he)
  obtain ⟨R, hR⟩ := hready.defined x hx
  obtain ⟨d, v, hg, hto, hv⟩ := getValue_ok hw (ho.sound.registers x R hR)
  -- every model gives `x` the tree at the end of its references
  have hxd : ∀ {V : Type} (M : Nat → Tree V), m.heap.Model M → M (m.address x) = M d :=
    fun M hM => by rw [State.address_of hR]; exact hM.derefsTo hto
  have hEx : ∀ {V : Type} (E : Nat → Tree V), a.Satisfies E →
      E x = Tree.node ⟨name, regs.length⟩ fun i => E (regs.getD i 0) :=
    fun E hE => hE x name _ regs he
  cases v with
  | unbound u =>
      obtain ⟨rfl, hu⟩ := hv
      have hT : u < m.heap.top := (termAt_of_ref hu).lt_top
      obtain ⟨h', hst, hred⟩ := store_ref (h := (m.heap.grow (.str (m.heap.top + 1))).grow
        (.functor ⟨name, regs.length⟩)) (v := u) (w := m.heap.top) (by simp only [grow_top]; omega)
      have hstep := Exec.run_getStructure_unbound (s := { m with steps := m.steps + 1 })
        ho.capacity hc0 hR hg hu hst
      -- the models of the new heap give the variable the new structure's tree
      have hmodel : ∀ {V : Type} (M : Nat → Tree V), h'.Model M ↔
          (m.heap.Model M ∧ M m.heap.top = Tree.node ⟨name, regs.length⟩ fun i =>
            M (m.heap.top + 2 + i)) ∧
            M u = M m.heap.top := fun M => by
        rw [hred.model_iff (grow_cells_of_some _ (grow_cells_of_some _ hu)) (Nat.ne_of_gt hT),
          model_newStructure hw _]
      have htop' : h'.top = m.heap.top + 2 :=
        calc h'.top = ((m.heap.grow (.str (m.heap.top + 1))).grow
              (.functor ⟨name, regs.length⟩)).top := hred.2.1
          _ = m.heap.top + 2 := by simp
      refine .inl (.of_ok ho.stepLimit hstep ⟨.write, m.heap.top + 2,
        hm.enter hwf.parented he (ho.of_run hstep (by simp [hred.1]) rfl rfl rfl) rfl rfl
        (fun M hM => ((hmodel M).1 hM).1.1) (by show m.heap.top ≤ h'.top; omega)
        (fun c hc => ((hc.grow _).grow _).rebind
          (hred.rebinds (grow_cells_of_some _ (grow_cells_of_some _ hu))))
        (fun M hM => ?_) fun M E hM hE hD => ?_⟩)
      · obtain ⟨⟨hM₀, hroot⟩, hbound⟩ := (hmodel M).1 hM
        rw [hxd M hM₀, hbound, hroot]
      · -- extend the model above the top by the new structure and its argument cells
        let M' : Nat → Tree _ := fun c =>
          if c < m.heap.top then M c
          else if c = m.heap.top then E x else E (regs.getD (c - (m.heap.top + 2)) 0)
        have hagree : ∀ c < m.heap.top, M' c = M c := fun c hc => if_pos hc
        have hargs : ∀ i, M' (m.heap.top + 2 + i) = E (regs.getD i 0) := fun i => by
          simp only [M']
          rw [if_neg (by omega), if_neg (by omega), Nat.add_sub_cancel_left]
        have hroot : M' m.heap.top = E x := by simp [M']
        refine ⟨M', (hmodel M').2 ⟨⟨hM.of_agree hw hcomplete hagree, ?_⟩, ?_⟩, hagree,
          fun i _ => hargs i⟩
        · rw [hroot, hEx E hE]
          simp only [hargs]
        · rw [hagree u hT, hroot, ← hD x hx, hxd M hM]
  | struct g first =>
      by_cases hgf : g = ⟨name, regs.length⟩
      · subst hgf
        have hstep := Exec.run_getStructure_read (s := { m with steps := m.steps + 1 }) hc0 hR hg
        refine .inl (.of_ok ho.stepLimit hstep ⟨.read, first,
          hm.enter hwf.parented he (ho.of_run hstep rfl rfl rfl rfl) rfl rfl (fun M hM => hM)
            (Nat.le_refl _) (fun _ hc => hc) (fun M hM => by rw [hxd M hM]; exact hM.valueAt_struct hv)
            fun M E hM hE hD => ⟨M, hM, fun _ _ => rfl, fun i hi => ?_⟩⟩)
        -- reading, the argument cells already have the trees of the argument registers
        have hroot := hD x hx
        rw [hxd M hM, hM.valueAt_struct hv, hEx E hE, Tree.node_eq_node] at hroot
        exact hroot.2 i hi
      · refine .of_stop (runFrom_of_failed ho.stepLimit
          (Exec.run_getStructure_clash (s := { m with steps := m.steps + 1 }) hgf hR hg))
          fun _ => ⟨rfl, hm.reaches.apart fun M E hM hE hD _ => hgf ?_⟩
        have hroot := hD x hx
        rw [hxd M hM, hM.valueAt_struct hv, hEx E hE, Tree.node_eq_node] at hroot
        exact hroot.1

theorem mem_take_succ {L : List Nat} {j z : Nat} (hj : j < regs.length) :
    z ∈ L ++ regs.take (j + 1) ↔ z ∈ L ++ regs.take j ∨ z = regs.getD j 0 := by
  rw [take_succ_getD hj, ← List.append_assoc, List.mem_append, List.mem_singleton]

theorem seen_of_mem {j : Nat} (hj : j < regs.length) {seen : List Nat}
    (hseen : ∀ r, r ∈ seen ↔ a.isVarRegister r = true ∧ r ∈ a.argsBelow x ++ regs.take j)
    (hr : regs.getD j 0 ∈ seen) :
    ∀ r, r ∈ seen ↔ a.isVarRegister r = true ∧ r ∈ a.argsBelow x ++ regs.take (j + 1) := by
  intro r
  rw [mem_take_succ hj]
  constructor
  · intro hmem
    obtain ⟨hk, hin⟩ := (hseen r).1 hmem
    exact ⟨hk, .inl hin⟩
  · rintro ⟨hk, hin | rfl⟩
    · exact (hseen r).2 ⟨hk, hin⟩
    · exact hr

theorem seen_cons {j : Nat} (hj : j < regs.length) {seen : List Nat}
    (hseen : ∀ r, r ∈ seen ↔ a.isVarRegister r = true ∧ r ∈ a.argsBelow x ++ regs.take j)
    (hk : a.isVarRegister (regs.getD j 0) = true) :
    ∀ r, r ∈ regs.getD j 0 :: seen ↔
      a.isVarRegister r = true ∧ r ∈ a.argsBelow x ++ regs.take (j + 1) := by
  intro r
  rw [mem_take_succ hj, List.mem_cons]
  constructor
  · rintro (rfl | hmem)
    · exact ⟨hk, .inr rfl⟩
    · obtain ⟨hk', hin⟩ := (hseen r).1 hmem
      exact ⟨hk', .inl hin⟩
  · rintro ⟨hk', hin | rfl⟩
    · exact .inr ((hseen r).2 ⟨hk', hin⟩)
    · exact .inl rfl

theorem seen_of_not_var {j : Nat} (hj : j < regs.length) {seen : List Nat}
    (hseen : ∀ r, r ∈ seen ↔ a.isVarRegister r = true ∧ r ∈ a.argsBelow x ++ regs.take j)
    (hk : a.isVarRegister (regs.getD j 0) = false) :
    ∀ r, r ∈ seen ↔ a.isVarRegister r = true ∧ r ∈ a.argsBelow x ++ regs.take (j + 1) := by
  intro r
  rw [mem_take_succ hj]
  constructor
  · intro hmem
    obtain ⟨hk', hin⟩ := (hseen r).1 hmem
    exact ⟨hk', .inl hin⟩
  · rintro ⟨hk', hin | rfl⟩
    · exact (hseen r).2 ⟨hk', hin⟩
    · rw [hk] at hk'
      cases hk'

/-- `unify_value` on a variable met before: reading, the variable is unified with the argument
cell, and a clash shows that no unifier exists; writing, a copy of the variable's cell becomes
the argument. -/
theorem MatchesIn.unifyValue (hp : a.Parented) {mode : Mode} {first j : Nat} {seen : List Nat}
    {m : State} (hm : MatchesIn a h₁ A N B x name regs mode first j seen m)
    (hj : j < regs.length) (hr : regs.getD j 0 ∈ seen) :
    Concludes (Stops a h₁ A) m [.unifyValue (regs.getD j 0)]
      (MatchesIn a h₁ A N B x name regs mode first (j + 1) seen) := by
  have hrD : regs.getD j 0 ∈ a.matchedBelow x ++ regs.take j := by
    rw [matchedBelow_eq, List.cons_append]
    exact List.mem_cons_of_mem _ ((hm.seen _).1 hr).2
  have hseen := seen_of_mem hj hm.seen hr
  have hcur : m.cursor = some ⟨mode, first, regs.length, j⟩ := hm.cursor.eq_some hj
  have ho := hm.ready.isOpen
  obtain ⟨R, hR⟩ := hm.ready.defined _ hrD
  have hRr : m.address (regs.getD j 0) = R := State.address_of hR
  -- what a model reached gives the argument cell
  have hpend : ∀ {V : Type} (M E : Nat → Tree V), (∀ q ∈ blockArgs first regs, M q.1 = E q.2) →
      M (first + j) = E (regs.getD j 0) :=
    fun M E h => h _ (mem_blockArgs.2 ⟨j, hj, rfl⟩)
  cases mode with
  | write =>
      have hready := hm.ready.pred_awaited hj
      obtain ⟨c, hc, -, -, htopc⟩ := hready.top_eq
      rw [hcur] at hc
      cases hc
      -- the copy on top is the argument cell
      obtain ⟨m', hrun, hready', hregs, hcur', cell, hheap, hmodel⟩ :=
        goesThrough_writeValue_models hready hrD hR (.inr rfl)
      rw [show m.heap.top = first + j from htopc] at hmodel
      have haddr : m'.address (regs.getD j 0) = R := by
        rw [← hRr]
        simp only [State.address, hregs]
      exact GoesThrough.concludes ⟨m', hrun, hm.advance hp hj hready'.isOpen hcur'
        (fun z _ => by rw [hregs]) ⟨R, by rw [hregs]; exact hR⟩ hseen
        (fun M hM => ((hmodel M).1 hM).1) (by rw [hheap]; simp)
        (fun c hc => by rw [hheap]; exact hc.grow _)
        (fun M hM => by rw [haddr]; exact ((hmodel M).1 hM).2.symm) (.inr hrD)
        fun M E hM hD hp' => (hmodel M).2 ⟨hM, by rw [hpend M E hp', ← hRr, hD _ hrD]⟩⟩
  | read =>
      have hstep := Exec.run_unifyValue_read (s := { m with steps := m.steps + 1 }) hcur rfl
        (Nat.ne_of_lt hj) hR
      -- reading, no structure is pending, so the heap is complete
      have hcomplete : m.heap.Complete none := by
        have := ho.sound.complete
        rwa [hcur, Cursor.pending_read rfl] at this
      have hpairs : m.heap.PairsAt [(R, first + j)] := by
        intro q hq
        rw [List.mem_singleton] at hq
        subst hq
        exact ⟨ho.sound.registers _ R hR, (ho.sound.cursor hcur).next_termAt rfl⟩
      obtain ⟨hreb, -, hnf⟩ := unifyPairs_safe m.unifyBudget ho.sound.heap_wf hcomplete hpairs
      have hU : ∀ V : Type, Unifies V m.heap [(R, first + j)]
          (m.heap.unifyPairs m.unifyBudget [(R, first + j)]) := fun V =>
        unifyPairs_unifies m.unifyBudget ho.sound.heap_wf hcomplete hpairs
      -- a model solves the pair exactly when it gives the variable the argument's tree
      have hsolves : ∀ {V : Type} (M E : Nat → Tree V),
          (∀ r ∈ a.matchedBelow x ++ regs.take j, M (m.address r) = E r) →
          (∀ q ∈ blockArgs first regs, M q.1 = E q.2) → Solves M [(R, first + j)] := by
        intro V M E hD hp' q hq
        rw [List.mem_singleton] at hq
        subst hq
        show M R = M (first + j)
        rw [← hRr, hD _ hrD, hpend M E hp']
      dsimp only [Heap.unify, Cursor.next] at hstep
      generalize m.heap.unifyPairs m.unifyBudget [(R, first + j)] = res at hreb hnf hstep hU
      obtain ⟨h', outcome⟩ := res
      cases outcome with
      | unified =>
          exact GoesThrough.concludes (.of_ok ho.stepLimit hstep (hm.advance hp hj
            (ho.of_run hstep hreb.1 rfl rfl rfl) (fun c hc => by rw [hcur] at hc; cases hc; rfl)
            (fun z _ => rfl) ⟨R, hR⟩ hseen (fun M hM => ((hU _ M).1 hM).1)
            (Nat.le_of_eq hreb.top_eq.symm) (fun _ hc => hc.rebind hreb)
            (fun M hM => by
              show M (m.address (regs.getD j 0)) = M (first + j)
              rw [hRr]
              exact ((hU _ M).1 hM).2 _ List.mem_cons_self)
            (.inr hrD) fun M E hM hD hp' => (hU _ M).2 ⟨hM, hsolves M E hD hp'⟩))
      | clash =>
          exact .of_stop (runFrom_of_failed ho.stepLimit hstep) fun _ =>
            ⟨rfl, hm.reaches.apart fun M E hM _ hD hp' => hU _ M hM (hsolves M E hD hp')⟩
      | fault e => exact absurd rfl (hnf e)
      | unfinished => exact .of_stop (runFrom_of_error ho.stepLimit hstep) fun h => by cases h

/-- `unify_variable` on a register not matched before: reading, the register takes the argument
cell; writing, a new unbound variable on top. -/
theorem MatchesIn.unifyVariable (hp : a.Parented) (hN : ∀ r ∈ regs, r < N) {mode : Mode}
    {first j : Nat} {seen seen' : List Nat} {m : State}
    (hm : MatchesIn a h₁ A N B x name regs mode first j seen m) (hj : j < regs.length)
    (hfresh : regs.getD j 0 ∉ a.matchedBelow x ++ regs.take j)
    (hseen : ∀ r, r ∈ seen' ↔ a.isVarRegister r = true ∧ r ∈ a.argsBelow x ++ regs.take (j + 1)) :
    m.GoesThrough [.unifyVariable (regs.getD j 0)]
      (MatchesIn a h₁ A N B x name regs mode first (j + 1) seen') := by
  have hrN : regs.getD j 0 < N :=
    hN _ (by rw [List.getD_eq_getElem _ _ hj]; exact List.getElem_mem hj)
  have hcur : m.cursor = some ⟨mode, first, regs.length, j⟩ := hm.cursor.eq_some hj
  have ho := hm.ready.isOpen
  have hsize : regs.getD j 0 < m.registers.size := by rw [ho.size]; exact hrN
  -- the register written is none matched before
  have hkeep : ∀ {m' : State} {v : Nat},
      m'.registers = m.registers.modify (regs.getD j 0) (fun _ => some v) →
      ∀ z ∈ a.matchedBelow x ++ regs.take j, m'.registers[z]? = m.registers[z]? :=
    fun hregs z hz => State.Kept.modify hregs z fun h => hfresh (h ▸ hz)
  have hready := hm.ready.pred_awaited hj
  cases mode with
  | read =>
      obtain ⟨m', hrun, hready', hheap, hnext⟩ := goesThrough_unifyVariable_read_eq hready hrN
      obtain ⟨hcur', hregs⟩ := hnext _ hcur
      have haddr : m'.address (regs.getD j 0) = first + j := State.address_of_modify hregs hsize
      exact ⟨m', hrun, hm.advance hp hj hready'.isOpen (fun c hc => by rw [hcur] at hc; cases hc; exact hcur')
        (hkeep hregs) ⟨_, State.register_of_modify hregs hsize⟩ hseen
        (fun M hM => by rw [hheap] at hM; exact hM) (Nat.le_of_eq (congrArg Heap.top hheap).symm)
        (fun c hc => by rw [hheap]; exact hc) (fun M _ => by rw [haddr])
        (.inl haddr) fun M E hM _ _ => by rw [hheap]; exact hM⟩
  | write =>
      obtain ⟨c, hc, -, -, htopc⟩ := hready.top_eq
      rw [hcur] at hc
      cases hc
      obtain ⟨m', hrun, hready', hheap, hregs, hcur'⟩ :=
        goesThrough_writeVariable_eq hready hrN (.inr rfl)
      have haddr : m'.address (regs.getD j 0) = first + j := by
        rw [State.address_of_modify hregs hsize]
        exact htopc
      exact ⟨m', hrun, hm.advance hp hj hready'.isOpen hcur'
        (hkeep hregs) ⟨_, State.register_of_modify hregs hsize⟩ hseen
        (fun M hM => by rw [hheap] at hM; exact model_grow_unbound.1 hM) (by rw [hheap]; simp)
        (fun c hc => by rw [hheap]; exact hc.grow _) (fun M _ => by rw [haddr]) (.inl haddr)
        fun M E hM _ _ => by rw [hheap]; exact model_grow_unbound.2 hM⟩

theorem concludes_matchArgument (hl : a.Layout) (hwf : a.WellFormed) (hN : ∀ r ∈ regs, r < N)
    (h0 : ∀ y, 0 ∉ a.argumentsOf y) {m₀ : State} {acc : List Instruction × List Nat} {j : Nat}
    (hj : j < regs.length)
    (h : Concludes (Stops a h₁ A) m₀ acc.1 fun m =>
      ∃ mode first, MatchesIn a h₁ A N B x name regs mode first j acc.2 m) :
    Concludes (Stops a h₁ A) m₀ (matchArgument a acc (regs.getD j 0)).1 fun m =>
      ∃ mode first, MatchesIn a h₁ A N B x name regs mode first (j + 1)
        (matchArgument a acc (regs.getD j 0)).2 m := by
  unfold matchArgument
  split
  · rename_i n hvar
    have hk : a.isVarRegister (regs.getD j 0) = true := isVarRegister_of_var hvar
    split
    · -- a variable met before is unified with the argument
      rename_i hseen
      exact h.append fun m ⟨mode, first, hm⟩ =>
        (hm.unifyValue hwf.parented hj (by simpa using hseen)).mono fun m' hm' => ⟨mode, first, hm'⟩
    · -- a variable met for the first time takes the argument
      rename_i hseen
      refine h.append fun m ⟨mode, first, hm⟩ => ?_
      have hr : regs.getD j 0 ∉ acc.2 := by simpa using hseen
      exact (hm.unifyVariable hwf.parented hN hj (fresh_of_unseen h0 hm.entry hj hm.seen hk hr)
        (seen_cons hj hm.seen hk)).concludes.mono fun m' hm' => ⟨mode, first, hm'⟩
  · -- a structure argument is taken into its register, to be matched in its own block
    rename_i hnv
    have hk : a.isVarRegister (regs.getD j 0) = false := isVarRegister_of_not_var hnv
    exact h.append fun m ⟨mode, first, hm⟩ =>
      (hm.unifyVariable hwf.parented hN hj (fresh_of_not_var hl h0 hm.entry hj hk)
        (seen_of_not_var hj hm.seen hk)).concludes.mono fun m' hm' => ⟨mode, first, hm'⟩

theorem concludes_matchRegister (hl : a.Layout) (hwf : a.WellFormed) (hN : a.registerCount ≤ N)
    (h0 : ∀ y, 0 ∉ a.argumentsOf y) (he : a.entries[x]? = some (.compound name regs.length regs))
    {seen : List Nat} {m : State} (hm : Matches a h₁ A N B x seen m) :
    Concludes (Stops a h₁ A) m (matchRegister a x (.compound name regs.length regs) seen).1
      (Matches a h₁ A N B (x + 1) (matchRegister a x (.compound name regs.length regs) seen).2) := by
  have hregsN : ∀ r ∈ regs, r < N := fun r hr =>
    Nat.lt_of_lt_of_le (hwf.argsAllocated x _ _ _ he r hr) hN
  rw [matchRegister_compound]
  exact (foldl_matchArgument_induction a regs
    (Q := fun j acc => Concludes (Stops a h₁ A) m acc.1 fun m' =>
      ∃ mode first, MatchesIn a h₁ A N B x name regs mode first j acc.2 m')
    (fun j acc hj h => concludes_matchArgument hl hwf hregsN h0 hj h)
    (hm.getStructure hwf he)).mono fun m' ⟨_, _, hm'⟩ => hm'.leave

theorem concludes_matchBelow (hl : a.Layout) (hwf : a.WellFormed) (hN : a.registerCount ≤ N)
    (h0 : ∀ y, 0 ∉ a.argumentsOf y) {m₁ : State} (hm₁ : Matches a h₁ A N B 0 [] m₁) :
    ∀ k, k ≤ a.registerCount →
      Concludes (Stops a h₁ A) m₁ ((List.range k).foldl (matchStep a) ([], [])).1
        (Matches a h₁ A N B k ((List.range k).foldl (matchStep a) ([], [])).2) :=
  matchBelow_induction (motive := fun k acc =>
      Concludes (Stops a h₁ A) m₁ acc.1 (Matches a h₁ A N B k acc.2)) hwf (.inl ⟨m₁, .nil _, hm₁⟩)
    (fun _ _ _ _ _ he ih => ih.append fun _ hm => concludes_matchRegister hl hwf hN h0 he hm)
    fun _ _ _ he ih => ih.mono fun _ hm => hm.skip he

end

theorem Allocation.zero_not_mem_argumentsOf (t : Term) (y : Nat) :
    0 ∉ (allocate t).argumentsOf y := by
  intro h0
  obtain ⟨n, arity, args, he, hmem⟩ := entry_of_argumentsOf h0
  cases t with
  | compound name targs =>
      have hroot : (allocate (.compound name targs)).isVarRegister 0 = false := by
        rw [(allocate_holds name targs).isVarRegister]
        rfl
      have := ((allocate_layout _).ordered y n arity args he).2 0 hmem hroot
      omega
  -- a bare term has one register, which holds no structure
  | var name =>
      simp only [allocate_eq_numberRegisters, numberRegisters, Allocation.allocVar, Allocation.varRegister?, Allocation.empty,
        Allocation.push] at he
      cases y <;> simp at he
  | atom name | number d =>
      simp only [allocate_eq_numberRegisters, numberRegisters, Allocation.empty, Allocation.push] at he
      cases y <;> simp at he

/-- The code of a program term, run from a machine holding the address `A` in `X0`, matches
every structure register or stops the run by a failure to unify when no unifier exists. -/
theorem compileProgram_concludes (p : Term) {N B : Nat} (hN : (compileProgram p).registerCount ≤ N)
    {m₁ : State} {mode : Mode} (hs : m₁.Ready N B mode 0 [0]) {A : Nat}
    (hA : m₁.registers[0]? = some (some A)) :
    Concludes (Stops (allocate p) m₁.heap A) m₁ (compileProgram p).code fun m =>
      ∃ seen, Matches (allocate p) m₁.heap A N B (allocate p).registerCount seen m := by
  have hm₁ : Matches (allocate p) m₁.heap A N B 0 [] m₁ :=
    ⟨⟨hA, fun M hM => hM, Nat.le_refl _, fun _ hc => hc⟩, ⟨mode, hs⟩, fun r => by simp [argsBelow],
      fun V M _ y hy => absurd hy (Nat.not_lt_zero y), fun V M₀ E hM₀ _ hroot =>
        ⟨M₀, hM₀, fun _ _ => rfl, fun r hr => by
          rw [show r = 0 by simpa [Allocation.matchedBelow] using hr, State.address_of hA, hroot],
          fun _ h => absurd h List.not_mem_nil⟩⟩
  rw [compileProgram_code]
  exact (concludes_matchBelow (allocate_layout p) (allocate_wellFormed p) hN
    (Allocation.zero_not_mem_argumentsOf p) hm₁ _ (Nat.le_refl _)).mono fun m hm => ⟨_, hm⟩

end Compile

end UnifyMachine
