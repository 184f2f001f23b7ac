import Mathlib.Data.List.Perm.Subperm
import UnifyMachine.Proofs.Machine.Runs
import UnifyMachine.Toplevel.Answer

/-!
# Reading back any term of a heap

Reading back the term at an address of a machine that runs reached, not failed and with no
structure half written, never faults and never runs out of fuel, even on a cyclic heap: the
structures a read lies inside are distinct functor cells, fewer than the fuel, which is as large
as the heap. Only a functor cell is refused, as no term.

What the read gives is the heap term unfolded along every path of argument indices
(`follow`), cut where a path comes back to a structure it has already passed (`ComesBack`):
there it shows the variable named after that structure. A heap term that no path comes back
into reads as its whole unfolding, each unbound variable named by its recorded name or its
address, each structure of arity zero an atom.
-/

namespace UnifyMachine

namespace Term

mutual
/-- The subterm at a path of argument indices, if the path stays in the term. -/
def subtermAt : Term → List Nat → Option Term
  | t, [] => some t
  | .compound _ args, i :: path => subtermAtList args i path
  | _, _ :: _ => none

/-- The subterm at `path` inside argument `i` of a list of arguments. -/
def subtermAtList : List Term → Nat → List Nat → Option Term
  | [], _, _ => none
  | t :: _, 0, path => t.subtermAt path
  | _ :: ts, i + 1, path => subtermAtList ts i path
end

theorem subtermAtList_eq (args : List Term) (i : Nat) (path : List Nat) :
    subtermAtList args i path = args[i]?.bind (·.subtermAt path) := by
  induction args generalizing i with
  | nil => simp [subtermAtList]
  | cons t ts ih => cases i <;> simp [subtermAtList, ih]

end Term

namespace Machine

theorem State.Sound.pending_open {m : State} (hs : m.Sound) {fa : Nat}
    (hp : Cursor.pending m.cursor = some fa) :
    ∃ c, m.cursor = some c ∧ c.mode = .write ∧ fa = c.firstTerm - 1 ∧
      ∃ f, m.heap.cells[fa]? = some (.functor f) ∧ ∃ j < f.arity, m.heap.cells[fa + 1 + j]? = none := by
  cases hcur : m.cursor with
  | none =>
      rw [hcur, Cursor.pending_none] at hp
      cases hp
  | some c =>
      cases hmode : c.mode with
      | read =>
          rw [hcur, Cursor.pending_read hmode] at hp
          cases hp
      | write =>
          rw [hcur, Cursor.pending_write hmode, Option.some.injEq] at hp
          subst hp
          obtain ⟨hidx, hfit⟩ := hs.cursor hcur
          rw [hmode] at hfit
          obtain ⟨hpos, ⟨f, hf, harity⟩, htop, -⟩ := hfit
          refine ⟨c, rfl, hmode, rfl, f, hf, c.index, harity ▸ hidx, ?_⟩
          -- the next argument goes on top of the heap
          have hnext : c.firstTerm - 1 + 1 + c.index = m.heap.cells.size := by
            rw [show m.heap.cells.size = m.heap.top from rfl, htop, Cursor.next]
            omega
          rw [hnext]
          exact Array.getElem?_eq_none (Nat.le_refl _)

end Machine

namespace Toplevel

open Machine Heap

/-! ## Paths through a heap term -/

/-- Following `path` from address `a`, each index an argument of the structure before it: the
identities of the structures passed through, outermost first, and the value at the end. -/
def follow (h : Heap) (a : Nat) : List Nat → Option (List Identity × Value)
  | [] => (h.getValue a).toOption.map fun r => ([], r.2)
  | i :: path =>
    match h.getValue a with
    | .ok (_, .struct f first) =>
      if i < f.arity then (follow h (first + i) path).map fun r => (.struct first :: r.1, r.2)
      else none
    | _ => none

/-- The path from `a` ends at a structure that the read already lies inside: one of `parents`,
or one the path passed through. -/
def ComesBack (h : Heap) (parents : List Identity) (a : Nat) (path : List Nat) : Prop :=
  ∃ ids v, follow h a path = some (ids, v) ∧ Identity.of v ∈ ids ++ parents

/-- What a term read back at a value shows at its root, `again` telling whether the read lies
inside that value already: an unbound variable, or a structure met again, is the variable of its
name; a structure of arity zero is the atom of its name; any other structure is its name over as
many arguments as its arity. -/
def Shows (names : Names) (again : Prop) : Value → Term → Prop
  | .unbound u, s => s = .var (nameOf names (.var u))
  | .struct f first, s =>
      (again ∧ s = .var (nameOf names (.struct first))) ∨
      (¬ again ∧ f.arity = 0 ∧ s = .atom f.name) ∨
      (¬ again ∧ f.arity ≠ 0 ∧ ∃ args, s = .compound f.name args ∧ args.length = f.arity)

/-- `t` is the heap term at `a` read back inside the structures `parents`, cut where it comes
back to a structure. -/
structure Reads (h : Heap) (names : Names) (parents : List Identity) (a : Nat) (t : Term) :
    Prop where
  /-- The paths of `t` are the paths of the heap term that come back to no structure before
  their end. -/
  paths : ∀ path, (t.subtermAt path).isSome ↔
    (∀ k < path.length, ¬ ComesBack h parents a (path.take k)) ∧ (follow h a path).isSome
  /-- The subterm at each path of `t` shows the value at the end of that path. -/
  shows : ∀ path s, t.subtermAt path = some s →
    ∃ ids v, follow h a path = some (ids, v) ∧ Shows names (Identity.of v ∈ ids ++ parents) v s

/-- `t` is the whole unfolding of the heap term at `a`: its paths are the heap term's, and the
subterm at each shows the value there, no structure being met again. -/
structure Unfolds (h : Heap) (names : Names) (a : Nat) (t : Term) : Prop where
  paths : ∀ path, (t.subtermAt path).isSome ↔ (follow h a path).isSome
  shows : ∀ path s, t.subtermAt path = some s →
    ∃ ids v, follow h a path = some (ids, v) ∧ Shows names False v s

/-- The read from `a` inside `parents` meets the structure of the functor cell `fa`: a path that
comes back to no structure before its end ends there, at a structure not met before. -/
def Meets (h : Heap) (parents : List Identity) (a fa : Nat) (path : List Nat) : Prop :=
  (∀ k < path.length, ¬ ComesBack h parents a (path.take k)) ∧
    ∃ ids f, follow h a path = some (ids, .struct f (fa + 1)) ∧
      Identity.struct (fa + 1) ∉ ids ++ parents

theorem mem_cons_append_comm {x y : Identity} {ids parents : List Identity} :
    x ∈ (y :: ids) ++ parents ↔ x ∈ ids ++ y :: parents := by
  simp only [List.cons_append, List.mem_cons, List.mem_append]
  tauto

section Paths

variable {h : Heap} {a d : Nat}

theorem follow_nil {v : Value} (hg : h.getValue a = .ok (d, v)) : follow h a [] = some ([], v) := by
  simp only [follow, hg]
  rfl

theorem follow_cons {f : Functor} {first i : Nat} (hg : h.getValue a = .ok (d, .struct f first))
    (hi : i < f.arity) (path : List Nat) :
    follow h a (i :: path) =
      (follow h (first + i) path).map fun r => (.struct first :: r.1, r.2) := by
  simp only [follow, hg, if_pos hi]

theorem follow_cons_of_le {f : Functor} {first i : Nat}
    (hg : h.getValue a = .ok (d, .struct f first)) (hi : f.arity ≤ i) (path : List Nat) :
    follow h a (i :: path) = none := by
  simp only [follow, hg, if_neg (Nat.not_lt.2 hi)]

theorem follow_cons_of_unbound {u : Nat} (hg : h.getValue a = .ok (d, .unbound u)) (i : Nat)
    (path : List Nat) : follow h a (i :: path) = none := by
  simp only [follow, hg]

theorem comesBack_nil {v : Value} (hg : h.getValue a = .ok (d, v)) {parents : List Identity} :
    ComesBack h parents a [] ↔ Identity.of v ∈ parents := by
  simp [ComesBack, follow_nil hg]

theorem comesBack_cons {f : Functor} {first i : Nat} (hg : h.getValue a = .ok (d, .struct f first))
    (hi : i < f.arity) {parents : List Identity} (path : List Nat) :
    ComesBack h parents a (i :: path) ↔ ComesBack h (.struct first :: parents) (first + i) path := by
  simp only [ComesBack, follow_cons hg hi, Option.map_eq_some_iff]
  constructor
  · rintro ⟨ids', v, ⟨⟨ids, v'⟩, hr, heq⟩, hmem⟩
    simp only [Prod.mk.injEq] at heq
    obtain ⟨rfl, rfl⟩ := heq
    exact ⟨ids, _, hr, mem_cons_append_comm.1 hmem⟩
  · rintro ⟨ids, v, hr, hmem⟩
    exact ⟨_, v, ⟨(ids, v), hr, rfl⟩, mem_cons_append_comm.2 hmem⟩

theorem forall_take_cons {P : List Nat → Prop} {i : Nat} {path : List Nat} :
    (∀ k < (i :: path).length, P ((i :: path).take k)) ↔
      P [] ∧ ∀ k < path.length, P (i :: path.take k) := by
  constructor
  · intro hall
    exact ⟨hall 0 (by simp), fun k hk => hall (k + 1) (by simp; omega)⟩
  · rintro ⟨hnil, hcons⟩ k hk
    cases k with
    | zero => exact hnil
    | succ k => exact hcons k (by simp at hk; omega)

end Paths

/-! ## Reading back one value -/

section Cases

variable {h : Heap} {names : Names} {parents : List Identity} {a d : Nat}

theorem reads_unbound {u : Nat} (hg : h.getValue a = .ok (d, .unbound u)) :
    Reads h names parents a (.var (nameOf names (.var u))) := by
  refine ⟨fun path => ?_, fun path s hs => ?_⟩
  · cases path with
    | nil => simp [follow_nil hg, Term.subtermAt]
    | cons i path => simp [follow_cons_of_unbound hg, Term.subtermAt]
  · cases path with
    | nil =>
        simp only [Term.subtermAt, Option.some.injEq] at hs
        exact ⟨[], _, follow_nil hg, hs ▸ rfl⟩
    | cons i path => simp [Term.subtermAt] at hs

theorem reads_again {f : Functor} {first : Nat} (hg : h.getValue a = .ok (d, .struct f first))
    (hmem : Identity.struct first ∈ parents) :
    Reads h names parents a (.var (nameOf names (.struct first))) := by
  have hback : ComesBack h parents a [] := (comesBack_nil hg).2 hmem
  refine ⟨fun path => ?_, fun path s hs => ?_⟩
  · cases path with
    | nil => simp [follow_nil hg, Term.subtermAt]
    | cons i path =>
        simp only [Term.subtermAt, Option.isSome_none, Bool.false_eq_true, false_iff, not_and]
        exact fun hall => absurd hback (hall 0 (by simp))
  · cases path with
    | nil =>
        simp only [Term.subtermAt, Option.some.injEq] at hs
        exact ⟨[], _, follow_nil hg, .inl ⟨by simpa [Identity.of] using hmem, hs.symm⟩⟩
    | cons i path => simp [Term.subtermAt] at hs

theorem reads_constant {f : Functor} {first : Nat} (hg : h.getValue a = .ok (d, .struct f first))
    (hnot : Identity.struct first ∉ parents) (h0 : f.arity = 0) :
    Reads h names parents a (.atom f.name) := by
  refine ⟨fun path => ?_, fun path s hs => ?_⟩
  · cases path with
    | nil => simp [follow_nil hg, Term.subtermAt]
    | cons i path => simp [follow_cons_of_le hg (h0 ▸ Nat.zero_le i), Term.subtermAt]
  · cases path with
    | nil =>
        simp only [Term.subtermAt, Option.some.injEq] at hs
        exact ⟨[], _, follow_nil hg,
          .inr (.inl ⟨by simpa [Identity.of] using hnot, h0, hs.symm⟩)⟩
    | cons i path => simp [Term.subtermAt] at hs

/-- A structure the read does not lie inside yet, of arity at least one, shows its name over its
arguments, each read back inside it. -/
theorem reads_compound {f : Functor} {first : Nat} (hg : h.getValue a = .ok (d, .struct f first))
    (hnot : Identity.struct first ∉ parents) (h0 : f.arity ≠ 0) {ts : List Term}
    (hlen : ts.length = f.arity)
    (hts : ∀ i (hi : i < ts.length), Reads h names (.struct first :: parents) (first + i) ts[i]) :
    Reads h names parents a (.compound f.name ts) := by
  have hroot : ¬ ComesBack h parents a [] := fun hb => hnot ((comesBack_nil hg).1 hb)
  refine ⟨fun path => ?_, fun path s hs => ?_⟩
  · cases path with
    | nil => simp [follow_nil hg, Term.subtermAt]
    | cons i path =>
        rw [forall_take_cons (P := fun q => ¬ ComesBack h parents a q)]
        by_cases hi : i < f.arity
        · -- below the arity, the paths through argument `i` are those of its reading
          have hi' : i < ts.length := hlen ▸ hi
          rw [Term.subtermAt, Term.subtermAtList_eq, List.getElem?_eq_getElem hi', Option.bind_some,
            (hts i hi').paths path, follow_cons hg hi, Option.isSome_map]
          simp only [comesBack_cons hg hi]
          exact ⟨fun hr => ⟨⟨hroot, hr.1⟩, hr.2⟩, fun hr => ⟨hr.1.2, hr.2⟩⟩
        · have hi' : ¬ i < ts.length := hlen ▸ hi
          rw [Term.subtermAt, Term.subtermAtList_eq, List.getElem?_eq_none (Nat.not_lt.1 hi'),
            follow_cons_of_le hg (Nat.not_lt.1 hi)]
          simp
  · cases path with
    | nil =>
        simp only [Term.subtermAt, Option.some.injEq] at hs
        exact ⟨[], _, follow_nil hg,
          .inr (.inr ⟨by simpa [Identity.of] using hnot, h0, ts, hs.symm, hlen⟩)⟩
    | cons i path =>
        rw [Term.subtermAt, Term.subtermAtList_eq, Option.bind_eq_some_iff] at hs
        obtain ⟨t, ht, hs⟩ := hs
        obtain ⟨hi', rfl⟩ := List.getElem?_eq_some_iff.1 ht
        obtain ⟨ids, v, hf, hshow⟩ := (hts i hi').shows path s hs
        refine ⟨.struct first :: ids, v, ?_, ?_⟩
        · rw [follow_cons hg (hlen ▸ hi'), hf]
          rfl
        · -- the structure entered moves from the parents to the identities passed
          rw [propext mem_cons_append_comm]
          exact hshow

theorem meets_nil {f : Functor} {fa : Nat} (hg : h.getValue a = .ok (d, .struct f (fa + 1)))
    (hnot : Identity.struct (fa + 1) ∉ parents) : Meets h parents a fa [] :=
  ⟨fun k hk => absurd hk (Nat.not_lt_zero k), [], f, follow_nil hg, by simpa using hnot⟩

theorem Meets.cons {f : Functor} {first i fa : Nat} (hg : h.getValue a = .ok (d, .struct f first))
    (hi : i < f.arity) (hnot : Identity.struct first ∉ parents) {path : List Nat}
    (hm : Meets h (.struct first :: parents) (first + i) fa path) :
    Meets h parents a fa (i :: path) := by
  obtain ⟨hcut, ids, g, hf, hfresh⟩ := hm
  refine ⟨?_, .struct first :: ids, g, ?_, fun hmem => hfresh (mem_cons_append_comm.1 hmem)⟩
  · rw [forall_take_cons (P := fun q => ¬ ComesBack h parents a q)]
    refine ⟨fun hb => hnot ((comesBack_nil hg).1 hb), fun k hk => ?_⟩
    rw [comesBack_cons hg hi]
    exact hcut k hk
  · rw [follow_cons hg hi, hf]
    rfl

end Cases

/-- With no path coming back, the cut reading is the whole unfolding. -/
theorem Reads.unfolds {h : Heap} {names : Names} {a : Nat} {t : Term} (hr : Reads h names [] a t)
    (hacyclic : ∀ path, ¬ ComesBack h [] a path) : Unfolds h names a t := by
  refine ⟨fun path => ?_, fun path s hs => ?_⟩
  · rw [hr.paths path]
    exact ⟨fun hp => hp.2, fun hp => ⟨fun k _ => hacyclic _, hp⟩⟩
  · obtain ⟨ids, v, hf, hshow⟩ := hr.shows path s hs
    have hno : (Identity.of v ∈ ids ++ []) = False :=
      propext ⟨fun hmem => hacyclic path ⟨ids, v, hf, hmem⟩, False.elim⟩
    exact ⟨ids, v, hf, hno ▸ hshow⟩

/-! ## The fuel lasts -/

/-- The structures a read lies inside: distinct, each known by the first argument address of a
functor cell. -/
structure Entered (h : Heap) (parents : List Identity) : Prop where
  nodup : parents.Nodup
  struct : ∀ id ∈ parents, ∃ fa f, id = .struct (fa + 1) ∧ h.cells[fa]? = some (.functor f)

namespace Entered

variable {h : Heap} {parents : List Identity}

theorem nil (h : Heap) : Entered h [] :=
  ⟨List.nodup_nil, fun _ hid => absurd hid List.not_mem_nil⟩

theorem cons (he : Entered h parents) {f : Functor} {fa : Nat}
    (hf : h.cells[fa]? = some (.functor f)) (hnot : Identity.struct (fa + 1) ∉ parents) :
    Entered h (.struct (fa + 1) :: parents) := by
  refine ⟨List.nodup_cons.2 ⟨hnot, he.nodup⟩, fun id hid => ?_⟩
  rcases List.mem_cons.1 hid with rfl | hid
  · exact ⟨fa, f, rfl, hf⟩
  · exact he.struct id hid

theorem length_le (he : Entered h parents) : parents.length ≤ h.top := by
  have hsub : parents ⊆ (List.range h.top).map fun fa => Identity.struct (fa + 1) := by
    intro id hid
    obtain ⟨fa, f, rfl, hf⟩ := he.struct id hid
    exact List.mem_map.2 ⟨fa, List.mem_range.2 (Array.getElem?_eq_some_iff.1 hf).1, rfl⟩
  simpa using (he.nodup.subperm hsub).length_le

end Entered

theorem mapM_range_ok {ε α : Type} {g : Nat → Except ε α} {P : Nat → α → Prop} :
    ∀ n, (∀ i < n, ∃ b, g i = .ok b ∧ P i b) →
      ∃ bs : List α, (List.range n).mapM g = .ok bs ∧ bs.length = n ∧
        ∀ i (hi : i < bs.length), P i bs[i]
  | 0, _ => ⟨[], rfl, rfl, fun i hi => absurd hi (Nat.not_lt_zero i)⟩
  | n + 1, hall => by
      obtain ⟨bs, hbs, hlen, hP⟩ := mapM_range_ok n fun i hi => hall i (by omega)
      obtain ⟨b, hb, hPb⟩ := hall n (by omega)
      refine ⟨bs ++ [b], ?_, by simp [hlen], fun i hi => ?_⟩
      · rw [List.range_succ, List.mapM_append, hbs]
        simp [hb]
        rfl
      · rcases Nat.lt_or_ge i bs.length with hi' | hi'
        · rw [List.getElem_append_left hi']
          exact hP i hi'
        · have hin : i = n := by simp at hi; omega
          subst hin
          rw [List.getElem_append_right hi']
          simpa [hlen] using hPb

theorem mapM_range_error {ε α : Type} {g : Nat → Except ε α} {j : Nat} {e : ε}
    (hj : g j = .error e) : ∀ n, j < n → ∃ e', (List.range n).mapM g = .error e'
  | 0, hn => absurd hn (Nat.not_lt_zero j)
  | n + 1, hn => by
      rw [List.range_succ, List.mapM_append]
      cases hr : (List.range n).mapM g with
      | error e' => exact ⟨e', rfl⟩
      | ok bs =>
          -- the numbers below `n` all went through, so `n` is the one that fails
          have hjn : j = n := by
            by_contra hne
            obtain ⟨e', he'⟩ := mapM_range_error hj n (by omega)
            rw [he'] at hr
            cases hr
          subst hjn
          exact ⟨e, by simp [hj]; rfl⟩

section Reify

variable {m : State} {names : Names} {a d : Nat} {parents : List Identity}

/-! One equation for each way a read goes. -/

theorem reify_of_unbound {u : Nat} (hg : m.heap.getValue a = .ok (d, .unbound u)) (fuel : Nat) :
    reify m names fuel a parents = .ok (.var (nameOf names (.var u))) := by
  rw [reify]
  simp [State.lookup, hg, Identity.of]
  rfl

theorem reify_of_again {f : Functor} {first : Nat}
    (hg : m.heap.getValue a = .ok (d, .struct f first)) (hmem : Identity.struct first ∈ parents)
    (fuel : Nat) : reify m names fuel a parents = .ok (.var (nameOf names (.struct first))) := by
  rw [reify]
  simp [State.lookup, hg, Identity.of, hmem]
  rfl

theorem reify_of_atom {f : Functor} {first : Nat}
    (hg : m.heap.getValue a = .ok (d, .struct f first)) (hnot : Identity.struct first ∉ parents)
    (h0 : f.arity = 0) (fuel : Nat) : reify m names fuel a parents = .ok (.atom f.name) := by
  rw [reify]
  simp [State.lookup, hg, Identity.of, hnot, h0]
  rfl

theorem reify_of_compound {f : Functor} {first : Nat}
    (hg : m.heap.getValue a = .ok (d, .struct f first)) (hnot : Identity.struct first ∉ parents)
    (h0 : f.arity ≠ 0) (fuel : Nat) :
    reify m names (fuel + 1) a parents =
      ((List.range f.arity).mapM fun i =>
        reify m names fuel (first + i) (.struct first :: parents)).map (.compound f.name) := by
  rw [reify]
  simp [State.lookup, hg, Identity.of, hnot, h0]
  cases (List.range f.arity).mapM fun i => reify m names fuel (first + i) (.struct first :: parents) <;> rfl

theorem reify_of_functor {f : Functor} (hc : m.heap.cells[a]? = some (.functor f))
    (fuel : Nat) (parents : List Identity) :
    reify m names fuel a parents = .error (.notATerm a) := by
  have hd : m.heap.deref a = .error (.notATerm a) := by
    unfold deref
    rw [derefWithin]
    simp [load_ok hc]
  rw [reify]
  simp [State.lookup, getValue, hd]
  rfl

theorem reify_of_outside (hc : m.heap.cells[a]? = none) (fuel : Nat)
    (parents : List Identity) :
    reify m names fuel a parents = .error (.addressOutOfRange a m.heap.top) := by
  have hd : m.heap.deref a = .error (.addressOutOfRange a m.heap.top) := by
    unfold deref
    rw [derefWithin]
    simp [load, hc]
  rw [reify]
  simp [State.lookup, getValue, hd]
  rfl

/-- Reading back a term cell of a well-formed heap whose functor cells are complete, but for a
pending one whose arguments reach past the top, with fuel and the structures entered adding up
to more than the heap: the read gives the heap term cut where it comes back, or fails after
meeting the pending structure. The induction is on the fuel: each structure entered is a new
functor cell, so the fuel never runs out before the structures do. -/
theorem reify_reads_or_meets (hw : m.heap.WellFormed) {pending : Option Nat}
    (hc : m.heap.Complete pending)
    (hpend : ∀ fa, pending = some fa → ∃ f, m.heap.cells[fa]? = some (.functor f) ∧
      ∃ j < f.arity, m.heap.cells[fa + 1 + j]? = none) (names : Names) :
    ∀ fuel a parents, m.heap.TermAt a → Entered m.heap parents →
      m.heap.top + 1 ≤ fuel + parents.length →
      (∃ t, reify m names fuel a parents = .ok t ∧ Reads m.heap names parents a t) ∨
        ∃ e fa path, pending = some fa ∧ reify m names fuel a parents = .error e ∧
          Meets m.heap parents a fa path := by
  intro fuel
  induction fuel with
  | zero =>
      intro a parents _ he hfuel
      have := he.length_le
      omega
  | succ k ih =>
      intro a parents ha he hfuel
      obtain ⟨d, v, hg, -, hv⟩ := getValue_ok hw ha
      cases v with
      | unbound u => exact .inl ⟨_, reify_of_unbound hg _, reads_unbound hg⟩
      | struct f first =>
          by_cases hmem : Identity.struct first ∈ parents
          · exact .inl ⟨_, reify_of_again hg hmem _, reads_again hg hmem⟩
          by_cases h0 : f.arity = 0
          · exact .inl ⟨_, reify_of_atom hg hmem h0 _, reads_constant hg hmem h0⟩
          -- a new structure, whose arguments are read inside it with one less fuel
          obtain ⟨fa, -, hf, rfl⟩ := hv
          have he' := he.cons hf hmem
          have hstep : reify m names (k + 1) a parents = _ := reify_of_compound hg hmem h0 k
          have hread : ∀ ts : List Term, (List.range f.arity).mapM
              (fun i => reify m names k (fa + 1 + i) (.struct (fa + 1) :: parents)) = .ok ts →
              reify m names (k + 1) a parents = .ok (.compound f.name ts) := fun ts hts => by
            rw [hstep, hts]
            rfl
          have hfail : ∀ e, (List.range f.arity).mapM
              (fun i => reify m names k (fa + 1 + i) (.struct (fa + 1) :: parents)) = .error e →
              reify m names (k + 1) a parents = .error e := fun e hts => by
            rw [hstep, hts]
            rfl
          by_cases hp : pending = some fa
          · -- the structure being written: an argument past the top fails the read
            obtain ⟨f', hf', j, hj, hout⟩ := hpend fa hp
            rw [hf] at hf'
            cases hf'
            obtain ⟨e, hts⟩ := mapM_range_error
              (g := fun i => reify m names k (fa + 1 + i) (.struct (fa + 1) :: parents))
              (reify_of_outside hout k _) _ hj
            exact .inr ⟨e, fa, [], hp, hfail e hts, meets_nil hg hmem⟩
          have hargs : m.heap.ArgsAt (fa + 1) f.arity := hc fa f hf hp
          have hsub := fun i (hi : i < f.arity) =>
            ih (fa + 1 + i) _ (hargs i hi) he' (by simp; omega)
          by_cases hall : ∀ i < f.arity, ∃ t, reify m names k (fa + 1 + i)
              (.struct (fa + 1) :: parents) = .ok t ∧
              Reads m.heap names (.struct (fa + 1) :: parents) (fa + 1 + i) t
          · obtain ⟨ts, hts, hlen, hreads⟩ := mapM_range_ok (P := fun i t =>
                Reads m.heap names (.struct (fa + 1) :: parents) (fa + 1 + i) t) f.arity hall
            exact .inl ⟨_, hread ts hts, reads_compound hg hmem h0 hlen hreads⟩
          · -- an argument that fails the read met the pending structure, and so did the read
            push Not at hall
            obtain ⟨i, hi, hnot⟩ := hall
            rcases hsub i hi with ⟨t, ht, hr⟩ | ⟨e, fp, path, hpf, herr, hmeets⟩
            · exact absurd hr (hnot t ht)
            obtain ⟨e', hts⟩ := mapM_range_error
              (g := fun i => reify m names k (fa + 1 + i) (.struct (fa + 1) :: parents)) herr _ hi
            exact .inr ⟨e', fp, i :: path, hpf, hfail e' hts, hmeets.cons hg hi hmem⟩

end Reify

/-! ## Machines that runs reach -/

/-- On a machine that runs reached and did not fail, reading back the term at an address below
the top, from outside every structure with fuel one more than the heap, is refused at a functor
cell, and fails where the read meets the structure being written. Anywhere else it gives the
heap term unfolded and cut where a path comes back to a structure it passed, and the whole
unfolding where no path comes back. -/
theorem reachable_reify_reads_heap_term {m : State} (hm : m.Reachable) (hf : m.status ≠ .failed)
    (names : Names) :
    ∀ a < m.heap.top,
      (∃ f, m.heap.cells[a]? = some (.functor f) ∧
        reify m names (m.heap.top + 1) a [] = .error (.notATerm a)) ∨
      (∃ t, reify m names (m.heap.top + 1) a [] = .ok t ∧ Reads m.heap names [] a t ∧
        ((∀ path, ¬ ComesBack m.heap [] a path) → Unfolds m.heap names a t)) ∨
      ∃ c e path, m.cursor = some c ∧ c.mode = .write ∧
        reify m names (m.heap.top + 1) a [] = .error e ∧ Meets m.heap [] a (c.firstTerm - 1) path := by
  intro a ha
  have hs := hm.invariant.sound hf
  have hpend : ∀ fa, Cursor.pending m.cursor = some fa → ∃ f,
      m.heap.cells[fa]? = some (.functor f) ∧ ∃ j < f.arity, m.heap.cells[fa + 1 + j]? = none :=
    fun fa hp => (hs.pending_open hp).elim fun _ hc => hc.2.2.2
  by_cases hterm : m.heap.TermAt a
  · rcases reify_reads_or_meets hs.heap_wf hs.complete hpend names (m.heap.top + 1) a [] hterm
        (Entered.nil _) (by simp) with ⟨t, ht, hr⟩ | ⟨e, fa, path, hp, herr, hmeets⟩
    · exact .inr (.inl ⟨t, ht, hr, hr.unfolds⟩)
    · obtain ⟨c, hcur, hmode, rfl, -⟩ := hs.pending_open hp
      exact .inr (.inr ⟨c, e, path, hcur, hmode, herr, hmeets⟩)
  · -- a cell that holds no term is a functor cell
    obtain ⟨c, hcell⟩ : ∃ c, m.heap.cells[a]? = some c := ⟨_, Array.getElem?_eq_getElem ha⟩
    cases c with
    | functor f => exact .inl ⟨f, hcell, reify_of_functor hcell _ _⟩
    | ref r => exact absurd (termAt_of_ref hcell) hterm
    | str fa => exact absurd (termAt_of_str hcell) hterm

/-- The structure `f(X0)` written with `X0` as its own argument lies inside itself, and reads
back from `X0` with its argument cut. -/
theorem selfContaining_reads_cut :
    let m := ((State.new 1 {}).run [.putStructure ⟨"f", 1⟩ 0, .setValue 0]).1
    m.Reachable ∧ m.status ≠ .failed ∧ 0 < m.heap.top ∧
      ((∃ f, m.heap.cells[0]? = some (.functor f) ∧
          reify m [] (m.heap.top + 1) 0 [] = .error (.notATerm 0)) ∨
        (∃ t, reify m [] (m.heap.top + 1) 0 [] = .ok t ∧ Reads m.heap [] [] 0 t ∧
          ((∀ path, ¬ ComesBack m.heap [] 0 path) → Unfolds m.heap [] 0 t)) ∨
        ∃ c e path, m.cursor = some c ∧ c.mode = .write ∧
          reify m [] (m.heap.top + 1) 0 [] = .error e ∧ Meets m.heap [] 0 (c.firstTerm - 1) path) := by
  intro m
  have hm : m.Reachable := .run _ (.new 1 {})
  have hf : m.status ≠ .failed := by decide +kernel
  have htop : 0 < m.heap.top := by decide +kernel
  exact ⟨hm, hf, htop, reachable_reify_reads_heap_term hm hf [] 0 htop⟩

example : reify ((State.new 1 {}).run [.putStructure ⟨"f", 1⟩ 0, .setValue 0]).1 [] 4 0 [] =
    .ok (.compound "f" [.var "_G2"]) := by
  cbv

end Toplevel

end UnifyMachine
