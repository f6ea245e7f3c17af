import HydraDX.Lib.Fallible
import Mathlib.Logic.Relation

set_option autoImplicit false

/-! # Calls whose writes stay

A dispatchable that is not transactional keeps what it has written to the storage when it
fails. Such a call is an `ExceptT` over the state monad: it ends with a result or an error, and
in both cases with a storage.

The rules below execute a call step by step. A callee that changes nothing when it fails is an
`atomic` step; a loop of such steps that fails has made the steps before the one that failed
(`forM_atomic_cases`). `Writes R x` says that `x` makes writes of `R` only, however it ends. -/

/-- A call on the storage `σ` that fails with an `ε` or returns an `α`. -/
abbrev Dispatch (σ ε α : Type) := ExceptT ε (StateM σ) α

namespace Dispatch

variable {σ ε α β : Type}

/-- The result of the call, and the storage after it. -/
def exec (x : Dispatch σ ε α) (s : σ) : Except ε α × σ := StateT.run (ExceptT.run x) s

variable {x : Dispatch σ ε α} {f : α → Dispatch σ ε β} {s t : σ} {a : α} {e : ε}

theorem exec_throw : exec (throw e : Dispatch σ ε α) s = (.error e, s) := rfl

theorem exec_get : exec (get : Dispatch σ ε σ) s = (.ok s, s) := rfl

theorem exec_set : exec (set t : Dispatch σ ε PUnit) s = (.ok ⟨⟩, t) := rfl

/-- What fails or succeeds without a look at the storage. -/
theorem exec_lift {y : Except ε α} : exec (liftM y : Dispatch σ ε α) s = (y, s) := rfl

theorem exec_bind : exec (x >>= f) s =
    match exec x s with
    | (.ok a, t) => exec (f a) t
    | (.error e, t) => (.error e, t) := by
  show exec (ExceptT.bind x f) s = _
  unfold exec ExceptT.bind
  simp only [ExceptT.run, ExceptT.mk, StateT.run_bind]
  rcases hx : StateT.run x s with ⟨r, t⟩
  cases r with
  | ok a => rfl
  | error e => rfl

/-- A step that succeeds. -/
theorem exec_bind_of_ok (h : exec x s = (.ok a, t)) : exec (x >>= f) s = exec (f a) t := by
  rw [exec_bind, h]

/-- A step that fails ends the call. -/
theorem exec_bind_of_error (h : exec x s = (.error e, t)) : exec (x >>= f) s = (.error e, t) := by
  rw [exec_bind, h]

theorem exec_get_bind {f : σ → Dispatch σ ε β} : exec (get >>= f) s = exec (f s) s :=
  exec_bind_of_ok exec_get

theorem exec_lift_bind_of_ok {y : Except ε α} (h : y = .ok a) :
    exec (liftM y >>= f) s = exec (f a) s := by
  rw [h]
  exact exec_bind_of_ok exec_lift

theorem exec_lift_bind_of_error {y : Except ε α} (h : y = .error e) :
    exec (liftM y >>= f) s = (.error e, s) := by
  rw [h]
  exact exec_bind_of_error exec_lift

theorem exec_ensure_bind_of_pos {p : Prop} [Decidable p] {f : Unit → Dispatch σ ε β} (hp : p) :
    exec (liftM (ensure p e) >>= f) s = exec (f ()) s :=
  exec_lift_bind_of_ok (if_pos hp)

theorem exec_ensure_bind_of_neg {p : Prop} [Decidable p] {f : Unit → Dispatch σ ε β} (hp : ¬ p) :
    exec (liftM (ensure p e) >>= f) s = (.error e, s) :=
  exec_lift_bind_of_error (if_neg hp)

/-! ## Loops of atomic steps -/

/-- A step that changes nothing when it fails. -/
def atomic (g : σ → Except ε σ) : Dispatch σ ε PUnit := do
  match g (← get) with
  | .ok t => set t
  | .error e => throw e

theorem exec_atomic_of_ok {g : σ → Except ε σ} (h : g s = .ok t) :
    exec (atomic g) s = (.ok ⟨⟩, t) := by
  rw [atomic, exec_get_bind, h]
  exact exec_set

theorem exec_atomic_of_error {g : σ → Except ε σ} (h : g s = .error e) :
    exec (atomic g) s = (.error e, s) := by
  rw [atomic, exec_get_bind, h]
  exact exec_throw

theorem forM_atomic_cons (g : σ → β → Except ε σ) (b : β) (bs : List β) :
    (b :: bs).forM (fun b => atomic fun s => g s b)
      = (atomic fun s => g s b) >>= fun _ => bs.forM fun b => atomic fun s => g s b := rfl

/-- A loop whose steps succeed up to one that fails. -/
theorem forM_atomic_of_error {g : σ → β → Except ε σ} {made rest : List β} {b : β}
    (hmade : made.foldlM g s = .ok t) (hb : g t b = .error e) :
    exec ((made ++ b :: rest).forM fun b => atomic fun s => g s b) s = (.error e, t) := by
  induction made generalizing s with
  | nil =>
      have hs : s = t := Fallible.foldlM_nil_eq_ok.mp hmade
      subst hs
      exact exec_bind_of_error (exec_atomic_of_error hb)
  | cons c made ih =>
      obtain ⟨s', hs', hmade⟩ := Fallible.foldlM_cons_eq_ok.mp hmade
      rw [List.cons_append, forM_atomic_cons, exec_bind_of_ok (exec_atomic_of_ok hs')]
      exact ih hmade

/-- **What a loop leaves behind**: all steps, or those before the first that fails. -/
theorem forM_atomic_cases (g : σ → β → Except ε σ) (bs : List β) (s : σ) :
    (∃ t, bs.foldlM g s = .ok t ∧
      exec (bs.forM fun b => atomic fun s => g s b) s = (.ok ⟨⟩, t)) ∨
    (∃ made b rest t e, bs = made ++ b :: rest ∧ made.foldlM g s = .ok t ∧ g t b = .error e ∧
      exec (bs.forM fun b => atomic fun s => g s b) s = (.error e, t)) := by
  induction bs generalizing s with
  | nil => exact Or.inl ⟨s, rfl, rfl⟩
  | cons b bs ih =>
      rw [forM_atomic_cons]
      cases hb : g s b with
      | error e =>
          refine Or.inr ⟨[], b, bs, s, e, rfl, rfl, hb, ?_⟩
          exact exec_bind_of_error (exec_atomic_of_error hb)
      | ok s' =>
          rw [exec_bind_of_ok (exec_atomic_of_ok hb)]
          rcases ih s' with ⟨t, ht, hx⟩ | ⟨made, b', rest, t, e, rfl, ht, hb', hx⟩
          · exact Or.inl ⟨t, Fallible.foldlM_cons_eq_ok.mpr ⟨s', hb, ht⟩, hx⟩
          · exact Or.inr ⟨b :: made, b', rest, t, e, rfl,
              Fallible.foldlM_cons_eq_ok.mpr ⟨s', hb, ht⟩, hb', hx⟩

/-! ## Executing a call -/

theorem exec_pure : exec (pure a : Dispatch σ ε α) s = (.ok a, s) := rfl

theorem exec_modify {g : σ → σ} : exec (modify g : Dispatch σ ε PUnit) s = (.ok ⟨⟩, g s) := rfl

theorem exec_modify_bind {g : σ → σ} {f : PUnit → Dispatch σ ε β} :
    exec (modify g >>= f) s = exec (f ⟨⟩) (g s) :=
  exec_bind_of_ok exec_modify

theorem exec_ite {p : Prop} [Decidable p] {x y : Dispatch σ ε α} :
    exec (if p then x else y) s = if p then exec x s else exec y s := by
  split_ifs
  · rfl
  · rfl

theorem exec_bind_eq_ok {b : β} {u : σ} : exec (x >>= f) s = (.ok b, u) ↔
    ∃ a t, exec x s = (.ok a, t) ∧ exec (f a) t = (.ok b, u) := by
  rw [exec_bind]
  rcases exec x s with ⟨r, t⟩
  cases r with
  | ok a =>
      constructor
      · intro h
        exact ⟨a, t, rfl, h⟩
      · rintro ⟨a', t', heq, h⟩
        cases heq
        exact h
  | error e =>
      constructor
      · intro h
        cases h
      · rintro ⟨a', t', heq, -⟩
        cases heq

theorem exec_pure_eq_ok {b : α} : exec (pure a : Dispatch σ ε α) s = (.ok b, t) ↔ b = a ∧ t = s := by
  rw [exec_pure]
  constructor
  · intro h
    cases h
    exact ⟨rfl, rfl⟩
  · rintro ⟨rfl, rfl⟩
    rfl

theorem exec_lift_bind_eq_ok {y : Except ε α} {b : β} {u : σ} :
    exec (liftM y >>= f) s = (.ok b, u) ↔ ∃ a, y = .ok a ∧ exec (f a) s = (.ok b, u) := by
  rw [exec_bind_eq_ok, exec_lift]
  constructor
  · rintro ⟨a, t, heq, h⟩
    obtain ⟨rfl, rfl⟩ := Prod.mk.inj heq
    exact ⟨a, rfl, h⟩
  · rintro ⟨a, rfl, h⟩
    exact ⟨a, s, rfl, h⟩

theorem exec_ensure_bind_eq_ok {p : Prop} [Decidable p] {f : Unit → Dispatch σ ε β} {b : β} {u : σ} :
    exec (liftM (ensure p e) >>= f) s = (.ok b, u) ↔ p ∧ exec (f ()) s = (.ok b, u) := by
  rw [exec_lift_bind_eq_ok]
  constructor
  · rintro ⟨⟨⟩, hp, h⟩
    exact ⟨Fallible.ensure_eq_ok.mp hp, h⟩
  · rintro ⟨hp, h⟩
    exact ⟨(), Fallible.ensure_eq_ok.mpr hp, h⟩

/-- A failure is handled in the storage that the call has left. -/
theorem exec_tryCatch {handler : ε → Dispatch σ ε α} : exec (tryCatch x handler) s =
    match exec x s with
    | (.ok a, t) => (.ok a, t)
    | (.error e, t) => exec (handler e) t := by
  show exec (ExceptT.tryCatch x handler) s = _
  unfold exec ExceptT.tryCatch
  simp only [ExceptT.run, ExceptT.mk, StateT.run_bind]
  rcases hx : StateT.run x s with ⟨r, t⟩
  cases r with
  | ok a => rfl
  | error e => rfl

/-! ## Calls that only read -/

/-- However the call ends, the storage is as it was. -/
def Reads (x : Dispatch σ ε α) : Prop := ∀ s, (exec x s).2 = s

theorem reads_pure : Reads (pure a : Dispatch σ ε α) := fun _ => rfl

theorem reads_get : Reads (get : Dispatch σ ε σ) := fun _ => rfl

theorem reads_lift {y : Except ε α} : Reads (liftM y : Dispatch σ ε α) := fun _ => rfl

theorem Reads.bind (hx : Reads x) (hf : ∀ a, Reads (f a)) : Reads (x >>= f) := by
  intro s
  have hs := hx s
  rw [exec_bind]
  rcases hxs : exec x s with ⟨r, t⟩
  rw [hxs] at hs
  cases r with
  | ok a => exact (hf a t).trans hs
  | error e => exact hs

theorem Reads.ite {p : Prop} [Decidable p] {y : Dispatch σ ε α} (hx : Reads x) (hy : Reads y) :
    Reads (if p then x else y) := by
  split_ifs
  · exact hx
  · exact hy

theorem Reads.exec_cases (hx : Reads x) (s : σ) :
    (∃ e, exec x s = (.error e, s)) ∨ ∃ a, exec x s = (.ok a, s) := by
  have hs := hx s
  rcases hexec : exec x s with ⟨e | a, t⟩
  all_goals
    rw [hexec] at hs
    obtain rfl : t = s := hs
  · exact Or.inl ⟨e, rfl⟩
  · exact Or.inr ⟨a, rfl⟩

/-! ## What a call can have written -/

/-- However the call ends, it has made writes of `R` only. -/
def Writes (R : σ → σ → Prop) (x : Dispatch σ ε α) : Prop :=
  ∀ s, Relation.ReflTransGen R s (exec x s).2

section Writes

variable {R : σ → σ → Prop}

theorem writes_pure : Writes R (pure a : Dispatch σ ε α) := fun _ => .refl

theorem writes_throw : Writes R (throw e : Dispatch σ ε α) := fun _ => .refl

theorem writes_get : Writes R (get : Dispatch σ ε σ) := fun _ => .refl

theorem writes_lift {y : Except ε α} : Writes R (liftM y : Dispatch σ ε α) := fun _ => .refl

theorem writes_modify {g : σ → σ} (h : ∀ s, R s (g s)) : Writes R (modify g : Dispatch σ ε PUnit) :=
  fun s => .single (h s)

theorem Writes.bind (hx : Writes R x) (hf : ∀ a, Writes R (f a)) : Writes R (x >>= f) := by
  intro s
  have hs := hx s
  rw [exec_bind]
  rcases hxs : exec x s with ⟨r, t⟩
  rw [hxs] at hs
  cases r with
  | ok a => exact hs.trans (hf a t)
  | error e => exact hs

theorem Writes.ite {p : Prop} [Decidable p] {y : Dispatch σ ε α} (hx : Writes R x)
    (hy : Writes R y) : Writes R (if p then x else y) := by
  split_ifs
  · exact hx
  · exact hy

/-- A call that only reads writes nothing. -/
theorem Reads.writes (hx : Reads x) : Writes R x := by
  intro s
  rw [hx s]

theorem Writes.tryCatch {handler : ε → Dispatch σ ε α} (hx : Writes R x)
    (hh : ∀ e, Writes R (handler e)) : Writes R (tryCatch x handler) := by
  intro s
  have hs := hx s
  rw [exec_tryCatch]
  rcases hxs : exec x s with ⟨r, t⟩
  rw [hxs] at hs
  cases r with
  | ok a => exact hs
  | error e => exact hs.trans (hh e t)

/-- What every write keeps is kept by the call. -/
theorem Writes.invariant {I : σ → Prop} (keep : ∀ s t, I s → R s t → I t) (hx : Writes R x)
    (hs : I s) : I (exec x s).2 := by
  have hrun : ∀ t, Relation.ReflTransGen R s t → I t := by
    intro t h
    induction h with
    | refl => exact hs
    | tail _ hstep ih => exact keep _ _ ih hstep
  exact hrun _ (hx s)

end Writes

end Dispatch
