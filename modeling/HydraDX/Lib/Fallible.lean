import Mathlib.Order.Basic
import Mathlib.Tactic

set_option autoImplicit false

/-! # Fallible steps and loops of them

A step that can fail is a function into `Except ε`. This file has the inversion rules
for a sequence of such steps (`bind_eq_ok`, `ensure_bind_eq_ok`) and the rules for a loop
`as.foldlM f s`, which runs the step `f` over a list and stops at the first failure.

The rules for loops speak about the states the loop *visits*: `Always f P s as` says that
`P` holds of every state at the head of an iteration, together with the element the
iteration is about to consume. An invariant of the loop is then shown step by step under
`P` (`Always.induction`), and a property that is decided step by step holds of the whole
loop exactly when it holds at every visited step (`ne_error_iff_always`, `le_iff_always`).

Calls made one after the other, each of which either succeeds or changes nothing, are the
runs of `Runs f P`. -/

/-- Fail with `e` unless `p` holds. -/
def ensure {ε : Type} (p : Prop) [Decidable p] (e : ε) : Except ε Unit :=
  if p then .ok () else .error e

namespace Fallible

section Bind

variable {α β ε : Type}

theorem bind_eq_ok {x : Except ε α} {f : α → Except ε β} {r : β} :
    (x >>= f) = .ok r ↔ ∃ a, x = .ok a ∧ f a = .ok r := by
  cases x with
  | error e => simp [bind, Except.bind]
  | ok a => simp [bind, Except.bind]

theorem bind_eq_error {x : Except ε α} {f : α → Except ε β} {e : ε} :
    (x >>= f) = .error e ↔ x = .error e ∨ ∃ a, x = .ok a ∧ f a = .error e := by
  cases x with
  | error e' => simp [bind, Except.bind]
  | ok a => simp [bind, Except.bind]

theorem ensure_eq_ok {p : Prop} [Decidable p] {e : ε} {u : Unit} :
    ensure p e = .ok u ↔ p := by
  unfold ensure
  by_cases hp : p
  · simp [hp]
  · simp [hp]

theorem ensure_bind_eq_ok {p : Prop} [Decidable p] {e : ε} {f : Unit → Except ε β} {r : β} :
    (ensure p e >>= f) = .ok r ↔ p ∧ f () = .ok r := by
  rw [bind_eq_ok]
  constructor
  · rintro ⟨u, hp, hf⟩
    exact ⟨ensure_eq_ok.mp hp, hf⟩
  · rintro ⟨hp, hf⟩
    exact ⟨(), ensure_eq_ok.mpr hp, hf⟩

theorem ensure_bind_eq_error {p : Prop} [Decidable p] {e e' : ε} {f : Unit → Except ε β} :
    (ensure p e' >>= f) = .error e ↔ (¬ p ∧ e = e') ∨ (p ∧ f () = .error e) := by
  by_cases hp : p
  · simp [ensure, hp, bind, Except.bind]
  · simp [ensure, hp, bind, Except.bind, eq_comm]

/-- What is said of the results of two computations that succeed, one after the other. -/
theorem exists_eq_ok_iff {γ : Type} {x : Except ε α} {y : α → Except γ β} {a : α} {b : β}
    (hx : x = .ok a) (hy : y a = .ok b) {P : α → β → Prop} :
    (∃ a b, x = .ok a ∧ y a = .ok b ∧ P a b) ↔ P a b := by
  constructor
  · rintro ⟨a', b', hx', hy', hP⟩
    obtain rfl : a = a' := Except.ok.inj (hx.symm.trans hx')
    obtain rfl : b = b' := Except.ok.inj (hy.symm.trans hy')
    exact hP
  · intro hP
    exact ⟨a, b, hx, hy, hP⟩

/-- The computation succeeds, with a result of which `p` holds. -/
def Succeeds (x : Except ε α) (p : α → Prop) : Prop := ∃ a, x = .ok a ∧ p a

instance decidableSucceeds (x : Except ε α) (p : α → Prop) [DecidablePred p] :
    Decidable (Succeeds x p) :=
  match x with
  | .ok a => decidable_of_iff (p a) (by simp [Succeeds])
  | .error _ => isFalse (by simp [Succeeds])

instance decidableEqError [DecidableEq ε] (x : Except ε α) (e : ε) : Decidable (x = .error e) :=
  match x with
  | .ok _ => isFalse (by simp)
  | .error e' => decidable_of_iff (e' = e) (by simp)

end Bind

/-! ## Loops -/

section Loop

variable {σ α ε : Type} (f : σ → α → Except ε σ)

/-- `P` holds at every state and element that the loop `as.foldlM f s` visits. The loop
stops at the first step that fails: nothing is asked of what would come after it. -/
def Always (P : σ → α → Prop) : σ → List α → Prop
  | _, [] => True
  | s, a :: as => P s a ∧ ∀ s', f s a = .ok s' → Always P s' as

variable {f}

/-- `Always` is decided by running the loop. -/
instance decidableAlways {P : σ → α → Prop} [∀ s a, Decidable (P s a)] :
    (s : σ) → (as : List α) → Decidable (Always f P s as)
  | _, [] => isTrue trivial
  | s, a :: as =>
      match h : f s a with
      | .error _ => decidable_of_iff (P s a)
          ⟨fun hp => ⟨hp, fun s' hs' => by rw [h] at hs'; cases hs'⟩, fun h => h.1⟩
      | .ok s' =>
          have := decidableAlways (P := P) s' as
          decidable_of_iff (P s a ∧ Always f P s' as)
            ⟨fun hp => ⟨hp.1, fun t ht => by rw [h] at ht; cases ht; exact hp.2⟩,
              fun hp => ⟨hp.1, hp.2 s' h⟩⟩

theorem foldlM_cons_eq_ok {s r : σ} {a : α} {as : List α} :
    (a :: as).foldlM f s = .ok r ↔ ∃ s', f s a = .ok s' ∧ as.foldlM f s' = .ok r := by
  rw [List.foldlM_cons, bind_eq_ok]

theorem foldlM_nil_eq_ok {s r : σ} : ([] : List α).foldlM f s = .ok r ↔ s = r := by
  simp [pure, Except.pure]

theorem foldlM_append_eq_ok {s r : σ} {as bs : List α} :
    (as ++ bs).foldlM f s = .ok r ↔ ∃ s', as.foldlM f s = .ok s' ∧ bs.foldlM f s' = .ok r := by
  rw [List.foldlM_append, bind_eq_ok]

/-- Two loops one after the other. -/
theorem Always.append {P : σ → α → Prop} {s t : σ} {as bs : List α} (h : Always f P s as)
    (hs : as.foldlM f s = .ok t) (h' : Always f P t bs) : Always f P s (as ++ bs) := by
  induction as generalizing s with
  | nil =>
      rw [foldlM_nil_eq_ok] at hs
      exact hs ▸ h'
  | cons a as ih =>
      obtain ⟨s', hs', hr⟩ := foldlM_cons_eq_ok.mp hs
      refine ⟨h.1, fun u hu => ?_⟩
      rw [hs'] at hu
      cases hu
      exact ih (h.2 s' hs') hr

/-- A loop, cut in two. -/
theorem Always.of_append {P : σ → α → Prop} {s t : σ} {as bs : List α} (h : Always f P s (as ++ bs))
    (hs : as.foldlM f s = .ok t) : Always f P s as ∧ Always f P t bs := by
  induction as generalizing s with
  | nil =>
      rw [foldlM_nil_eq_ok] at hs
      exact ⟨trivial, hs ▸ h⟩
  | cons a as ih =>
      obtain ⟨s', hs', hr⟩ := foldlM_cons_eq_ok.mp hs
      obtain ⟨h₁, h₂⟩ := ih (h.2 s' hs') hr
      refine ⟨⟨h.1, fun u hu => ?_⟩, h₂⟩
      rw [hs'] at hu
      cases hu
      exact h₁

/-- A loop, cut at one of its steps. -/
theorem foldlM_split {s r : σ} {as bs : List α} {a : α} (h : (as ++ a :: bs).foldlM f s = .ok r) :
    ∃ s₁ s₂, as.foldlM f s = .ok s₁ ∧ f s₁ a = .ok s₂ ∧ bs.foldlM f s₂ = .ok r := by
  obtain ⟨s₁, h₁, h⟩ := foldlM_append_eq_ok.mp h
  obtain ⟨s₂, h₂, h⟩ := foldlM_cons_eq_ok.mp h
  exact ⟨s₁, s₂, h₁, h₂, h⟩

/-- What holds of every state and element holds along every loop. -/
theorem Always.of_forall {P : σ → α → Prop} (hP : ∀ s a, P s a) (s : σ) (as : List α) :
    Always f P s as := by
  induction as generalizing s with
  | nil => trivial
  | cons a as ih => exact ⟨hP s a, fun s' _ => ih s'⟩

/-- Two predicates that agree where an invariant of the loop holds. -/
theorem Always.iff_of_invariant {P Q : σ → α → Prop} {I : σ → Prop}
    (step : ∀ s a s', I s → f s a = .ok s' → I s') {s : σ} {as : List α}
    (hPQ : ∀ s, ∀ a ∈ as, I s → (P s a ↔ Q s a)) (h₀ : I s) :
    Always f P s as ↔ Always f Q s as := by
  induction as generalizing s with
  | nil => exact Iff.rfl
  | cons a as ih =>
      unfold Always
      rw [hPQ s a List.mem_cons_self h₀]
      refine and_congr_right fun _ => forall_congr' fun s' => imp_congr_right fun hs' => ?_
      exact ih (fun s b hb => hPQ s b (List.mem_cons_of_mem a hb)) (step s a s' h₀ hs')

/-- Along a loop that carries the invariant `I`, whatever it makes `P` imply holds where `P` does. -/
theorem Always.of_invariant {P Q : σ → α → Prop} {I : σ → List α → Prop}
    (step : ∀ s a as s', I s (a :: as) → f s a = .ok s' → I s' as)
    (hPQ : ∀ s a as, I s (a :: as) → P s a → Q s a) {s : σ} {as : List α} (h₀ : I s as)
    (h : Always f P s as) : Always f Q s as := by
  induction as generalizing s with
  | nil => trivial
  | cons a as ih =>
      exact ⟨hPQ s a as h₀ h.1, fun s' hs' => ih (step s a as s' h₀ hs') (h.2 s' hs')⟩

/-- **Loop induction.** `I s as` relates the state at the head of an iteration to the
elements still to come. If every visited step carries it on, it holds at the end. -/
theorem Always.induction {P : σ → α → Prop} {I : σ → List α → Prop}
    (step : ∀ s a as s', I s (a :: as) → P s a → f s a = .ok s' → I s' as)
    {s r : σ} {as : List α} (h : Always f P s as) (h₀ : I s as)
    (hr : as.foldlM f s = .ok r) : I r [] := by
  induction as generalizing s with
  | nil =>
      rw [foldlM_nil_eq_ok] at hr
      exact hr ▸ h₀
  | cons a as ih =>
      obtain ⟨s', hs', hr'⟩ := foldlM_cons_eq_ok.mp hr
      exact ih (h.2 s' hs') (step s a as s' h₀ h.1 hs') hr'

/-- What no visited step changes is not changed by the loop. -/
theorem Always.foldlM_eq {β : Type} {v : σ → β} {P : σ → α → Prop} {s r : σ} {as : List α}
    (step : ∀ s, ∀ a ∈ as, ∀ s', P s a → f s a = .ok s' → v s' = v s)
    (h : Always f P s as) (hr : as.foldlM f s = .ok r) : v r = v s :=
  (Always.induction (I := fun t bs => (∀ b ∈ bs, b ∈ as) ∧ v t = v s)
    (fun t b _ t' hI hP hs => ⟨fun c hc => hI.1 c (List.mem_cons_of_mem b hc),
      (step t b (hI.1 b List.mem_cons_self) t' hP hs).trans hI.2⟩) h ⟨fun _ hb => hb, rfl⟩ hr).2

/-- Loop induction without a condition on the visited states. -/
theorem foldlM_induction {I : σ → List α → Prop}
    (step : ∀ s a as s', I s (a :: as) → f s a = .ok s' → I s' as)
    {s r : σ} {as : List α} (h₀ : I s as) (hr : as.foldlM f s = .ok r) : I r [] :=
  Always.induction (P := fun _ _ => True) (fun s a as s' hI _ hs => step s a as s' hI hs)
    (Always.of_forall (fun _ _ => trivial) s as) h₀ hr

/-- A relation between states that every step extends relates the ends of the loop. -/
theorem foldlM_rel {R : σ → σ → Prop} (hrefl : ∀ s, R s s)
    (htrans : ∀ s t u, R s t → R t u → R s u)
    (step : ∀ s a s', f s a = .ok s' → R s s')
    {s r : σ} {as : List α} (hr : as.foldlM f s = .ok r) : R s r :=
  foldlM_induction (I := fun t _ => R s t)
    (fun t a _ t' hst ht => htrans s t t' hst (step t a t' ht)) (hrefl s) hr

/-- A loop does not end in the failure `e` exactly when no visited step does. -/
theorem ne_error_iff_always {e : ε} {s : σ} {as : List α} :
    as.foldlM f s ≠ .error e ↔ Always f (fun s a => f s a ≠ .error e) s as := by
  induction as generalizing s with
  | nil => simp [Always, pure, Except.pure]
  | cons a as ih =>
      rw [List.foldlM_cons, Ne, bind_eq_error, Always]
      constructor
      · intro h
        refine ⟨fun he => h (Or.inl he), fun s' hs' => ih.mp fun he => ?_⟩
        exact h (Or.inr ⟨s', hs', he⟩)
      · rintro ⟨h₁, h₂⟩ (he | ⟨s', hs', he⟩)
        · exact h₁ he
        · exact ih.mpr (h₂ s' hs') he

/-- A loop completes exactly when every visited step does. -/
theorem ok_iff_always {s : σ} {as : List α} :
    (∃ r, as.foldlM f s = .ok r) ↔ Always f (fun s a => ∃ s', f s a = .ok s') s as := by
  induction as generalizing s with
  | nil => exact iff_of_true ⟨s, foldlM_nil_eq_ok.mpr rfl⟩ trivial
  | cons a as ih =>
      constructor
      · rintro ⟨r, hr⟩
        obtain ⟨s', hs', hr'⟩ := foldlM_cons_eq_ok.mp hr
        refine ⟨⟨s', hs'⟩, fun t ht => ih.mp ⟨r, ?_⟩⟩
        rw [hs'] at ht
        cases ht
        exact hr'
      · rintro ⟨⟨s', hs'⟩, hall⟩
        obtain ⟨r, hr⟩ := ih.mpr (hall s' hs')
        exact ⟨r, foldlM_cons_eq_ok.mpr ⟨s', hs', hr⟩⟩

/-- **A loop that may go wrong.** Every visited step that meets `P` keeps the invariant `I`, one
that does not leads to `J`, and `J` is never left. So the two say at the end of the loop whether
`P` has held all along. -/
theorem always_or_never {P : σ → α → Prop} {I J : σ → List α → Prop}
    (keep : ∀ s a as s', I s (a :: as) → P s a → f s a = .ok s' → I s' as)
    (leave : ∀ s a as s', I s (a :: as) → ¬ P s a → f s a = .ok s' → J s' as)
    (stay : ∀ s a as s', J s (a :: as) → f s a = .ok s' → J s' as)
    {s r : σ} {as : List α} (h₀ : I s as) (hr : as.foldlM f s = .ok r) :
    (Always f P s as ∧ I r []) ∨ (¬ Always f P s as ∧ J r []) := by
  induction as generalizing s with
  | nil =>
      rw [foldlM_nil_eq_ok] at hr
      exact Or.inl ⟨trivial, hr ▸ h₀⟩
  | cons a as ih =>
      obtain ⟨s', hs', hr'⟩ := foldlM_cons_eq_ok.mp hr
      by_cases hP : P s a
      · rcases ih (keep s a as s' h₀ hP hs') hr' with ⟨hall, hI⟩ | ⟨hnot, hJ⟩
        · refine Or.inl ⟨⟨hP, fun t ht => ?_⟩, hI⟩
          rw [hs'] at ht
          cases ht
          exact hall
        · exact Or.inr ⟨fun hall => hnot (hall.2 s' hs'), hJ⟩
      · exact Or.inr ⟨fun hall => hP hall.1,
          foldlM_induction stay (leave s a as s' h₀ hP hs') hr'⟩

/-- **Steps that commute can be made in any order.** -/
theorem foldlM_perm (comm : ∀ s a b, (f s a >>= fun t => f t b) = (f s b >>= fun t => f t a))
    {as bs : List α} (h : as.Perm bs) (s : σ) : as.foldlM f s = bs.foldlM f s := by
  induction h generalizing s with
  | nil => rfl
  | cons a _ ih =>
      rw [List.foldlM_cons, List.foldlM_cons]
      exact congrArg (f s a >>= ·) (funext ih)
  | swap a b as =>
      simp only [List.foldlM_cons, ← bind_assoc]
      rw [comm]
  | trans _ _ ih₁ ih₂ => exact (ih₁ s).trans (ih₂ s)

/-- A quantity that no step lowers, and that a step raises exactly when `P` fails, is not
raised by a completed loop exactly when `P` holds at every visited step. -/
theorem le_iff_always {β : Type} [PartialOrder β] {μ : σ → β} {P : σ → α → Prop}
    {s r : σ} {as : List α}
    (step : ∀ s, ∀ a ∈ as, ∀ s', f s a = .ok s' → μ s ≤ μ s' ∧ (μ s' ≤ μ s ↔ P s a))
    (hr : as.foldlM f s = .ok r) :
    μ s ≤ μ r ∧ (μ r ≤ μ s ↔ Always f P s as) := by
  induction as generalizing s with
  | nil =>
      rw [foldlM_nil_eq_ok] at hr
      subst hr
      exact ⟨le_rfl, iff_of_true le_rfl trivial⟩
  | cons a as ih =>
      obtain ⟨s', hs', hr'⟩ := foldlM_cons_eq_ok.mp hr
      obtain ⟨hle, hiff⟩ := step s a List.mem_cons_self s' hs'
      obtain ⟨hle', hiff'⟩ := ih (fun s b hb => step s b (List.mem_cons_of_mem a hb)) hr'
      refine ⟨hle.trans hle', fun h => ⟨hiff.mp (hle'.trans h), fun t ht => ?_⟩, fun h => ?_⟩
      · rw [hs'] at ht
        cases ht
        exact hiff'.mp (h.trans hle)
      · exact (hiff'.mpr (h.2 s' hs')).trans (hiff.mpr h.1)

end Loop

/-! ## Runs of calls -/

section Runs

variable {σ α ε : Type}

/-- `Runs f P s t`: successful calls lead from `s` to `t`, each of them made in a state
where `P` allows it. A call that fails changes nothing and leaves no trace in a run. -/
inductive Runs (f : σ → α → Except ε σ) (P : σ → α → Prop) (s : σ) : σ → Prop where
  | refl : Runs f P s s
  | step {t u : σ} {a : α} (run : Runs f P s t) (allowed : P t a) (call : f t a = .ok u) :
      Runs f P s u

variable {f : σ → α → Except ε σ} {P : σ → α → Prop} {s t : σ}

/-- **Run induction.** What every allowed call preserves holds at the end of every run. -/
theorem Runs.invariant {I : σ → Prop} (step : ∀ s a s', I s → P s a → f s a = .ok s' → I s')
    (h : Runs f P s t) (h₀ : I s) : I t := by
  induction h with
  | refl => exact h₀
  | step run allowed call ih => exact step _ _ _ ih allowed call

/-- A call in front of a run. -/
theorem Runs.head {u : σ} {a : α} (allowed : P s a) (call : f s a = .ok t) (h : Runs f P t u) :
    Runs f P s u := by
  induction h with
  | refl => exact .step .refl allowed call
  | step run allowed' call' ih => exact .step ih allowed' call'

/-- A list of calls that all succeed is a run. -/
theorem Runs.of_foldlM (hP : ∀ s a, P s a) {as : List α} (h : as.foldlM f s = .ok t) :
    Runs f P s t := by
  induction as generalizing s with
  | nil =>
      rw [foldlM_nil_eq_ok] at h
      exact h ▸ .refl
  | cons a as ih =>
      obtain ⟨s', hs', h'⟩ := foldlM_cons_eq_ok.mp h
      exact .head (hP s a) hs' (ih h')

end Runs

end Fallible
