import HydraDX.Lib.Fallible
import Mathlib.Data.List.Infix

set_option autoImplicit false

/-! # Histories of calls

A system whose calls always leave some state behind is a total function
`step : σ → α → σ`. A *history* is the list of the calls made from a first state, and
`run step s as` is the state it leads to. A fallible call that changes nothing when it fails
is made total by `attempt`.

`Each step P s as` says that `P` holds of every call of the history, in the state in which it
is made, and `Throughout step I s as` that `I` holds of every state that is reached. What an
allowed call preserves holds throughout (`Each.throughout`), and where `P` is exactly what keeps
`I`, the two are equivalent (`throughout_iff_each`). A potential that each call lowers by at most
its charge is lowered by at most the sum of the charges (`Each.le_add_charged`). `replies` are the
answers to the calls, which are the same in two systems of which one simulates the other
(`Each.simulate`). -/

namespace Histories

variable {σ α ε : Type} (step : σ → α → σ)

/-- The state after the calls, made one after the other. -/
def run (s : σ) (as : List α) : σ := as.foldl step s

/-- `P` holds of every call in the state in which it is made. -/
def Each (P : σ → α → Prop) : σ → List α → Prop
  | _, [] => True
  | s, a :: as => P s a ∧ Each P (step s a) as

/-- `I` holds of every state that the history reaches. -/
def Throughout (I : σ → Prop) (s : σ) (as : List α) : Prop :=
  ∀ made, made <+: as → I (run step s made)

/-- A call that changes nothing when it fails. -/
def attempt (f : σ → α → Except ε σ) (s : σ) (a : α) : σ :=
  match f s a with
  | .ok s' => s'
  | .error _ => s

variable {step} {P : σ → α → Prop} {I : σ → Prop} {s : σ} {a : α} {as : List α}

theorem attempt_of_ok {f : σ → α → Except ε σ} {s' : σ} (h : f s a = .ok s') :
    attempt f s a = s' := by
  rw [attempt, h]

theorem attempt_of_error {f : σ → α → Except ε σ} {e : ε} (h : f s a = .error e) :
    attempt f s a = s := by
  rw [attempt, h]

/-- An attempt succeeds, or nothing has happened. -/
theorem attempt_cases (f : σ → α → Except ε σ) (s : σ) (a : α) :
    f s a = .ok (attempt f s a) ∨ ((∃ e, f s a = .error e) ∧ attempt f s a = s) := by
  cases h : f s a with
  | ok s' => exact Or.inl (by rw [attempt_of_ok h])
  | error e => exact Or.inr ⟨⟨e, rfl⟩, attempt_of_error h⟩

theorem throughout_nil : Throughout step I s [] ↔ I s := by
  constructor
  · intro h
    exact h [] (List.prefix_refl [])
  · intro h made hmade
    rw [List.prefix_nil.mp hmade]
    exact h

theorem throughout_cons :
    Throughout step I s (a :: as) ↔ I s ∧ Throughout step I (step s a) as := by
  constructor
  · intro h
    refine ⟨h [] List.nil_prefix, fun made hmade => ?_⟩
    exact h (a :: made) (List.cons_prefix_cons.mpr ⟨rfl, hmade⟩)
  · rintro ⟨h₀, h⟩ made hmade
    rcases List.prefix_cons_iff.mp hmade with rfl | ⟨later, rfl, hlater⟩
    · exact h₀
    · exact h later hlater

/-- **Run induction.** What every allowed call preserves holds throughout. -/
theorem Each.throughout (keep : ∀ s a, I s → P s a → I (step s a)) (h₀ : I s)
    (h : Each step P s as) : Throughout step I s as := by
  induction as generalizing s with
  | nil => exact throughout_nil.mpr h₀
  | cons a as ih => exact throughout_cons.mpr ⟨h₀, ih (keep s a h₀ h.1) h.2⟩

/-- What holds of every call where an invariant does holds of every call of a history. -/
theorem Each.of_invariant (keep : ∀ s a, I s → I (step s a)) (hP : ∀ s a, I s → P s a)
    (h₀ : I s) (as : List α) : Each step P s as := by
  induction as generalizing s with
  | nil => trivial
  | cons a as ih => exact ⟨hP s a h₀, ih (keep s a h₀)⟩

theorem Each.of_forall {Q : α → Prop} (h : ∀ a ∈ as, Q a) : Each step (fun _ a => Q a) s as := by
  induction as generalizing s with
  | nil => trivial
  | cons a as ih =>
      exact ⟨h a List.mem_cons_self, ih fun b hb => h b (List.mem_cons_of_mem a hb)⟩

theorem each_congr {Q : σ → α → Prop} (h : ∀ s a, P s a ↔ Q s a) :
    Each step P s as ↔ Each step Q s as := by
  induction as generalizing s with
  | nil => exact Iff.rfl
  | cons a as ih => exact and_congr (h s a) ih

/-- What every call preserves holds at the end. -/
theorem run_invariant (keep : ∀ s a, I s → I (step s a)) (h₀ : I s) (as : List α) :
    I (run step s as) :=
  Each.throughout (P := fun _ _ => True) (fun s a h _ => keep s a h) h₀
    (Each.of_invariant (I := fun _ => True) (fun _ _ _ => trivial) (fun _ _ _ => trivial) trivial as)
    as (List.prefix_refl as)

/-- A relation between states that every call extends relates the ends of a history. -/
theorem run_rel {R : σ → σ → Prop} (hrefl : ∀ s, R s s)
    (htrans : ∀ s t u, R s t → R t u → R s u) (keep : ∀ s a, R s (step s a)) (s : σ)
    (as : List α) : R s (run step s as) :=
  run_invariant (I := R s) (fun t a h => htrans s t (step t a) h (keep t a)) (hrefl s) as

/-- Where `P` is what a call needs to keep `I`, it is what a history needs. -/
theorem throughout_iff_each (keep : ∀ s a, I s → (I (step s a) ↔ P s a)) (h₀ : I s) :
    Throughout step I s as ↔ Each step P s as := by
  induction as generalizing s with
  | nil => exact iff_of_true (throughout_nil.mpr h₀) trivial
  | cons a as ih =>
      rw [throughout_cons]
      constructor
      · rintro ⟨-, h⟩
        have h₁ : I (step s a) := h [] List.nil_prefix
        exact ⟨(keep s a h₀).mp h₁, (ih h₁).mp h⟩
      · rintro ⟨hP, h⟩
        have h₁ : I (step s a) := (keep s a h₀).mpr hP
        exact ⟨h₀, (ih h₁).mpr h⟩

/-! ## Charges -/

/-- What the calls of a history are charged, each in the state in which it is made. -/
def charged (step : σ → α → σ) (charge : σ → α → Nat) : σ → List α → Nat
  | _, [] => 0
  | s, a :: as => charge s a + charged step charge (step s a) as

/-- **Accounting.** Where no allowed call lowers a potential by more than it is charged, a history
does not lower it by more than all the charges. -/
theorem Each.le_add_charged {φ : σ → Nat} {charge : σ → α → Nat}
    (hcharge : ∀ s a, P s a → φ s ≤ φ (step s a) + charge s a) (h : Each step P s as) :
    φ s ≤ φ (run step s as) + charged step charge s as := by
  induction as generalizing s with
  | nil => exact le_rfl
  | cons a as ih =>
      have hfirst := hcharge s a h.1
      have hrest := ih h.2
      have hrun : run step s (a :: as) = run step (step s a) as := rfl
      rw [hrun, charged]
      omega

/-! ## Replies and simulation -/

section Simulation

variable {τ β : Type} {step' : τ → α → τ} {answer : σ → α → β} {answer' : τ → α → β}
  {R : σ → τ → Prop} {t : τ}

/-- What the calls of a history are answered. -/
def replies (step : σ → α → σ) (answer : σ → α → β) : σ → List α → List β
  | _, [] => []
  | s, a :: as => answer s a :: replies step answer (step s a) as

/-- **Simulation.** Two systems that answer every allowed call alike, from states that are related
to states that are related, answer a history alike. -/
theorem Each.simulate
    (hsim : ∀ s t a, R s t → P s a → R (step s a) (step' t a) ∧ answer s a = answer' t a)
    (h₀ : R s t) (h : Each step P s as) :
    replies step answer s as = replies step' answer' t as ∧ R (run step s as) (run step' t as) := by
  induction as generalizing s t with
  | nil => exact ⟨rfl, h₀⟩
  | cons a as ih =>
      obtain ⟨hnext, hanswer⟩ := hsim s t a h₀ h.1
      obtain ⟨hreplies, hrun⟩ := ih hnext h.2
      refine ⟨?_, hrun⟩
      rw [replies, replies, hanswer, hreplies]

end Simulation

end Histories
