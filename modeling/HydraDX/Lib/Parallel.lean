import HydraDX.Lib.Fallible

set_option autoImplicit false

/-! # Two fallible computations side by side

`Matches R x y` says that the computations `x` and `y` fail alike, or both succeed with
results that `R` relates. Steps that match make loops that match (`Matches.foldlM`), over
lists whose elements are related one by one. -/

namespace Fallible

variable {α β α' β' ε : Type}

/-- Both fail alike, or both succeed with related results. -/
def Matches (R : α → β → Prop) : Except ε α → Except ε β → Prop
  | .ok a, .ok b => R a b
  | .error e, .error e' => e = e'
  | _, _ => False

variable {R : α → β → Prop} {R' : α' → β' → Prop} {x : Except ε α} {y : Except ε β}

theorem Matches.cases (h : Matches R x y) :
    (∃ e, x = .error e ∧ y = .error e) ∨ ∃ a b, x = .ok a ∧ y = .ok b ∧ R a b := by
  cases x with
  | error e =>
      cases y with
      | error e' => exact Or.inl ⟨e, rfl, congrArg Except.error (Eq.symm h)⟩
      | ok b => exact h.elim
  | ok a =>
      cases y with
      | error e' => exact h.elim
      | ok b => exact Or.inr ⟨a, b, rfl, rfl, h⟩

theorem Matches.of_ok {a : α} (h : Matches R x y) (hx : x = .ok a) : ∃ b, y = .ok b ∧ R a b := by
  rcases h.cases with ⟨e, he, -⟩ | ⟨a', b, ha, hb, hab⟩
  · cases hx.symm.trans he
  · cases hx.symm.trans ha
    exact ⟨b, hb, hab⟩

theorem Matches.of_ok_right {b : β} (h : Matches R x y) (hy : y = .ok b) :
    ∃ a, x = .ok a ∧ R a b := by
  rcases h.cases with ⟨e, -, he⟩ | ⟨a, b', ha, hb, hab⟩
  · cases hy.symm.trans he
  · cases hy.symm.trans hb
    exact ⟨a, ha, hab⟩

theorem Matches.bind (h : Matches R x y) {f : α → Except ε α'} {g : β → Except ε β'}
    (hfg : ∀ a b, R a b → Matches R' (f a) (g b)) : Matches R' (x >>= f) (y >>= g) := by
  rcases h.cases with ⟨e, rfl, rfl⟩ | ⟨a, b, rfl, rfl, hab⟩
  · exact rfl
  · exact hfg a b hab

theorem Matches.refl {x : Except ε α} : Matches Eq x x := by
  cases x with
  | error e => rfl
  | ok a => rfl

/-- **Loops side by side.** -/
theorem Matches.foldlM {σ τ : Type} {R : σ → τ → Prop} {S : α → β → Prop}
    {f : σ → α → Except ε σ} {g : τ → β → Except ε τ}
    (step : ∀ s t a b, R s t → S a b → Matches R (f s a) (g t b))
    {as : List α} {bs : List β} (hab : List.Forall₂ S as bs) {s : σ} {t : τ} (h : R s t) :
    Matches R (as.foldlM f s) (bs.foldlM g t) := by
  induction hab generalizing s t with
  | nil => exact h
  | cons hab _ ih =>
      rw [List.foldlM_cons, List.foldlM_cons]
      exact (step s t _ _ h hab).bind fun _ _ => ih

/-- The same for loops that cannot fail. -/
theorem foldl_related {σ τ : Type} {R : σ → τ → Prop} {S : α → β → Prop} {f : σ → α → σ}
    {g : τ → β → τ} (step : ∀ s t a b, R s t → S a b → R (f s a) (g t b))
    {as : List α} {bs : List β} (hab : List.Forall₂ S as bs) {s : σ} {t : τ} (h : R s t) :
    R (as.foldl f s) (bs.foldl g t) := by
  induction hab generalizing s t with
  | nil => exact h
  | cons hab _ ih => exact ih (step s t _ _ h hab)

end Fallible
