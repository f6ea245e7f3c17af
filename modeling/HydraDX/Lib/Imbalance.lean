import HydraDX.Lib.Supply

set_option autoImplicit false

/-! # Balances that change ahead of the issuance

Taking from a free balance and giving to it, with the issuance left as it is. The difference is
kept as an amount outside of the ledger until it is written off (`retire`). Taking `x`, giving
`y ≤ x` of it back and writing the rest off is destroying the rest (`take_give_retire`).

In between any operations may take place. They are the same on the ledger from which the amount
is written off already (`Moves.retire`), so that giving something back later is issuing it
(`give_retire`). -/

namespace Ledger

variable {Asset Account : Type} [DecidableEq Asset] [DecidableEq Account]

/-- Take `x` of the free balance of `w`. -/
def take (l : Ledger Asset Account) (c : Asset) (w : Account) (x : Nat) : Ledger Asset Account :=
  { l with free := put l.free c w (l.free c w - x) }

/-- Give `x` to the free balance of `w`. -/
def give (l : Ledger Asset Account) (c : Asset) (w : Account) (x : Nat) : Ledger Asset Account :=
  { l with free := put l.free c w (l.free c w + x) }

/-- Write `x` off the issuance. -/
def retire (l : Ledger Asset Account) (c : Asset) (x : Nat) : Ledger Asset Account :=
  { l with issuance := Function.update l.issuance c (l.issuance c - x) }

variable {l : Ledger Asset Account} {c c' : Asset} {w w' : Account} {x y : Nat}

theorem take_free_self : (l.take c w x).free c w = l.free c w - x := put_same _ _ _ _

theorem take_free_of_ne (h : c' ≠ c ∨ w' ≠ w) : (l.take c w x).free c' w' = l.free c' w' :=
  put_of_ne h

theorem burn_issuance_self : (l.burn c w x).issuance c = l.issuance c - x :=
  Function.update_self ..

/-- Destroying is taking and writing off. -/
theorem take_retire (l : Ledger Asset Account) (c : Asset) (w : Account) (x : Nat) :
    (l.take c w x).retire c x = l.burn c w x := rfl

/-- What is given back need not have been taken. -/
theorem take_give (hy : y ≤ x) (hx : x ≤ l.free c w) :
    (l.take c w x).give c w y = l.take c w (x - y) := by
  have hfree : put (put l.free c w (l.free c w - x)) c w (l.free c w - x + y)
      = put l.free c w (l.free c w - (x - y)) := by
    funext c' w'
    simp only [put_apply]
    split_ifs with h
    · omega
    · rfl
  simp only [take, give, put_same, hfree]

/-- **Taking, giving back and writing off.** -/
theorem take_give_retire (hy : y ≤ x) (hx : x ≤ l.free c w) :
    ((l.take c w x).give c w y).retire c (x - y) = l.burn c w (x - y) := by
  rw [take_give hy hx, take_retire]

@[simp] theorem give_zero (l : Ledger Asset Account) (c : Asset) (w : Account) :
    l.give c w 0 = l := by
  simp only [give, Nat.add_zero, put_eq_self]

/-- Giving back `y` of what was issued before is issuing it anew. -/
theorem give_retire (hy : y ≤ x) (hx : x ≤ l.issuance c) :
    (l.give c w y).retire c (x - y) = (l.retire c x).mint c w y := by
  have hissuance : l.issuance c - (x - y) = l.issuance c - x + y := by omega
  simp only [give, retire, mint, Function.update_self, Function.update_idem, hissuance]

omit [DecidableEq Account] in
theorem retire_issuance_le (a : Asset) : (l.retire c x).issuance a ≤ l.issuance a := by
  show Function.update l.issuance c (l.issuance c - x) a ≤ l.issuance a
  rw [Function.update_apply]
  split_ifs with ha
  · rw [ha]
    exact Nat.sub_le _ _
  · exact Nat.le_refl _

/-! ## Operations in between -/

theorem move_retire {a : Asset} {source dest : Account} :
    (l.move a source dest y).retire c x = (l.retire c x).move a source dest y := by
  unfold move
  split_ifs
  · rfl
  · rfl

theorem mint_retire {a : Asset} (hx : x ≤ l.issuance c) :
    (l.mint a w y).retire c x = (l.retire c x).mint a w y := by
  by_cases hc : c = a
  · subst hc
    have hsum : l.issuance c + y - x = l.issuance c - x + y := by omega
    simp only [retire, mint, Function.update_self, Function.update_idem, hsum]
  · simp only [retire, mint, Function.update_of_ne hc, Function.update_of_ne (Ne.symm hc),
      Function.update_comm hc]

theorem burn_retire {a : Asset} : (l.burn a w y).retire c x = (l.retire c x).burn a w y := by
  by_cases hc : c = a
  · subst hc
    simp only [retire, burn, Function.update_self, Function.update_idem,
      Nat.sub_right_comm (l.issuance c) y x]
  · simp only [retire, burn, Function.update_of_ne hc, Function.update_of_ne (Ne.symm hc),
      Function.update_comm hc]

section Between

variable {I D : Asset → Prop} {l l' : Ledger Asset Account}

/-- Balances that are issued once `x` is written off: `x` is issued and held by nobody. -/
structure Ahead (l : Ledger Asset Account) (c : Asset) (x : Nat) : Prop where
  issued : x ≤ l.issuance c
  backed : (l.retire c x).Backed

omit [DecidableEq Account] in
theorem Ahead.of_backed (hl : l.Ahead c x) : l.Backed := fun a U =>
  (hl.backed a U).trans (retire_issuance_le a)

/-- What is taken from a balance is outstanding. -/
theorem Backed.ahead_take (hl : l.Backed) (hx : x ≤ l.free c w) : (l.take c w x).Ahead c x := by
  refine ⟨?_, ?_⟩
  · have hsum := hl c {w}
    rw [Finset.sum_singleton] at hsum
    exact hx.trans ((Nat.le_add_right _ _).trans hsum)
  · rw [take_retire]
    exact hl.burn hx

theorem Step.retire (h : Step I D l l') (hl : l.Ahead c x) :
    Step I D (l.retire c x) (l'.retire c x) ∧ x ≤ l'.issuance c := by
  obtain ⟨hx, hback⟩ := hl
  cases h with
  | move a source dest y hy =>
      rw [move_retire, move_issuance]
      exact ⟨.move a source dest y hy, hx⟩
  | mint a w y ha =>
      rw [mint_retire hx]
      refine ⟨.mint a w y ha, hx.trans ?_⟩
      rw [mint_issuance]
      split_ifs with hc
      · rw [hc]
        exact Nat.le_add_right _ _
      · exact Nat.le_refl _
  | burn a w y ha hy =>
      -- what is destroyed is not the amount that is written off
      have hcovered : y ≤ (l.retire c x).issuance a := by
        have hsum := hback a {w}
        rw [Finset.sum_singleton] at hsum
        exact hy.trans ((Nat.le_add_right _ _).trans hsum)
      rw [burn_retire]
      refine ⟨.burn a w y ha hy, ?_⟩
      rw [burn_issuance]
      split_ifs with hc
      · subst hc
        have hself : (l.retire c x).issuance c = l.issuance c - x := Function.update_self ..
        omega
      · exact hx
  | hold a w y hy => exact ⟨.hold a w y hy, hx⟩
  | release a w y => exact ⟨.release a w y, hx⟩
  | repatriate a source dest y => exact ⟨.repatriate a source dest y, hx⟩

/-- **Operations with an amount outstanding** are the same ones once it is written off. -/
theorem Moves.retire (h : Moves I D l l') (hl : l.Ahead c x) :
    Moves I D (l.retire c x) (l'.retire c x) ∧ l'.Ahead c x := by
  induction h with
  | refl => exact ⟨.refl _, hl⟩
  | tail _ hstep ih =>
      obtain ⟨hmoves, hahead⟩ := ih
      obtain ⟨hstep', hx⟩ := hstep.retire hahead
      have hall := hmoves.trans hstep'.moves
      exact ⟨hall, hx, hall.backed hl.backed⟩

end Between

end Ledger
