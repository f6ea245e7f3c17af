import HydraDX.Primitives
import HydraDX.Lib.Rounding

set_option autoImplicit false

/-! # Fees of an amount

`WithFee` of `primitives/src/lib.rs`. A fee of `n / d` is put on top of an amount (`withFee`),
taken out of one that has it on top (`withoutFee`), or computed alone (`justFee`). Each of the
three is a checked product divided by a number that is not zero, so it is undefined exactly when
the product does not fit, and otherwise the exact quotient rounded down. -/

namespace HydraDX

variable {x y w f : Nat} {fee : Fee}

theorem withFee_eq_some :
    withFee x fee = some w ↔
      x * (fee.denominator.toNat + fee.numerator.toNat) < balanceBound ∧
      fee.denominator.toNat ≠ 0 ∧
      w = x * (fee.denominator.toNat + fee.numerator.toNat) / fee.denominator.toNat :=
  checkedMul_checkedDiv_eq_some

theorem withoutFee_eq_some :
    withoutFee x fee = some w ↔
      x * fee.denominator.toNat < balanceBound ∧
      fee.denominator.toNat + fee.numerator.toNat ≠ 0 ∧
      w = x * fee.denominator.toNat / (fee.denominator.toNat + fee.numerator.toNat) :=
  checkedMul_checkedDiv_eq_some

/-- A checked product that is divided fails only where it does not fit. -/
theorem checkedMul_checkedDiv_eq_none {m q : Nat} (hq : q ≠ 0) :
    (checkedMul x m >>= fun y => checkedDiv y q) = none ↔ balanceBound ≤ x * m := by
  rw [Option.eq_none_iff_forall_ne_some]
  constructor
  · intro h
    by_contra hlt
    exact h _ (checkedMul_checkedDiv_eq_some.mpr ⟨by omega, hq, rfl⟩)
  · intro hle r hr
    have hlt := (checkedMul_checkedDiv_eq_some.mp hr).1
    omega

/-- **The fee on top is the fee alone.** -/
theorem withFee_eq_add_justFee (hw : withFee x fee = some w) (hf : justFee x fee = some f) :
    w = x + f := by
  obtain ⟨-, hd, rfl⟩ := withFee_eq_some.mp hw
  obtain ⟨-, -, rfl⟩ := justFee_eq_some.mp hf
  rw [Nat.mul_add, Nat.add_comm, Nat.add_mul_div_right _ _ (Nat.pos_of_ne_zero hd), Nat.add_comm]

/-- Taking the fee out again loses at most one unit. -/
theorem withoutFee_withFee (hw : withFee x fee = some w) (hy : withoutFee w fee = some y) :
    y = x ∨ y + 1 = x := by
  obtain ⟨-, hd, rfl⟩ := withFee_eq_some.mp hw
  obtain ⟨-, -, rfl⟩ := withoutFee_eq_some.mp hy
  have hle := Rounding.back_le x (fee.denominator.toNat + fee.numerator.toNat)
    fee.denominator.toNat
  have hge := Rounding.le_back_add_one (x := x) (Nat.pos_of_ne_zero hd)
    (Nat.le_add_right fee.denominator.toNat fee.numerator.toNat)
  omega

theorem withFee_withoutFee_le (hw : withoutFee x fee = some w) (hy : withFee w fee = some y) :
    y ≤ x := by
  obtain ⟨-, -, rfl⟩ := withoutFee_eq_some.mp hw
  obtain ⟨-, -, rfl⟩ := withFee_eq_some.mp hy
  exact Rounding.back_le _ _ _

/-- A larger amount does not give less. -/
theorem checkedMul_checkedDiv_mono {m q a b : Nat} (hxy : x ≤ y)
    (ha : (checkedMul x m >>= fun z => checkedDiv z q) = some a)
    (hb : (checkedMul y m >>= fun z => checkedDiv z q) = some b) : a ≤ b := by
  obtain ⟨-, -, rfl⟩ := checkedMul_checkedDiv_eq_some.mp ha
  obtain ⟨-, -, rfl⟩ := checkedMul_checkedDiv_eq_some.mp hb
  exact Nat.div_le_div_right (Nat.mul_le_mul_right m hxy)

theorem justFee_le (hnd : fee.numerator ≤ fee.denominator) (hf : justFee x fee = some f) :
    f ≤ x := by
  obtain ⟨-, -, rfl⟩ := justFee_eq_some.mp hf
  exact Rounding.part_le (UInt32.le_iff_toNat_le.mp hnd)

/-- The discount is one: seven of ten thousand are less than two of a thousand. -/
theorem discountedFee_le {g : Nat} (hg : discountedFee x = some g)
    (hf : justFee x Fee.default = some f) : g ≤ f := by
  obtain ⟨-, -, rfl⟩ := justFee_eq_some.mp hg
  obtain ⟨-, -, rfl⟩ := justFee_eq_some.mp hf
  show x * 7 / 10000 ≤ x * 2 / 1000
  omega

/-- A larger amount does not give less, where both results are defined. -/
def MonotoneWhereDefined (g : Nat → Option Nat) : Prop :=
  ∀ x y a b, x ≤ y → g x = some a → g y = some b → a ≤ b

/-- **The arithmetic of fees is consistent**, for every rate with a denominator. -/
theorem fee_arithmetic (fee : Fee) (hd : 0 < fee.denominator) :
    (∀ x w f, withFee x fee = some w → justFee x fee = some f → w = x + f) ∧
    (∀ x w y, withFee x fee = some w → withoutFee w fee = some y → y = x ∨ y + 1 = x) ∧
    (∀ x w y, withoutFee x fee = some w → withFee w fee = some y → y ≤ x) ∧
    MonotoneWhereDefined (justFee · fee) ∧ MonotoneWhereDefined (withFee · fee) ∧
    MonotoneWhereDefined (withoutFee · fee) ∧
    (fee.numerator ≤ fee.denominator → ∀ x f, justFee x fee = some f → f ≤ x) ∧
    (∀ x, withFee x fee = none ↔
      balanceBound ≤ x * (fee.denominator.toNat + fee.numerator.toNat)) ∧
    (∀ x, withoutFee x fee = none ↔ balanceBound ≤ x * fee.denominator.toNat) ∧
    (∀ x, justFee x fee = none ↔ balanceBound ≤ x * fee.numerator.toNat) ∧
    (∀ x w, withFee x fee = some w →
      w = x * (fee.denominator.toNat + fee.numerator.toNat) / fee.denominator.toNat) ∧
    (∀ x w, withoutFee x fee = some w →
      w = x * fee.denominator.toNat / (fee.denominator.toNat + fee.numerator.toNat)) ∧
    (∀ x f, justFee x fee = some f →
      f = x * fee.numerator.toNat / fee.denominator.toNat) ∧
    (∀ x g f, discountedFee x = some g → justFee x Fee.default = some f → g ≤ f) := by
  have hpos : 0 < fee.denominator.toNat := UInt32.lt_iff_toNat_lt.mp hd
  refine ⟨fun x w f => withFee_eq_add_justFee, fun x w y => withoutFee_withFee,
    fun x w y => withFee_withoutFee_le, fun x y a b => checkedMul_checkedDiv_mono,
    fun x y a b => checkedMul_checkedDiv_mono, fun x y a b => checkedMul_checkedDiv_mono,
    fun hnd x f => justFee_le hnd, fun x => checkedMul_checkedDiv_eq_none (by omega),
    fun x => checkedMul_checkedDiv_eq_none (by omega),
    fun x => checkedMul_checkedDiv_eq_none (by omega), fun x w h => (withFee_eq_some.mp h).2.2,
    fun x w h => (withoutFee_eq_some.mp h).2.2, fun x f h => (justFee_eq_some.mp h).2.2,
    fun x g f => discountedFee_le⟩

/-- At the default rate `1000` with its fee is `1002`, the fee is `2`, and `1000` comes back. Of an
amount of `1`, on which there is no fee, nothing comes back. -/
theorem fee_arithmetic_default :
    withFee 1000 Fee.default = some 1002 ∧ withoutFee 1002 Fee.default = some 1000 ∧
    justFee 1000 Fee.default = some 2 ∧ 1002 = 1000 + 2 ∧
    withFee 1 Fee.default = some 1 ∧ withoutFee 1 Fee.default = some 0 ∧ (0 = 1 ∨ 0 + 1 = 1) := by
  have h := fee_arithmetic Fee.default (by decide)
  have hwith : withFee 1000 Fee.default = some 1002 := by decide
  have hjust : justFee 1000 Fee.default = some 2 := by decide
  have hone : withFee 1 Fee.default = some 1 := by decide
  have hback : withoutFee 1 Fee.default = some 0 := by decide
  exact ⟨hwith, by decide, hjust, h.1 1000 1002 2 hwith hjust, hone, hback,
    h.2.1 1 1 0 hone hback⟩

end HydraDX
