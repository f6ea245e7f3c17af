import Mathlib.Tactic

set_option autoImplicit false

/-! # Rounding in a constant-product pool

A pool holds `i` of one asset and `o` of another. The lemmas below compare the product
`i * o`, or the part of a holding that belongs to one share, before and after an exchange
whose amounts were rounded to whole units. All numbers are natural numbers and a division
rounds down, so each of them says by how much the rounding can be off. -/

namespace Rounding

/-- Taking out the exact quotient, rounded down, and one unit more loses the divisor from the
product and leaves the remainder in it. -/
theorem out_mul_add {i o x : Nat} (h : o * x / (i + x) + 1 ≤ o) :
    (i + x) * (o - (o * x / (i + x) + 1)) + (i + x) = i * o + o * x % (i + x) := by
  have hdiv : (i + x) * (o * x / (i + x)) + o * x % (i + x) = o * x := Nat.div_add_mod _ _
  obtain ⟨left, hleft⟩ := Nat.exists_eq_add_of_le h
  have hsub : o - (o * x / (i + x) + 1) = left := by omega
  rw [hsub]
  generalize o * x / (i + x) = q at hdiv hleft
  generalize o * x % (i + x) = r at hdiv
  subst hleft
  nlinarith

/-- **A quotient rounded up and paid out.** With `fee` left in the pool on the other side, the
product does not fall exactly when the remainder and the fee's share make up for the unit
that was rounded up. -/
theorem product_le_out_iff {i o x fee : Nat} (h : o * x / (i + x) + 1 ≤ o) :
    i * o ≤ (i + x + fee) * (o - (o * x / (i + x) + 1)) ↔
      i + x ≤ o * x % (i + x) + fee * (o - (o * x / (i + x) + 1)) := by
  have key := out_mul_add h
  rw [Nat.add_mul]
  omega

/-- **A quotient rounded up and paid out** lowers the product by no more than the divisor. -/
theorem product_le_out (fee : Nat) {i o x : Nat} (h : o * x / (i + x) + 1 ≤ o) :
    i * o ≤ (i + x + fee) * (o - (o * x / (i + x) + 1)) + (i + x) := by
  have key := out_mul_add h
  rw [Nat.add_mul]
  omega

/-- **A quotient rounded up and paid in** never lowers the product. -/
theorem product_le_in {i o x fee : Nat} (h : x < o) :
    i * o ≤ (i + (i * x / (o - x) + 1 + fee)) * (o - x) := by
  have hpos : 0 < o - x := by omega
  have hup : i * x < (o - x) * (i * x / (o - x) + 1) := Nat.lt_mul_div_succ _ hpos
  calc i * o = i * (o - x) + i * x := by rw [← Nat.mul_add, Nat.sub_add_cancel h.le]
    _ ≤ i * (o - x) + (o - x) * (i * x / (o - x) + 1) := Nat.add_le_add_left hup.le _
    _ = (i + (i * x / (o - x) + 1)) * (o - x) := by ring
    _ ≤ (i + (i * x / (o - x) + 1 + fee)) * (o - x) :=
        Nat.mul_le_mul_right _ (by omega)

/-! ## Larger amounts

What is paid and what is received grow with the amount of the exchange, also where a fee that is
a rounded fraction of the amount is taken off first or put on top. -/

/-- A rate of at most one takes no more from what is added than what is added. -/
theorem sub_fraction_mono {x y n d : Nat} (hnd : n ≤ d) (hd : d ≠ 0) (h : x ≤ y) :
    x - x * n / d ≤ y - y * n / d := by
  obtain ⟨k, rfl⟩ := Nat.exists_eq_add_of_le h
  have hstep : (x + k) * n / d ≤ x * n / d + k := by
    calc (x + k) * n / d = (x * n + k * n) / d := by rw [Nat.add_mul]
      _ ≤ (x * n + k * d) / d :=
          Nat.div_le_div_right (Nat.add_le_add_left (Nat.mul_le_mul_left k hnd) _)
      _ = x * n / d + k := Nat.add_mul_div_right _ _ (Nat.pos_of_ne_zero hd)
  omega

/-- **What is left after the fee is monotone**, for every rate at which the fee is covered by the
amount: above one nothing is left of either amount. -/
theorem sub_fee_mono {x y n d : Nat} (hd : d ≠ 0) (hx : x * n / d ≤ x) (h : x ≤ y) :
    x - x * n / d ≤ y - y * n / d := by
  by_cases hnd : n ≤ d
  · exact sub_fraction_mono hnd hd h
  · have hall : x ≤ x * n / d := by
      rw [Nat.le_div_iff_mul_le (Nat.pos_of_ne_zero hd)]
      exact Nat.mul_le_mul_left x (by omega)
    omega

/-- **The output is monotone in the input.** -/
theorem out_mono {i o x y : Nat} (hi : i ≠ 0) (h : x ≤ y) :
    o * x / (i + x) ≤ o * y / (i + y) := by
  have hq : o * x / (i + x) * (i + x) ≤ o * x := Nat.div_mul_le_self _ _
  have hle : o * x / (i + x) ≤ o := by
    refine Nat.div_le_of_le_mul ?_
    rw [Nat.mul_comm]
    exact Nat.mul_le_mul_right o (Nat.le_add_left x i)
  rw [Nat.le_div_iff_mul_le (by omega)]
  obtain ⟨k, rfl⟩ := Nat.exists_eq_add_of_le h
  calc o * x / (i + x) * (i + (x + k)) = o * x / (i + x) * (i + x) + o * x / (i + x) * k := by ring
    _ ≤ o * x + o * k := Nat.add_le_add hq (Nat.mul_le_mul_right k hle)
    _ = o * (x + k) := (Nat.mul_add o x k).symm

/-- **The price of an output is monotone in the output.** -/
theorem in_mono {i o x y : Nat} (hy : y < o) (h : x ≤ y) :
    i * x / (o - x) ≤ i * y / (o - y) :=
  Nat.div_le_div (Nat.mul_le_mul_left i h) (Nat.sub_le_sub_left h o) (by omega)

/-- The price with a fee on top is monotone in the price. -/
theorem add_fee_mono {p q n d : Nat} (h : p ≤ q) : p + p * n / d ≤ q + q * n / d :=
  Nat.add_le_add h (Nat.div_le_div_right (Nat.mul_le_mul_right n h))

/-! ## There and back

An amount is multiplied by `m / q`, and the result by `q / m`, each rounded down. -/

/-- The way back does not lead above the amount. -/
theorem back_le (x m q : Nat) : x * m / q * q / m ≤ x := by
  by_cases hm : m = 0
  · rw [hm, Nat.div_zero]
    exact Nat.zero_le x
  · calc x * m / q * q / m ≤ x * m / m := Nat.div_le_div_right (Nat.div_mul_le_self _ _)
      _ = x := Nat.mul_div_cancel x (Nat.pos_of_ne_zero hm)

/-- If the first factor is at least one, the way back leads at most one unit below the amount. -/
theorem le_back_add_one {x m q : Nat} (hq : 0 < q) (hqm : q ≤ m) : x ≤ x * m / q * q / m + 1 := by
  cases x with
  | zero => exact Nat.zero_le _
  | succ x =>
      refine Nat.succ_le_succ ?_
      rw [Nat.le_div_iff_mul_le (Nat.lt_of_lt_of_le hq hqm)]
      have hdiv : q * ((x + 1) * m / q) + (x + 1) * m % q = (x + 1) * m := Nat.div_add_mod _ _
      have hmod : (x + 1) * m % q < q := Nat.mod_lt _ hq
      have hexpand : (x + 1) * m = x * m + m := Nat.succ_mul x m
      rw [Nat.mul_comm _ q]
      omega

/-- Of two products with the same first factor the second has lost at most one unit of the other, if
it has lost less than twice the factor. -/
theorem le_succ_of_product_le {i o o' x : Nat} (hx : x < i) (h : i * o ≤ i * o' + (i + x)) :
    o ≤ o' + 1 := by
  by_contra hlt
  have hmul : i * (o' + 2) ≤ i * o := Nat.mul_le_mul_left i (by omega)
  rw [Nat.mul_add] at hmul
  omega

/-- What has been bought for `c` is sold for no more than `c`, also if less of it is exchanged. -/
theorem sold_back_le {i o x y c : Nat} (hx : x < o) (hy : y ≤ x) (hc : i * x / (o - x) < c) :
    (i + c) * y / (o - x + y) + 1 ≤ c := by
  have hprice : i * x < c * (o - x) := (Nat.div_lt_iff_lt_mul (by omega)).mp hc
  have hall : (i + c) * x < c * o := by
    have hsplit : c * o = c * (o - x) + c * x := by rw [← Nat.mul_add, Nat.sub_add_cancel hx.le]
    rw [Nat.add_mul]
    omega
  have hfull : (i + c) * x / (o - x + x) < c := by
    rw [Nat.sub_add_cancel hx.le]
    exact (Nat.div_lt_iff_lt_mul (by omega)).mpr hall
  exact Nat.lt_of_le_of_lt (out_mono (by omega) hy) hfull

/-! ## Shares

A holding of `r` units belongs to `total` shares. Somebody pays `paid` units in and gets
`minted` new shares; a share is worth what it was, up to one unit of the payment, if
`r * minted ≤ (paid + 1) * total`. -/

/-- Payments in proportion to holdings that the shares cover: the first one exact, -/
theorem mul_le_paid {r x total : Nat} (h : r ≤ total) : r * x ≤ (x + 1) * total := by
  calc r * x ≤ total * x := Nat.mul_le_mul_right x h
    _ ≤ (x + 1) * total := by rw [Nat.mul_comm]; exact Nat.mul_le_mul_right _ (Nat.le_succ x)

/-- the second one rounded down, with the shares counted in the first, -/
theorem mul_le_paid_rounded {r q x total : Nat} (hr : r ≠ 0) (h : r ≤ total) :
    q * x ≤ (x * q / r + 1) * total := by
  have hup : x * q < r * (x * q / r + 1) := Nat.lt_mul_div_succ _ (Nat.pos_of_ne_zero hr)
  calc q * x = x * q := Nat.mul_comm _ _
    _ ≤ (x * q / r + 1) * r := by rw [Nat.mul_comm _ r]; exact hup.le
    _ ≤ (x * q / r + 1) * total := Nat.mul_le_mul_left _ h

/-- or the first one exact, with the shares counted in the second. -/
theorem rounded_mul_le_paid {r q x total : Nat} (h : q ≤ total) :
    r * (x * q / r) ≤ (x + 1) * total := by
  calc r * (x * q / r) ≤ x * q := Nat.mul_div_le _ _
    _ ≤ x * total := Nat.mul_le_mul_left x h
    _ ≤ (x + 1) * total := Nat.mul_le_mul_right _ (Nat.le_succ x)

/-- The part of the holding that belongs to one share has not become less. -/
theorem share_value_le {r minted paid total : Nat} (h : r * minted ≤ (paid + 1) * total) :
    r * (total + minted) ≤ (r + paid + 1) * total := by
  calc r * (total + minted) = r * total + r * minted := Nat.mul_add _ _ _
    _ ≤ r * total + (paid + 1) * total := Nat.add_le_add_left h _
    _ = (r + paid + 1) * total := by ring

/-- The new shares are not worth more than what was paid, and one unit. -/
theorem payout_le {r minted paid total : Nat} (h : r * minted ≤ (paid + 1) * total) :
    (r + paid) * minted / (total + minted) ≤ paid + 1 := by
  apply Nat.div_le_of_le_mul
  calc (r + paid) * minted = r * minted + paid * minted := Nat.add_mul _ _ _
    _ ≤ (paid + 1) * total + (paid + 1) * minted :=
        Nat.add_le_add h (Nat.mul_le_mul_right _ (Nat.le_succ paid))
    _ = (total + minted) * (paid + 1) := by ring

/-! Somebody gives `shares` of the `total` back and is paid that part of the holding. -/

theorem part_le {r shares total : Nat} (h : shares ≤ total) : r * shares / total ≤ r :=
  Nat.div_le_of_le_mul (by rw [Nat.mul_comm]; exact Nat.mul_le_mul_right r h)

/-- The other shares are worth no less than before, and no more than one unit is withheld. -/
theorem rest_bounds {r shares total : Nat} (h : shares ≤ total) (ht : total ≠ 0) :
    r * (total - shares) ≤ (r - r * shares / total) * total ∧
    (r - r * shares / total) * total < r * (total - shares) + total := by
  have hle := part_le (r := r) h
  have hdiv : total * (r * shares / total) + r * shares % total = r * shares := Nat.div_add_mod _ _
  have hmod : r * shares % total < total := Nat.mod_lt _ (Nat.pos_of_ne_zero ht)
  have hrest : (r - r * shares / total) * total + total * (r * shares / total) = r * total := by
    rw [Nat.mul_comm total, ← Nat.add_mul, Nat.sub_add_cancel hle]
  have hpart : r * (total - shares) + r * shares = r * total := by
    rw [← Nat.mul_add, Nat.sub_add_cancel h]
  omega

end Rounding
