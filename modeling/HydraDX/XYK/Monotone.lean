import HydraDX.XYK.Product

set_option autoImplicit false

/-! # Prices are monotone in the amount

A sell takes the fee off the amount and exchanges the rest; a buy computes the price and puts
the fee on top. Each step rounds, and each step is monotone (`Lib/Rounding.lean`), so a larger
sell yields no less and a larger buy costs no less. For a buy it follows that a limit and a
balance that are enough for one amount are enough for every smaller one. -/

namespace HydraDX.XYK

variable {AccountId Hash : Type} [DecidableEq AccountId] {cfg : Config AccountId Hash}
  {s : State AccountId Hash} {who : AccountId} {assets : AssetPair} {discount : Bool}
  {x y limitX limitY : Nat} {t u : AMMTransfer AccountId}

/-- A larger sell yields no less. -/
theorem validateSell_mono (hxy : x ≤ y)
    (hx : validateSell cfg s who assets x limitX discount = .ok t)
    (hy : validateSell cfg s who assets y limitY discount = .ok u) : t.amountOut ≤ u.amountOut := by
  obtain ⟨feeX, hvx⟩ := validateSell_ok hx
  obtain ⟨feeY, hvy⟩ := validateSell_ok hy
  obtain ⟨hden, hfeeX⟩ := transferFee_ok hvx.fee_eq
  obtain ⟨-, hfeeY⟩ := transferFee_ok hvy.fee_eq
  have hnet : x - feeX ≤ y - feeY := by
    have hle := hvx.fee_le
    rw [hfeeX] at hle ⊢
    rw [hfeeY]
    exact Rounding.sub_fee_mono hden hle hxy
  rw [hvx.amountOut_eq, hvy.amountOut_eq]
  exact Nat.add_le_add_right (Rounding.out_mono hvx.reserve_pos hnet) 1

/-! ## Buys -/

/-- The price of an amount and the fee on top of it. -/
structure Costs (cfg : Config AccountId Hash) (s : State AccountId Hash) (assets : AssetPair)
    (discount : Bool) (amount cost : Nat) : Prop where
  amount_lt : amount < reserveOf cfg s assets assets.assetOut
  cost_eq : ∃ price fee, price = reserveOf cfg s assets assets.assetIn * amount
      / (reserveOf cfg s assets assets.assetOut - amount) + 1 ∧
    transferFee cfg discount price = .ok fee ∧ cost = price + fee

theorem BuyValid.costs {price fee : Nat}
    (hv : BuyValid cfg s who assets x limitX discount price fee t) :
    Costs cfg s assets discount x t.amountOut :=
  ⟨hv.amount_lt, price, fee, hv.price_eq, hv.fee_eq, hv.amountOut_eq⟩

/-- The cost is monotone in the amount. -/
theorem Costs.mono {costX costY : Nat} (hx : Costs cfg s assets discount x costX)
    (hy : Costs cfg s assets discount y costY) (hxy : x ≤ y) : costX ≤ costY := by
  obtain ⟨priceX, feeX, hpriceX, hfeeX, rfl⟩ := hx.cost_eq
  obtain ⟨priceY, feeY, hpriceY, hfeeY, rfl⟩ := hy.cost_eq
  have hprice : priceX ≤ priceY := by
    rw [hpriceX, hpriceY]
    exact Nat.add_le_add_right (Rounding.in_mono hy.amount_lt hxy) 1
  rw [(transferFee_ok hfeeX).2, (transferFee_ok hfeeY).2]
  exact Rounding.add_fee_mono hprice

/-- The errors that say that a buy costs too much. -/
def TooExpensive (e : DispatchError) : Prop :=
  e = .xyk .AssetBalanceLimitExceeded ∨ e = .xyk .InsufficientAssetBalance

theorem not_tooExpensive_of_okOr {α : Type} {a : Option α} {e : DispatchError}
    {error : XYKError} (h : okOr a error = .error e) (he : ¬ TooExpensive (.xyk error)) :
    ¬ TooExpensive e := by
  cases a with
  | none =>
      cases h
      exact he
  | some a => cases h

theorem not_tooExpensive_of_mapErr {α : Type} {a : Except MathError α} {e : DispatchError}
    {error : XYKError} (h : mapErr a error = .error e) (he : ¬ TooExpensive (.xyk error)) :
    ¬ TooExpensive e := by
  cases a with
  | error _ =>
      cases h
      exact he
  | ok a => cases h

/-- No fee is refused for costing too much. -/
theorem not_tooExpensive_of_transferFee {amount : Nat} {e : DispatchError}
    (h : transferFee cfg discount amount = .error e) : ¬ TooExpensive e := by
  cases discount with
  | false => exact not_tooExpensive_of_okOr h (by simp [TooExpensive])
  | true => exact not_tooExpensive_of_okOr h (by simp [TooExpensive])

theorem not_tooExpensive_of_discountFee {asset : AssetId} {fee : Nat} {e : DispatchError}
    (h : discountFee cfg s who asset discount fee = .error e) : ¬ TooExpensive e := by
  unfold discountFee at h
  cases discount with
  | false => cases h
  | true =>
      simp only [if_true, ↓Fallible.ensure_bind_eq_error, Fallible.bind_eq_error] at h
      rcases h with h | ⟨price, -, ⟨-, rfl⟩ | ⟨-, h⟩⟩
      · exact not_tooExpensive_of_mapErr h (by simp [TooExpensive])
      · simp [TooExpensive]
      · cases h

/-- A buy that is refused for costing too much: the limit or the balance is below its cost. -/
theorem validateBuy_tooExpensive {limit amount : Nat} {e : DispatchError} (he : TooExpensive e)
    (h : validateBuy cfg s who assets amount limit discount = .error e) :
    ∃ cost, Costs cfg s assets discount amount cost ∧
      (limit < cost ∨ s.ledger.free assets.assetIn who < cost) := by
  unfold validateBuy at h
  simp only [↓Fallible.ensure_bind_eq_error, Fallible.bind_eq_error] at h
  -- the exits in the order of the checks
  rcases h with ⟨-, rfl⟩ | ⟨-, h⟩
  · simp [TooExpensive] at he
  rcases h with ⟨-, rfl⟩ | ⟨hlt, h⟩
  · simp [TooExpensive] at he
  rcases h with ⟨-, rfl⟩ | ⟨-, h⟩
  · simp [TooExpensive] at he
  rcases h with ⟨-, rfl⟩ | ⟨-, h⟩
  · simp [TooExpensive] at he
  rcases h with h | ⟨price, hprice, h⟩
  · exact absurd he (not_tooExpensive_of_mapErr h (by simp [TooExpensive]))
  rcases h with h | ⟨fee, hfee, h⟩
  · exact absurd he (not_tooExpensive_of_transferFee h)
  rcases h with h | ⟨cost, hcost, h⟩
  · exact absurd he (not_tooExpensive_of_okOr h (by simp [TooExpensive]))
  have hcosts : Costs cfg s assets discount amount cost := by
    refine ⟨hlt, price, fee, ?_, hfee, ?_⟩
    · exact (cfg.math.inGivenOut_ok (mapErr_eq_ok.mp hprice)).2
    · exact (checkedAdd_eq_some.mp (okOr_eq_ok.mp hcost)).2
  rcases h with ⟨hlimit, -⟩ | ⟨-, h⟩
  · exact ⟨cost, hcosts, Or.inl (Nat.lt_of_not_le hlimit)⟩
  rcases h with ⟨hbalance, -⟩ | ⟨-, h⟩
  · exact ⟨cost, hcosts, Or.inr (Nat.lt_of_not_le hbalance)⟩
  rcases h with h | ⟨_, -, h⟩
  · exact absurd he (not_tooExpensive_of_discountFee h)
  · cases h

/-- **Prices are monotone in the amount.** A larger sell yields no less, a larger buy costs no
less, and a buy that is within its limit and the balance stays so for every smaller amount. -/
theorem prices_monotone (cfg : Config AccountId Hash) (s : State AccountId Hash)
    (who : AccountId) (assets : AssetPair) (discount : Bool) (x y : Nat) (hxy : x ≤ y) :
    (∀ limitX limitY t u, validateSell cfg s who assets x limitX discount = .ok t →
      validateSell cfg s who assets y limitY discount = .ok u → t.amountOut ≤ u.amountOut) ∧
    (∀ limitX limitY t u, validateBuy cfg s who assets x limitX discount = .ok t →
      validateBuy cfg s who assets y limitY discount = .ok u → t.amountOut ≤ u.amountOut) ∧
    (∀ limit u, validateBuy cfg s who assets y limit discount = .ok u →
      validateBuy cfg s who assets x limit discount ≠ .error (.xyk .AssetBalanceLimitExceeded) ∧
      validateBuy cfg s who assets x limit discount ≠ .error (.xyk .InsufficientAssetBalance)) := by
  refine ⟨fun limitX limitY t u hx hy => validateSell_mono hxy hx hy, ?_, ?_⟩
  · intro limitX limitY t u hx hy
    obtain ⟨_, _, hvx⟩ := validateBuy_ok hx
    obtain ⟨_, _, hvy⟩ := validateBuy_ok hy
    exact hvx.costs.mono hvy.costs hxy
  · intro limit u hy
    obtain ⟨_, _, hvy⟩ := validateBuy_ok hy
    have haffordable : ∀ e, TooExpensive e →
        validateBuy cfg s who assets x limit discount ≠ .error e := by
      intro e he hx
      obtain ⟨cost, hcosts, hless⟩ := validateBuy_tooExpensive he hx
      have hmono := hcosts.mono hvy.costs hxy
      have hlimit := hvy.limit_le
      have hbalance := hvy.balance
      omega
    exact ⟨haffordable _ (Or.inl rfl), haffordable _ (Or.inr rfl)⟩

open Fallible

theorem prices_monotone_nativePool :
    Succeeds nativePool fun s =>
      (Succeeds (validateSell Dev.cfg s [2] ⟨1, 0⟩ 2000 1 false) fun t =>
        Succeeds (validateSell Dev.cfg s [2] ⟨1, 0⟩ 10000 1 false) fun u =>
          t.amountOut ≤ u.amountOut) ∧
      Succeeds (validateBuy Dev.cfg s [2] ⟨0, 1⟩ 2000 200000 false) fun t =>
        Succeeds (validateBuy Dev.cfg s [2] ⟨0, 1⟩ 10000 200000 false) fun u =>
          t.amountOut ≤ u.amountOut := by
  have hok : Succeeds nativePool fun s =>
      (Succeeds (validateSell Dev.cfg s [2] ⟨1, 0⟩ 2000 1 false) fun _ =>
        Succeeds (validateSell Dev.cfg s [2] ⟨1, 0⟩ 10000 1 false) fun _ => True) ∧
      Succeeds (validateBuy Dev.cfg s [2] ⟨0, 1⟩ 2000 200000 false) fun _ =>
        Succeeds (validateBuy Dev.cfg s [2] ⟨0, 1⟩ 10000 200000 false) fun _ => True := by
    decide +kernel
  obtain ⟨s, hs, ⟨t, ht, u, hu, -⟩, t', ht', u', hu', -⟩ := hok
  have hsell := (prices_monotone Dev.cfg s [2] ⟨1, 0⟩ false 2000 10000 (by decide)).1
  have hbuy := (prices_monotone Dev.cfg s [2] ⟨0, 1⟩ false 2000 10000 (by decide)).2.1
  exact ⟨s, hs, ⟨t, ht, u, hu, hsell 1 1 t u ht hu⟩, t', ht', u', hu',
    hbuy 200000 200000 t' u' ht' hu'⟩

end HydraDX.XYK
