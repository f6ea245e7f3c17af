import HydraDX.XYK.Product
import HydraDX.Lib.Histories

set_option autoImplicit false

/-! # What traders can take out of a pool

The output of a sell is rounded up, so a sell can take more out of a pool than it is worth. How much
more is bounded: in the product of the reserves, by what the pool holds of the sold asset afterwards
(`product_le_run`). Over a run of trades in both directions, made by anybody and mixed with calls on
other pools, these bounds add up, and nothing else is lost. So trading back and forth takes at most
one unit for each sell, and none if the first of the two trades is a buy (`round_trips`). -/

namespace HydraDX.XYK

open Histories

variable {AccountId Hash : Type} [DecidableEq AccountId] {cfg : Config AccountId Hash}
  {s s' s₁ s₂ : State AccountId Hash} {who who' : AccountId} {assets : AssetPair}
  {amount limit limit' fee : Nat} {discount discount' : Bool} {t : AMMTransfer AccountId}

/-! ## One trade -/

theorem reserveOf_swap (s : State AccountId Hash) (assets : AssetPair) (asset : AssetId) :
    reserveOf cfg s assets.swap asset = reserveOf cfg s assets asset := by
  unfold reserveOf
  rw [getPairId_swap]

/-- The reserves after a sell by another account. -/
theorem sell_reserves (hne : assets.assetIn ≠ assets.assetOut) (hwho : who ≠ getPairId cfg assets)
    (h : sell cfg who assets.assetIn assets.assetOut amount limit discount s = .ok s') :
    ∃ exchanged out, exchanged ≤ amount ∧
      amount < reserveOf cfg s assets assets.assetIn ∧
      out = reserveOf cfg s assets assets.assetOut * exchanged
        / (reserveOf cfg s assets assets.assetIn + exchanged) + 1 ∧
      out < reserveOf cfg s assets assets.assetOut ∧
      reserveOf cfg s' assets assets.assetIn = reserveOf cfg s assets assets.assetIn + amount ∧
      reserveOf cfg s' assets assets.assetOut = reserveOf cfg s assets assets.assetOut - out := by
  obtain ⟨fee, t, hv, rfl⟩ := sell_ok h
  obtain ⟨hin, hout⟩ := hv.reserves hne hwho
  have hlt : amount < reserveOf cfg s assets assets.assetIn :=
    Nat.lt_of_le_of_lt hv.ratio (Nat.div_lt_self (Nat.pos_of_ne_zero hv.reserve_pos) (by decide))
  exact ⟨amount - fee, t.amountOut, Nat.sub_le _ _, hlt, hv.amountOut_eq, hv.amountOut_lt, hin,
    hout⟩

/-- The reserves after a buy by another account. -/
theorem buy_reserves (hne : assets.assetIn ≠ assets.assetOut) (hwho : who ≠ getPairId cfg assets)
    (h : buy cfg who assets.assetOut assets.assetIn amount limit discount s = .ok s') :
    ∃ paid, amount < reserveOf cfg s assets assets.assetOut ∧
      reserveOf cfg s assets assets.assetIn * amount
        / (reserveOf cfg s assets assets.assetOut - amount) < paid ∧
      reserveOf cfg s' assets assets.assetIn = reserveOf cfg s assets assets.assetIn + paid ∧
      reserveOf cfg s' assets assets.assetOut
        = reserveOf cfg s assets assets.assetOut - amount := by
  obtain ⟨price, fee, t, hv, rfl⟩ := buy_ok h
  obtain ⟨hin, hout⟩ := hv.reserves hne hwho
  have hprice : price = reserveOf cfg s assets assets.assetIn * amount
      / (reserveOf cfg s assets assets.assetOut - amount) + 1 := hv.price_eq
  exact ⟨price + fee, hv.amount_lt, by omega, hin, hout⟩

/-- What a sell may take from the product. -/
theorem sell_product_le (hne : assets.assetIn ≠ assets.assetOut) (hwho : who ≠ getPairId cfg assets)
    (h : sell cfg who assets.assetIn assets.assetOut amount limit discount s = .ok s') :
    product cfg s assets ≤ product cfg s' assets + reserveOf cfg s' assets assets.assetIn := by
  obtain ⟨exchanged, out, hle, -, rfl, hlt, hin, hout⟩ := sell_reserves hne hwho h
  obtain ⟨rest, rfl⟩ := Nat.exists_eq_add_of_le hle
  have hprod := Rounding.product_le_out rest hlt.le
  have hsum : reserveOf cfg s assets assets.assetIn + (exchanged + rest)
      = reserveOf cfg s assets assets.assetIn + exchanged + rest := (Nat.add_assoc _ _ _).symm
  unfold product
  rw [hin, hout, hsum]
  exact hprod.trans (Nat.add_le_add_left (Nat.le_add_right _ _) _)

/-! ## One call -/

def Call.isTrade : Call AccountId → Bool
  | .sell .. => true
  | .buy .. => true
  | _ => false

/-- The call leaves the liquidity of the pool alone, and is not made by its account. -/
def Call.Trades (cfg : Config AccountId Hash) (assets : AssetPair) (call : Call AccountId) : Prop :=
  call.who ≠ getPairId cfg assets ∧
    (call.isTrade = true ∨ getPairId cfg call.assets ≠ getPairId cfg assets)

/-- What a call may take from the product of the reserves: for a sell in the pool that succeeds,
what the pool holds of the sold asset then. -/
def Call.rounding (cfg : Config AccountId Hash) (assets : AssetPair) (s : State AccountId Hash)
    (call : Call AccountId) : Nat :=
  match call, call.dispatch cfg s with
  | .sell _ assetIn assetOut _ _ _, .ok s' =>
      if getPairId cfg ⟨assetIn, assetOut⟩ = getPairId cfg assets then
        reserveOf cfg s' assets assetIn
      else 0
  | _, _ => 0

theorem rounding_of_sell {a b : AssetId} (h : sell cfg who a b amount limit discount s = .ok s')
    (hpool : getPairId cfg ⟨a, b⟩ = getPairId cfg assets) :
    (Call.sell who a b amount limit discount).rounding cfg assets s
      = reserveOf cfg s' ⟨a, b⟩ a := by
  have hdispatch : Call.dispatch cfg s (.sell who a b amount limit discount) = .ok s' := h
  unfold Call.rounding reserveOf
  simp only [hdispatch]
  rw [if_pos hpool, hpool]

/-- **No call takes more than its rounding.** -/
theorem Call.product_le (hinj : SeedsInjective cfg) (hne : assets.assetIn ≠ assets.assetOut)
    {call : Call AccountId} (hcall : call.Trades cfg assets) :
    product cfg s assets ≤ product cfg (attempt (Call.dispatch cfg) s call) assets
      + call.rounding cfg assets s := by
  cases h : call.dispatch cfg s with
  | error e =>
      rw [attempt_of_error h]
      exact Nat.le_add_right _ _
  | ok s' =>
      rw [attempt_of_ok h]
      by_cases hpool : getPairId cfg call.assets = getPairId cfg assets
      · -- on this pool, in one of the two directions
        suffices key : call.assets.assetIn ≠ call.assets.assetOut →
            product cfg s call.assets ≤ product cfg s' call.assets + call.rounding cfg assets s by
          rcases hinj.eq_or_swap hpool with he | he
          · rw [he] at key
            exact key hne
          · rw [he, product_swap, product_swap] at key
            exact key hne.symm
        intro hne'
        have hwho : call.who ≠ getPairId cfg call.assets := fun he => hcall.1 (he.trans hpool)
        cases call with
        | createPool => exact absurd hpool (hcall.2.resolve_left Bool.false_ne_true)
        | addLiquidity => exact absurd hpool (hcall.2.resolve_left Bool.false_ne_true)
        | removeLiquidity => exact absurd hpool (hcall.2.resolve_left Bool.false_ne_true)
        | sell who a b amount limit discount =>
            rw [rounding_of_sell h hpool]
            exact sell_product_le hne' hwho h
        | buy who a b amount limit discount =>
            exact (buy_product_le ⟨b, a⟩ hwho h).trans (Nat.le_add_right _ _)
      · have huntouched := Call.untouched h (Ne.symm hcall.1) (Ne.symm hpool)
        rw [huntouched.product]
        exact Nat.le_add_right _ _

/-! ## Runs -/

/-- **What a run of trades takes out of a pool.** Whoever trades in it, in whatever order and in
either direction, whatever is done to other pools in between: the product of the reserves does not
fall by more than the roundings of the sells. -/
theorem product_le_run (hinj : SeedsInjective cfg) (assets : AssetPair)
    (hne : assets.assetIn ≠ assets.assetOut) (s : State AccountId Hash)
    (calls : List (Call AccountId)) (hcalls : ∀ call ∈ calls, call.Trades cfg assets) :
    product cfg s assets ≤ product cfg (run (attempt (Call.dispatch cfg)) s calls) assets
      + charged (attempt (Call.dispatch cfg)) (Call.rounding cfg assets) s calls :=
  Each.le_add_charged (φ := fun s => product cfg s assets)
    (fun _ _ hcall => Call.product_le hinj hne hcall) (Each.of_forall hcalls)

open Fallible

/-- Trades in both directions, one of which fails, and a pool of another pair. -/
def backAndForth : List (Call Dev.AccountId) :=
  [.sell [2] 1 2 10 1 false, .buy [2] 2 1 500 1000 false, .sell [2] 2 1 300 400 false,
    .createPool [1] 1 3 1000 (10 ^ 18), .sell [2] 2 1 300 1 false]

theorem product_le_run_backAndForth :
    Succeeds deepPool fun s =>
      product Dev.cfg s ⟨1, 2⟩ = 10000000000 ∧
      charged (attempt (Call.dispatch Dev.cfg)) (Call.rounding Dev.cfg ⟨1, 2⟩) s backAndForth
        = 199800 ∧
      10000000000 ≤ product Dev.cfg (run (attempt (Call.dispatch Dev.cfg)) s backAndForth) ⟨1, 2⟩
        + 199800 := by
  obtain ⟨s, hs, hproduct, hcharged⟩ : Succeeds deepPool fun s =>
      product Dev.cfg s ⟨1, 2⟩ = 10000000000 ∧
      charged (attempt (Call.dispatch Dev.cfg)) (Call.rounding Dev.cfg ⟨1, 2⟩) s backAndForth
        = 199800 := by
    decide +kernel
  have hle := product_le_run Dev.seedsInjective ⟨1, 2⟩ (by decide) s backAndForth
    (by unfold Call.Trades; decide)
  rw [hproduct, hcharged] at hle
  exact ⟨s, hs, hproduct, hcharged, hle⟩

/-! ## Back and forth -/

/-- **Back and forth.** To sell and to buy back what was sold takes at most one unit out of the pool,
and to buy and to sell what was bought takes nothing, with or without discount, and also if the
second trade is made by somebody else. -/
theorem round_trips (assets : AssetPair) (hne : assets.assetIn ≠ assets.assetOut)
    (hwho : who ≠ getPairId cfg assets) (hwho' : who' ≠ getPairId cfg assets) :
    (∀ (s s₁ s₂ : State AccountId Hash) (amount limit limit' : Nat) (discount discount' : Bool),
      sell cfg who assets.assetIn assets.assetOut amount limit discount s = .ok s₁ →
      buy cfg who' assets.assetIn assets.assetOut amount limit' discount' s₁ = .ok s₂ →
      reserveOf cfg s₂ assets assets.assetIn = reserveOf cfg s assets assets.assetIn ∧
      reserveOf cfg s assets assets.assetOut ≤ reserveOf cfg s₂ assets assets.assetOut + 1) ∧
    (∀ (s s₁ s₂ : State AccountId Hash) (amount limit limit' : Nat) (discount discount' : Bool),
      buy cfg who assets.assetOut assets.assetIn amount limit discount s = .ok s₁ →
      sell cfg who' assets.assetOut assets.assetIn amount limit' discount' s₁ = .ok s₂ →
      reserveOf cfg s₂ assets assets.assetOut = reserveOf cfg s assets assets.assetOut ∧
      reserveOf cfg s assets assets.assetIn ≤ reserveOf cfg s₂ assets assets.assetIn) := by
  have hback : who' ≠ getPairId cfg assets.swap := by
    rw [getPairId_swap]
    exact hwho'
  constructor
  · intro s s₁ s₂ amount limit limit' discount discount' hsell hbuy
    obtain ⟨_, _, -, hamount, -, -, hin, -⟩ := sell_reserves hne hwho hsell
    obtain ⟨_, -, -, -, hout⟩ := buy_reserves hne.symm hback hbuy
    have hsold := sell_product_le hne hwho hsell
    have hbought := buy_product_le assets.swap hback hbuy
    rw [product_swap, product_swap] at hbought
    simp only [reserveOf_swap] at hout
    have hsame : reserveOf cfg s₂ assets assets.assetIn = reserveOf cfg s assets assets.assetIn := by
      rw [← Nat.add_sub_cancel (n := reserveOf cfg s assets assets.assetIn) (m := amount), ← hin]
      exact hout
    refine ⟨hsame, Rounding.le_succ_of_product_le hamount ?_⟩
    calc reserveOf cfg s assets assets.assetIn * reserveOf cfg s assets assets.assetOut
        ≤ product cfg s₁ assets + reserveOf cfg s₁ assets assets.assetIn := hsold
      _ ≤ product cfg s₂ assets + reserveOf cfg s₁ assets assets.assetIn :=
          Nat.add_le_add_right hbought _
      _ = reserveOf cfg s assets assets.assetIn * reserveOf cfg s₂ assets assets.assetOut
            + (reserveOf cfg s assets assets.assetIn + amount) := by rw [product, hsame, hin]
  · intro s s₁ s₂ amount limit limit' discount discount' hbuy hsell
    obtain ⟨paid, hlt, hpaid, hin, hout⟩ := buy_reserves hne hwho hbuy
    obtain ⟨exchanged, out, hle, -, hpayout, -, hin', hout'⟩ :=
      sell_reserves hne.symm hback hsell
    simp only [reserveOf_swap] at hpayout hin' hout'
    change out = reserveOf cfg s₁ assets assets.assetIn * exchanged
      / (reserveOf cfg s₁ assets assets.assetOut + exchanged) + 1 at hpayout
    change reserveOf cfg s₂ assets assets.assetOut
      = reserveOf cfg s₁ assets assets.assetOut + amount at hin'
    change reserveOf cfg s₂ assets assets.assetIn
      = reserveOf cfg s₁ assets assets.assetIn - out at hout'
    rw [hin, hout] at hpayout
    have hcost : out ≤ paid := hpayout.le.trans (Rounding.sold_back_le hlt hle hpaid)
    omega

theorem round_trips_deepPool :
    (Succeeds deepPool fun s => Succeeds (sell Dev.cfg [2] 1 2 10 1 false s) fun s₁ =>
      Succeeds (buy Dev.cfg [1] 1 2 10 1000 false s₁) fun s₂ =>
        reserveOf Dev.cfg s ⟨1, 2⟩ 2 ≤ reserveOf Dev.cfg s₂ ⟨1, 2⟩ 2 + 1) ∧
    Succeeds deepPool fun s => Succeeds (buy Dev.cfg [2] 2 1 10 1000 false s) fun s₁ =>
      Succeeds (sell Dev.cfg [2] 2 1 10 1 false s₁) fun s₂ =>
        reserveOf Dev.cfg s ⟨1, 2⟩ 1 ≤ reserveOf Dev.cfg s₂ ⟨1, 2⟩ 1 := by
  have hok : (Succeeds deepPool fun s => Succeeds (sell Dev.cfg [2] 1 2 10 1 false s) fun s₁ =>
      Succeeds (buy Dev.cfg [1] 1 2 10 1000 false s₁) fun _ => True) ∧
      Succeeds deepPool fun s => Succeeds (buy Dev.cfg [2] 2 1 10 1000 false s) fun s₁ =>
        Succeeds (sell Dev.cfg [2] 2 1 10 1 false s₁) fun _ => True := by
    decide +kernel
  have hne : (1 : AssetId) ≠ 2 := by decide
  obtain ⟨⟨s, hs, s₁, hs₁, s₂, hs₂, -⟩, t, ht, t₁, ht₁, t₂, ht₂, -⟩ := hok
  have hfirst := (round_trips ⟨1, 2⟩ hne (by decide) (by decide)).1 s s₁ s₂ _ _ _ _ _
    hs₁ hs₂
  have hsecond := (round_trips ⟨1, 2⟩ hne (by decide) (by decide)).2 t t₁ t₂ _ _ _ _ _
    ht₁ ht₂
  exact ⟨⟨s, hs, s₁, hs₁, s₂, hs₂, hfirst.2⟩, t, ht, t₁, ht₁, t₂, ht₂, hsecond.2⟩

end HydraDX.XYK
