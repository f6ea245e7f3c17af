import HydraDX.XYK.Product

set_option autoImplicit false

/-! # The native fee of a discounted trade

The fee of a trade is computed from an amount of the asset that is paid in, so it is counted in
that asset. A discounted trade takes it in the native asset, at the price of a pool with the
native asset. A sell uses the pool of the asset paid in. A buy uses the pool of the asset paid
out, and so converts the fee at the price of another asset. -/

namespace HydraDX.XYK

variable {AccountId Hash : Type} [DecidableEq AccountId] {cfg : Config AccountId Hash}
  {s : State AccountId Hash} {who : AccountId} {assets : AssetPair}
  {amount limit price fee : Nat} {t : AMMTransfer AccountId}

/-- What a number of units of `asset` is worth in the native asset, in the pool of the two. -/
def nativeValue (cfg : Config AccountId Hash) (s : State AccountId Hash) (asset : AssetId)
    (units : Nat) : Nat :=
  let pair : AssetPair := ⟨asset, cfg.nativeAssetId⟩
  units * reserveOf cfg s pair cfg.nativeAssetId / reserveOf cfg s pair asset

/-- `asset` has a price in the native asset: there is a pool, and it holds some of `asset`. -/
def Priced (cfg : Config AccountId Hash) (s : State AccountId Hash) (asset : AssetId) : Prop :=
  poolExists cfg s ⟨asset, cfg.nativeAssetId⟩ = true ∧
    reserveOf cfg s ⟨asset, cfg.nativeAssetId⟩ asset ≠ 0

/-- `d` is the fee, counted in `asset`, converted to the native asset. -/
def ConvertedFee (cfg : Config AccountId Hash) (s : State AccountId Hash) (asset : AssetId)
    (fee d : Nat) : Prop :=
  Priced cfg s asset ∧ d = nativeValue cfg s asset fee

/-- What a buy costs without the fee. -/
def priceOf (cfg : Config AccountId Hash) (s : State AccountId Hash) (assets : AssetPair)
    (amount : Nat) : Nat :=
  reserveOf cfg s assets assets.assetIn * amount
    / (reserveOf cfg s assets assets.assetOut - amount) + 1

/-- The fee of a validated discounted sell is 0.07% of the amount, converted at the pool of the
asset paid in. -/
theorem SellValid.convertedFee (hv : SellValid cfg s who assets amount limit true fee t) :
    ConvertedFee cfg s assets.assetIn (7 * amount / 10000) t.discountAmount := by
  have hfee := transferFee_discount hv.fee_eq
  obtain ⟨-, -, hsome⟩ := discountFee_ok hv.discount_eq
  obtain ⟨hreserve, hd⟩ := hsome rfl
  rw [← hfee]
  exact ⟨⟨hv.nativePool rfl, hreserve⟩, hd⟩

/-- The fee of a validated discounted buy is 0.07% of the price, converted at the pool of the
asset paid out. -/
theorem BuyValid.convertedFee (hv : BuyValid cfg s who assets amount limit true price fee t) :
    ConvertedFee cfg s assets.assetOut (7 * priceOf cfg s assets amount / 10000)
      t.discountAmount := by
  have hprice : price = priceOf cfg s assets amount := hv.price_eq
  have hfee := transferFee_discount hv.fee_eq
  obtain ⟨-, -, hsome⟩ := discountFee_ok hv.discount_eq
  obtain ⟨hreserve, hd⟩ := hsome rfl
  rw [← hprice, ← hfee]
  exact ⟨⟨hv.nativePool rfl, hreserve⟩, hd⟩

/-- **The fee of a discounted trade.** A sell converts its fee at the pool of the asset in which
the fee is counted. A buy does so exactly when that asset has a price at all and the pool of the
other asset, which the code takes instead, gives the same. -/
theorem discount_fee_converted_iff (cfg : Config AccountId Hash) (s : State AccountId Hash)
    (who : AccountId) (assets : AssetPair) (amount limit : Nat) (t : AMMTransfer AccountId) :
    (validateSell cfg s who assets amount limit true = .ok t →
      ConvertedFee cfg s assets.assetIn (7 * amount / 10000) t.discountAmount) ∧
    (validateBuy cfg s who assets amount limit true = .ok t →
      let fee := 7 * priceOf cfg s assets amount / 10000
      ConvertedFee cfg s assets.assetIn fee t.discountAmount ↔
        Priced cfg s assets.assetIn ∧
        nativeValue cfg s assets.assetOut fee = nativeValue cfg s assets.assetIn fee) := by
  constructor
  · intro h
    obtain ⟨fee, hv⟩ := validateSell_ok h
    exact hv.convertedFee
  · intro h fee
    obtain ⟨price, fee', hv⟩ := validateBuy_ok h
    obtain ⟨-, hd⟩ := hv.convertedFee
    rw [ConvertedFee, hd]

/-- A buy that pays with the native asset never meets it: no pool has the native asset on both
sides. -/
theorem not_priced_native (hself : NoSelfPool cfg s) : ¬ Priced cfg s cfg.nativeAssetId := by
  intro h
  exact hself.ne h.1 rfl

open Fallible

/-- Three pools: of the assets `1` and `2`, and of each with the native asset. One unit of `1` is
worth one native unit, one unit of `2` is worth `price`. -/
def threePools (price : Nat) : Except Exchange.Failure (State Dev.AccountId Dev.Hash) :=
  Dev.after (Dev.genesis [(0, [1], 4000000), (1, [1], 4000000), (2, [1], 4000000),
      (1, [2], 200000), (0, [2], 1000)])
    [.xyk (.createPool [1] 1 2 1000000 (10 ^ 18)), .xyk (.createPool [1] 1 0 1000000 (10 ^ 18)),
      .xyk (.createPool [1] 2 0 1000000 (price * 10 ^ 18))]

/-- The fee of `77` units of `1` is worth `77` native units. The buyer is charged `154`, what
as many units of `2` are worth. -/
theorem buy_converts_at_other_pool :
    Succeeds (threePools 2) fun s =>
      Succeeds (validateBuy Dev.cfg s [2] ⟨1, 2⟩ 100000 200000 true) fun t =>
        7 * priceOf Dev.cfg s ⟨1, 2⟩ 100000 / 10000 = 77 ∧
        nativeValue Dev.cfg s 1 77 = 77 ∧ t.discountAmount = 154 ∧
        ¬ ConvertedFee Dev.cfg s 1 77 t.discountAmount := by
  unfold ConvertedFee Priced
  decide +kernel

/-- Where the two assets have one price, a buy converts its fee as a sell does. -/
theorem discount_fee_converted_equal_prices :
    Succeeds (threePools 1) fun s =>
      (Succeeds (validateSell Dev.cfg s [2] ⟨1, 2⟩ 100000 1 true) fun t =>
        ConvertedFee Dev.cfg s 1 70 t.discountAmount) ∧
      Succeeds (validateBuy Dev.cfg s [2] ⟨1, 2⟩ 100000 200000 true) fun t =>
        ConvertedFee Dev.cfg s 1 77 t.discountAmount := by
  have hok : Succeeds (threePools 1) fun s =>
      (Succeeds (validateSell Dev.cfg s [2] ⟨1, 2⟩ 100000 1 true) fun _ => True) ∧
      Succeeds (validateBuy Dev.cfg s [2] ⟨1, 2⟩ 100000 200000 true) fun _ =>
        7 * priceOf Dev.cfg s ⟨1, 2⟩ 100000 / 10000 = 77 ∧ Priced Dev.cfg s 1 ∧
        nativeValue Dev.cfg s 2 77 = nativeValue Dev.cfg s 1 77 := by
    unfold Priced
    decide +kernel
  obtain ⟨s, hs, ⟨t, ht, -⟩, u, hu, hfee, hpriced, hvalue⟩ := hok
  have hsell := (discount_fee_converted_iff Dev.cfg s [2] ⟨1, 2⟩ 100000 1 t).1 ht
  have hbuy := (discount_fee_converted_iff Dev.cfg s [2] ⟨1, 2⟩ 100000 200000 u).2 hu
  rw [hfee] at hbuy
  exact ⟨s, hs, ⟨t, ht, hsell⟩, u, hu, hbuy.mpr ⟨hpriced, hvalue⟩⟩

end HydraDX.XYK
