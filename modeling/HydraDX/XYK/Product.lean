import HydraDX.XYK.Reserves
import HydraDX.Chain
import HydraDX.Lib.Rounding

set_option autoImplicit false

/-! # The constant product

A trade should not lower the product of the two reserves. A buy does not: its price is
rounded up and paid in. The output of a sell is rounded up too, but paid out, and it depends
on the fee that stays in the pool whether this is made up for (`SellKeepsProduct`). A sell
whose fee is rounded down to zero always lowers the product. -/

namespace HydraDX.XYK

variable {AccountId Hash : Type} [DecidableEq AccountId] {cfg : Config AccountId Hash}
  {s s' : State AccountId Hash} {who : AccountId} {assets : AssetPair}
  {amount limit price fee : Nat} {discount : Bool} {t : AMMTransfer AccountId}

/-- The product of the two reserves of a pair. -/
def product (cfg : Config AccountId Hash) (s : State AccountId Hash) (assets : AssetPair) : Nat :=
  reserveOf cfg s assets assets.assetIn * reserveOf cfg s assets assets.assetOut

theorem product_swap (s : State AccountId Hash) (assets : AssetPair) :
    product cfg s assets.swap = product cfg s assets := by
  unfold product reserveOf
  rw [getPairId_swap]
  exact Nat.mul_comm _ _

/-! ## One trade -/

/-- What makes up for the rounding of a sell. Of the `amount`, `fee` stays in the pool
without being exchanged; the remainder of the division by which the output was computed,
and what the fee is worth of the reserve that is left, have to reach the divisor.

The account of the pool itself exchanges nothing when it sells; it only must not destroy one
of the reserves as a discounted fee. -/
def SellKeepsProduct (cfg : Config AccountId Hash) (s : State AccountId Hash) (who : AccountId)
    (assets : AssetPair) (amount : Nat) (discount : Bool) : Prop :=
  ∃ fee discountAmount, transferFee cfg discount amount = .ok fee ∧
    discountFee cfg s who assets.assetIn discount fee = .ok discountAmount ∧
    if who = getPairId cfg assets then
      discountAmount = 0 ∨
        (cfg.nativeAssetId ≠ assets.assetIn ∧ cfg.nativeAssetId ≠ assets.assetOut)
    else
      reserveOf cfg s assets assets.assetIn + (amount - fee)
        ≤ reserveOf cfg s assets assets.assetOut * (amount - fee)
            % (reserveOf cfg s assets assets.assetIn + (amount - fee))
          + fee * (reserveOf cfg s assets assets.assetOut
            - (reserveOf cfg s assets assets.assetOut * (amount - fee)
              / (reserveOf cfg s assets assets.assetIn + (amount - fee)) + 1))

theorem SellValid.keepsProduct_iff (hv : SellValid cfg s who assets amount limit discount fee t) :
    SellKeepsProduct cfg s who assets amount discount ↔
      if who = getPairId cfg assets then
        t.discountAmount = 0 ∨
          (cfg.nativeAssetId ≠ assets.assetIn ∧ cfg.nativeAssetId ≠ assets.assetOut)
      else
        reserveOf cfg s assets assets.assetIn + (amount - fee)
          ≤ reserveOf cfg s assets assets.assetOut * (amount - fee)
              % (reserveOf cfg s assets assets.assetIn + (amount - fee))
            + fee * (reserveOf cfg s assets assets.assetOut - t.amountOut) := by
  rw [hv.amountOut_eq]
  exact Fallible.exists_eq_ok_iff hv.fee_eq hv.discount_eq

/-- The sell of another account: the rounded output against the remainder and the fee. -/
theorem SellValid.product_le_iff (hv : SellValid cfg s who assets amount limit discount fee t)
    (hne : assets.assetIn ≠ assets.assetOut) (hwho : who ≠ getPairId cfg assets) :
    product cfg s assets ≤ product cfg (s.setLedger (soldLedger cfg t s.ledger)) assets ↔
      SellKeepsProduct cfg s who assets amount discount := by
  obtain ⟨hin, hout⟩ := hv.reserves hne hwho
  rw [hv.keepsProduct_iff, if_neg hwho, hv.amountOut_eq]
  have hprod : product cfg (s.setLedger (soldLedger cfg t s.ledger)) assets
      = (reserveOf cfg s assets assets.assetIn + (amount - fee) + fee)
          * (reserveOf cfg s assets assets.assetOut - t.amountOut) := by
    have hfee := hv.fee_le
    have hamount : reserveOf cfg s assets assets.assetIn + (amount - fee) + fee
        = reserveOf cfg s assets assets.assetIn + amount := by omega
    rw [hamount]
    exact congrArg₂ (· * ·) hin hout
  have hlt := hv.amountOut_lt
  rw [hv.amountOut_eq] at hprod hlt
  rw [hprod]
  exact Rounding.product_le_out_iff hlt.le

/-- A trade of the pool account itself exchanges nothing: it keeps the product exactly when it
destroys neither reserve. -/
theorem product_burnDiscount_iff (hd : t.discount = false → t.discountAmount = 0)
    (horigin : t.origin = getPairId cfg assets)
    (hin : 0 < reserveOf cfg s assets assets.assetIn)
    (hout : 0 < reserveOf cfg s assets assets.assetOut) :
    product cfg s assets ≤ product cfg (s.setLedger (burnDiscount cfg t s.ledger)) assets ↔
      t.discountAmount = 0 ∨
        (cfg.nativeAssetId ≠ assets.assetIn ∧ cfg.nativeAssetId ≠ assets.assetOut) := by
  have hafter : product cfg (s.setLedger (burnDiscount cfg t s.ledger)) assets
      = (reserveOf cfg s assets assets.assetIn - burned cfg t assets.assetIn)
        * (reserveOf cfg s assets assets.assetOut - burned cfg t assets.assetOut) := by
    unfold product reserveOf
    rw [State.setLedger_ledger, ← horigin, burnDiscount_free hd, burnDiscount_free hd]
  rw [hafter]
  unfold product
  generalize reserveOf cfg s assets assets.assetIn = i at hin
  generalize reserveOf cfg s assets assets.assetOut = o at hout
  have hless : ∀ a b : Nat, a ≤ i → b ≤ o → a < i ∨ b < o → a * b < i * o := by
    intro a b ha hb hlt
    rcases hlt with hlt | hlt
    · calc a * b ≤ a * o := Nat.mul_le_mul_left a hb
        _ < i * o := Nat.mul_lt_mul_of_pos_right hlt hout
    · calc a * b ≤ i * b := Nat.mul_le_mul_right b ha
        _ < i * o := Nat.mul_lt_mul_of_pos_left hlt hin
  constructor
  · intro hle
    by_contra hnot
    obtain ⟨hpos, hnative⟩ := not_or.mp hnot
    refine Nat.not_lt.mpr hle (hless _ _ (Nat.sub_le _ _) (Nat.sub_le _ _) ?_)
    unfold burned
    by_cases hi : assets.assetIn = cfg.nativeAssetId
    · left
      rw [if_pos hi]
      omega
    · right
      have ho : assets.assetOut = cfg.nativeAssetId := by
        by_contra ho
        exact hnative ⟨Ne.symm hi, Ne.symm ho⟩
      rw [if_pos ho]
      omega
  · intro hnone
    have hzero : burned cfg t assets.assetIn = 0 ∧ burned cfg t assets.assetOut = 0 := by
      unfold burned
      rcases hnone with hzero | ⟨hi, ho⟩
      · rw [hzero, ite_self, ite_self]
        exact ⟨rfl, rfl⟩
      · rw [if_neg hi.symm, if_neg ho.symm]
        exact ⟨rfl, rfl⟩
    rw [hzero.1, hzero.2, Nat.sub_zero, Nat.sub_zero]

/-- So for a sell. -/
theorem SellValid.product_le_iff_own (hv : SellValid cfg s who assets amount limit discount fee t)
    (hwho : who = getPairId cfg assets) :
    product cfg s assets ≤ product cfg (s.setLedger (soldLedger cfg t s.ledger)) assets ↔
      SellKeepsProduct cfg s who assets amount discount := by
  obtain ⟨rfl, rfl, rfl, rfl⟩ := transfer_arguments hv.transfer_eq
  have hout : 0 < reserveOf cfg s t.assets t.assets.assetOut :=
    Nat.lt_of_le_of_lt (Nat.zero_le _) hv.amountOut_lt
  rw [hv.keepsProduct_iff, if_pos hwho, soldLedger_self hwho]
  exact product_burnDiscount_iff (discountFee_ok hv.discount_eq).1 hwho
    (Nat.pos_of_ne_zero hv.reserve_pos) hout

/-- A sell keeps the product exactly under its condition. -/
theorem sell_product_le_iff (assets : AssetPair) (hne : assets.assetIn ≠ assets.assetOut)
    (h : sell cfg who assets.assetIn assets.assetOut amount limit discount s = .ok s') :
    product cfg s assets ≤ product cfg s' assets ↔
      SellKeepsProduct cfg s who assets amount discount := by
  obtain ⟨fee, t, hv, rfl⟩ := sell_ok h
  by_cases hwho : who = getPairId cfg assets
  · exact hv.product_le_iff_own hwho
  · exact hv.product_le_iff hne hwho

/-- A buy by another account never lowers the product, and leaves some of the bought asset. -/
theorem BuyValid.product_le (hv : BuyValid cfg s who assets amount limit discount price fee t)
    (hwho : who ≠ getPairId cfg assets) :
    product cfg s assets ≤ product cfg (s.setLedger (boughtLedger cfg t s.ledger)) assets ∧
    0 < reserveOf cfg (s.setLedger (boughtLedger cfg t s.ledger)) assets assets.assetOut := by
  have hlt := hv.amount_lt
  by_cases hne : assets.assetIn = assets.assetOut
  · -- a pool of one asset: more is paid in than out
    have hafter : (boughtLedger cfg t s.ledger).free assets.assetOut (getPairId cfg assets)
        = reserveOf cfg s assets assets.assetOut - amount + (price + fee) := by
      rw [boughtLedger, hv.transfer_eq]
      simp only
      rw [hne, Ledger.move_free_dest hwho, Ledger.move_free_source hwho.symm,
        burnDiscount_free_of_ne (Or.inr hwho.symm), hv.amountOut_eq]
      rfl
    have hprice : amount ≤ price := by
      have hpos : 0 < reserveOf cfg s assets assets.assetOut - amount := by omega
      have hdiv : amount ≤ reserveOf cfg s assets assets.assetIn * amount
          / (reserveOf cfg s assets assets.assetOut - amount) := by
        rw [Nat.le_div_iff_mul_le hpos, hne, Nat.mul_comm]
        exact Nat.mul_le_mul_right _ (Nat.sub_le _ _)
      rw [hv.price_eq]
      omega
    unfold product
    rw [hne]
    show reserveOf cfg s assets assets.assetOut * reserveOf cfg s assets assets.assetOut
        ≤ (boughtLedger cfg t s.ledger).free assets.assetOut (getPairId cfg assets)
          * (boughtLedger cfg t s.ledger).free assets.assetOut (getPairId cfg assets) ∧
      0 < (boughtLedger cfg t s.ledger).free assets.assetOut (getPairId cfg assets)
    rw [hafter]
    have hle : reserveOf cfg s assets assets.assetOut
        ≤ reserveOf cfg s assets assets.assetOut - amount + (price + fee) := by omega
    exact ⟨Nat.mul_le_mul hle hle, by omega⟩
  · obtain ⟨hin, hout⟩ := hv.reserves hne hwho
    have hkey : product cfg s assets
        ≤ (reserveOf cfg s assets assets.assetIn + (price + fee))
          * (reserveOf cfg s assets assets.assetOut - amount) := by
      rw [hv.price_eq]
      exact Rounding.product_le_in hlt
    refine ⟨hkey.trans_eq (congrArg₂ (· * ·) hin.symm hout.symm), ?_⟩
    show 0 < (boughtLedger cfg t s.ledger).free assets.assetOut (getPairId cfg assets)
    rw [hout]
    omega

theorem buy_product_le (assets : AssetPair) (hwho : who ≠ getPairId cfg assets)
    (h : buy cfg who assets.assetOut assets.assetIn amount limit discount s = .ok s') :
    product cfg s assets ≤ product cfg s' assets := by
  obtain ⟨price, fee, t, hv, rfl⟩ := buy_ok h
  exact (hv.product_le hwho).1

/-- The buyer is the account of the pool, and destroys some of a reserve as a discounted fee. -/
def BuyBurnsReserve (cfg : Config AccountId Hash) (s : State AccountId Hash) (who : AccountId)
    (assets : AssetPair) (amount : Nat) (discount : Bool) : Prop :=
  who = getPairId cfg assets ∧
  (cfg.nativeAssetId = assets.assetIn ∨ cfg.nativeAssetId = assets.assetOut) ∧
  ∃ fee discountAmount,
    transferFee cfg discount (reserveOf cfg s assets assets.assetIn * amount
      / (reserveOf cfg s assets assets.assetOut - amount) + 1) = .ok fee ∧
    discountFee cfg s who assets.assetOut discount fee = .ok discountAmount ∧
    0 < discountAmount

theorem BuyValid.burnsReserve_iff
    (hv : BuyValid cfg s who assets amount limit discount price fee t) :
    BuyBurnsReserve cfg s who assets amount discount ↔
      who = getPairId cfg assets ∧
      (cfg.nativeAssetId = assets.assetIn ∨ cfg.nativeAssetId = assets.assetOut) ∧
      0 < t.discountAmount := by
  refine and_congr_right fun _ => and_congr_right fun _ => ?_
  rw [← hv.price_eq]
  exact Fallible.exists_eq_ok_iff hv.fee_eq hv.discount_eq

/-- A buy of the pool account itself keeps the product exactly when it destroys neither reserve. -/
theorem BuyValid.product_le_iff_own
    (hv : BuyValid cfg s who assets amount limit discount price fee t)
    (hwho : who = getPairId cfg assets) (hin : 0 < reserveOf cfg s assets assets.assetIn)
    (hout : 0 < reserveOf cfg s assets assets.assetOut) :
    product cfg s assets ≤ product cfg (s.setLedger (boughtLedger cfg t s.ledger)) assets ↔
      t.discountAmount = 0 ∨
        (cfg.nativeAssetId ≠ assets.assetIn ∧ cfg.nativeAssetId ≠ assets.assetOut) := by
  obtain ⟨rfl, rfl, rfl, rfl⟩ := transfer_arguments hv.transfer_eq
  rw [boughtLedger_self hwho]
  exact product_burnDiscount_iff (discountFee_ok hv.discount_eq).1 hwho hin hout

/-- A product that has not fallen is not zero. -/
theorem reserve_pos_of_product_le (hin : 0 < reserveOf cfg s assets assets.assetIn)
    (hout : 0 < reserveOf cfg s assets assets.assetOut)
    (hle : product cfg s assets ≤ product cfg s' assets) :
    0 < reserveOf cfg s' assets assets.assetOut := by
  apply Nat.pos_of_ne_zero
  intro hzero
  have hprod : product cfg s' assets = 0 := by
    unfold product
    rw [hzero, Nat.mul_zero]
  have hpos : 0 < product cfg s assets := Nat.mul_pos hin hout
  omega

/-- **The constant product never falls on a buy**, and some of the bought asset is left, for every
buyer, amount, limit and discount. The one exception is the account of the pool itself, where it
pays a discounted fee out of a reserve. -/
theorem buy_keeps_product_iff (cfg : Config AccountId Hash) (s s' : State AccountId Hash)
    (who : AccountId) (assets : AssetPair) (amount maxLimit : Nat) (discount : Bool)
    (hin : 0 < reserveOf cfg s assets assets.assetIn)
    (hout : 0 < reserveOf cfg s assets assets.assetOut)
    (h : buy cfg who assets.assetOut assets.assetIn amount maxLimit discount s = .ok s') :
    (product cfg s assets ≤ product cfg s' assets ∧
      0 < reserveOf cfg s' assets assets.assetOut) ↔
      ¬ BuyBurnsReserve cfg s who assets amount discount := by
  obtain ⟨price, fee, t, hv, rfl⟩ := buy_ok h
  rw [hv.burnsReserve_iff]
  by_cases hwho : who = getPairId cfg assets
  · have hiff := hv.product_le_iff_own hwho hin hout
    constructor
    · rintro ⟨hle, -⟩ ⟨-, hnative, hpos⟩
      rcases hiff.mp hle with hzero | ⟨hi, ho⟩
      · omega
      · exact hnative.elim hi ho
    · intro hnot
      have hnone : t.discountAmount = 0 ∨
          (cfg.nativeAssetId ≠ assets.assetIn ∧ cfg.nativeAssetId ≠ assets.assetOut) := by
        by_contra hsome
        obtain ⟨hpos, hnative⟩ := not_or.mp hsome
        refine hnot ⟨hwho, ?_, Nat.pos_of_ne_zero hpos⟩
        by_contra hneither
        exact hnative (not_or.mp hneither)
      have hle := hiff.mpr hnone
      exact ⟨hle, reserve_pos_of_product_le hin hout hle⟩
  · exact iff_of_true (hv.product_le hwho) (fun hb => hwho hb.1)

/-! ## Runs of trades -/

/-- A trade of the run: not made by the account of the pool `assets`, and if it is a sell on
this pool, then one that keeps the product. -/
def TradeKeepsProduct (cfg : Config AccountId Hash) (assets : AssetPair)
    (s : State AccountId Hash) : Call AccountId → Prop
  | .sell who assetIn assetOut amount _ discount =>
      who ≠ getPairId cfg assets ∧
        (getPairId cfg ⟨assetIn, assetOut⟩ = getPairId cfg assets →
          SellKeepsProduct cfg s who ⟨assetIn, assetOut⟩ amount discount)
  | .buy who .. => who ≠ getPairId cfg assets
  | _ => False

theorem Untouched.product (hs : Untouched (getPairId cfg assets) s s') :
    product cfg s' assets = product cfg s assets := by
  unfold XYK.product reserveOf
  rw [hs.free, hs.free]

theorem trade_product_le (hinj : SeedsInjective cfg) (hne : assets.assetIn ≠ assets.assetOut)
    {call : Call AccountId} (hcall : TradeKeepsProduct cfg assets s call)
    (h : call.dispatch cfg s = .ok s') : product cfg s assets ≤ product cfg s' assets := by
  by_cases hpool : getPairId cfg call.assets = getPairId cfg assets
  · -- on this pool, in one of the two directions
    suffices key : call.assets.assetIn ≠ call.assets.assetOut →
        product cfg s call.assets ≤ product cfg s' call.assets by
      rcases hinj.eq_or_swap hpool with he | he
      · rw [he] at key
        exact key hne
      · rw [he, product_swap, product_swap] at key
        exact key hne.symm
    intro hne'
    cases call with
    | createPool => exact hcall.elim
    | addLiquidity => exact hcall.elim
    | removeLiquidity => exact hcall.elim
    | sell who a b amount limit discount =>
        exact (sell_product_le_iff ⟨a, b⟩ hne' h).mpr (hcall.2 hpool)
    | buy who a b amount limit discount =>
        refine buy_product_le ⟨b, a⟩ ?_ h
        exact fun he => hcall (he.trans hpool)
  · refine (Untouched.product (Call.untouched h ?_ (Ne.symm hpool))).ge
    cases call with
    | createPool => exact hcall.elim
    | addLiquidity => exact hcall.elim
    | removeLiquidity => exact hcall.elim
    | sell who a b amount limit discount => exact Ne.symm hcall.1
    | buy who a b amount limit discount => exact Ne.symm hcall

/-- **When the product falls.** A sell that succeeds lowers the product of the reserves
exactly when it fails `SellKeepsProduct`; and no run of sells and buys lowers it whose sells
on the pool all meet that condition and that are not made by the pool account. -/
theorem sell_keeps_product_iff (hinj : SeedsInjective cfg) (assets : AssetPair)
    (hne : assets.assetIn ≠ assets.assetOut) :
    (∀ (s s' : State AccountId Hash) (who : AccountId) (amount minBought : Nat) (discount : Bool),
      sell cfg who assets.assetIn assets.assetOut amount minBought discount s = .ok s' →
        (product cfg s assets ≤ product cfg s' assets ↔
          SellKeepsProduct cfg s who assets amount discount)) ∧
    (∀ s s' : State AccountId Hash, Runs cfg (TradeKeepsProduct cfg assets) s s' →
      product cfg s assets ≤ product cfg s' assets) := by
  constructor
  · intro s s' who amount minBought discount h
    exact sell_product_le_iff assets hne h
  · intro s s' run
    exact run.invariant (I := fun t => product cfg s assets ≤ product cfg t assets)
      (fun _ _ _ hle hcall h => hle.trans (trade_product_le hinj hne hcall h)) le_rfl

/-! ## A sell without fee -/

open Fallible

/-- A pool of `1000` and `1000`. -/
def evenPool : Except Exchange.Failure (State Dev.AccountId Dev.Hash) :=
  Dev.after (Dev.genesis [(1, [1], 1000000), (2, [1], 1000000), (1, [2], 10000)])
    [.xyk (.createPool [1] 1 2 1000 (10 ^ 18))]

/-- The fee of `10` is rounded down to zero, so that `10` are paid in for `10` paid out. -/
theorem sell_lowers_product :
    Succeeds evenPool fun s => Succeeds (sell Dev.cfg [2] 1 2 10 1 false s) fun s' =>
      product Dev.cfg s ⟨1, 2⟩ = 1000000 ∧ product Dev.cfg s' ⟨1, 2⟩ = 999900 := by
  decide +kernel

/-- A larger pool, where the fee of a sell makes up for the rounding. -/
def deepPool : Except Exchange.Failure (State Dev.AccountId Dev.Hash) :=
  Dev.after (Dev.genesis [(1, [1], 1000000), (2, [1], 1000000), (1, [2], 10000), (2, [2], 10000)])
    [.xyk (.createPool [1] 1 2 100000 (10 ^ 18))]

theorem sell_keeps_product_deepPool :
    Succeeds deepPool fun s => Succeeds (sell Dev.cfg [2] 1 2 1000 1 false s) fun s' =>
      SellKeepsProduct Dev.cfg s [2] ⟨1, 2⟩ 1000 false ∧
      Succeeds (buy Dev.cfg [2] 1 2 500 1000 false s') fun s'' =>
        product Dev.cfg s ⟨1, 2⟩ ≤ product Dev.cfg s'' ⟨1, 2⟩ := by
  have hne : (1 : AssetId) ≠ 2 := by decide
  have hok : Succeeds deepPool fun s => Succeeds (sell Dev.cfg [2] 1 2 1000 1 false s) fun s' =>
      product Dev.cfg s ⟨1, 2⟩ ≤ product Dev.cfg s' ⟨1, 2⟩ ∧
      Succeeds (buy Dev.cfg [2] 1 2 500 1000 false s') fun _ => True := by
    decide +kernel
  obtain ⟨s, hs, s', hs', hle, s'', hs'', -⟩ := hok
  have hkeeps := ((sell_keeps_product_iff Dev.seedsInjective ⟨1, 2⟩ hne).1 s s' [2] 1000 1 false
    hs').mp hle
  refine ⟨s, hs, s', hs', hkeeps, s'', hs'', ?_⟩
  refine (sell_keeps_product_iff Dev.seedsInjective ⟨1, 2⟩ hne).2 s s'' ?_
  exact (Runs.refl.step (a := .sell [2] 1 2 1000 1 false) ⟨by decide, fun _ => hkeeps⟩ hs').step
    (a := .buy [2] 1 2 500 1000 false) (show [2] ≠ _ by decide) hs''

/-! ## Buys at a discount -/

/-- A pool of the native asset and asset `1`. -/
def nativePool : Except Exchange.Failure (State Dev.AccountId Dev.Hash) :=
  Dev.after (Dev.genesis [(0, [1], 2000000), (1, [1], 2000000), (0, [2], 200000), (1, [2], 10000)])
    [.xyk (.createPool [1] 0 1 1000000 (10 ^ 18))]

/-- The account of the pool buys from itself: all that happens is that the discounted fee of `77`
is destroyed. -/
theorem pool_account_lowers_product :
    Succeeds nativePool fun s =>
      Succeeds (buy Dev.cfg (getPairId Dev.cfg ⟨0, 1⟩) 1 0 100000 1000000 true s) fun s' =>
        0 < reserveOf Dev.cfg s ⟨0, 1⟩ 0 ∧ 0 < reserveOf Dev.cfg s ⟨0, 1⟩ 1 ∧
        product Dev.cfg s ⟨0, 1⟩ = 1000000000000 ∧
        product Dev.cfg s' ⟨0, 1⟩ = 999923000000 := by
  decide +kernel

theorem buy_keeps_product_discounted :
    Succeeds nativePool fun s => Succeeds (buy Dev.cfg [2] 1 0 100000 1000000 true s) fun s' =>
      product Dev.cfg s ⟨0, 1⟩ ≤ product Dev.cfg s' ⟨0, 1⟩ ∧ 0 < reserveOf Dev.cfg s' ⟨0, 1⟩ 1 := by
  have hok : Succeeds nativePool fun s =>
      Succeeds (buy Dev.cfg [2] 1 0 100000 1000000 true s) fun _ =>
        0 < reserveOf Dev.cfg s ⟨0, 1⟩ 0 ∧ 0 < reserveOf Dev.cfg s ⟨0, 1⟩ 1 := by
    decide +kernel
  obtain ⟨s, hs, s', hs', hin, hout⟩ := hok
  have hiff := buy_keeps_product_iff Dev.cfg s s' [2] ⟨0, 1⟩ 100000 1000000 true hin hout hs'
  have hother : ¬ BuyBurnsReserve Dev.cfg s [2] ⟨0, 1⟩ 100000 true := by
    intro hb
    exact absurd hb.1 (by decide)
  exact ⟨s, hs, s', hs', hiff.mpr hother⟩

end HydraDX.XYK
