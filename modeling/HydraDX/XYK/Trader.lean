import HydraDX.XYK.Product

set_option autoImplicit false

/-! # What a trade does to the balances of the trader

A trade makes up to three ledger operations: the native fee of a discounted trade is destroyed,
one asset is paid in and the other is paid out. The limits of a trade are checked against the
amounts of the exchange alone. Where the native asset is one of the two assets traded, the fee
is taken from the same balance, and the balance of the trader changes by both: then the limit
may not hold for what the trader is left with (`SellKeepsLimits`, `BuyKeepsLimits`). -/

namespace HydraDX.XYK

variable {AccountId Hash : Type} [DecidableEq AccountId] {cfg : Config AccountId Hash}
  {s s' : State AccountId Hash} {who : AccountId} {assets : AssetPair}
  {amount limit price fee : Nat} {discount : Bool} {t : AMMTransfer AccountId}
  {l : Ledger AssetId AccountId}

/-! ## The balances after a trade -/

/-- The balances of the trader after a sell. -/
theorem soldLedger_trader (hd : t.discount = false → t.discountAmount = 0)
    (hne : t.assets.assetIn ≠ t.assets.assetOut) (hwho : t.origin ≠ getPairId cfg t.assets) :
    (soldLedger cfg t l).free t.assets.assetIn t.origin
        = l.free t.assets.assetIn t.origin - burned cfg t t.assets.assetIn - t.amount ∧
    (soldLedger cfg t l).free t.assets.assetOut t.origin
        = l.free t.assets.assetOut t.origin - burned cfg t t.assets.assetOut + t.amountOut := by
  unfold soldLedger
  constructor
  · rw [Ledger.move_free_of_ne (Or.inl hne), Ledger.move_free_source hwho, burnDiscount_free hd]
  · rw [Ledger.move_free_dest hwho.symm, Ledger.move_free_of_ne (Or.inl hne.symm),
      burnDiscount_free hd]

/-- The balances of the trader after a buy. -/
theorem boughtLedger_trader (hd : t.discount = false → t.discountAmount = 0)
    (hne : t.assets.assetIn ≠ t.assets.assetOut) (hwho : t.origin ≠ getPairId cfg t.assets) :
    (boughtLedger cfg t l).free t.assets.assetIn t.origin
        = l.free t.assets.assetIn t.origin - burned cfg t t.assets.assetIn - t.amountOut ∧
    (boughtLedger cfg t l).free t.assets.assetOut t.origin
        = l.free t.assets.assetOut t.origin - burned cfg t t.assets.assetOut + t.amount := by
  unfold boughtLedger
  constructor
  · rw [Ledger.move_free_source hwho, Ledger.move_free_of_ne (Or.inl hne), burnDiscount_free hd]
  · rw [Ledger.move_free_of_ne (Or.inl hne.symm), Ledger.move_free_dest hwho.symm,
      burnDiscount_free hd]

/-- A sell that is executed is covered by what the fee leaves. -/
theorem executeSell_covered (h : executeSell cfg t s = .ok s')
    (hwho : t.origin ≠ getPairId cfg t.assets) :
    t.amount ≤ (burnDiscount cfg t s.ledger).free t.assets.assetIn t.origin := by
  unfold executeSell at h
  simp only [Fallible.bind_eq_ok, ofCurrency_eq_ok] at h
  obtain ⟨l₁, h₁, l₂, h₂, l₃, h₃, -⟩ := h
  rw [← withdrawDiscount_ok h₁]
  exact (cfg.currency.transfer_ok h₂).1 hwho

/-- So is a buy, which has received the bought amount before it pays. -/
theorem executeBuy_covered (h : executeBuy cfg t s = .ok s')
    (hne : t.assets.assetIn ≠ t.assets.assetOut) (hwho : t.origin ≠ getPairId cfg t.assets) :
    t.amountOut ≤ (burnDiscount cfg t s.ledger).free t.assets.assetIn t.origin := by
  unfold executeBuy at h
  simp only [Fallible.bind_eq_ok, ofCurrency_eq_ok] at h
  obtain ⟨l₁, h₁, l₂, h₂, l₃, h₃, -⟩ := h
  have hpaid := (cfg.currency.transfer_ok h₃).1 hwho
  rw [(cfg.currency.transfer_ok h₂).2, Ledger.move_free_of_ne (Or.inl hne),
    withdrawDiscount_ok h₁] at hpaid
  exact hpaid

/-! ## Limits -/

/-- The limits of a sell, on the balances of the trader: `amount` of the sold asset is gone, and
at least `minBought` of the bought one has come in. -/
def SellWithin (s s' : State AccountId Hash) (who : AccountId) (assets : AssetPair)
    (amount minBought : Nat) : Prop :=
  s'.ledger.free assets.assetIn who + amount = s.ledger.free assets.assetIn who ∧
  s.ledger.free assets.assetOut who + minBought ≤ s'.ledger.free assets.assetOut who

/-- The limits of a buy: `amount` of the bought asset has come in, and at most `maxLimit` of the
sold one is gone. -/
def BuyWithin (s s' : State AccountId Hash) (who : AccountId) (assets : AssetPair)
    (amount maxLimit : Nat) : Prop :=
  s'.ledger.free assets.assetOut who = s.ledger.free assets.assetOut who + amount ∧
  s.ledger.free assets.assetIn who ≤ s'.ledger.free assets.assetIn who + maxLimit

/-- When the limits of a sell hold on the balances of the trader: no fee is taken from the sold
asset, and if it is taken from the bought asset, the output exceeds the limit by the fee. The
account of the pool itself gets and gives nothing but the fee. -/
def SellKeepsLimits (cfg : Config AccountId Hash) (s : State AccountId Hash) (who : AccountId)
    (assets : AssetPair) (amount minBought : Nat) (discount : Bool) : Prop :=
  ∃ fee d, transferFee cfg discount amount = .ok fee ∧
    discountFee cfg s who assets.assetIn discount fee = .ok d ∧
    if who = getPairId cfg assets then
      amount = (if assets.assetIn = cfg.nativeAssetId then d else 0) ∧ minBought = 0 ∧
        (assets.assetOut = cfg.nativeAssetId → d = 0)
    else
      (assets.assetIn = cfg.nativeAssetId → d = 0) ∧
      (assets.assetOut = cfg.nativeAssetId →
        minBought + d ≤ reserveOf cfg s assets assets.assetOut * (amount - fee)
          / (reserveOf cfg s assets assets.assetIn + (amount - fee)) + 1)

/-- The same for a buy: no fee is taken from the bought asset, and if it is taken from the sold
asset, the limit covers the price and the fee. -/
def BuyKeepsLimits (cfg : Config AccountId Hash) (s : State AccountId Hash) (who : AccountId)
    (assets : AssetPair) (amount maxLimit : Nat) (discount : Bool) : Prop :=
  let price := reserveOf cfg s assets assets.assetIn * amount
    / (reserveOf cfg s assets assets.assetOut - amount) + 1
  ∃ fee d, transferFee cfg discount price = .ok fee ∧
    discountFee cfg s who assets.assetOut discount fee = .ok d ∧
    if who = getPairId cfg assets then
      amount = 0 ∧ (assets.assetOut = cfg.nativeAssetId → d = 0) ∧
        (assets.assetIn = cfg.nativeAssetId → d ≤ maxLimit)
    else
      (assets.assetOut = cfg.nativeAssetId → d = 0) ∧
      (assets.assetIn = cfg.nativeAssetId → price + fee + d ≤ maxLimit)

/-- The fee is taken from a balance that covers it. -/
theorem burned_le (hd : t.discountAmount ≤ l.free cfg.nativeAssetId who) (c : AssetId) :
    burned cfg t c ≤ l.free c who := by
  unfold burned
  split_ifs with hc
  · rw [hc]
    exact hd
  · exact Nat.zero_le _

theorem burned_eq_zero_iff (t : AMMTransfer AccountId) (c : AssetId) :
    burned cfg t c = 0 ↔ (c = cfg.nativeAssetId → t.discountAmount = 0) := by
  unfold burned
  split_ifs with hc
  · simp [hc]
  · simp [hc]

theorem add_burned_le_iff (t : AMMTransfer AccountId) (c : AssetId) {a b : Nat} (hab : a ≤ b) :
    a + burned cfg t c ≤ b ↔ (c = cfg.nativeAssetId → a + t.discountAmount ≤ b) := by
  unfold burned
  split_ifs with hc
  · simp [hc]
  · simp [hc, hab]

/-- **When a sell keeps its limits**, for every trader. -/
theorem sell_within_iff (hne : assets.assetIn ≠ assets.assetOut)
    (h : sell cfg who assets.assetIn assets.assetOut amount limit discount s = .ok s') :
    SellWithin s s' who assets amount limit ↔
      SellKeepsLimits cfg s who assets amount limit discount := by
  obtain ⟨t, hvt, hx⟩ := Fallible.bind_eq_ok.mp h
  obtain ⟨fee, hv⟩ : ∃ fee, SellValid cfg s who assets amount limit discount fee t :=
    validateSell_ok hvt
  obtain ⟨rfl, rfl, rfl, rfl⟩ := transfer_arguments hv.transfer_eq
  obtain ⟨hnone, hpaid, -⟩ := discountFee_ok hv.discount_eq
  have hledger : s'.ledger = soldLedger cfg t s.ledger := by rw [executeSell_ok hx]; rfl
  have hlimit := hv.limit_le
  have hcond : SellKeepsLimits cfg s t.origin t.assets t.amount limit t.discount ↔
      if t.origin = getPairId cfg t.assets then
        t.amount = burned cfg t t.assets.assetIn ∧ limit = 0 ∧
          burned cfg t t.assets.assetOut = 0
      else
        burned cfg t t.assets.assetIn = 0 ∧
          limit + burned cfg t t.assets.assetOut ≤ t.amountOut := by
    rw [burned_eq_zero_iff, burned_eq_zero_iff, add_burned_le_iff t _ hlimit, hv.amountOut_eq]
    exact Fallible.exists_eq_ok_iff hv.fee_eq hv.discount_eq
  rw [hcond, SellWithin, hledger]
  have hcover := burned_le (l := s.ledger) hpaid
  have hin := hcover t.assets.assetIn
  have hout := hcover t.assets.assetOut
  by_cases hwho : t.origin = getPairId cfg t.assets
  · rw [if_pos hwho, soldLedger_self hwho, burnDiscount_free hnone, burnDiscount_free hnone]
    omega
  · obtain ⟨hbin, hbout⟩ := soldLedger_trader (l := s.ledger) hnone hne hwho
    have hleft := executeSell_covered hx hwho
    rw [burnDiscount_free hnone] at hleft
    rw [if_neg hwho, hbin, hbout]
    omega

/-- **When a buy keeps its limits**, for every trader. -/
theorem buy_within_iff (hne : assets.assetIn ≠ assets.assetOut)
    (h : buy cfg who assets.assetOut assets.assetIn amount limit discount s = .ok s') :
    BuyWithin s s' who assets amount limit ↔
      BuyKeepsLimits cfg s who assets amount limit discount := by
  obtain ⟨t, hvt, hx⟩ := Fallible.bind_eq_ok.mp h
  obtain ⟨price, fee, hv⟩ : ∃ price fee,
      BuyValid cfg s who assets amount limit discount price fee t := validateBuy_ok hvt
  obtain ⟨rfl, rfl, rfl, rfl⟩ := transfer_arguments hv.transfer_eq
  obtain ⟨hnone, hpaid, -⟩ := discountFee_ok hv.discount_eq
  have hledger : s'.ledger = boughtLedger cfg t s.ledger := by rw [executeBuy_ok hx]; rfl
  have hlimit := hv.limit_le
  have hcond : BuyKeepsLimits cfg s t.origin t.assets t.amount limit t.discount ↔
      if t.origin = getPairId cfg t.assets then
        t.amount = 0 ∧ burned cfg t t.assets.assetOut = 0 ∧
          0 + burned cfg t t.assets.assetIn ≤ limit
      else
        burned cfg t t.assets.assetOut = 0 ∧
          t.amountOut + burned cfg t t.assets.assetIn ≤ limit := by
    rw [burned_eq_zero_iff, add_burned_le_iff t _ hlimit, add_burned_le_iff t _ (Nat.zero_le _),
      hv.amountOut_eq, Nat.zero_add, BuyKeepsLimits, ← hv.price_eq]
    exact Fallible.exists_eq_ok_iff hv.fee_eq hv.discount_eq
  rw [hcond, BuyWithin, hledger]
  have hcover := burned_le (l := s.ledger) hpaid
  have hin := hcover t.assets.assetIn
  have hout := hcover t.assets.assetOut
  by_cases hwho : t.origin = getPairId cfg t.assets
  · rw [if_pos hwho, boughtLedger_self hwho, burnDiscount_free hnone, burnDiscount_free hnone]
    omega
  · obtain ⟨hbin, hbout⟩ := boughtLedger_trader (l := s.ledger) hnone hne hwho
    have hleft := executeBuy_covered hx hne hwho
    rw [burnDiscount_free hnone] at hleft
    rw [if_neg hwho, hbin, hbout]
    omega

/-- **Limits on real balances.** After a sell or a buy that succeeds, the limits hold on the
balances of the trader exactly when the discounted fee does not break them. -/
theorem trader_limits_iff (cfg : Config AccountId Hash) (s s' : State AccountId Hash)
    (who : AccountId) (assets : AssetPair) (hne : assets.assetIn ≠ assets.assetOut)
    (amount limit : Nat) (discount : Bool) :
    (sell cfg who assets.assetIn assets.assetOut amount limit discount s = .ok s' →
      (SellWithin s s' who assets amount limit ↔
        SellKeepsLimits cfg s who assets amount limit discount)) ∧
    (buy cfg who assets.assetOut assets.assetIn amount limit discount s = .ok s' →
      (BuyWithin s s' who assets amount limit ↔
        BuyKeepsLimits cfg s who assets amount limit discount)) :=
  ⟨sell_within_iff hne, buy_within_iff hne⟩

open Fallible

/-- The price with fee is `111189`, which is the limit, and the discounted fee of `77` is taken
from the same balance: the trader pays `111266`. -/
theorem buy_exceeds_limit :
    Succeeds nativePool fun s => Succeeds (buy Dev.cfg [2] 1 0 100000 111189 true s) fun s' =>
      s.ledger.free 0 [2] = 200000 ∧ s'.ledger.free 0 [2] = 200000 - 111266 ∧
      ¬ (s.ledger.free 0 [2] ≤ s'.ledger.free 0 [2] + 111189) := by
  decide +kernel

/-- With a limit that covers the fee the limits hold, for a buy and for a sell against it. -/
theorem trader_limits_iff_covered :
    Succeeds nativePool fun s => Succeeds (buy Dev.cfg [2] 1 0 100000 111266 true s) fun s' =>
      BuyKeepsLimits Dev.cfg s [2] ⟨0, 1⟩ 100000 111266 true ∧
      Succeeds (sell Dev.cfg [2] 1 0 10000 10000 true s') fun _ =>
        SellKeepsLimits Dev.cfg s' [2] ⟨1, 0⟩ 10000 10000 true := by
  have hok : Succeeds nativePool fun s =>
      Succeeds (buy Dev.cfg [2] 1 0 100000 111266 true s) fun s' =>
        (s'.ledger.free 1 [2] = s.ledger.free 1 [2] + 100000 ∧
          s.ledger.free 0 [2] ≤ s'.ledger.free 0 [2] + 111266) ∧
        Succeeds (sell Dev.cfg [2] 1 0 10000 10000 true s') fun s'' =>
          s''.ledger.free 1 [2] + 10000 = s'.ledger.free 1 [2] ∧
          s'.ledger.free 0 [2] + 10000 ≤ s''.ledger.free 0 [2] := by
    decide +kernel
  obtain ⟨s, hs, s', hs', hbuy, s'', hs'', hsell⟩ := hok
  have hb := (trader_limits_iff Dev.cfg s s' [2] ⟨0, 1⟩ (by decide) 100000 111266 true).2 hs'
  have hq := (trader_limits_iff Dev.cfg s' s'' [2] ⟨1, 0⟩ (by decide) 10000 10000 true).1 hs''
  exact ⟨s, hs, s', hs', hb.mp hbuy, s'', hs'', hq.mp hsell⟩

end HydraDX.XYK
