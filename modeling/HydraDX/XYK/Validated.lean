import HydraDX.XYK.Leave
import HydraDX.XYK.Trader

set_option autoImplicit false

/-! # Validated trades and their execution

A validation checks each balance that the trade draws on: what is paid in, what is paid out and
the native fee of a discounted trade. The execution draws on them one after the other, and where
the asset paid in is the native asset, two of the three come from one balance. So a validated
trade is executed exactly when that balance covers both (`PaysBoth`).

The currency is one without locks and without existential deposits, and the ledger is one whose
balances are issued: then a transfer is refused only where the balance is too low. -/

namespace HydraDX.XYK

variable {AccountId Hash : Type} [DecidableEq AccountId] {cfg : Config AccountId Hash}
  {s : State AccountId Hash} {who : AccountId} {assets : AssetPair}
  {amount limit price fee : Nat} {discount : Bool} {t : AMMTransfer AccountId}
  {l : Ledger AssetId AccountId}

/-- The native fee and two transfers between `a` and `b` in opposite directions go through exactly
when the balances cover them one after the other. -/
theorem exchange_ok_iff (hcurrency : Unrestricted cfg.currency) (hl : l.Backed)
    (hfits : ∀ c, l.issuance c < balanceBound) (a b : AccountId) (c₁ c₂ : AssetId) (x y : Nat) :
    (∃ l₁ l₂ l₃, withdrawDiscount cfg t l = .ok l₁ ∧
      cfg.currency.transfer c₁ a b x l₁ = .ok l₂ ∧ cfg.currency.transfer c₂ b a y l₂ = .ok l₃) ↔
    (t.discount = true ∧ t.discountAmount > 0 →
      t.discountAmount ≤ l.free cfg.nativeAssetId t.origin) ∧
    (a ≠ b → x ≤ (burnDiscount cfg t l).free c₁ a ∧
      y ≤ ((burnDiscount cfg t l).move c₁ a b x).free c₂ b) := by
  constructor
  · rintro ⟨l₁, l₂, l₃, h₁, h₂, h₃⟩
    obtain ⟨hx, hl₂⟩ := cfg.currency.transfer_ok h₂
    obtain ⟨hy, -⟩ := cfg.currency.transfer_ok h₃
    have hl₁ := withdrawDiscount_ok h₁
    rw [hl₁] at hl₂ hx
    rw [hl₂] at hy
    refine ⟨fun hd => ?_, fun hab => ⟨hx hab, hy hab.symm⟩⟩
    rw [withdrawDiscount, if_pos hd] at h₁
    exact (cfg.currency.withdraw_ok (ofCurrency_eq_ok.mp h₁)).1
  · rintro ⟨hfee, hpay⟩
    obtain ⟨l₁, h₁⟩ : ∃ l₁, withdrawDiscount cfg t l = .ok l₁ := by
      unfold withdrawDiscount
      by_cases hd : t.discount = true ∧ t.discountAmount > 0
      · obtain ⟨l₁, h₁⟩ := hcurrency.withdraw cfg.nativeAssetId t.origin t.discountAmount l (hfee hd)
        rw [if_pos hd]
        exact ⟨l₁, ofCurrency_eq_ok.mpr h₁⟩
      · rw [if_neg hd]
        exact ⟨l, rfl⟩
    have hl₁ := withdrawDiscount_ok h₁
    have hmoves₁ := withdrawDiscount_moves h₁
    have hback₁ : l₁.Backed := hmoves₁.backed hl
    have hfits₁ : ∀ c, l₁.issuance c < balanceBound := fun c =>
      lt_of_le_of_lt (hmoves₁.issuance_le (fun h => h)) (hfits c)
    rw [← hl₁] at hpay
    obtain ⟨l₂, h₂⟩ := hcurrency.transfer c₁ a b x l₁ fun hab =>
      ⟨(hpay hab).1, receive_fits hback₁ hfits₁ hab (hpay hab).1⟩
    have hl₂ := (cfg.currency.transfer_ok h₂).2
    have hmoves₂ := Currency.transfer_moves (I := fun _ => False) (D := fun _ => False) h₂
    have hfits₂ : ∀ c, l₂.issuance c < balanceBound := fun c =>
      lt_of_le_of_lt (hmoves₂.issuance_le (fun h => h)) (hfits₁ c)
    rw [← hl₂] at hpay
    obtain ⟨l₃, h₃⟩ := hcurrency.transfer c₂ b a y l₂ fun hba =>
      ⟨(hpay hba.symm).2, receive_fits (hmoves₂.backed hback₁) hfits₂ hba (hpay hba.symm).2⟩
    exact ⟨l₁, l₂, l₃, h₁, h₂, h₃⟩

theorem executeSell_ok_iff : (∃ s', executeSell cfg t s = .ok s') ↔
    ∃ l₁ l₂ l₃, withdrawDiscount cfg t s.ledger = .ok l₁ ∧
      cfg.currency.transfer t.assets.assetIn t.origin (getPairId cfg t.assets) t.amount l₁
        = .ok l₂ ∧
      cfg.currency.transfer t.assets.assetOut (getPairId cfg t.assets) t.origin t.amountOut l₂
        = .ok l₃ := by
  unfold executeSell
  simp only [Fallible.bind_eq_ok, ofCurrency_eq_ok]
  constructor
  · rintro ⟨s', l₁, h₁, l₂, h₂, l₃, h₃, -⟩
    exact ⟨l₁, l₂, l₃, h₁, h₂, h₃⟩
  · rintro ⟨l₁, l₂, l₃, h₁, h₂, h₃⟩
    exact ⟨_, l₁, h₁, l₂, h₂, l₃, h₃, rfl⟩

theorem executeBuy_ok_iff : (∃ s', executeBuy cfg t s = .ok s') ↔
    ∃ l₁ l₂ l₃, withdrawDiscount cfg t s.ledger = .ok l₁ ∧
      cfg.currency.transfer t.assets.assetOut (getPairId cfg t.assets) t.origin t.amount l₁
        = .ok l₂ ∧
      cfg.currency.transfer t.assets.assetIn t.origin (getPairId cfg t.assets) t.amountOut l₂
        = .ok l₃ := by
  unfold executeBuy
  simp only [Fallible.bind_eq_ok, ofCurrency_eq_ok]
  constructor
  · rintro ⟨s', l₁, h₁, l₂, h₂, l₃, h₃, -⟩
    exact ⟨l₁, l₂, l₃, h₁, h₂, h₃⟩
  · rintro ⟨l₁, l₂, l₃, h₁, h₂, h₃⟩
    exact ⟨_, l₁, h₁, l₂, h₂, l₃, h₃, rfl⟩

/-- Where the asset paid in is the native asset, the balance of a trader other than the pool
account covers the payment and the discounted fee together. -/
def PaysBoth (cfg : Config AccountId Hash) (s : State AccountId Hash) (t : AMMTransfer AccountId)
    (payment : Nat) : Prop :=
  t.origin ≠ getPairId cfg t.assets → t.assets.assetIn = cfg.nativeAssetId →
    payment + t.discountAmount ≤ s.ledger.free cfg.nativeAssetId t.origin

/-- What the fee leaves covers the payment. -/
theorem covered_iff {payment : Nat} (hnone : t.discount = false → t.discountAmount = 0)
    (hfee : t.discountAmount ≤ l.free cfg.nativeAssetId t.origin)
    (hpay : payment ≤ l.free t.assets.assetIn t.origin) :
    payment ≤ (burnDiscount cfg t l).free t.assets.assetIn t.origin ↔
      (t.assets.assetIn = cfg.nativeAssetId →
        payment + t.discountAmount ≤ l.free cfg.nativeAssetId t.origin) := by
  rw [burnDiscount_free hnone, burned]
  by_cases hn : t.assets.assetIn = cfg.nativeAssetId
  · rw [if_pos hn, hn]
    rw [hn] at hpay
    constructor
    · intro h _
      omega
    · intro h
      have := h rfl
      omega
  · rw [if_neg hn, Nat.sub_zero]
    exact iff_of_true hpay (fun h => absurd h hn)

section Executes

variable (hcurrency : Unrestricted cfg.currency) (hback : s.ledger.Backed)
  (hfits : ∀ c, s.ledger.issuance c < balanceBound)
include hcurrency hback hfits

theorem SellValid.executes_iff (hv : SellValid cfg s who assets amount limit discount fee t) :
    (∃ s', executeSell cfg t s = .ok s') ↔ PaysBoth cfg s t t.amount := by
  obtain ⟨rfl, rfl, rfl, rfl⟩ := transfer_arguments hv.transfer_eq
  obtain ⟨hnone, hfee, -⟩ := discountFee_ok hv.discount_eq
  have hbal := hv.balance
  have hlt := hv.amountOut_lt
  rw [executeSell_ok_iff, exchange_ok_iff hcurrency hback hfits, and_iff_right (fun _ => hfee)]
  refine forall_congr' fun hwho => ?_
  rw [← covered_iff hnone hfee hbal]
  -- the pool pays out of its reserve, which the payment has not lowered
  refine and_iff_left ?_
  have hreserve : reserveOf cfg s t.assets t.assets.assetOut
      ≤ ((burnDiscount cfg t s.ledger).move t.assets.assetIn t.origin (getPairId cfg t.assets)
          t.amount).free t.assets.assetOut (getPairId cfg t.assets) := by
    refine le_trans (Nat.le_of_eq ?_) (le_move_free_dest _ _ _ _ _ _)
    exact (burnDiscount_free_of_ne (Or.inr hwho.symm)).symm
  omega

theorem BuyValid.executes_iff (hv : BuyValid cfg s who assets amount limit discount price fee t)
    (hne : assets.assetIn ≠ assets.assetOut) :
    (∃ s', executeBuy cfg t s = .ok s') ↔ PaysBoth cfg s t t.amountOut := by
  obtain ⟨rfl, rfl, rfl, rfl⟩ := transfer_arguments hv.transfer_eq
  obtain ⟨hnone, hfee, -⟩ := discountFee_ok hv.discount_eq
  have hbal := hv.balance
  have hlt := hv.amount_lt
  rw [executeBuy_ok_iff, exchange_ok_iff hcurrency hback hfits, and_iff_right (fun _ => hfee)]
  rw [PaysBoth, ne_comm]
  refine forall_congr' fun hwho => ?_
  rw [← covered_iff hnone hfee hbal, Ledger.move_free_of_ne (Or.inl hne)]
  refine and_iff_right ?_
  rw [burnDiscount_free_of_ne (Or.inr hwho.symm)]
  exact hlt.le

end Executes

/-! ## The condition on the arguments -/

/-- When a validated sell is paid for: the native asset, sold at a discount by another account
than that of the pool, is covered together with its fee. -/
def SellPayable (cfg : Config AccountId Hash) (s : State AccountId Hash) (who : AccountId)
    (assets : AssetPair) (amount : Nat) (discount : Bool) : Prop :=
  discount = true → assets.assetIn = cfg.nativeAssetId → who ≠ getPairId cfg assets →
    amount + 7 * amount / 10000 ≤ s.ledger.free cfg.nativeAssetId who

/-- The same for a buy that pays with the native asset: the price, the discounted fee, and that
fee once more at the spot price of the pool. -/
def BuyPayable (cfg : Config AccountId Hash) (s : State AccountId Hash) (who : AccountId)
    (assets : AssetPair) (amount : Nat) (discount : Bool) : Prop :=
  let reserveIn := reserveOf cfg s assets assets.assetIn
  let reserveOut := reserveOf cfg s assets assets.assetOut
  let price := reserveIn * amount / (reserveOut - amount) + 1
  let fee := 7 * price / 10000
  discount = true → assets.assetIn = cfg.nativeAssetId → who ≠ getPairId cfg assets →
    price + fee + fee * reserveIn / reserveOut ≤ s.ledger.free cfg.nativeAssetId who

/-- Without a discount one balance covers the payment, which the validation has checked. -/
theorem paysBoth_of_not_discount {payment : Nat} (hd : t.discountAmount = 0)
    (hpay : payment ≤ s.ledger.free t.assets.assetIn t.origin) : PaysBoth cfg s t payment := by
  intro _ hnative
  rw [hd, Nat.add_zero, ← hnative]
  exact hpay

theorem SellValid.paysBoth_iff (hv : SellValid cfg s who assets amount limit discount fee t) :
    PaysBoth cfg s t t.amount ↔ SellPayable cfg s who assets amount discount := by
  obtain ⟨rfl, rfl, rfl, -⟩ := transfer_arguments hv.transfer_eq
  have hfee := hv.fee_eq
  obtain ⟨hnone, -, hsome⟩ := discountFee_ok hv.discount_eq
  have hbal := hv.balance
  cases discount with
  | false => exact iff_of_true (paysBoth_of_not_discount (hnone rfl) hbal) (by simp [SellPayable])
  | true =>
      obtain ⟨hreserve, hd⟩ := hsome rfl
      rw [transferFee_discount hfee] at hd
      unfold PaysBoth SellPayable
      constructor
      · intro h _ hnative hwho
        -- the pool of the native asset with itself has the price one
        have hle := h hwho hnative
        rw [hnative] at hd hreserve
        rwa [hd, Nat.mul_div_cancel _ (Nat.pos_of_ne_zero hreserve)] at hle
      · intro h hwho hnative
        have hle := h rfl hnative hwho
        rw [hnative] at hd hreserve
        rwa [hd, Nat.mul_div_cancel _ (Nat.pos_of_ne_zero hreserve)]

theorem BuyValid.paysBoth_iff
    (hv : BuyValid cfg s who assets amount limit discount price fee t) :
    PaysBoth cfg s t t.amountOut ↔ BuyPayable cfg s who assets amount discount := by
  obtain ⟨rfl, rfl, rfl, -⟩ := transfer_arguments hv.transfer_eq
  have hprice := hv.price_eq
  have hfee := hv.fee_eq
  obtain ⟨hnone, -, hsome⟩ := discountFee_ok hv.discount_eq
  have hbal := hv.balance
  have hout := hv.amountOut_eq
  cases discount with
  | false => exact iff_of_true (paysBoth_of_not_discount (hnone rfl) hbal) (by simp [BuyPayable])
  | true =>
      obtain ⟨-, hd⟩ := hsome rfl
      have hfee := transferFee_discount hfee
      -- the pool at whose price the fee is converted is the pool of the trade
      have hconvert : t.assets.assetIn = cfg.nativeAssetId →
          t.discountAmount = fee * reserveOf cfg s t.assets t.assets.assetIn
            / reserveOf cfg s t.assets t.assets.assetOut := by
        intro hnative
        have hpool : getPairId cfg ⟨t.assets.assetOut, cfg.nativeAssetId⟩
            = getPairId cfg t.assets := by
          rw [← hnative]
          exact getPairId_swap t.assets
        rw [hd, reserveOf, reserveOf, hpool, ← hnative]
        rfl
      unfold PaysBoth BuyPayable
      simp only [← hprice, ← hfee, ← hout]
      constructor
      · intro h _ hnative hwho
        rw [← hconvert hnative]
        exact h hwho hnative
      · intro h hwho hnative
        rw [hconvert hnative]
        exact h trivial hnative hwho

/-- **A validated trade is executed exactly when the balance that it draws on twice covers both**:
the payment and the discounted fee, where the asset paid in is the native asset. A sell of the
native asset at a discount would need a pool of the native asset with itself, so where there is
none every validated sell is executed. -/
theorem validated_trade_executes_iff (cfg : Config AccountId Hash)
    (hcurrency : Unrestricted cfg.currency) (s : State AccountId Hash) (hback : s.ledger.Backed)
    (hfits : ∀ c, s.ledger.issuance c < balanceBound) (who : AccountId) (assets : AssetPair)
    (hne : assets.assetIn ≠ assets.assetOut) (amount limit : Nat) (discount : Bool)
    (t : AMMTransfer AccountId) :
    (validateSell cfg s who assets amount limit discount = .ok t →
      ((∃ s', executeSell cfg t s = .ok s') ↔ SellPayable cfg s who assets amount discount) ∧
      (NoSelfPool cfg s → ∃ s', executeSell cfg t s = .ok s')) ∧
    (validateBuy cfg s who assets amount limit discount = .ok t →
      ((∃ s', executeBuy cfg t s = .ok s') ↔ BuyPayable cfg s who assets amount discount)) := by
  constructor
  · intro h
    obtain ⟨fee, hv⟩ := validateSell_ok h
    have hiff : (∃ s', executeSell cfg t s = .ok s')
        ↔ SellPayable cfg s who assets amount discount :=
      (hv.executes_iff hcurrency hback hfits).trans hv.paysBoth_iff
    refine ⟨hiff, fun hself => hiff.mpr fun hd hnative _ => ?_⟩
    -- a discount needs the pool of the sold asset and the native one
    have hpool := hv.nativePool hd
    exact absurd hnative (hself.ne hpool)
  · intro h
    obtain ⟨price, fee, hv⟩ := validateBuy_ok h
    exact (hv.executes_iff hcurrency hback hfits hne).trans hv.paysBoth_iff

open Fallible

/-- The native balance of `[2]` covers the price with fee, and it covers the discounted fee, but
not both: the buy is validated and then refused. -/
theorem validated_buy_is_refused :
    Succeeds nativePool fun s =>
      s.ledger.free 0 [2] = 200000 ∧
      Succeeds (validateBuy Dev.cfg s [2] ⟨0, 1⟩ 166569 200000 true) fun t =>
        t.amountOut = 199999 ∧ t.discountAmount = 139 ∧
        ¬ Succeeds (executeBuy Dev.cfg t s) fun _ => True := by
  decide +kernel

/-- A buy that is payable, and a sell. -/
theorem validated_trade_executes_covered :
    Succeeds nativePool fun s =>
      (Succeeds (validateBuy Dev.cfg s [2] ⟨0, 1⟩ 100000 200000 true) fun t =>
        ∃ s', executeBuy Dev.cfg t s = .ok s') ∧
      Succeeds (validateSell Dev.cfg s [2] ⟨1, 0⟩ 10000 1 true) fun t =>
        ∃ s', executeSell Dev.cfg t s = .ok s' := by
  have hok : Succeeds nativePool fun s =>
      (Succeeds (validateBuy Dev.cfg s [2] ⟨0, 1⟩ 100000 200000 true) fun _ =>
        BuyPayable Dev.cfg s [2] ⟨0, 1⟩ 100000 true) ∧
      Succeeds (validateSell Dev.cfg s [2] ⟨1, 0⟩ 10000 1 true) fun _ =>
        SellPayable Dev.cfg s [2] ⟨1, 0⟩ 10000 true := by
    unfold BuyPayable SellPayable
    decide +kernel
  obtain ⟨s, hs, ⟨t, ht, hbuy⟩, u, hu, hsell⟩ := hok
  have hsolvent : Solvent Dev.cfg s := solvent_after (by decide) (by decide) hs
  have hiff := validated_trade_executes_iff Dev.cfg tokens_unrestricted s hsolvent.backed
    hsolvent.fits [2]
  exact ⟨s, hs, ⟨t, ht, ((hiff ⟨0, 1⟩ (by decide) 100000 200000 true t).2 ht).mpr hbuy⟩, u, hu,
    ((hiff ⟨1, 0⟩ (by decide) 10000 1 true u).1 hu).1.mpr hsell⟩

end HydraDX.XYK
