import HydraDX.State

set_option autoImplicit false

/-! # The XYK pallet: pool accounts and trades

`pallets/xyk/src/lib.rs`, the implementation of the AMM interface: the account of a pair,
spot prices, and the two trades, each split into a validation that computes the amounts
without touching the storage and an execution that moves them.

An execution is transactional: it returns either the new state or an error, in which case
the caller keeps the old state. -/

namespace HydraDX.XYK

variable {AccountId Hash : Type} [DecidableEq AccountId] (cfg : Config AccountId Hash)

/-! ## Errors of callees -/

/-- `ok_or`. -/
def okOr {α : Type} (x : Option α) (e : XYKError) : Except DispatchError α :=
  match x with
  | some a => .ok a
  | none => .error (.xyk e)

/-- `map_err` of an error of `hydra_dx_math`. -/
def mapErr {α : Type} (x : Except MathError α) (e : XYKError) : Except DispatchError α :=
  match x with
  | .ok a => .ok a
  | .error _ => .error (.xyk e)

/-- The `?` of a ledger call. -/
def ofCurrency {α : Type} (x : Except CurrencyError α) : Except DispatchError α :=
  match x with
  | .ok a => .ok a
  | .error e => .error (.currency e)

theorem okOr_eq_ok {α : Type} {x : Option α} {e : XYKError} {a : α} :
    okOr x e = .ok a ↔ x = some a := by
  cases x <;> simp [okOr]

theorem mapErr_eq_ok {α : Type} {x : Except MathError α} {e : XYKError} {a : α} :
    mapErr x e = .ok a ↔ x = .ok a := by
  cases x <;> simp [mapErr]

theorem ofCurrency_eq_ok {α : Type} {x : Except CurrencyError α} {a : α} :
    ofCurrency x = .ok a ↔ x = .ok a := by
  cases x <;> simp [ofCurrency]

/-! ## Pool accounts -/

/-- The bytes that are hashed to the account of a pair: `hydradx` and the two ids, the
smaller one first. -/
def poolSeed (assetA assetB : AssetId) : List UInt8 :=
  [104, 121, 100, 114, 97, 100, 120] ++
    if assetA < assetB then toLeBytes assetA ++ toLeBytes assetB
    else toLeBytes assetB ++ toLeBytes assetA

def fromAssets (assetA assetB : AssetId) : AccountId := cfg.hashAccount (poolSeed assetA assetB)

def getPairId (assets : AssetPair) : AccountId := fromAssets cfg assets.assetIn assets.assetOut

/-- `exists`: there is a share token for the account of the pair. -/
def poolExists (s : State AccountId Hash) (assets : AssetPair) : Bool :=
  (s.shareToken (getPairId cfg assets)).isSome

/-- What the account of the pair holds of the asset. -/
def reserveOf (s : State AccountId Hash) (assets : AssetPair) (asset : AssetId) : Nat :=
  s.ledger.free asset (getPairId cfg assets)

def getSpotPriceUnchecked (s : State AccountId Hash) (assetA assetB : AssetId)
    (amount : Nat) : Nat :=
  let pair : AssetPair := { assetIn := assetB, assetOut := assetA }
  match cfg.math.calculateSpotPrice (reserveOf cfg s pair assetA) (reserveOf cfg s pair assetB)
      amount with
  | .ok price => price
  | .error _ => 0

/-! ## Fees -/

def calculateDiscountedFee (amount : Nat) : Except DispatchError Nat :=
  okOr (discountedFee amount) .FeeAmountInvalid

def calculateFee (amount : Nat) : Except DispatchError Nat :=
  okOr (justFee amount cfg.getExchangeFee) .FeeAmountInvalid

/-- The fee of a trade, discounted or not. -/
def transferFee (discount : Bool) (amount : Nat) : Except DispatchError Nat :=
  if discount then calculateDiscountedFee amount else calculateFee cfg amount

/-- The fee of a discounted trade in the native asset, at the spot price of the pool of
`asset` and the native asset. A sell converts at its sold asset, a buy at its bought one. -/
def discountFee (s : State AccountId Hash) (who : AccountId) (asset : AssetId)
    (discount : Bool) (fee : Nat) : Except DispatchError Nat :=
  if discount then do
    let nativePair : AssetPair := { assetIn := asset, assetOut := cfg.nativeAssetId }
    let nativeReserve := reserveOf cfg s nativePair cfg.nativeAssetId
    let assetReserve := reserveOf cfg s nativePair asset
    let nativeFeeSpotPrice ←
      mapErr (cfg.math.calculateSpotPrice assetReserve nativeReserve fee) .CannotApplyDiscount
    ensure (s.ledger.free cfg.nativeAssetId who ≥ nativeFeeSpotPrice)
      (.xyk .InsufficientNativeCurrencyBalance)
    return nativeFeeSpotPrice
  else .ok 0

/-- Withdraw the native fee of a discounted trade. -/
def withdrawDiscount (transfer : AMMTransfer AccountId) (l : Ledger AssetId AccountId) :
    Except DispatchError (Ledger AssetId AccountId) :=
  if transfer.discount = true ∧ transfer.discountAmount > 0 then
    ofCurrency (cfg.currency.withdraw cfg.nativeAssetId transfer.origin transfer.discountAmount l)
  else .ok l

/-! ## Sell -/

/-- Validate a sell: all checks and calculations, no change of the storage. -/
def validateSell (s : State AccountId Hash) (who : AccountId) (assets : AssetPair)
    (amount minBought : Nat) (discount : Bool) :
    Except DispatchError (AMMTransfer AccountId) := do
  ensure (poolExists cfg s assets = true) (.xyk .TokenPoolNotFound)
  ensure (s.ledger.free assets.assetIn who ≥ amount) (.xyk .InsufficientAssetBalance)
  -- without this pool the native fee has no price
  ensure (discount = true →
      poolExists cfg s { assetIn := assets.assetIn, assetOut := cfg.nativeAssetId } = true)
    (.xyk .CannotApplyDiscount)
  let assetInReserve := reserveOf cfg s assets assets.assetIn
  let assetOutReserve := reserveOf cfg s assets assets.assetOut
  ensure (amount ≤ assetInReserve / MAX_IN_RATIO) (.xyk .MaxInRatioExceeded)
  -- the fee stays in the pool: the rest is exchanged, the whole amount is paid in
  let fee ← transferFee cfg discount amount
  let amountWithoutFee ← okOr (checkedSub amount fee) .SellAssetAmountInvalid
  let salePrice ←
    mapErr (cfg.math.calculateOutGivenIn assetInReserve assetOutReserve amountWithoutFee)
      .SellAssetAmountInvalid
  ensure (assetOutReserve > salePrice) (.xyk .InsufficientAssetBalance)
  ensure (minBought ≤ salePrice) (.xyk .AssetBalanceLimitExceeded)
  let discountAmount ← discountFee cfg s who assets.assetIn discount fee
  return { origin := who, assets, amount, amountOut := salePrice, discount, discountAmount }

/-- Execute a validated sell. -/
def executeSell (transfer : AMMTransfer AccountId) (s : State AccountId Hash) :
    Except DispatchError (State AccountId Hash) := do
  let pairAccount := getPairId cfg transfer.assets
  let l ← withdrawDiscount cfg transfer s.ledger
  let l ← ofCurrency
    (cfg.currency.transfer transfer.assets.assetIn transfer.origin pairAccount transfer.amount l)
  let l ← ofCurrency
    (cfg.currency.transfer transfer.assets.assetOut pairAccount transfer.origin
      transfer.amountOut l)
  return (s.setLedger l).depositEvent
    (.SellExecuted transfer.origin transfer.assets.assetIn transfer.assets.assetOut
      transfer.amount transfer.amountOut)

def sell (who : AccountId) (assetIn assetOut : AssetId) (amount minBought : Nat)
    (discount : Bool) (s : State AccountId Hash) : Except DispatchError (State AccountId Hash) := do
  let transfer ← validateSell cfg s who { assetIn, assetOut } amount minBought discount
  executeSell cfg transfer s

/-! ## Buy -/

/-- Validate a buy: all checks and calculations, no change of the storage. The `amountOut`
of the result is the price with fee, paid in the asset that goes in. -/
def validateBuy (s : State AccountId Hash) (who : AccountId) (assets : AssetPair)
    (amount maxLimit : Nat) (discount : Bool) :
    Except DispatchError (AMMTransfer AccountId) := do
  ensure (poolExists cfg s assets = true) (.xyk .TokenPoolNotFound)
  let assetOutReserve := reserveOf cfg s assets assets.assetOut
  let assetInReserve := reserveOf cfg s assets assets.assetIn
  ensure (assetOutReserve > amount) (.xyk .InsufficientPoolAssetBalance)
  ensure (amount ≤ assetOutReserve / MAX_OUT_RATIO) (.xyk .MaxOutRatioExceeded)
  -- here it is the bought asset that has to have a pool with the native one
  ensure (discount = true →
      poolExists cfg s { assetIn := assets.assetOut, assetOut := cfg.nativeAssetId } = true)
    (.xyk .CannotApplyDiscount)
  let buyPrice ←
    mapErr (cfg.math.calculateInGivenOut assetOutReserve assetInReserve amount)
      .BuyAssetAmountInvalid
  let fee ← transferFee cfg discount buyPrice
  let buyPriceWithFee ← okOr (checkedAdd buyPrice fee) .BuyAssetAmountInvalid
  ensure (maxLimit ≥ buyPriceWithFee) (.xyk .AssetBalanceLimitExceeded)
  ensure (s.ledger.free assets.assetIn who ≥ buyPriceWithFee) (.xyk .InsufficientAssetBalance)
  let discountAmount ← discountFee cfg s who assets.assetOut discount fee
  return { origin := who, assets, amount, amountOut := buyPriceWithFee, discount, discountAmount }

/-- Execute a validated buy. -/
def executeBuy (transfer : AMMTransfer AccountId) (s : State AccountId Hash) :
    Except DispatchError (State AccountId Hash) := do
  let pairAccount := getPairId cfg transfer.assets
  let l ← withdrawDiscount cfg transfer s.ledger
  let l ← ofCurrency
    (cfg.currency.transfer transfer.assets.assetOut pairAccount transfer.origin transfer.amount l)
  let l ← ofCurrency
    (cfg.currency.transfer transfer.assets.assetIn transfer.origin pairAccount
      transfer.amountOut l)
  return (s.setLedger l).depositEvent
    (.BuyExecuted transfer.origin transfer.assets.assetOut transfer.assets.assetIn
      transfer.amount transfer.amountOut)

def buy (who : AccountId) (assetOut assetIn : AssetId) (amount maxLimit : Nat)
    (discount : Bool) (s : State AccountId Hash) : Except DispatchError (State AccountId Hash) := do
  let transfer ← validateBuy cfg s who { assetIn, assetOut } amount maxLimit discount
  executeBuy cfg transfer s

/-! ## What a validated trade guarantees -/

section Validated

variable {cfg} {s s' : State AccountId Hash} {who : AccountId} {assets : AssetPair}
  {amount limit : Nat} {discount : Bool} {t : AMMTransfer AccountId}

/-- What `validateSell` has checked and computed when it succeeds. -/
structure SellValid (cfg : Config AccountId Hash) (s : State AccountId Hash) (who : AccountId)
    (assets : AssetPair) (amount minBought : Nat) (discount : Bool) (fee : Nat)
    (t : AMMTransfer AccountId) : Prop where
  pool : poolExists cfg s assets = true
  balance : amount ≤ s.ledger.free assets.assetIn who
  nativePool : discount = true →
    poolExists cfg s { assetIn := assets.assetIn, assetOut := cfg.nativeAssetId } = true
  ratio : amount ≤ reserveOf cfg s assets assets.assetIn / MAX_IN_RATIO
  fee_eq : transferFee cfg discount amount = .ok fee
  fee_le : fee ≤ amount
  reserve_pos : reserveOf cfg s assets assets.assetIn ≠ 0
  amountOut_eq : t.amountOut
    = reserveOf cfg s assets assets.assetOut * (amount - fee)
        / (reserveOf cfg s assets assets.assetIn + (amount - fee)) + 1
  amountOut_lt : t.amountOut < reserveOf cfg s assets assets.assetOut
  limit_le : minBought ≤ t.amountOut
  discount_eq : discountFee cfg s who assets.assetIn discount fee = .ok t.discountAmount
  transfer_eq : t = ⟨who, assets, amount, t.amountOut, discount, t.discountAmount⟩

/-- What the fee of a discounted trade in the native asset is, and that it can be paid. -/
theorem discountFee_ok {asset : AssetId} {fee d : Nat}
    (h : discountFee cfg s who asset discount fee = .ok d) :
    (discount = false → d = 0) ∧ d ≤ s.ledger.free cfg.nativeAssetId who ∧
    (discount = true → reserveOf cfg s ⟨asset, cfg.nativeAssetId⟩ asset ≠ 0 ∧
      d = fee * reserveOf cfg s ⟨asset, cfg.nativeAssetId⟩ cfg.nativeAssetId
        / reserveOf cfg s ⟨asset, cfg.nativeAssetId⟩ asset) := by
  unfold discountFee at h
  cases discount with
  | false =>
      have hd : 0 = d := by simpa using h
      subst hd
      exact ⟨fun _ => rfl, Nat.zero_le _, by simp⟩
  | true =>
      simp only [if_true, Fallible.bind_eq_ok, mapErr_eq_ok] at h
      obtain ⟨price, hprice, _, hle, h⟩ := h
      have hle := Fallible.ensure_eq_ok.mp hle
      cases h
      exact ⟨by simp, hle, fun _ => cfg.math.spotPrice_ok hprice⟩

/-- The rate of the fee of a trade. -/
def feeRate (cfg : Config AccountId Hash) (discount : Bool) : Fee :=
  if discount then ⟨7, 10000⟩ else cfg.getExchangeFee

/-- The fee is a fraction of the amount, rounded down. -/
theorem transferFee_ok {fee : Nat} (h : transferFee cfg discount amount = .ok fee) :
    (feeRate cfg discount).denominator.toNat ≠ 0 ∧
    fee = amount * (feeRate cfg discount).numerator.toNat
      / (feeRate cfg discount).denominator.toNat := by
  have hfee : justFee amount (feeRate cfg discount) = some fee := by
    cases discount with
    | false => exact okOr_eq_ok.mp h
    | true => exact okOr_eq_ok.mp h
  exact (justFee_eq_some.mp hfee).2

/-- The fee of a discounted trade is 0.07%. -/
theorem transferFee_discount {fee : Nat} (h : transferFee cfg true amount = .ok fee) :
    fee = 7 * amount / 10000 := by
  rw [(transferFee_ok h).2, Nat.mul_comm]
  rfl

theorem validateSell_ok (h : validateSell cfg s who assets amount limit discount = .ok t) :
    ∃ fee, SellValid cfg s who assets amount limit discount fee t := by
  unfold validateSell at h
  simp only [↓Fallible.ensure_bind_eq_ok, Fallible.bind_eq_ok, okOr_eq_ok, mapErr_eq_ok,
    checkedSub_eq_some] at h
  obtain ⟨hpool, hbal, hnat, hratio, fee, hfee, _, ⟨hle, rfl⟩, out, hout, hlt, hlim, d, hd, h⟩ := h
  obtain ⟨hne, rfl⟩ := cfg.math.outGivenIn_ok hout
  cases h
  -- an empty reserve would allow nothing to be sold
  have hreserve : reserveOf cfg s assets assets.assetIn ≠ 0 := fun hzero => by
    rw [hzero, Nat.zero_div, Nat.le_zero] at hratio
    rw [hzero, hratio, Nat.zero_sub] at hne
    exact hne rfl
  exact ⟨fee, hpool, hbal, hnat, hratio, hfee, hle, hreserve, rfl, hlt, hlim, hd, rfl⟩

/-- What `validateBuy` has checked and computed when it succeeds. -/
structure BuyValid (cfg : Config AccountId Hash) (s : State AccountId Hash) (who : AccountId)
    (assets : AssetPair) (amount maxLimit : Nat) (discount : Bool) (price fee : Nat)
    (t : AMMTransfer AccountId) : Prop where
  pool : poolExists cfg s assets = true
  amount_lt : amount < reserveOf cfg s assets assets.assetOut
  ratio : amount ≤ reserveOf cfg s assets assets.assetOut / MAX_OUT_RATIO
  nativePool : discount = true →
    poolExists cfg s { assetIn := assets.assetOut, assetOut := cfg.nativeAssetId } = true
  price_eq : price = reserveOf cfg s assets assets.assetIn * amount
    / (reserveOf cfg s assets assets.assetOut - amount) + 1
  fee_eq : transferFee cfg discount price = .ok fee
  amountOut_lt : price + fee < balanceBound
  amountOut_eq : t.amountOut = price + fee
  limit_le : t.amountOut ≤ maxLimit
  balance : t.amountOut ≤ s.ledger.free assets.assetIn who
  discount_eq : discountFee cfg s who assets.assetOut discount fee = .ok t.discountAmount
  transfer_eq : t = ⟨who, assets, amount, t.amountOut, discount, t.discountAmount⟩

theorem validateBuy_ok (h : validateBuy cfg s who assets amount limit discount = .ok t) :
    ∃ price fee, BuyValid cfg s who assets amount limit discount price fee t := by
  unfold validateBuy at h
  simp only [↓Fallible.ensure_bind_eq_ok, Fallible.bind_eq_ok, okOr_eq_ok, mapErr_eq_ok,
    checkedAdd_eq_some] at h
  obtain ⟨hpool, hlt, hratio, hnat, price, hprice, fee, hfee, _, ⟨hfit, rfl⟩, hlim, hbal, d, hd,
    h⟩ := h
  obtain ⟨-, rfl⟩ := cfg.math.inGivenOut_ok hprice
  cases h
  exact ⟨_, fee, hpool, hlt, hratio, hnat, rfl, hfee, hfit, rfl, hlim, hbal, hd, rfl⟩

omit [DecidableEq AccountId] in
/-- The transfer of a validated trade carries the arguments of the trade. -/
theorem transfer_arguments
    (h : t = ⟨who, assets, amount, t.amountOut, discount, t.discountAmount⟩) :
    who = t.origin ∧ assets = t.assets ∧ amount = t.amount ∧ discount = t.discount := by
  rw [h]
  exact ⟨rfl, rfl, rfl, rfl⟩

/-! ## What an executed trade does -/

/-- The ledger once the native fee of a discounted trade is destroyed. -/
def burnDiscount (cfg : Config AccountId Hash) (t : AMMTransfer AccountId)
    (l : Ledger AssetId AccountId) : Ledger AssetId AccountId :=
  if t.discount = true ∧ t.discountAmount > 0 then
    l.burn cfg.nativeAssetId t.origin t.discountAmount
  else l

theorem withdrawDiscount_ok {l l' : Ledger AssetId AccountId}
    (h : withdrawDiscount cfg t l = .ok l') : l' = burnDiscount cfg t l := by
  unfold withdrawDiscount at h
  unfold burnDiscount
  split_ifs at h ⊢ with hd
  · exact (cfg.currency.withdraw_ok (ofCurrency_eq_ok.mp h)).2
  · cases h
    rfl

@[simp] theorem burnDiscount_reserved (t : AMMTransfer AccountId) (l : Ledger AssetId AccountId) :
    (burnDiscount cfg t l).reserved = l.reserved := by
  unfold burnDiscount; split_ifs <;> rfl

theorem burnDiscount_free_of_ne {l : Ledger AssetId AccountId} {c : AssetId} {w : AccountId}
    (h : c ≠ cfg.nativeAssetId ∨ w ≠ t.origin) :
    (burnDiscount cfg t l).free c w = l.free c w := by
  unfold burnDiscount
  split_ifs
  · exact Ledger.burn_free_of_ne h
  · rfl

/-- The ledger after an executed sell: the native fee destroyed, the sold amount paid in and
the bought amount paid out. -/
def soldLedger (cfg : Config AccountId Hash) (t : AMMTransfer AccountId)
    (l : Ledger AssetId AccountId) : Ledger AssetId AccountId :=
  ((burnDiscount cfg t l).move t.assets.assetIn t.origin (getPairId cfg t.assets) t.amount).move
    t.assets.assetOut (getPairId cfg t.assets) t.origin t.amountOut

/-- The ledger after an executed buy: the bought amount is paid out first. -/
def boughtLedger (cfg : Config AccountId Hash) (t : AMMTransfer AccountId)
    (l : Ledger AssetId AccountId) : Ledger AssetId AccountId :=
  ((burnDiscount cfg t l).move t.assets.assetOut (getPairId cfg t.assets) t.origin t.amount).move
    t.assets.assetIn t.origin (getPairId cfg t.assets) t.amountOut

theorem executeSell_ok (h : executeSell cfg t s = .ok s') :
    s' = (s.setLedger (soldLedger cfg t s.ledger)).depositEvent
      (.SellExecuted t.origin t.assets.assetIn t.assets.assetOut t.amount t.amountOut) := by
  unfold executeSell at h
  simp only [Fallible.bind_eq_ok, ofCurrency_eq_ok] at h
  obtain ⟨l₁, h₁, l₂, h₂, l₃, h₃, h⟩ := h
  cases h
  rw [(cfg.currency.transfer_ok h₃).2, (cfg.currency.transfer_ok h₂).2, withdrawDiscount_ok h₁]
  rfl

theorem executeBuy_ok (h : executeBuy cfg t s = .ok s') :
    s' = (s.setLedger (boughtLedger cfg t s.ledger)).depositEvent
      (.BuyExecuted t.origin t.assets.assetOut t.assets.assetIn t.amount t.amountOut) := by
  unfold executeBuy at h
  simp only [Fallible.bind_eq_ok, ofCurrency_eq_ok] at h
  obtain ⟨l₁, h₁, l₂, h₂, l₃, h₃, h⟩ := h
  cases h
  rw [(cfg.currency.transfer_ok h₃).2, (cfg.currency.transfer_ok h₂).2, withdrawDiscount_ok h₁]
  rfl

/-- A sell that succeeds: what was checked, and the state afterwards. -/
theorem sell_ok {assetIn assetOut : AssetId}
    (h : sell cfg who assetIn assetOut amount limit discount s = .ok s') :
    ∃ fee t, SellValid cfg s who ⟨assetIn, assetOut⟩ amount limit discount fee t ∧
      s' = (s.setLedger (soldLedger cfg t s.ledger)).depositEvent
        (.SellExecuted t.origin t.assets.assetIn t.assets.assetOut t.amount t.amountOut) := by
  obtain ⟨t, hv, hx⟩ := Fallible.bind_eq_ok.mp h
  obtain ⟨fee, hvalid⟩ := validateSell_ok hv
  exact ⟨fee, t, hvalid, executeSell_ok hx⟩

/-- A buy that succeeds: what was checked, and the state afterwards. -/
theorem buy_ok {assetOut assetIn : AssetId}
    (h : buy cfg who assetOut assetIn amount limit discount s = .ok s') :
    ∃ price fee t, BuyValid cfg s who ⟨assetIn, assetOut⟩ amount limit discount price fee t ∧
      s' = (s.setLedger (boughtLedger cfg t s.ledger)).depositEvent
        (.BuyExecuted t.origin t.assets.assetOut t.assets.assetIn t.amount t.amountOut) := by
  obtain ⟨t, hv, hx⟩ := Fallible.bind_eq_ok.mp h
  obtain ⟨price, fee, hvalid⟩ := validateBuy_ok hv
  exact ⟨price, fee, t, hvalid, executeBuy_ok hx⟩

end Validated

end HydraDX.XYK
