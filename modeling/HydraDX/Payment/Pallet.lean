import HydraDX.Chain
import Mathlib.Data.Finset.Basic

set_option autoImplicit false

/-! # The transaction multi payment pallet

`pallets/transaction-multi-payment/src/lib.rs`. An account may choose the currency that its
transaction fees are paid with, among those that the authorities accept. A fee in another
currency than the native one is bought from the pool of the two first (`swap_currency`).

The pallet's storage stands next to the one of the other pallets, which it changes by
trading and by withdrawing only. A call that fails changes nothing: `set_currency` is
transactional, and the other calls check before they write. -/

namespace HydraDX.Payment

/-! ## Storage and configuration -/

inductive Error where
  | UnsupportedCurrency
  | ZeroBalance
  | NotAllowed
  | AlreadyAccepted
  | CoreAssetNotAllowed
  | AlreadyMember
  | NotAMember
  deriving DecidableEq, Repr

/-- Why a call does not go through: an error of the pallet or of a callee, a wrong origin, a
transaction that cannot pay, or a panic. -/
inductive Failure where
  | payment (error : Error)
  | dispatch (error : DispatchError)
  | currency (error : CurrencyError)
  | badOrigin
  | invalidPayment
  | panic (panic : Panic)
  deriving DecidableEq, Repr

inductive Event (AccountId : Type) where
  | CurrencySet (who : AccountId) (currency : AssetId)
  | CurrencyAdded (who : AccountId) (currency : AssetId)
  | CurrencyRemoved (who : AccountId) (currency : AssetId)
  | MemberAdded (who : AccountId)
  | MemberRemoved (who : AccountId)
  deriving DecidableEq, Repr

/-- The storage of the pallet, over the one of the other pallets. `OrderedSet` is a set. -/
structure Storage (AccountId Hash : Type) where
  chain : State AccountId Hash
  accountCurrencyMap : AccountId → Option AssetId
  acceptedCurrencies : Finset AssetId
  authorities : List AccountId
  events : List (Event AccountId)

inductive Pays where
  | Yes
  | No
  deriving DecidableEq, Repr

inductive Origin (AccountId : Type) where
  | Root
  | Signed (who : AccountId)
  | None
  deriving DecidableEq, Repr

/-- `ensure_signed` of `frame_system`, for any kind of failure that has one for a bad origin. -/
def Origin.signedOr {AccountId ε : Type} (badOrigin : ε) : Origin AccountId → Except ε AccountId
  | .Signed who => .ok who
  | .Root => .error badOrigin
  | .None => .error badOrigin

theorem Origin.signedOr_signed {AccountId ε : Type} (badOrigin : ε) (who : AccountId) :
    (Origin.Signed who).signedOr badOrigin = .ok who := rfl

/-- What the pallet is instantiated with: the base weight of a normal extrinsic and the weight of
a block (`BlockWeights`), the weight of `set_currency` (`WeightInfo`), the fee of a weight
(`WeightToFee::calc`) and whether setting a currency is paid for. -/
structure Params (AccountId Hash : Type) [DecidableEq AccountId] where
  chain : Config AccountId Hash
  baseExtrinsic : Nat
  maxBlock : Nat
  setCurrencyWeight : Nat
  calcFee : Nat → Nat
  withdrawFeeForSetCurrency : Pays

namespace Storage

variable {AccountId Hash : Type}

def ledger (s : Storage AccountId Hash) : Ledger AssetId AccountId := s.chain.ledger

def setLedger (s : Storage AccountId Hash) (l : Ledger AssetId AccountId) :
    Storage AccountId Hash :=
  { s with chain := s.chain.setLedger l }

def depositEvent (s : Storage AccountId Hash) (event : Event AccountId) :
    Storage AccountId Hash :=
  { s with events := s.events ++ [event] }

@[simp] theorem setLedger_ledger (s : Storage AccountId Hash) (l : Ledger AssetId AccountId) :
    (s.setLedger l).ledger = l := rfl

/-- The currency in which the account pays its fees. -/
def feeCurrency (s : Storage AccountId Hash) (who : AccountId) : AssetId :=
  match s.accountCurrencyMap who with
  | some c => c
  | none => CORE_ASSET_ID

end Storage

variable {AccountId Hash : Type} [DecidableEq AccountId] (cfg : Params AccountId Hash)

/-! ## Buying the fee -/

/-- `2u128 * fee`. With overflow checks an overflow panics, without them it wraps. -/
def doubleFee (overflowChecks : Bool) (fee : Nat) : Except Failure Nat :=
  if 2 * fee < balanceBound then .ok (2 * fee)
  else if overflowChecks then .error (.panic .arithmetic)
  else .ok (2 * fee % balanceBound)

/-- `T::AMMPool::buy`, its error passed on. -/
def ammBuy (who : AccountId) (assets : AssetPair) (amount maxLimit : Nat) (discount : Bool)
    (s : Storage AccountId Hash) : Except Failure (Storage AccountId Hash) :=
  match XYK.buy cfg.chain who assets.assetOut assets.assetIn amount maxLimit discount s.chain with
  | .ok chain => .ok { s with chain }
  | .error error => .error (.dispatch error)

/-- Buy the fee with the currency that the account has chosen. -/
def swapCurrency (who : AccountId) (fee : Nat) (s : Storage AccountId Hash) :
    Except Failure (Storage AccountId Hash) :=
  if s.feeCurrency who ≠ CORE_ASSET_ID then do
    let maxLimit ← doubleFee cfg.chain.overflowChecks fee
    ammBuy cfg who { assetIn := s.feeCurrency who, assetOut := CORE_ASSET_ID } fee maxLimit false s
  else .ok s

/-- What an account has paid in `c` for the fee, and the state after the trade. -/
structure Swapped (cfg : Params AccountId Hash) (s s' : Storage AccountId Hash) (who : AccountId)
    (c : AssetId) (fee price : Nat) : Prop where
  price_pos : 0 < price
  price_le : price ≤ 2 * fee
  covered : price ≤ s.ledger.free c who
  pool_covers : fee < s.ledger.free CORE_ASSET_ID (XYK.getPairId cfg.chain ⟨c, CORE_ASSET_ID⟩)
  state_eq : s' = { s with
    chain := (s.chain.setLedger
      ((s.ledger.move CORE_ASSET_ID (XYK.getPairId cfg.chain ⟨c, CORE_ASSET_ID⟩) who fee).move
        c who (XYK.getPairId cfg.chain ⟨c, CORE_ASSET_ID⟩) price)).depositEvent
          (.BuyExecuted who CORE_ASSET_ID c fee price) }

theorem doubleFee_ok {checks : Bool} {fee limit : Nat} (h : doubleFee checks fee = .ok limit) :
    limit ≤ 2 * fee := by
  unfold doubleFee at h
  split_ifs at h
  · cases h
    exact Nat.le_refl _
  · cases h
    exact Nat.mod_le _ _

theorem ammBuy_ok {assets : AssetPair} {who : AccountId} {amount limit : Nat} {discount : Bool}
    {s s' : Storage AccountId Hash} (h : ammBuy cfg who assets amount limit discount s = .ok s') :
    ∃ chain, XYK.buy cfg.chain who assets.assetOut assets.assetIn amount limit discount s.chain
      = .ok chain ∧ s' = { s with chain } := by
  unfold ammBuy at h
  cases hbuy : XYK.buy cfg.chain who assets.assetOut assets.assetIn amount limit discount
      s.chain with
  | error error =>
      rw [hbuy] at h
      cases h
  | ok chain =>
      rw [hbuy] at h
      cases h
      exact ⟨chain, rfl, rfl⟩

/-- A fee that is swapped: nothing happens for the native currency, and otherwise the pool sells
the fee for at most twice as much of the chosen one. -/
theorem swapCurrency_ok {who : AccountId} {fee : Nat} {s s' : Storage AccountId Hash}
    (h : swapCurrency cfg who fee s = .ok s') :
    (s.feeCurrency who = CORE_ASSET_ID ∧ s' = s) ∨
    (s.feeCurrency who ≠ CORE_ASSET_ID ∧
      ∃ price, Swapped cfg s s' who (s.feeCurrency who) fee price) := by
  unfold swapCurrency at h
  by_cases hcore : s.feeCurrency who = CORE_ASSET_ID
  · rw [if_neg (not_not.mpr hcore)] at h
    cases h
    exact Or.inl ⟨hcore, rfl⟩
  · rw [if_pos hcore] at h
    obtain ⟨limit, hlimit, h⟩ := Fallible.bind_eq_ok.mp h
    obtain ⟨chain, hbuy, rfl⟩ := ammBuy_ok cfg h
    obtain ⟨price, extra, t, hvalid, rfl⟩ := XYK.buy_ok hbuy
    have ht := hvalid.transfer_eq
    have hpos : 0 < t.amountOut := by
      rw [hvalid.amountOut_eq, hvalid.price_eq]
      exact Nat.lt_of_lt_of_le (Nat.succ_pos _) (Nat.le_add_right _ _)
    -- there is no discount, so nothing is destroyed
    have hburn : XYK.burnDiscount cfg.chain t s.chain.ledger = s.chain.ledger := by
      rw [ht]
      rfl
    refine Or.inr ⟨hcore, t.amountOut, hpos, hvalid.limit_le.trans (doubleFee_ok hlimit),
      hvalid.balance, hvalid.amount_lt, ?_⟩
    rw [XYK.boughtLedger, hburn, ht]
    rfl

/-! ## Calls -/

def weightToFee (weight : Nat) : Nat := cfg.calcFee (min weight cfg.maxBlock)

/-- The fee for setting a currency, a `saturating_add`. -/
def setCurrencyFee : Nat :=
  min (weightToFee cfg cfg.baseExtrinsic + weightToFee cfg cfg.setCurrencyWeight)
    (balanceBound - 1)

/-- Pay for setting a currency. The withdrawal is of the currency that is set. -/
def withdrawSetFee (who : AccountId) (currency : AssetId) (s : Storage AccountId Hash) :
    Except Failure (Storage AccountId Hash) := do
  let s ← swapCurrency cfg who (setCurrencyFee cfg) s
  match cfg.chain.currency.withdraw currency who (setCurrencyFee cfg) s.ledger with
  | .ok l => return s.setLedger l
  | .error error => .error (.currency error)

def ensureSigned : Origin AccountId → Except Failure AccountId
  | .Signed who => .ok who
  | .Root => .error .badOrigin
  | .None => .error .badOrigin

def ensureRoot : Origin AccountId → Except Failure Unit
  | .Root => .ok ()
  | .Signed _ => .error .badOrigin
  | .None => .error .badOrigin

def setCurrency (origin : Origin AccountId) (currency : AssetId) (s : Storage AccountId Hash) :
    Except Failure (Storage AccountId Hash) := do
  let who ← ensureSigned origin
  if currency = CORE_ASSET_ID ∨ currency ∈ s.acceptedCurrencies then
    ensure (s.ledger.free currency who ≠ 0) (.payment .ZeroBalance)
    let s : Storage AccountId Hash :=
      { s with accountCurrencyMap := Function.update s.accountCurrencyMap who (some currency) }
    let s ← if cfg.withdrawFeeForSetCurrency = .Yes then withdrawSetFee cfg who currency s
      else .ok s
    return s.depositEvent (.CurrencySet who currency)
  else .error (.payment .UnsupportedCurrency)

def addCurrency (origin : Origin AccountId) (currency : AssetId) (s : Storage AccountId Hash) :
    Except Failure (Storage AccountId Hash) := do
  let who ← ensureSigned origin
  ensure (currency ≠ CORE_ASSET_ID) (.payment .CoreAssetNotAllowed)
  ensure (who ∈ s.authorities) (.payment .NotAllowed)
  ensure (currency ∉ s.acceptedCurrencies) (.payment .AlreadyAccepted)
  let s : Storage AccountId Hash :=
    { s with acceptedCurrencies := insert currency s.acceptedCurrencies }
  return s.depositEvent (.CurrencyAdded who currency)

def removeCurrency (origin : Origin AccountId) (currency : AssetId)
    (s : Storage AccountId Hash) : Except Failure (Storage AccountId Hash) := do
  let who ← ensureSigned origin
  ensure (currency ≠ CORE_ASSET_ID) (.payment .CoreAssetNotAllowed)
  ensure (who ∈ s.authorities) (.payment .NotAllowed)
  ensure (currency ∈ s.acceptedCurrencies) (.payment .UnsupportedCurrency)
  let s : Storage AccountId Hash :=
    { s with acceptedCurrencies := s.acceptedCurrencies.erase currency }
  return s.depositEvent (.CurrencyRemoved who currency)

def addNewMember (who : AccountId) (s : Storage AccountId Hash) : Storage AccountId Hash :=
  { s with authorities := s.authorities ++ [who] }

def addMember (origin : Origin AccountId) (member : AccountId) (s : Storage AccountId Hash) :
    Except Failure (Storage AccountId Hash) := do
  ensureRoot origin
  ensure (member ∉ s.authorities) (.payment .AlreadyMember)
  return (addNewMember member s).depositEvent (.MemberAdded member)

def removeMember (origin : Origin AccountId) (member : AccountId) (s : Storage AccountId Hash) :
    Except Failure (Storage AccountId Hash) := do
  ensureRoot origin
  ensure (member ∈ s.authorities) (.payment .NotAMember)
  let s : Storage AccountId Hash :=
    { s with authorities := s.authorities.filter (· ≠ member) }
  return s.depositEvent (.MemberRemoved member)

end HydraDX.Payment
