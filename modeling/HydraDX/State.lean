import HydraDX.Environment
import Mathlib.Data.List.AList

set_option autoImplicit false

/-! # The state of the chain

The storage of the asset registry, of the XYK pallet and of the exchange pallet, together
with the ledger and the events of the block; the errors the pallets report; and the
configuration they are instantiated with.

A storage map with a default value (`ValueQuery`) whose keys are tested with
`contains_key` is a function into `Option`. The count of intentions is iterated over, so
it is an association list; the order of that iteration, which the chain derives from
hashes of the keys, is part of the configuration. -/

namespace HydraDX

/-! ## Errors -/

inductive XYKError where
  | CannotCreatePoolWithSameAssets
  | CannotCreatePoolWithZeroLiquidity
  | CannotCreatePoolWithZeroInitialPrice
  | CreatePoolAssetAmountInvalid
  | CannotRemoveLiquidityWithZero
  | CannotAddZeroLiquidity
  | InvalidMintedLiquidity
  | InvalidLiquidityAmount
  | AssetBalanceLimitExceeded
  | InsufficientAssetBalance
  | InsufficientPoolAssetBalance
  | InsufficientNativeCurrencyBalance
  | TokenPoolNotFound
  | TokenPoolAlreadyExists
  | AddAssetAmountInvalid
  | RemoveAssetAmountInvalid
  | SellAssetAmountInvalid
  | BuyAssetAmountInvalid
  | FeeAmountInvalid
  | CannotApplyDiscount
  | MaxOutRatioExceeded
  | MaxInRatioExceeded
  deriving DecidableEq, Repr

inductive ExchangeError where
  | TokenPoolNotFound
  | InsufficientAssetBalance
  | AssetBalanceLimitExceeded
  | ZeroSpotPrice
  | MinimumTradeLimitNotReached
  deriving DecidableEq, Repr

inductive RegistryError where
  | NoIdAvailable
  deriving DecidableEq, Repr

inductive DispatchError where
  | xyk (error : XYKError)
  | exchange (error : ExchangeError)
  | registry (error : RegistryError)
  | currency (error : CurrencyError)
  deriving DecidableEq, Repr

/-! ## Events -/

inductive Event (AccountId Hash : Type) where
  | LiquidityAdded (who : AccountId) (assetA assetB : AssetId) (amountA amountB : Nat)
  | LiquidityRemoved (who : AccountId) (assetA assetB : AssetId) (shares : Nat)
  | PoolCreated (who : AccountId) (assetA assetB : AssetId) (shares : Nat)
  | PoolDestroyed (who : AccountId) (assetA assetB : AssetId)
  | SellExecuted (who : AccountId) (assetIn assetOut : AssetId) (amount salePrice : Nat)
  | BuyExecuted (who : AccountId) (assetOut assetIn : AssetId) (amount buyPrice : Nat)
  | IntentionRegistered (who : AccountId) (assetA assetB : AssetId) (amount : Nat)
      (intentionType : IntentionType) (intentionId : Hash)
  | IntentionResolvedAMMTrade (who : AccountId) (intentionType : IntentionType)
      (intentionId : Hash) (amount amountOut : Nat)
  | IntentionResolvedDirectTrade (whoA whoB : AccountId) (intentionIdA intentionIdB : Hash)
      (amountFromA amountFromB : Nat)
  | IntentionResolvedDirectTradeFees (who : AccountId) (intentionId : Hash) (paidTo : AccountId)
      (asset : AssetId) (amount : Nat)
  | InsufficientAssetBalanceEvent (who : AccountId) (asset : AssetId)
      (intentionType : IntentionType) (intentionId : Hash) (error : DispatchError)
  | IntentionResolveErrorEvent (who : AccountId) (assets : AssetPair)
      (intentionType : IntentionType) (intentionId : Hash) (error : DispatchError)
  deriving DecidableEq, Repr

/-! ## Storage -/

/-- The storage of the asset registry. -/
structure AssetRegistry where
  coreAssetId : AssetId
  nextAssetId : AssetId
  assetIds : List UInt8 → Option AssetId

abbrev Intention (AccountId Hash : Type) := ExchangeIntention AccountId Hash

structure State (AccountId Hash : Type) where
  ledger : Ledger AssetId AccountId
  registry : AssetRegistry
  shareToken : AccountId → Option AssetId
  totalLiquidity : AccountId → Nat
  poolAssets : AccountId → Option (AssetId × AssetId)
  intentionCount : AList (fun _ : AssetId × AssetId => UInt32)
  intentions : AssetId × AssetId → List (Intention AccountId Hash)
  blockNumber : BlockNumber
  events : List (Event AccountId Hash)

/-- What the pallets are instantiated with. `hashAccount` is `unchecked_from` of the hash of
a byte string, `hashIntention` the hash of an encoded tuple. -/
structure Config (AccountId Hash : Type) [DecidableEq AccountId] where
  currency : Currency AccountId
  math : HydraDxMath
  hashAccount : List UInt8 → AccountId
  hashIntention : UInt32 × AccountId × BlockNumber × AssetId × AssetId → Hash
  nativeAssetId : AssetId
  getExchangeFee : Fee
  overflowChecks : Bool
  iterOrder : List (AssetId × AssetId) → List (AssetId × AssetId)
  iterOrder_perm : ∀ keys, (iterOrder keys).Perm keys

namespace State

variable {AccountId Hash : Type}

def depositEvent (s : State AccountId Hash) (event : Event AccountId Hash) :
    State AccountId Hash :=
  { s with events := s.events ++ [event] }

/-- The state with the ledger replaced. -/
def setLedger (s : State AccountId Hash) (l : Ledger AssetId AccountId) : State AccountId Hash :=
  { s with ledger := l }

@[simp] theorem depositEvent_ledger (s : State AccountId Hash) (e : Event AccountId Hash) :
    (s.depositEvent e).ledger = s.ledger := rfl

@[simp] theorem depositEvent_events (s : State AccountId Hash) (e : Event AccountId Hash) :
    (s.depositEvent e).events = s.events ++ [e] := rfl

@[simp] theorem setLedger_ledger (s : State AccountId Hash) (l : Ledger AssetId AccountId) :
    (s.setLedger l).ledger = l := rfl

@[simp] theorem setLedger_events (s : State AccountId Hash) (l : Ledger AssetId AccountId) :
    (s.setLedger l).events = s.events := rfl

/-- The two states differ in the ledger and the events only. -/
def SameStorage (s s' : State AccountId Hash) : Prop :=
  s' = { s with ledger := s'.ledger, events := s'.events }

theorem SameStorage.refl (s : State AccountId Hash) : SameStorage s s := rfl

theorem SameStorage.trans {s₁ s₂ s₃ : State AccountId Hash} (h₁ : SameStorage s₁ s₂)
    (h₂ : SameStorage s₂ s₃) : SameStorage s₁ s₃ := by
  unfold SameStorage at *
  rw [h₂, h₁]

theorem SameStorage.intentions {s s' : State AccountId Hash} (h : SameStorage s s') :
    s'.intentions = s.intentions := by
  rw [h]

theorem sameStorage_setLedger (s : State AccountId Hash) (l : Ledger AssetId AccountId) :
    SameStorage s (s.setLedger l) := rfl

end State

/-! ## The asset registry -/

namespace AssetRegistry

/-- The id of the asset called `name`, a new one if there is none yet. -/
def getOrCreateAsset (r : AssetRegistry) (name : List UInt8) :
    Except DispatchError (AssetId × AssetRegistry) :=
  match r.assetIds name with
  | some assetId => .ok (assetId, r)
  | none =>
      if r.nextAssetId.toNat + 1 < 2 ^ 32 then
        .ok (r.nextAssetId,
          { r with
            nextAssetId := r.nextAssetId + 1
            assetIds := Function.update r.assetIds name (some r.nextAssetId) })
      else .error (.registry .NoIdAvailable)

/-- A call that succeeds found the asset, or issued the next id to a new name. -/
theorem getOrCreateAsset_cases {r r' : AssetRegistry} {name : List UInt8} {id : AssetId}
    (h : r.getOrCreateAsset name = .ok (id, r')) :
    (r.assetIds name = some id ∧ r' = r) ∨
    (r.assetIds name = none ∧ id = r.nextAssetId ∧ r.nextAssetId.toNat + 1 < 2 ^ 32 ∧
      r' = { r with
        nextAssetId := r.nextAssetId + 1
        assetIds := Function.update r.assetIds name (some r.nextAssetId) }) := by
  unfold getOrCreateAsset at h
  cases hn : r.assetIds name with
  | some id' =>
      rw [hn] at h
      cases h
      exact Or.inl ⟨rfl, rfl⟩
  | none =>
      rw [hn] at h
      simp only at h
      split_ifs at h with hb
      cases h
      exact Or.inr ⟨rfl, rfl, hb, rfl⟩

end AssetRegistry

end HydraDX
