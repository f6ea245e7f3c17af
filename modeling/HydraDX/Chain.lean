import HydraDX.XYK.Calls
import HydraDX.Exchange.Resolver
import HydraDX.Balances

set_option autoImplicit false

/-! # Blocks

A block is a sequence of calls of the two pallets and of transfers, after which `on_finalize` of
the exchange pallet resolves the intentions that were registered. A call either succeeds or
changes nothing; a panic ends the chain.

The second half of the file is a small development chain: accounts and hashes are the byte
strings and tuples themselves, the currency is the plain token ledger and `hydra_dx_math`
computes exactly. The runs on fixed inputs elsewhere take place on it. -/

namespace HydraDX

section Blocks

variable {AccountId Hash : Type} [DecidableEq AccountId] (cfg : Config AccountId Hash)

/-- A call that a block can contain. -/
inductive Extrinsic (AccountId : Type) where
  | xyk (call : XYK.Call AccountId)
  | sell (who : AccountId) (assetSell assetBuy : AssetId) (amountSell minBought : Nat)
      (discount : Bool)
  | buy (who : AccountId) (assetBuy assetSell : AssetId) (amountBuy maxSold : Nat)
      (discount : Bool)
  | transfer (asset : AssetId) (source dest : AccountId) (amount : Nat)

def Extrinsic.dispatch (s : State AccountId Hash) :
    Extrinsic AccountId → Except Exchange.Failure (State AccountId Hash)
  | xyk call =>
      match call.dispatch cfg s with
      | .ok s' => .ok s'
      | .error error => .error (.dispatch error)
  | sell who assetSell assetBuy amountSell minBought discount =>
      Exchange.sell cfg who assetSell assetBuy amountSell minBought discount s
  | buy who assetBuy assetSell amountBuy maxSold discount =>
      Exchange.buy cfg who assetBuy assetSell amountBuy maxSold discount s
  | transfer asset source dest amount =>
      match cfg.currency.transfer asset source dest amount s.ledger with
      | .ok l => .ok (s.setLedger l)
      | .error error => .error (.dispatch (.currency error))

theorem Extrinsic.xyk_ok {s s' : State AccountId Hash} {call : XYK.Call AccountId} :
    (Extrinsic.xyk call).dispatch cfg s = .ok s' ↔ call.dispatch cfg s = .ok s' := by
  show (match call.dispatch cfg s with
    | .ok s' => Except.ok s'
    | .error error => .error (Exchange.Failure.dispatch error)) = .ok s' ↔ _
  cases call.dispatch cfg s <;> simp

theorem Extrinsic.transfer_ok {s s' : State AccountId Hash} {asset : AssetId}
    {source dest : AccountId} {amount : Nat} :
    (Extrinsic.transfer asset source dest amount).dispatch cfg s = .ok s' ↔
      ∃ l, cfg.currency.transfer asset source dest amount s.ledger = .ok l ∧
        s' = s.setLedger l := by
  show (match cfg.currency.transfer asset source dest amount s.ledger with
    | .ok l => Except.ok (s.setLedger l)
    | .error error => .error (Exchange.Failure.dispatch (.currency error))) = .ok s' ↔ _
  cases cfg.currency.transfer asset source dest amount s.ledger <;> simp [eq_comm]

/-- What can happen on the chain: a call, the end of a block, the start of the next one. -/
inductive Action (AccountId : Type) where
  | extrinsic (extrinsic : Extrinsic AccountId)
  | finalize
  | nextBlock

def Action.dispatch (s : State AccountId Hash) :
    Action AccountId → Except Exchange.Failure (State AccountId Hash)
  | extrinsic e => e.dispatch cfg s
  | finalize =>
      match Exchange.onFinalize cfg s with
      | .ok s' => .ok s'
      | .error panic => .error (.panic panic)
  | nextBlock => .ok { s with blockNumber := s.blockNumber + 1, events := [] }

theorem Action.finalize_ok {s s' : State AccountId Hash} :
    Action.finalize.dispatch cfg s = .ok s' ↔ Exchange.onFinalize cfg s = .ok s' := by
  show (match Exchange.onFinalize cfg s with
    | .ok s' => Except.ok s'
    | .error panic => .error (Exchange.Failure.panic panic)) = .ok s' ↔ _
  cases Exchange.onFinalize cfg s <;> simp

/-- The calls of one block, each of which meets `P`. -/
abbrev BlockRuns (P : State AccountId Hash → Extrinsic AccountId → Prop) :
    State AccountId Hash → State AccountId Hash → Prop :=
  Fallible.Runs (Extrinsic.dispatch cfg) P

/-- Runs of the chain over any number of blocks. -/
abbrev ChainRuns : State AccountId Hash → State AccountId Hash → Prop :=
  Fallible.Runs (Action.dispatch cfg) (fun _ _ => True)

/-- The state at the start of a block: no intentions and no events. -/
structure BlockStart (s : State AccountId Hash) : Prop where
  intentionCount : s.intentionCount = ∅
  intentions : ∀ key, s.intentions key = []
  events : s.events = []

end Blocks

/-! ## A development chain -/

namespace Dev

abbrev AccountId := List UInt8

abbrev Hash := UInt32 × AccountId × BlockNumber × AssetId × AssetId

/-- The keys are visited as they are stored. -/
theorem perm_id (keys : List (AssetId × AssetId)) : (id keys).Perm keys := .rfl

/-- Asset `0` is the native asset. -/
def cfg : Config AccountId Hash where
  currency := Currency.tokens
  math := HydraDxMath.exact
  hashAccount := id
  hashIntention := id
  nativeAssetId := CORE_ASSET_ID
  getExchangeFee := Fee.default
  overflowChecks := true
  iterOrder := id
  iterOrder_perm := perm_id

/-- What a list of endowments gives: entries are asset, account and amount. -/
def endowed (endowments : List (AssetId × AccountId × Nat))
    (p : AssetId × AccountId × Nat → Bool) : Nat :=
  ((endowments.filter p).map (fun e => e.2.2)).sum

/-- The first state: balances from the endowments, an empty registry, no pools. -/
def genesis (endowments : List (AssetId × AccountId × Nat)) : State AccountId Hash where
  ledger :=
    { free := fun c w => endowed endowments (fun e => e.1 = c ∧ e.2.1 = w)
      reserved := fun _ _ => 0
      miscFrozen := fun _ _ => 0
      feeFrozen := fun _ _ => 0
      issuance := fun c => endowed endowments (fun e => e.1 = c) }
  registry := { coreAssetId := CORE_ASSET_ID, nextAssetId := 10, assetIds := fun _ => none }
  shareToken := fun _ => none
  totalLiquidity := fun _ => 0
  poolAssets := fun _ => none
  intentionCount := ∅
  intentions := fun _ => []
  blockNumber := 1
  events := []

/-- The state after a list of calls that all succeed. -/
def after (s : State AccountId Hash) (calls : List (Extrinsic AccountId)) :
    Except Exchange.Failure (State AccountId Hash) :=
  calls.foldlM (Extrinsic.dispatch cfg) s

/-- The chain with the native currency of the runtime. -/
def runtimeCfg : Config AccountId Hash :=
  { cfg with currency := Currency.runtime CORE_ASSET_ID }

theorem endowed_cons (e : AssetId × AccountId × Nat) (es : List (AssetId × AccountId × Nat))
    (p : AssetId × AccountId × Nat → Bool) :
    endowed (e :: es) p = (if p e then e.2.2 else 0) + endowed es p := by
  unfold endowed
  rw [List.filter_cons]
  split_ifs
  · rw [List.map_cons, List.sum_cons]
  · rw [Nat.zero_add]

/-- Every balance of the first state is issued. -/
theorem backed (endowments : List (AssetId × AccountId × Nat)) :
    (genesis endowments).ledger.Backed := by
  intro c U
  show ∑ w ∈ U, (endowed endowments (fun e => e.1 = c ∧ e.2.1 = w) + 0)
    ≤ endowed endowments (fun e => e.1 = c)
  induction endowments with
  | nil => simp [endowed]
  | cons e es ih =>
      simp only [endowed_cons, Nat.add_zero, Finset.sum_add_distrib, decide_eq_true_eq] at ih ⊢
      refine Nat.add_le_add ?_ ih
      by_cases hc : e.1 = c
      · simp only [hc, true_and, if_true, Finset.sum_ite_eq]
        split_ifs
        · exact Nat.le_refl _
        · exact Nat.zero_le _
      · simp [hc]

theorem seedsInjective : XYK.SeedsInjective cfg := fun _ _ _ _ h => h

/-- The one-byte accounts belong to users. -/
theorem notPoolAccount (n : UInt8) : XYK.NotPoolAccount cfg [n] := by
  intro assetA assetB h
  have hlength := congrArg List.length (show [n] = XYK.poolSeed assetA assetB from h)
  unfold XYK.poolSeed at hlength
  split_ifs at hlength
  all_goals simp [toLeBytes_length] at hlength

theorem noPools (endowments : List (AssetId × AccountId × Nat)) :
    XYK.NoPools (genesis endowments) :=
  ⟨fun _ => rfl, fun _ => rfl, fun _ => rfl⟩

theorem noSelfPool (endowments : List (AssetId × AccountId × Nat)) :
    XYK.NoSelfPool cfg (genesis endowments) :=
  (noPools endowments).noSelfPool

theorem blockStart (endowments : List (AssetId × AccountId × Nat)) :
    BlockStart (genesis endowments) :=
  ⟨rfl, fun _ => rfl, rfl⟩

end Dev

end HydraDX
