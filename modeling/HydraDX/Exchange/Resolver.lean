import HydraDX.Exchange.Direct
import HydraDX.XYK.Trade
import Mathlib.Data.List.Sort

set_option autoImplicit false

/-! # The exchange pallet: registering and resolving intentions

`pallets/exchange/src/lib.rs`. During a block, `sell` and `buy` register intentions at the
spot price of the moment. At the end of the block `onFinalize` takes the intentions of each
pair of assets in two groups, matches every valid intention of the first group with
intentions of the second one, and resolves them: direct trades where amounts meet, the AMM
for the rest.

Resolving keeps a copy of the main intention whose amounts are lowered as it is filled. The
functions return `Except Panic`: a panic stops the block. -/

namespace HydraDX.Exchange

variable {AccountId Hash : Type} [DecidableEq AccountId] (cfg : Config AccountId Hash)

/-! ## AMM trades of an intention -/

/-- Send the event that an intention failed. -/
def sendIntentionErrorEvent (intention : Intention AccountId Hash) (error : DispatchError)
    (s : State AccountId Hash) : State AccountId Hash :=
  s.depositEvent (.IntentionResolveErrorEvent intention.who intention.assets intention.sellOrBuy
    intention.intentionId error)

/-- The AMM validation of an intention: its `amountIn` if it sells, its `amountOut` if it
buys. -/
def validateIntention (intention : Intention AccountId Hash) (s : State AccountId Hash) :
    Except DispatchError (AMMTransfer AccountId) :=
  match intention.sellOrBuy with
  | .SELL => XYK.validateSell cfg s intention.who intention.assets intention.amountIn
      intention.tradeLimit intention.discount
  | .BUY => XYK.validateBuy cfg s intention.who intention.assets intention.amountOut
      intention.tradeLimit intention.discount

/-- Whether the AMM would accept the intention; if not, the error is reported. -/
def verifyIntention (intention : Intention AccountId Hash) (s : State AccountId Hash) :
    Bool × State AccountId Hash :=
  match validateIntention cfg intention s with
  | .error error => (false, sendIntentionErrorEvent intention error s)
  | .ok _ => (true, s)

/-- Perform an AMM trade and report it. -/
def executeAmmTransfer (ammTransferType : IntentionType) (intentionId : Hash)
    (transfer : AMMTransfer AccountId) (s : State AccountId Hash) :
    Except DispatchError (State AccountId Hash) := do
  let s ← match ammTransferType with
    | .SELL => XYK.executeSell cfg transfer s
    | .BUY => XYK.executeBuy cfg transfer s
  return s.depositEvent (.IntentionResolvedAMMTrade transfer.origin ammTransferType intentionId
    transfer.amount transfer.amountOut)

/-- Resolve an intention by the AMM alone. -/
def resolveSingleIntention (intention : Intention AccountId Hash) (s : State AccountId Hash) :
    State AccountId Hash :=
  match validateIntention cfg intention s with
  | .ok transfer =>
      match executeAmmTransfer cfg intention.sellOrBuy intention.intentionId transfer s with
      | .ok s' => s'
      | .error error => sendIntentionErrorEvent intention error s
  | .error error => sendIntentionErrorEvent intention error s

/-! ## Resolving matched intentions -/

/-- The comparison of an amount with a trade limit: below it for a sell, above it for a
buy. -/
def exceedsLimit (intentionType : IntentionType) (amount limit : Nat) : Bool :=
  match intentionType with
  | .SELL => amount < limit
  | .BUY => amount > limit

/-- What is left of the main intention once a matched one is completely filled from it. The
subtractions are the source's: unchecked, except for the limit of a sell. -/
def restOfMain (copy matched : Intention AccountId Hash) :
    Except Panic (Intention AccountId Hash) := do
  let amountIn ← subBalance cfg.overflowChecks copy.amountIn matched.amountOut
  let amountOut ← subBalance cfg.overflowChecks copy.amountOut matched.amountIn
  let tradeLimit ← match copy.sellOrBuy with
    | .SELL => pure (copy.tradeLimit - matched.amountIn)
    | .BUY => subBalance cfg.overflowChecks copy.tradeLimit matched.amountIn
  return { copy with amountIn, amountOut, tradeLimit }

/-- Scenario 1: the matched intention can be completely direct traded. -/
def resolveScenario1 (pairAccount : AccountId) (copy matched : Intention AccountId Hash)
    (s : State AccountId Hash) : Except Panic (State AccountId Hash × Intention AccountId Hash) :=
  let dt : DirectTradeData AccountId Hash :=
    { intentionA := copy
      intentionB := matched
      amountFromA := matched.amountOut
      amountFromB := matched.amountIn
      transfers := [] }
  -- what the matched account gets, also if it is a buy
  if exceedsLimit matched.sellOrBuy dt.amountFromA matched.tradeLimit then
    .ok (sendIntentionErrorEvent matched (.exchange .AssetBalanceLimitExceeded) s, copy)
  else
    match dt.prepare cfg pairAccount s with
    | (true, dt, s) => do
        let s ← dt.execute cfg s
        let copy ← restOfMain cfg copy matched
        return (s, copy)
    | (false, dt, s) => .ok (dt.revert cfg s, copy)

/-- The AMM validation of what is left of a matched intention. -/
def validateRest (matched : Intention AccountId Hash) (restIn restOut restLimit : Nat)
    (s : State AccountId Hash) : Except DispatchError (AMMTransfer AccountId) :=
  match matched.sellOrBuy with
  | .SELL => XYK.validateSell cfg s matched.who matched.assets restIn restLimit matched.discount
  | .BUY => XYK.validateBuy cfg s matched.who matched.assets restOut restLimit matched.discount

/-- Scenario 2, once the AMM trade of the rest is validated: check the limit, prepare the
direct trade, then execute the AMM trade and the direct trade. -/
def executeScenario2 (pairAccount : AccountId) (dt : DirectTradeData AccountId Hash)
    (ammTransfer : AMMTransfer AccountId) (s : State AccountId Hash) :
    Except Panic (State AccountId Hash × Intention AccountId Hash) := do
  let copy := dt.intentionA
  let matched := dt.intentionB
  let limitLeft ← subBalance cfg.overflowChecks matched.tradeLimit ammTransfer.amountOut
  -- what the matched account pays; the limit of the main intention is not looked at
  if exceedsLimit matched.sellOrBuy dt.amountFromB limitLeft then
    .ok (sendIntentionErrorEvent matched (.exchange .AssetBalanceLimitExceeded) s, copy)
  else
    match dt.prepare cfg pairAccount s with
    | (true, dt, s) =>
        match executeAmmTransfer cfg matched.sellOrBuy matched.intentionId ammTransfer s with
        | .ok s => do
            let s ← dt.execute cfg s
            -- the remaining `amountOut` is not set to zero with it
            return (s, { copy with amountIn := 0 })
        | .error error => .ok (dt.revert cfg (sendIntentionErrorEvent matched error s), copy)
    | (false, dt, s) => .ok (dt.revert cfg s, copy)

/-- Scenario 2: the matched intention can only partly be direct traded, the rest goes to the
AMM. -/
def resolveScenario2 (pairAccount : AccountId) (copy matched : Intention AccountId Hash)
    (s : State AccountId Hash) : Except Panic (State AccountId Hash × Intention AccountId Hash) :=
  match checkedSub matched.amountIn copy.amountOut, checkedSub matched.amountOut copy.amountIn with
  | some restIn, some restOut => do
      let amountFromB ← subBalance cfg.overflowChecks matched.amountIn restIn
      let dt : DirectTradeData AccountId Hash :=
        { intentionA := copy
          intentionB := matched
          amountFromA := copy.amountIn
          amountFromB
          transfers := [] }
      -- `saturating_sub`
      let restLimit := matched.tradeLimit - copy.amountIn
      match validateRest cfg matched restIn restOut restLimit s with
      | .error error => .ok (sendIntentionErrorEvent matched error s, copy)
      | .ok ammTransfer => executeScenario2 cfg pairAccount dt ammTransfer s
  | _, _ => .ok (sendIntentionErrorEvent matched (.exchange .AssetBalanceLimitExceeded) s, copy)

/-- Scenario 3: exact match. The limit of the main intention is that of the intention as
registered, not of the copy. -/
def resolveScenario3 (pairAccount : AccountId) (intention copy matched : Intention AccountId Hash)
    (s : State AccountId Hash) : Except Panic (State AccountId Hash × Intention AccountId Hash) :=
  let dt : DirectTradeData AccountId Hash :=
    { intentionA := copy
      intentionB := matched
      amountFromA := copy.amountIn
      amountFromB := matched.amountIn
      transfers := [] }
  if exceedsLimit intention.sellOrBuy dt.amountFromB intention.tradeLimit then
    .ok (sendIntentionErrorEvent intention (.exchange .AssetBalanceLimitExceeded) s, copy)
  else if exceedsLimit matched.sellOrBuy dt.amountFromA matched.tradeLimit then
    .ok (sendIntentionErrorEvent matched (.exchange .AssetBalanceLimitExceeded) s, copy)
  else
    match dt.prepare cfg pairAccount s with
    | (true, dt, s) => do
        let s ← dt.execute cfg s
        return (s, { copy with amountIn := 0 })
    | (false, dt, s) => .ok (dt.revert cfg s, copy)

/-- One iteration of `resolveMatchedIntentions`: the state and the copy of the main
intention before and after one matched intention. -/
def resolveMatched (pairAccount : AccountId) (intention : Intention AccountId Hash)
    (sc : State AccountId Hash × Intention AccountId Hash) (matched : Intention AccountId Hash) :
    Except Panic (State AccountId Hash × Intention AccountId Hash) :=
  if sc.2.amountIn > matched.amountOut then
    resolveScenario1 cfg pairAccount sc.2 matched sc.1
  else if sc.2.amountIn < matched.amountOut then
    resolveScenario2 cfg pairAccount sc.2 matched sc.1
  else
    resolveScenario3 cfg pairAccount intention sc.2 matched sc.1

/-- Resolve a main intention and the intentions matched with it. What is left of the main
intention goes to the AMM. -/
def resolveMatchedIntentions (pairAccount : AccountId) (intention : Intention AccountId Hash)
    (matched : List (Intention AccountId Hash)) (s : State AccountId Hash) :
    Except Panic (State AccountId Hash) := do
  let (s, copy) ← matched.foldlM (resolveMatched cfg pairAccount intention) (s, intention)
  return (if copy.amountIn > 0 then resolveSingleIntention cfg copy s else s)

/-! ## Matching -/

/-- Sort by `amountIn`, the largest first; a stable sort. -/
def sortByAmountIn (intentions : List (Intention AccountId Hash)) :
    List (Intention AccountId Hash) :=
  intentions.insertionSort (fun a b => b.amountIn ≤ a.amountIn)

/-- Pop intentions off the stack until their amounts add up to `amountIn`; the popped ones
and the rest. -/
def popMatched (overflowChecks : Bool) (amountIn : Nat) :
    Nat → List (Intention AccountId Hash) →
      Except Panic (List (Intention AccountId Hash) × List (Intention AccountId Hash))
  | _, [] => .ok ([], [])
  | total, matched :: rest => do
      -- the amounts add up in the asset that the matched intentions give
      let total ← addBalance overflowChecks total matched.amountIn
      if total ≥ amountIn then
        .ok ([matched], rest)
      else do
        let (bvec, rest) ← popMatched overflowChecks amountIn total rest
        return (matched :: bvec, rest)

/-- One main intention: if it is valid, match it from the stack and resolve it. -/
def processMain (pairAccount : AccountId)
    (ss : State AccountId Hash × List (Intention AccountId Hash))
    (intention : Intention AccountId Hash) :
    Except Panic (State AccountId Hash × List (Intention AccountId Hash)) :=
  match verifyIntention cfg intention ss.1 with
  -- an intention that the AMM would refuse takes no part in the matching
  | (false, s) => .ok (s, ss.2)
  | (true, s) => do
      let (bvec, rest) ← popMatched cfg.overflowChecks intention.amountIn 0 ss.2
      let s ← resolveMatchedIntentions cfg pairAccount intention bvec s
      return (s, rest)

/-- Match and resolve the two groups of a pair. The second group is a stack: the source pops
from the end of the reversed sorted vector, which is the front of the sorted one. -/
def processExchangeIntentions (pairAccount : AccountId)
    (aInIntentions bInIntentions : List (Intention AccountId Hash)) (s : State AccountId Hash) :
    Except Panic (State AccountId Hash) := do
  let (s, rest) ← (sortByAmountIn aInIntentions).foldlM (processMain cfg pairAccount)
    (s, sortByAmountIn bInIntentions)
  return rest.foldl (fun s intention => resolveSingleIntention cfg intention s) s

/-- The intentions of one pair of assets. -/
def finalizePair (s : State AccountId Hash) (key : AssetId × AssetId) :
    Except Panic (State AccountId Hash) :=
  if (s.intentionCount.lookup key).getD 0 = 0 then .ok s
  else
    -- the main intentions are those that give the asset with the larger id
    processExchangeIntentions cfg (XYK.getPairId cfg { assetIn := key.1, assetOut := key.2 })
      (s.intentions (key.2, key.1)) (s.intentions (key.1, key.2)) s

/-- Resolve all registered intentions and clear the storage. -/
def onFinalize (s : State AccountId Hash) : Except Panic (State AccountId Hash) := do
  let s ← (cfg.iterOrder s.intentionCount.keys).foldlM (finalizePair cfg) s
  return { s with intentionCount := ∅, intentions := fun _ => [] }

/-! ## Registering -/

def generateIntentionId (account : AccountId) (c : UInt32) (assets : AssetPair)
    (s : State AccountId Hash) : Hash :=
  cfg.hashIntention (c, account, s.blockNumber, assets.orderedPair.1, assets.orderedPair.2)

/-- Why a call of the exchange pallet does not go through: an error, or a panic. -/
inductive Failure where
  | dispatch (error : DispatchError)
  | panic (panic : Panic)
  deriving DecidableEq, Repr

/-- `total += 1` on `u32`. -/
def incCount (overflowChecks : Bool) (total : UInt32) : Except Failure UInt32 :=
  if total.toNat + 1 < 2 ^ 32 ∨ overflowChecks = false then .ok (total + 1)
  else .error (.panic .arithmetic)

/-- Store an intention under its own pair and count it under the ordered pair. -/
def registerIntention (who : AccountId) (intentionType : IntentionType) (assets : AssetPair)
    (amountIn amountOut limit : Nat) (discount : Bool) (s : State AccountId Hash) :
    Except Failure (State AccountId Hash) := do
  let intentionCount := (s.intentionCount.lookup assets.orderedPair).getD 0
  let intentionId := generateIntentionId cfg who intentionCount assets s
  let intention : Intention AccountId Hash :=
    { who, assets, amountIn, amountOut, discount, sellOrBuy := intentionType, intentionId,
      tradeLimit := limit }
  let total ← incCount cfg.overflowChecks intentionCount
  let s : State AccountId Hash := { s with
      intentions := Function.update s.intentions (assets.assetIn, assets.assetOut)
        (s.intentions (assets.assetIn, assets.assetOut) ++ [intention])
      intentionCount := s.intentionCount.insert assets.orderedPair total }
  return s.depositEvent (match intentionType with
    | .SELL => .IntentionRegistered who assets.assetIn assets.assetOut amountIn intentionType
        intentionId
    | .BUY => .IntentionRegistered who assets.assetOut assets.assetIn amountOut intentionType
        intentionId)

/-- Register a sell: the amount to buy is the spot price of the moment. -/
def sell (who : AccountId) (assetSell assetBuy : AssetId) (amountSell minBought : Nat)
    (discount : Bool) (s : State AccountId Hash) : Except Failure (State AccountId Hash) := do
  ensure (amountSell ≥ MIN_TRADING_LIMIT) (.dispatch (.exchange .MinimumTradeLimitNotReached))
  let assets : AssetPair := { assetIn := assetSell, assetOut := assetBuy }
  ensure (XYK.poolExists cfg s assets = true) (.dispatch (.exchange .TokenPoolNotFound))
  ensure (s.ledger.free assetSell who ≥ amountSell)
    (.dispatch (.exchange .InsufficientAssetBalance))
  let amountBuy := XYK.getSpotPriceUnchecked cfg s assetSell assetBuy amountSell
  ensure (amountBuy ≠ 0) (.dispatch (.exchange .ZeroSpotPrice))
  registerIntention cfg who .SELL assets amountSell amountBuy minBought discount s

/-- Register a buy: the amount to sell is the spot price of the moment. -/
def buy (who : AccountId) (assetBuy assetSell : AssetId) (amountBuy maxSold : Nat)
    (discount : Bool) (s : State AccountId Hash) : Except Failure (State AccountId Hash) := do
  ensure (amountBuy ≥ MIN_TRADING_LIMIT) (.dispatch (.exchange .MinimumTradeLimitNotReached))
  let assets : AssetPair := { assetIn := assetSell, assetOut := assetBuy }
  ensure (XYK.poolExists cfg s assets = true) (.dispatch (.exchange .TokenPoolNotFound))
  let amountSell := XYK.getSpotPriceUnchecked cfg s assetBuy assetSell amountBuy
  ensure (amountSell ≠ 0) (.dispatch (.exchange .ZeroSpotPrice))
  ensure (s.ledger.free assetSell who ≥ amountSell)
    (.dispatch (.exchange .InsufficientAssetBalance))
  registerIntention cfg who .BUY assets amountSell amountBuy maxSold discount s

end HydraDX.Exchange
