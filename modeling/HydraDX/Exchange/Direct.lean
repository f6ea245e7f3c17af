import HydraDX.State

set_option autoImplicit false

/-! # The exchange pallet: direct trades

`pallets/exchange/src/direct.rs`. A direct trade is *prepared* by reserving both amounts
and both fees, then either *executed*, which pays the reservations out, or *reverted*,
which releases them.

Preparing returns whether it succeeded together with the transfers pushed so far and the
state it has reached: a preparation that fails half way keeps the reservations it made.
Executing panics when a reservation cannot be paid out (`expect`). -/

namespace HydraDX.Exchange

variable {AccountId Hash : Type} [DecidableEq AccountId]

/-- One transfer of a direct trade. -/
structure Transfer (AccountId : Type) where
  source : AccountId
  dest : AccountId
  asset : AssetId
  amount : Nat
  feeTransfer : Bool
  deriving DecidableEq

structure DirectTradeData (AccountId Hash : Type) where
  intentionA : Intention AccountId Hash
  intentionB : Intention AccountId Hash
  amountFromA : Nat
  amountFromB : Nat
  transfers : List (Transfer AccountId)

/-- A fee to be paid in a direct trade: by whom, in which asset, and how much. -/
structure FeePayment (AccountId : Type) where
  asset : AssetId
  who : AccountId
  amount : Nat

namespace DirectTradeData

def push (dt : DirectTradeData AccountId Hash) (transfer : Transfer AccountId) :
    DirectTradeData AccountId Hash :=
  { dt with transfers := dt.transfers ++ [transfer] }

/-! ## Events -/

def sendInsufficientBalanceEvent (intention : Intention AccountId Hash) (asset : AssetId)
    (s : State AccountId Hash) : State AccountId Hash :=
  s.depositEvent (.InsufficientAssetBalanceEvent intention.who asset intention.sellOrBuy
    intention.intentionId (.exchange .InsufficientAssetBalance))

def sendTradeFeeEvent (source : AccountId) (intention : Intention AccountId Hash)
    (dest : AccountId) (asset : AssetId) (amount : Nat) (s : State AccountId Hash) :
    State AccountId Hash :=
  s.depositEvent
    (.IntentionResolvedDirectTradeFees source intention.intentionId dest asset amount)

def sendDirectTradeResolveEvent (dt : DirectTradeData AccountId Hash) (s : State AccountId Hash) :
    State AccountId Hash :=
  s.depositEvent (.IntentionResolvedDirectTrade dt.intentionA.who dt.intentionB.who
    dt.intentionA.intentionId dt.intentionB.intentionId dt.amountFromA dt.amountFromB)

/-! ## Prepare -/

variable (cfg : Config AccountId Hash)

/-- Reserve an amount, `none` when the currency refuses. -/
def reserveIfCan (asset : AssetId) (who : AccountId) (amount : Nat)
    (s : State AccountId Hash) : Option (State AccountId Hash) :=
  match cfg.currency.reserve asset who amount s.ledger with
  | .ok l => some (s.setLedger l)
  | .error _ => none

/-- The transfer from the main to the matched account. -/
def transferA (dt : DirectTradeData AccountId Hash) : Transfer AccountId :=
  { source := dt.intentionA.who
    dest := dt.intentionB.who
    asset := dt.intentionA.assets.assetIn
    amount := dt.amountFromA
    feeTransfer := false }

/-- The transfer from the matched to the main account. -/
def transferB (dt : DirectTradeData AccountId Hash) : Transfer AccountId :=
  { source := dt.intentionB.who
    dest := dt.intentionA.who
    asset := dt.intentionA.assets.assetOut
    amount := dt.amountFromB
    feeTransfer := false }

/-- The fee transfer of one side to the pool account. -/
def feeTransfer (poolAccount : AccountId) (fee : FeePayment AccountId) : Transfer AccountId :=
  { source := fee.who
    dest := poolAccount
    asset := fee.asset
    amount := fee.amount
    feeTransfer := true }

/-- Where the two fees are taken from, for each pairing of the two intentions. -/
def feePayments (dt : DirectTradeData AccountId Hash) (transferAFee transferBFee : Nat) :
    FeePayment AccountId × FeePayment AccountId :=
  let a := dt.intentionA
  let b := dt.intentionB
  match a.sellOrBuy, b.sellOrBuy with
  | .SELL, .SELL =>
      (⟨a.assets.assetOut, a.who, transferBFee⟩, ⟨b.assets.assetOut, b.who, transferAFee⟩)
  | .BUY, .BUY =>
      (⟨a.assets.assetIn, a.who, transferAFee⟩, ⟨b.assets.assetIn, b.who, transferBFee⟩)
  -- both fees of the two mixed pairings are taken in one and the same asset
  | .BUY, .SELL =>
      (⟨a.assets.assetIn, a.who, transferAFee⟩, ⟨b.assets.assetOut, b.who, transferBFee⟩)
  | .SELL, .BUY =>
      (⟨a.assets.assetOut, a.who, transferAFee⟩, ⟨b.assets.assetIn, b.who, transferBFee⟩)

/-- Reserve the two fees. The transfers are pushed once both are reserved. -/
def reserveFees (dt : DirectTradeData AccountId Hash) (poolAccount : AccountId)
    (feeA feeB : FeePayment AccountId) (s : State AccountId Hash) :
    Bool × DirectTradeData AccountId Hash × State AccountId Hash :=
  match reserveIfCan cfg feeA.asset feeA.who feeA.amount s with
  | none => (false, dt, s)
  | some s =>
      match reserveIfCan cfg feeB.asset feeB.who feeB.amount s with
      -- the first fee stays reserved and is not among the transfers
      | none => (false, dt, s)
      | some s =>
          (true, (dt.push (feeTransfer poolAccount feeA)).push (feeTransfer poolAccount feeB), s)

/-- Work out the fees of the two transfers and reserve them. -/
def prepareFees (dt : DirectTradeData AccountId Hash) (poolAccount : AccountId)
    (s : State AccountId Hash) : Bool × DirectTradeData AccountId Hash × State AccountId Hash :=
  match justFee dt.amountFromA Fee.default, justFee dt.amountFromB Fee.default with
  | some transferAFee, some transferBFee =>
      reserveFees cfg dt poolAccount (dt.feePayments transferAFee transferBFee).1
        (dt.feePayments transferAFee transferBFee).2 s
  | _, _ => (false, dt, s)

/-- Prepare a direct trade: validate the balances, reserve both amounts, then the fees. -/
def prepare (dt : DirectTradeData AccountId Hash) (poolAccount : AccountId)
    (s : State AccountId Hash) : Bool × DirectTradeData AccountId Hash × State AccountId Hash :=
  if s.ledger.free dt.intentionA.assets.assetIn dt.intentionA.who < dt.amountFromA then
    (false, dt, sendInsufficientBalanceEvent dt.intentionA dt.intentionA.assets.assetIn s)
  else if s.ledger.free dt.intentionA.assets.assetOut dt.intentionB.who < dt.amountFromB then
    (false, dt, sendInsufficientBalanceEvent dt.intentionB dt.intentionA.assets.assetOut s)
  else
    match reserveIfCan cfg dt.intentionA.assets.assetIn dt.intentionA.who dt.amountFromA s with
    | none => (false, dt, s)
    | some s =>
        match reserveIfCan cfg dt.intentionA.assets.assetOut dt.intentionB.who dt.amountFromB s with
        -- the same here with the first amount
        | none => (false, dt, s)
        | some s => prepareFees cfg ((dt.push dt.transferA).push dt.transferB) poolAccount s

/-! ## Execute and revert -/

/-- Pay one reservation out and report fees. A fee is reported for the main intention when
its payer is the main account. -/
def executeTransfer (dt : DirectTradeData AccountId Hash) (s : State AccountId Hash)
    (transfer : Transfer AccountId) : Except Panic (State AccountId Hash) :=
  match cfg.currency.repatriateReserved transfer.asset transfer.source transfer.dest
      transfer.amount s.ledger with
  | .error _ => .error .expectFailed
  | .ok (_, l) =>
      let s := s.setLedger l
      if transfer.feeTransfer then
        let intention :=
          if transfer.source = dt.intentionA.who then dt.intentionA else dt.intentionB
        .ok (sendTradeFeeEvent transfer.source intention transfer.dest transfer.asset
          transfer.amount s)
      else .ok s

/-- Execute a prepared trade. -/
def execute (dt : DirectTradeData AccountId Hash) (s : State AccountId Hash) :
    Except Panic (State AccountId Hash) :=
  dt.transfers.foldlM (executeTransfer cfg dt) (dt.sendDirectTradeResolveEvent s)

/-- Release the reservations of the pushed transfers. -/
def revert (dt : DirectTradeData AccountId Hash) (s : State AccountId Hash) :
    State AccountId Hash :=
  dt.transfers.foldl
    (fun s t => s.setLedger (cfg.currency.unreserve t.asset t.source t.amount s.ledger)) s

end DirectTradeData

end HydraDX.Exchange
