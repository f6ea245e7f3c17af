import HydraDX.Exchange.Execute

set_option autoImplicit false

/-! # The fees of a direct trade

Each side of a direct trade pays 0.2% to the pool. In which asset a side pays, and of which of
the two amounts the fee is taken, is written out for each of the four pairings of a sell and a
buy. In the two mixed pairings one of the fees is taken of the amount of the one asset and paid
in the other. That goes unnoticed while the two amounts are close: the fees are right exactly
when the two intentions are of one kind, or the fees of the two amounts are the same number
(`fees_in_kind_iff`). -/

namespace HydraDX.Exchange

variable {AccountId Hash : Type} [DecidableEq AccountId] {cfg : Config AccountId Hash}

/-- The fee transfer goes to the pool account and is 0.2%, rounded down, of the amount that is
traded of its asset. -/
def InKind (a : Intention AccountId Hash) (fromA fromB : Nat) (poolAccount : AccountId)
    (t : Transfer AccountId) : Prop :=
  t.dest = poolAccount ∧
    ((t.asset = a.assets.assetIn ∧ t.amount = 2 * fromA / 1000) ∨
      (t.asset = a.assets.assetOut ∧ t.amount = 2 * fromB / 1000))

instance decidableInKind (a : Intention AccountId Hash) (fromA fromB : Nat)
    (poolAccount : AccountId) (t : Transfer AccountId) :
    Decidable (InKind a fromA fromB poolAccount t) :=
  inferInstanceAs (Decidable (_ ∧ _))

theorem justFee_default {x fee : Nat} (h : justFee x Fee.default = some fee) :
    fee = 2 * x / 1000 := by
  obtain ⟨-, -, rfl⟩ := justFee_eq_some.mp h
  rw [Nat.mul_comm]
  rfl

section Pairings

variable {a b : Intention AccountId Hash} {fromA fromB feeA feeB : Nat} {poolAccount : AccountId}

omit [DecidableEq AccountId] in
/-- The fee transfers of a prepared trade. -/
theorem preparedTransfers_fees :
    ((directTrade a b fromA fromB).preparedTransfers poolAccount feeA feeB).filter (·.feeTransfer)
      = [DirectTradeData.feeTransfer poolAccount
          ((directTrade a b fromA fromB).feePayments feeA feeB).1,
        DirectTradeData.feeTransfer poolAccount
          ((directTrade a b fromA fromB).feePayments feeA feeB).2] := rfl

omit [DecidableEq AccountId] in
/-- A payment in the asset that the main intention gives is in kind when it is the fee of what
it gives. -/
theorem inKind_assetIn_iff (hne : a.assets.assetIn ≠ a.assets.assetOut) {who : AccountId}
    {amount : Nat} :
    InKind a fromA fromB poolAccount
        (DirectTradeData.feeTransfer poolAccount ⟨a.assets.assetIn, who, amount⟩) ↔
      amount = 2 * fromA / 1000 := by
  unfold InKind DirectTradeData.feeTransfer
  constructor
  · rintro ⟨-, ⟨-, h⟩ | ⟨h, -⟩⟩
    · exact h
    · exact absurd h hne
  · exact fun h => ⟨rfl, Or.inl ⟨rfl, h⟩⟩

omit [DecidableEq AccountId] in
/-- The same for the asset that it gets. -/
theorem inKind_assetOut_iff (hne : a.assets.assetIn ≠ a.assets.assetOut) {who : AccountId}
    {amount : Nat} :
    InKind a fromA fromB poolAccount
        (DirectTradeData.feeTransfer poolAccount ⟨a.assets.assetOut, who, amount⟩) ↔
      amount = 2 * fromB / 1000 := by
  unfold InKind DirectTradeData.feeTransfer
  constructor
  · rintro ⟨-, ⟨h, -⟩ | ⟨-, h⟩⟩
    · exact absurd h.symm hne
    · exact h
  · exact fun h => ⟨rfl, Or.inr ⟨rfl, h⟩⟩

omit [DecidableEq AccountId] in
/-- The payments of the four pairings. -/
theorem feePayments_inKind_iff (hassets : b.assets = ⟨a.assets.assetOut, a.assets.assetIn⟩)
    (hne : a.assets.assetIn ≠ a.assets.assetOut) :
    (InKind a fromA fromB poolAccount (DirectTradeData.feeTransfer poolAccount
        ((directTrade a b fromA fromB).feePayments (2 * fromA / 1000) (2 * fromB / 1000)).1) ∧
      InKind a fromA fromB poolAccount (DirectTradeData.feeTransfer poolAccount
        ((directTrade a b fromA fromB).feePayments (2 * fromA / 1000) (2 * fromB / 1000)).2)) ↔
      a.sellOrBuy = b.sellOrBuy ∨ 2 * fromA / 1000 = 2 * fromB / 1000 := by
  unfold DirectTradeData.feePayments directTrade
  simp only [hassets]
  cases a.sellOrBuy with
  | SELL =>
      cases b.sellOrBuy with
      | SELL => simp [inKind_assetIn_iff hne, inKind_assetOut_iff hne]
      | BUY => simp [inKind_assetOut_iff hne]
  | BUY =>
      cases b.sellOrBuy with
      | SELL => simp [inKind_assetIn_iff hne, eq_comm]
      | BUY => simp [inKind_assetIn_iff hne, inKind_assetOut_iff hne]

end Pairings

/-- **When the fees of a direct trade are 0.2% of what is traded.** A trade that is prepared and
executed pays its two fee transfers out; both are taken in kind exactly when the intentions are
both sells or both buys, or the fees of the two amounts are equal. -/
theorem fees_in_kind_iff (cfg : Config AccountId Hash) (a b : Intention AccountId Hash)
    (fromA fromB : Nat) (poolAccount : AccountId) (s s₁ s₂ s₃ : State AccountId Hash)
    (dt : DirectTradeData AccountId Hash) (scenario : Scenario AccountId)
    (hassets : b.assets = ⟨a.assets.assetOut, a.assets.assetIn⟩)
    (hne : a.assets.assetIn ≠ a.assets.assetOut)
    (hprepare : (directTrade a b fromA fromB).prepare cfg poolAccount s = (true, dt, s₁))
    (hamm : ammLeg cfg b scenario s₁ = .ok s₂) (hexecute : dt.execute cfg s₂ = .ok s₃) :
    (dt.transfers.filter (·.feeTransfer)).length = 2 ∧
    s₃.ledger = payOut (s₂.ledger.unhold (holdsOf dt.transfers)) dt.transfers ∧
    ((∀ t ∈ dt.transfers.filter (·.feeTransfer), InKind a fromA fromB poolAccount t) ↔
      a.sellOrBuy = b.sellOrBuy ∨ 2 * fromA / 1000 = 2 * fromB / 1000) := by
  obtain ⟨-, feeA, feeB, hp, -⟩ | ⟨hfalse, -⟩ := DirectTradeData.prepare_cases rfl hprepare
  · have htransfers : dt.transfers
        = (directTrade a b fromA fromB).preparedTransfers poolAccount feeA feeB := by
      rw [hp.trade_eq]
    obtain rfl := justFee_default hp.feeA_eq
    obtain rfl := justFee_default hp.feeB_eq
    refine ⟨by rw [htransfers, preparedTransfers_fees]; rfl, ?_, ?_⟩
    · -- the four transfers are reserved, so the execution pays them in full
      have hres : ∀ c w, Ledger.held (holdsOf dt.transfers) c w ≤ s₂.ledger.reserved c w := by
        intro c w
        rw [ammLeg_reserved hamm, hp.holds.reserved, htransfers]
        exact Nat.le_add_left _ _
      exact (DirectTradeData.execute_ok (Ledger.holds_unhold hres) hexecute).1
    · rw [htransfers, preparedTransfers_fees, List.forall_mem_cons, List.forall_mem_singleton]
      exact feePayments_inKind_iff hassets hne
  · cases hfalse

/-! ## A mixed pairing -/

open Fallible

/-- `[2]` sells `amountSell` of asset `1` for the native asset `0`, and `[3]` buys `amountBuy` of
asset `1` with it. A unit of asset `0` costs `price / 10 ^ 18` units of asset `1`. -/
def sellAndBuy (price amountSell amountBuy : Nat) : Except Failure (State Dev.AccountId Dev.Hash) :=
  Dev.after
    (Dev.genesis [(0, [1], 1000000), (1, [1], 1000000), (0, [2], 10000), (1, [2], 10000),
      (0, [3], 10000), (1, [3], 10000)])
    [.xyk (.createPool [1] 0 1 400000 price), .sell [2] 1 0 amountSell 1 false,
     .buy [3] 1 0 amountBuy 5000 false]

/-- The direct trade of the two, of `fromA` of asset `1` against `fromB` of asset `0`. -/
def soldAndBought (fromA fromB : Nat) : DirectTradeData Dev.AccountId Dev.Hash :=
  directTrade
    { who := [2], assets := ⟨1, 0⟩, amountIn := fromA, amountOut := fromB, tradeLimit := 1,
      discount := false, sellOrBuy := .SELL, intentionId := (0, [2], 1, 0, 1) }
    { who := [3], assets := ⟨0, 1⟩, amountIn := fromB, amountOut := fromA, tradeLimit := 5000,
      discount := false, sellOrBuy := .BUY, intentionId := (1, [3], 1, 0, 1) }
    fromA fromB

/-- The trade as prepared in the state `s`. -/
def soldAndBoughtPrepared (fromA fromB : Nat) (s : State Dev.AccountId Dev.Hash) :
    Bool × DirectTradeData Dev.AccountId Dev.Hash × State Dev.AccountId Dev.Hash :=
  (soldAndBought fromA fromB).prepare Dev.cfg (XYK.getPairId Dev.cfg ⟨0, 1⟩) s

/-- At two units of asset `1` for one of asset `0`, 2000 are traded against 1000. The seller pays
a fee of 4 in asset `0`, where 0.2% of 1000 is 2; finalizing the block reports it. -/
theorem fees_not_in_kind :
    Succeeds (sellAndBuy (2 * 10 ^ 18) 2000 2000) fun s =>
      (soldAndBoughtPrepared 2000 1000 s).1 = true ∧
      Succeeds ((soldAndBoughtPrepared 2000 1000 s).2.1.execute Dev.cfg
        (soldAndBoughtPrepared 2000 1000 s).2.2) (fun _ => True) ∧
      (¬ ∀ t ∈ (soldAndBoughtPrepared 2000 1000 s).2.1.transfers.filter (·.feeTransfer),
        InKind (soldAndBought 2000 1000).intentionA 2000 1000 (XYK.getPairId Dev.cfg ⟨0, 1⟩) t) ∧
      Succeeds (onFinalize Dev.cfg s) fun s' =>
        s'.events.contains (.IntentionResolvedDirectTradeFees [2] (0, [2], 1, 0, 1)
          (XYK.getPairId Dev.cfg ⟨0, 1⟩) 0 4) = true := by
  decide +kernel

/-- The trade of 1000 against 1200, prepared right after the two accounts are endowed. The fees
of the two amounts are both 2. -/
def closeAmounts :
    Bool × DirectTradeData Dev.AccountId Dev.Hash × State Dev.AccountId Dev.Hash :=
  soldAndBoughtPrepared 1000 1200
    (Dev.genesis [(0, [2], 10000), (1, [2], 10000), (0, [3], 10000), (1, [3], 10000)])

theorem fees_in_kind_closeAmounts :
    Succeeds (closeAmounts.2.1.execute Dev.cfg closeAmounts.2.2) fun s₃ =>
      s₃.ledger = payOut (closeAmounts.2.2.ledger.unhold (holdsOf closeAmounts.2.1.transfers))
        closeAmounts.2.1.transfers ∧
      ∀ t ∈ closeAmounts.2.1.transfers.filter (·.feeTransfer),
        InKind (soldAndBought 1000 1200).intentionA 1000 1200 (XYK.getPairId Dev.cfg ⟨0, 1⟩) t := by
  have hprepare : (soldAndBought 1000 1200).prepare Dev.cfg (XYK.getPairId Dev.cfg ⟨0, 1⟩)
      (Dev.genesis [(0, [2], 10000), (1, [2], 10000), (0, [3], 10000), (1, [3], 10000)])
        = (true, closeAmounts.2.1, closeAmounts.2.2) :=
    Prod.ext (by decide +kernel) rfl
  obtain ⟨s₃, hexecute, -⟩ :
      Succeeds (closeAmounts.2.1.execute Dev.cfg closeAmounts.2.2) (fun _ => True) := by
    decide +kernel
  obtain ⟨-, hledger, hiff⟩ := fees_in_kind_iff Dev.cfg (soldAndBought 1000 1200).intentionA
    (soldAndBought 1000 1200).intentionB 1000 1200 _ _ _ _ s₃ _ .complete rfl (by decide) hprepare
    rfl hexecute
  exact ⟨s₃, hexecute, hledger, hiff.mpr (Or.inr (by decide))⟩

end HydraDX.Exchange
