import HydraDX.Exchange.LedgerMoves
import HydraDX.Balances
import HydraDX.Chain

set_option autoImplicit false

/-! # Executing a prepared direct trade

A prepared trade holds reservations for its four transfers, so paying them out moves the
full amounts. What can go wrong is the payment itself: the native currency refuses to pay
reserved balance to an account whose data are all zero, and `execute` expects that this does
not happen. -/

namespace HydraDX.Exchange

variable {AccountId Hash : Type} [DecidableEq AccountId]

/-- The currency of the runtime: the native asset is paid out by `pallets/balances`, all
others by a ledger that never refuses. -/
structure RuntimeCurrency (cfg : Config AccountId Hash) : Prop where
  native : ∀ source dest amount l,
    cfg.currency.repatriateReserved cfg.nativeAssetId source dest amount l
      = Balances.repatriateReserved cfg.nativeAssetId source dest amount .Free l
  tokens : ∀ asset source dest amount l, asset ≠ cfg.nativeAssetId →
    ∃ r, cfg.currency.repatriateReserved asset source dest amount l = .ok r

/-- A transfer of a positive native amount to another account goes to one that is not new. -/
def PaysLiveAccount (cfg : Config AccountId Hash) (s : State AccountId Hash)
    (t : Transfer AccountId) : Prop :=
  t.asset = cfg.nativeAssetId → t.amount ≠ 0 → t.source ≠ t.dest →
    Balances.isNew cfg.nativeAssetId s.ledger t.dest = false

instance (cfg : Config AccountId Hash) (s : State AccountId Hash) (t : Transfer AccountId) :
    Decidable (PaysLiveAccount cfg s t) :=
  inferInstanceAs (Decidable (_ → _))

/-- All balances are issued, and the native issuance is a balance. -/
structure NativeFits (cfg : Config AccountId Hash) (l : Ledger AssetId AccountId) : Prop where
  backed : l.Backed
  supply : l.issuance cfg.nativeAssetId < balanceBound

variable {cfg : Config AccountId Hash} {s s' s₁ s₂ : State AccountId Hash}
  {pairAccount : AccountId} {dt dt' : DirectTradeData AccountId Hash}

/-- One transfer. -/
theorem executeTransfer_ok_iff (hruntime : RuntimeCurrency cfg) (hfits : NativeFits cfg s.ledger)
    {t : Transfer AccountId} :
    (∃ s', DirectTradeData.executeTransfer cfg dt s t = .ok s') ↔ PaysLiveAccount cfg s t := by
  have hcall : (∃ s', DirectTradeData.executeTransfer cfg dt s t = .ok s') ↔
      ∃ r, cfg.currency.repatriateReserved t.asset t.source t.dest t.amount s.ledger = .ok r := by
    unfold DirectTradeData.executeTransfer
    cases cfg.currency.repatriateReserved t.asset t.source t.dest t.amount s.ledger with
    | error e => simp
    | ok r =>
        obtain ⟨rest, l⟩ := r
        refine iff_of_true ?_ ⟨_, rfl⟩
        by_cases hf : t.feeTransfer = true
        · exact ⟨_, if_pos hf⟩
        · exact ⟨_, if_neg hf⟩
  rw [hcall]
  unfold PaysLiveAccount
  by_cases ha : t.asset = cfg.nativeAssetId
  · rw [ha, hruntime.native, Balances.repatriateReserved_ok_iff]
    simp only [true_imp_iff]
    refine imp_congr_right fun _ => imp_congr_right fun hne => ?_
    -- The two accounts together hold no more than was issued.
    have hpair := hfits.backed.pair_le cfg.nativeAssetId hne
    have hsupply := hfits.supply
    simp only [Ledger.total] at hpair
    refine ⟨fun h => h.1, fun h => ⟨h, ?_⟩⟩
    omega
  · exact iff_of_true (hruntime.tokens _ _ _ _ _ ha) fun h => absurd h ha

theorem NativeFits.executeTransfer {t : Transfer AccountId} (hfits : NativeFits cfg s.ledger)
    (h : DirectTradeData.executeTransfer cfg dt s t = .ok s') : NativeFits cfg s'.ledger := by
  refine ⟨(DirectTradeData.executeTransfer_conserves h).moves.backed hfits.backed, ?_⟩
  rw [(DirectTradeData.executeTransfer_ok h).1, Ledger.repatriate_issuance]
  exact hfits.supply

theorem NativeFits.ammLeg {matched : Intention AccountId Hash} {scenario : Scenario AccountId}
    (hfits : NativeFits cfg s.ledger) (h : ammLeg cfg matched scenario s = .ok s') :
    NativeFits cfg s'.ledger := by
  refine ⟨(ammLeg_settling h).moves.backed hfits.backed, lt_of_le_of_lt ?_ hfits.supply⟩
  cases scenario with
  | complete => cases h; exact le_rfl
  | exactMatch => cases h; exact le_rfl
  | split t =>
      rw [executeAmmTransfer_ok h]
      show (tradedLedger cfg matched.sellOrBuy t s.ledger).issuance _ ≤ _
      -- all that an AMM trade does to an issuance is to burn the discount
      have hburn : (XYK.burnDiscount cfg t s.ledger).issuance cfg.nativeAssetId
          ≤ s.ledger.issuance cfg.nativeAssetId := by
        unfold XYK.burnDiscount
        split_ifs
        · rw [Ledger.burn_issuance, if_pos rfl]
          exact Nat.sub_le _ _
        · exact le_rfl
      cases matched.sellOrBuy with
      | SELL => simpa [tradedLedger, XYK.soldLedger] using hburn
      | BUY => simpa [tradedLedger, XYK.boughtLedger] using hburn

/-- **A prepared trade is executed in full exactly when its native transfers go to live
accounts.** The AMM trade of the matched intention may come in between. Executed in full: the
four transfers are moved, from the ledger with the reservations given back. -/
theorem prepared_trade_executes_iff (cfg : Config AccountId Hash)
    (hruntime : RuntimeCurrency cfg) (a b : Intention AccountId Hash) (fromA fromB : Nat)
    (poolAccount : AccountId) (s s₁ s₂ : State AccountId Hash)
    (dt : DirectTradeData AccountId Hash) (scenario : Scenario AccountId)
    (hfits : NativeFits cfg s.ledger)
    (hprepare : (directTrade a b fromA fromB).prepare cfg poolAccount s = (true, dt, s₁))
    (hamm : ammLeg cfg b scenario s₁ = .ok s₂) :
    (∃ s₃ feeA feeB, dt.execute cfg s₂ = .ok s₃ ∧
      justFee fromA Fee.default = some feeA ∧ justFee fromB Fee.default = some feeB ∧
      dt.transfers = (directTrade a b fromA fromB).preparedTransfers poolAccount feeA feeB ∧
      s₃.ledger = payOut (s₂.ledger.unhold (holdsOf dt.transfers)) dt.transfers) ↔
    Fallible.Always (DirectTradeData.executeTransfer cfg dt) (PaysLiveAccount cfg)
      (dt.sendDirectTradeResolveEvent s₂) dt.transfers := by
  -- neither preparing nor the AMM leg raises a native balance above the bound
  have hfits₁ : NativeFits cfg s₁.ledger := by
    refine ⟨(DirectTradeData.prepare_conserves rfl hprepare).moves.backed hfits.backed, ?_⟩
    rcases DirectTradeData.prepare_cases rfl hprepare with ⟨-, _, _, hp, -⟩ | ⟨h, -⟩
    · rw [hp.holds.issuance]
      exact hfits.supply
    · cases h
  have hfits₂ : NativeFits cfg s₂.ledger := hfits₁.ammLeg hamm
  have hok : (∃ s₃, dt.execute cfg s₂ = .ok s₃) ↔
      Fallible.Always (DirectTradeData.executeTransfer cfg dt) (PaysLiveAccount cfg)
        (dt.sendDirectTradeResolveEvent s₂) dt.transfers := by
    rw [DirectTradeData.execute, Fallible.ok_iff_always]
    exact Fallible.Always.iff_of_invariant (I := fun s => NativeFits cfg s.ledger)
      (fun _ _ _ hI h => hI.executeTransfer h)
      (fun _ _ _ hI => executeTransfer_ok_iff hruntime hI) hfits₂
  rw [← hok]
  refine ⟨fun ⟨s₃, _, _, h, _⟩ => ⟨s₃, h⟩, fun ⟨s₃, h⟩ => ?_⟩
  -- the AMM leg leaves alone what is reserved, so all of it is still there to be paid out
  rcases DirectTradeData.prepare_cases rfl hprepare with ⟨-, feeA, feeB, hp, -⟩ | ⟨h, -⟩
  · have htransfers : dt.transfers
        = (directTrade a b fromA fromB).preparedTransfers poolAccount feeA feeB := by
      rw [hp.trade_eq]
    have hres : ∀ c w, Ledger.held (holdsOf dt.transfers) c w ≤ s₂.ledger.reserved c w := by
      intro c w
      rw [ammLeg_reserved hamm, hp.holds.reserved, htransfers]
      exact Nat.le_add_left _ _
    obtain ⟨hH, -, -⟩ := DirectTradeData.execute_ok
      (Ledger.holds_unhold hres) h
    exact ⟨s₃, feeA, feeB, h, hp.feeA_eq, hp.feeB_eq, htransfers, hH⟩
  · cases h

/-! ## A buyer of the native asset that holds none of it -/

open Fallible

/-- The runtime currency of the development chain. -/
theorem runtimeCurrency_dev : RuntimeCurrency Dev.runtimeCfg where
  native := Currency.runtime_native CORE_ASSET_ID
  tokens _ _ _ _ _ h := ⟨_, if_neg h⟩

/-- `[2]` holds asset `1` and `held` of the native asset `0`, and buys 1000 of the latter;
`[3]` sells as much. -/
def nativeBuyer (held : Nat) : Except Failure (State Dev.AccountId Dev.Hash) :=
  ([.xyk (.createPool [1] 0 1 500000 (10 ^ 18)), .buy [2] 0 1 1000 5000 false,
    .sell [3] 0 1 1000 1 false] : List (Extrinsic Dev.AccountId)).foldlM
      (Extrinsic.dispatch Dev.runtimeCfg)
      (Dev.genesis [(0, [1], 1000000), (1, [1], 1000000), (0, [2], held), (1, [2], 10000),
        (0, [3], 10000), (1, [3], 10000)])

/-- The direct trade of the two. -/
def nativeTrade : DirectTradeData Dev.AccountId Dev.Hash :=
  directTrade
    { who := [2], assets := ⟨1, 0⟩, amountIn := 1000, amountOut := 1000, tradeLimit := 5000,
      discount := false, sellOrBuy := .BUY, intentionId := (0, [2], 1, 0, 1) }
    { who := [3], assets := ⟨0, 1⟩, amountIn := 1000, amountOut := 1000, tradeLimit := 1,
      discount := false, sellOrBuy := .SELL, intentionId := (1, [3], 1, 0, 1) }
    1000 1000

/-- The trade is prepared, its execution panics, and so does the end of the block. -/
theorem prepared_trade_panics :
    Succeeds (nativeBuyer 0) fun s =>
      (nativeTrade.prepare Dev.runtimeCfg (XYK.getPairId Dev.runtimeCfg ⟨0, 1⟩) s).1 = true ∧
      (nativeTrade.prepare Dev.runtimeCfg (XYK.getPairId Dev.runtimeCfg ⟨0, 1⟩) s).2.1.execute
        Dev.runtimeCfg (nativeTrade.prepare Dev.runtimeCfg
          (XYK.getPairId Dev.runtimeCfg ⟨0, 1⟩) s).2.2 = .error .expectFailed ∧
      onFinalize Dev.runtimeCfg s = .error .expectFailed := by
  decide +kernel

/-- The trade prepared where `[2]` holds one unit of the native asset; `[9]` stands for the
pool account. -/
def livePrepared : Bool × DirectTradeData Dev.AccountId Dev.Hash × State Dev.AccountId Dev.Hash :=
  nativeTrade.prepare Dev.runtimeCfg [9]
    (Dev.genesis [(0, [2], 1), (1, [2], 10000), (0, [3], 10000), (1, [3], 10000)])

theorem prepared_trade_executes_livePrepared :
    ∃ s₃ feeA feeB, livePrepared.2.1.execute Dev.runtimeCfg livePrepared.2.2 = .ok s₃ ∧
      justFee 1000 Fee.default = some feeA ∧ justFee 1000 Fee.default = some feeB ∧
      livePrepared.2.1.transfers = nativeTrade.preparedTransfers [9] feeA feeB ∧
      s₃.ledger = payOut (livePrepared.2.2.ledger.unhold (holdsOf livePrepared.2.1.transfers))
        livePrepared.2.1.transfers := by
  have hprepare : livePrepared = (true, livePrepared.2.1, livePrepared.2.2) :=
    Prod.ext (by decide +kernel) rfl
  exact (prepared_trade_executes_iff Dev.runtimeCfg runtimeCurrency_dev _ _ 1000 1000 [9] _ _ _ _
    .complete ⟨Dev.backed _, by decide +kernel⟩ hprepare rfl).mpr (by decide +kernel)

end HydraDX.Exchange
