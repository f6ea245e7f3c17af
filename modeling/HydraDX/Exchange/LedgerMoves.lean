import HydraDX.Exchange.Log

set_option autoImplicit false

/-! # What the resolver does to the ledger

Direct trades move balances between accounts, whether they are prepared, executed or reverted;
an AMM trade moves balances and destroys the native fee of a discounted trade. Finalizing a
block is a sequence of the two: it `Settles` a list of AMM trades, and everything it does in
between neither issues nor destroys (`onFinalize_settles`). In terms of `Lib/Supply.lean`,
everything from a single AMM trade to `onFinalize` is a sequence of ledger operations that
issue nothing and destroy the native asset only. -/

namespace HydraDX

variable {AccountId Hash : Type} [DecidableEq AccountId] {cfg : Config AccountId Hash}
  {s s' s'' : State AccountId Hash}

/-- The ledger operations of a trade. -/
abbrev TradeMoves (cfg : Config AccountId Hash) (s s' : State AccountId Hash) : Prop :=
  Ledger.Moves (fun _ => False) (· = cfg.nativeAssetId) s.ledger s'.ledger

namespace XYK

variable {t : AMMTransfer AccountId} {l l' : Ledger AssetId AccountId}

theorem withdrawDiscount_moves (h : withdrawDiscount cfg t l = .ok l') :
    Ledger.Moves (fun _ => False) (· = cfg.nativeAssetId) l l' := by
  unfold withdrawDiscount at h
  split_ifs at h with hd
  · exact Currency.withdraw_moves rfl (ofCurrency_eq_ok.mp h)
  · cases h
    exact .refl l

theorem executeSell_moves (h : executeSell cfg t s = .ok s') : TradeMoves cfg s s' := by
  unfold executeSell at h
  simp only [Fallible.bind_eq_ok, ofCurrency_eq_ok] at h
  obtain ⟨l₁, h₁, l₂, h₂, l₃, h₃, h⟩ := h
  cases h
  exact ((withdrawDiscount_moves h₁).trans (Currency.transfer_moves h₂)).trans
    (Currency.transfer_moves h₃)

theorem executeBuy_moves (h : executeBuy cfg t s = .ok s') : TradeMoves cfg s s' := by
  unfold executeBuy at h
  simp only [Fallible.bind_eq_ok, ofCurrency_eq_ok] at h
  obtain ⟨l₁, h₁, l₂, h₂, l₃, h₃, h⟩ := h
  cases h
  exact ((withdrawDiscount_moves h₁).trans (Currency.transfer_moves h₂)).trans
    (Currency.transfer_moves h₃)

end XYK

namespace Exchange

/-! ## Settling AMM trades -/

/-- Execute an AMM trade of either kind. -/
def executeTrade (cfg : Config AccountId Hash) (trade : IntentionType × AMMTransfer AccountId)
    (s : State AccountId Hash) : Except DispatchError (State AccountId Hash) :=
  match trade.1 with
  | .SELL => XYK.executeSell cfg trade.2 s
  | .BUY => XYK.executeBuy cfg trade.2 s

/-- The event of the pool for an AMM trade. -/
def tradeEvent (trade : IntentionType × AMMTransfer AccountId) : Event AccountId Hash :=
  match trade.1 with
  | .SELL => .SellExecuted trade.2.origin trade.2.assets.assetIn trade.2.assets.assetOut
      trade.2.amount trade.2.amountOut
  | .BUY => .BuyExecuted trade.2.origin trade.2.assets.assetOut trade.2.assets.assetIn
      trade.2.amount trade.2.amountOut

/-- The event is that of an AMM trade. -/
def isTradeEvent : Event AccountId Hash → Bool
  | .SellExecuted .. => true
  | .BuyExecuted .. => true
  | _ => false

/-- Nothing is issued or destroyed, and no AMM trade is reported. -/
structure Conserves (s s' : State AccountId Hash) : Prop where
  moves : Ledger.Moves (fun _ => False) (fun _ => False) s.ledger s'.ledger
  events : s'.events.filter isTradeEvent = s.events.filter isTradeEvent

/-- The AMM trades `trades` are executed one after the other on the way from `s`, and nothing
else is issued, destroyed or reported as an AMM trade. -/
inductive Settles (cfg : Config AccountId Hash) (s : State AccountId Hash) :
    List (IntentionType × AMMTransfer AccountId) → State AccountId Hash → Prop where
  | refl : Settles cfg s [] s
  | other {trades : List (IntentionType × AMMTransfer AccountId)} {t u : State AccountId Hash}
      (before : Settles cfg s trades t) (step : Conserves t u) : Settles cfg s trades u
  | trade {trades : List (IntentionType × AMMTransfer AccountId)} {t u : State AccountId Hash}
      (before : Settles cfg s trades t) (trade : IntentionType × AMMTransfer AccountId)
      (call : executeTrade cfg trade t = .ok u) : Settles cfg s (trades ++ [trade]) u

section Settles

variable {trades trades' : List (IntentionType × AMMTransfer AccountId)}
  {trade : IntentionType × AMMTransfer AccountId}

theorem Conserves.refl (s : State AccountId Hash) : Conserves s s := ⟨.refl _, rfl⟩

theorem Conserves.trans (h : Conserves s s') (h' : Conserves s' s'') : Conserves s s'' :=
  ⟨h.moves.trans h'.moves, h'.events.trans h.events⟩

/-- Only a report. -/
theorem Conserves.depositEvent (s : State AccountId Hash) {e : Event AccountId Hash}
    (he : isTradeEvent e = false) : Conserves s (s.depositEvent e) := by
  refine ⟨.refl _, ?_⟩
  rw [State.depositEvent_events, List.filter_append, List.filter_cons, he]
  simp

theorem Conserves.settles (h : Conserves s s') : Settles cfg s [] s' := .other .refl h

theorem Settles.trans (h : Settles cfg s trades s') (h' : Settles cfg s' trades' s'') :
    Settles cfg s (trades ++ trades') s'' := by
  induction h' with
  | refl => rwa [List.append_nil]
  | other _ step ih => exact .other ih step
  | trade _ trade call ih =>
      rw [← List.append_assoc]
      exact .trade ih trade call

theorem executeTrade_moves (h : executeTrade cfg trade s = .ok s') : TradeMoves cfg s s' := by
  unfold executeTrade at h
  cases htype : trade.1 with
  | SELL =>
      rw [htype] at h
      exact XYK.executeSell_moves h
  | BUY =>
      rw [htype] at h
      exact XYK.executeBuy_moves h

theorem executeTrade_ok (h : executeTrade cfg trade s = .ok s') :
    s' = (s.setLedger (tradedLedger cfg trade.1 trade.2 s.ledger)).depositEvent
      (tradeEvent trade) := by
  unfold executeTrade at h
  unfold tradedLedger tradeEvent
  cases htype : trade.1 with
  | SELL =>
      rw [htype] at h
      exact XYK.executeSell_ok h
  | BUY =>
      rw [htype] at h
      exact XYK.executeBuy_ok h

omit [DecidableEq AccountId] in
theorem isTradeEvent_tradeEvent (trade : IntentionType × AMMTransfer AccountId) :
    isTradeEvent (tradeEvent trade : Event AccountId Hash) = true := by
  unfold tradeEvent
  cases trade.1 with
  | SELL => rfl
  | BUY => rfl

theorem Settles.moves (h : Settles cfg s trades s') : TradeMoves cfg s s' := by
  induction h with
  | refl => exact .refl _
  | other _ step ih =>
      exact ih.trans (step.moves.mono (fun _ => id) fun _ hF => hF.elim)
  | trade _ trade call ih => exact ih.trans (executeTrade_moves call)

/-- The trades that are reported are those that are executed. -/
theorem Settles.events (h : Settles cfg s trades s') :
    s'.events.filter isTradeEvent = s.events.filter isTradeEvent ++ trades.map tradeEvent := by
  induction h with
  | refl => simp
  | other _ step ih => rw [step.events, ih]
  | trade _ trade call ih =>
      rw [executeTrade_ok call, State.depositEvent_events, State.setLedger_events,
        List.filter_append, ih, List.map_append, List.append_assoc]
      simp [isTradeEvent_tradeEvent]

end Settles

/-- Some AMM trades are settled. -/
def Settling (cfg : Config AccountId Hash) (s s' : State AccountId Hash) : Prop :=
  ∃ trades, Settles cfg s trades s'

theorem Settling.refl (s : State AccountId Hash) : Settling cfg s s := ⟨[], .refl⟩

theorem Settling.trans (h : Settling cfg s s') (h' : Settling cfg s' s'') : Settling cfg s s'' := by
  obtain ⟨trades, h⟩ := h
  obtain ⟨trades', h'⟩ := h'
  exact ⟨_, h.trans h'⟩

theorem Conserves.settling (h : Conserves s s') : Settling cfg s s' := ⟨[], h.settles⟩

/-! ## AMM trades of an intention -/

variable {pairAccount : AccountId} {intention copy copy' matched : Intention AccountId Hash}

theorem sendIntentionErrorEvent_conserves (intention : Intention AccountId Hash)
    (error : DispatchError) (s : State AccountId Hash) :
    Conserves s (sendIntentionErrorEvent intention error s) :=
  Conserves.depositEvent s rfl

theorem executeAmmTransfer_settling {intentionType : IntentionType} {intentionId : Hash}
    {t : AMMTransfer AccountId}
    (h : executeAmmTransfer cfg intentionType intentionId t s = .ok s') : Settling cfg s s' := by
  have hcall : ∃ s₁, executeTrade cfg (intentionType, t) s = .ok s₁ ∧
      s' = s₁.depositEvent (.IntentionResolvedAMMTrade t.origin intentionType intentionId t.amount
        t.amountOut) := by
    unfold executeAmmTransfer at h
    cases intentionType with
    | SELL =>
        obtain ⟨s₁, h₁, h⟩ := Fallible.bind_eq_ok.mp h
        exact ⟨s₁, h₁, (Except.ok.inj h).symm⟩
    | BUY =>
        obtain ⟨s₁, h₁, h⟩ := Fallible.bind_eq_ok.mp h
        exact ⟨s₁, h₁, (Except.ok.inj h).symm⟩
  obtain ⟨s₁, h₁, rfl⟩ := hcall
  exact ⟨_, .other (.trade .refl (intentionType, t) h₁) (Conserves.depositEvent s₁ rfl)⟩

theorem ammLeg_settling {scenario : Scenario AccountId}
    (h : ammLeg cfg matched scenario s = .ok s') : Settling cfg s s' := by
  cases scenario with
  | split t => exact executeAmmTransfer_settling h
  | complete => cases h; exact .refl _
  | exactMatch => cases h; exact .refl _

theorem resolveSingleIntention_settling (intention : Intention AccountId Hash)
    (s : State AccountId Hash) : Settling cfg s (resolveSingleIntention cfg intention s) := by
  unfold resolveSingleIntention
  cases validateIntention cfg intention s with
  | error error => exact (sendIntentionErrorEvent_conserves intention error s).settling
  | ok t =>
      simp only
      cases he : executeAmmTransfer cfg intention.sellOrBuy intention.intentionId t s with
      | error error => exact (sendIntentionErrorEvent_conserves intention error s).settling
      | ok s' => exact executeAmmTransfer_settling he

theorem Settling.moves (h : Settling cfg s s') : TradeMoves cfg s s' := by
  obtain ⟨trades, h⟩ := h
  exact h.moves

/-! ## Direct trades -/

namespace DirectTradeData

variable {dt dt' : DirectTradeData AccountId Hash}

theorem reserveIfCan_conserves {asset : AssetId} {who : AccountId} {amount : Nat}
    (h : reserveIfCan cfg asset who amount s = some s') : Conserves s s' := by
  obtain ⟨hle, rfl⟩ := reserveIfCan_eq_some h
  exact ⟨(Ledger.Step.hold asset who amount hle).moves, rfl⟩

theorem prepare_conserves {ok : Bool} (hdt : dt.transfers = [])
    (h : dt.prepare cfg pairAccount s = (ok, dt', s')) : Conserves s s' :=
  (prepare_rel Conserves.refl (fun _ _ _ => Conserves.trans)
    (fun _ _ s => Conserves.depositEvent s rfl) (fun _ _ _ _ => reserveIfCan_conserves) hdt h).1

theorem executeTransfer_conserves {t : Transfer AccountId}
    (h : executeTransfer cfg dt s t = .ok s') : Conserves s s' := by
  obtain ⟨hl, -, he⟩ := executeTransfer_ok h
  refine ⟨?_, ?_⟩
  · rw [hl]
    exact (Ledger.Step.repatriate t.asset t.source t.dest t.amount).moves
  · rw [he, List.filter_append]
    by_cases hf : t.feeTransfer = true
    · rw [if_pos hf]
      exact List.append_nil _
    · rw [if_neg hf]
      exact List.append_nil _

theorem execute_conserves (h : dt.execute cfg s = .ok s') : Conserves s s' := by
  have hevent : Conserves s (dt.sendDirectTradeResolveEvent s) := Conserves.depositEvent s rfl
  exact hevent.trans (Fallible.foldlM_rel (f := executeTransfer cfg dt) Conserves.refl
    (fun _ _ _ => Conserves.trans) (fun _ _ _ ht => executeTransfer_conserves ht) h)

theorem revert_conserves (dt : DirectTradeData AccountId Hash) (s : State AccountId Hash) :
    Conserves s (dt.revert cfg s) := by
  unfold revert
  induction dt.transfers generalizing s with
  | nil => exact .refl _
  | cons t ts ih =>
      have hone : Conserves s
          (s.setLedger (cfg.currency.unreserve t.asset t.source t.amount s.ledger)) :=
        ⟨Currency.unreserve_moves, rfl⟩
      exact hone.trans (ih _)

end DirectTradeData

/-! ## Finalizing -/

theorem resolveMatched_settling
    (h : resolveMatched cfg pairAccount intention (s, copy) matched = .ok (s', copy')) :
    Settling cfg s s' := by
  cases resolveMatched_ok h with
  | refused failed error hnone =>
      exact (sendIntentionErrorEvent_conserves failed error s).settling
  | unreserved scenario fromA fromB dt s₁ hprep hp =>
      exact ((DirectTradeData.prepare_conserves rfl hp).trans
        (DirectTradeData.revert_conserves dt s₁)).settling
  | ammFailed scenario fromA fromB dt s₁ error hprep hp hamm =>
      exact (((DirectTradeData.prepare_conserves rfl hp).trans
        (sendIntentionErrorEvent_conserves matched error s₁)).trans
          (DirectTradeData.revert_conserves dt _)).settling
  | executed scenario fromA fromB dt s₁ s₂ _ _ hprep hp hamm hex hcopy =>
      exact ((DirectTradeData.prepare_conserves rfl hp).settling.trans (ammLeg_settling hamm)).trans
        (DirectTradeData.execute_conserves hex).settling

theorem resolveMatchedIntentions_settling {bvec : List (Intention AccountId Hash)}
    (h : resolveMatchedIntentions cfg pairAccount intention bvec s = .ok s') :
    Settling cfg s s' := by
  obtain ⟨⟨s₁, copy⟩, hloop, h⟩ := Fallible.bind_eq_ok.mp h
  have hs₁ : Settling cfg s s₁ :=
    Fallible.foldlM_rel (R := fun sc sc' => Settling cfg sc.1 sc'.1) (fun sc => .refl sc.1)
      (fun _ _ _ => Settling.trans) (fun _ _ _ hm => resolveMatched_settling hm) hloop
  cases h
  split_ifs
  · exact hs₁.trans (resolveSingleIntention_settling copy s₁)
  · exact hs₁

theorem Work.run_settling {w : Work AccountId Hash} (h : w.run cfg s = .ok s') :
    Settling cfg s s' := by
  cases w with
  | verify i ok =>
      cases h
      unfold verifyIntention
      cases validateIntention cfg i s with
      | error error => exact (sendIntentionErrorEvent_conserves i error s).settling
      | ok t => exact .refl s
  | matched account i bvec => exact resolveMatchedIntentions_settling h
  | single i =>
      cases h
      exact resolveSingleIntention_settling i s

/-- **Finalizing a block settles AMM trades** and issues or destroys nothing besides. -/
theorem onFinalize_settles (h : onFinalize cfg s = .ok s') : ∃ trades, Settles cfg s trades s' := by
  obtain ⟨t, log, hlog, rfl⟩ := onFinalize_iff_log.mp h
  have hrun := (finalizeLog_logs hlog).run
  obtain ⟨trades, htrades⟩ : Settling cfg s t :=
    Fallible.foldlM_rel (f := Work.run cfg) Settling.refl (fun _ _ _ => Settling.trans)
      (fun _ _ _ hw => Work.run_settling hw) hrun
  exact ⟨trades, .other htrades ⟨.refl _, rfl⟩⟩

end Exchange

end HydraDX
