import HydraDX.Exchange.History

set_option autoImplicit false

/-! # What is reported about an intention

An intention should not disappear without a trace: finalizing the block trades it, or reports why
it did not. The exits of the resolver that report something report it for one of the two
intentions of an iteration. The main intention is processed to the end in any case. A matched one
is not looked at again, so it is lost where the iteration for it reports the main intention, or
nothing at all:

* the amounts match exactly, and the trade is outside the limit of the main intention;
* the main account does not have what it is to give;
* one of the four reservations fails, or a fee cannot be computed.

`MatchedReported` says that none of these happens. -/

namespace HydraDX.Exchange

open Fallible

variable {AccountId Hash : Type}

/-! ## Preparing a direct trade -/

namespace DirectTradeData

variable [DecidableEq AccountId]

/-- Both amounts can be reserved, the fees can be computed, and both can be reserved then. -/
def Reservable (cfg : Config AccountId Hash) (dt : DirectTradeData AccountId Hash)
    (s : State AccountId Hash) : Prop :=
  ∃ s₁ s₂ s₃ s₄ feeA feeB,
    reserveIfCan cfg dt.intentionA.assets.assetIn dt.intentionA.who dt.amountFromA s = some s₁ ∧
    reserveIfCan cfg dt.intentionA.assets.assetOut dt.intentionB.who dt.amountFromB s₁ = some s₂ ∧
    justFee dt.amountFromA Fee.default = some feeA ∧
    justFee dt.amountFromB Fee.default = some feeB ∧
    reserveIfCan cfg (dt.feePayments feeA feeB).1.asset (dt.feePayments feeA feeB).1.who
      (dt.feePayments feeA feeB).1.amount s₂ = some s₃ ∧
    reserveIfCan cfg (dt.feePayments feeA feeB).2.asset (dt.feePayments feeA feeB).2.who
      (dt.feePayments feeA feeB).2.amount s₃ = some s₄

variable {cfg : Config AccountId Hash} {dt dt' : DirectTradeData AccountId Hash}
  {poolAccount : AccountId} {s s' : State AccountId Hash} {ok : Bool}

theorem reserveIfCan_events {asset : AssetId} {who : AccountId} {amount : Nat}
    (h : reserveIfCan cfg asset who amount s = some s') : s'.events = s.events := by
  rw [(reserveIfCan_eq_some h).2]
  rfl

theorem AmountsReserved.events {s₁ s₂ : State AccountId Hash}
    (h : AmountsReserved cfg dt s s₁ s₂) : s₂.events = s.events :=
  (reserveIfCan_events h.second).trans (reserveIfCan_events h.first)

/-- Where the main account lacks balance, this is reported for the main intention, -/
theorem prepare_lacks_main
    (hA : s.ledger.free dt.intentionA.assets.assetIn dt.intentionA.who < dt.amountFromA) :
    dt.prepare cfg poolAccount s
      = (false, dt, sendInsufficientBalanceEvent dt.intentionA dt.intentionA.assets.assetIn s) := by
  rw [prepare, if_pos hA]

/-- where the matched one does, for the matched one, -/
theorem prepare_lacks_matched
    (hA : dt.amountFromA ≤ s.ledger.free dt.intentionA.assets.assetIn dt.intentionA.who)
    (hB : s.ledger.free dt.intentionA.assets.assetOut dt.intentionB.who < dt.amountFromB) :
    dt.prepare cfg poolAccount s
      = (false, dt, sendInsufficientBalanceEvent dt.intentionB dt.intentionA.assets.assetOut s) := by
  rw [prepare, if_neg (Nat.not_lt.mpr hA), if_pos hB]

/-- and from there on nothing is reported. -/
theorem prepare_iff_reservable
    (hA : dt.amountFromA ≤ s.ledger.free dt.intentionA.assets.assetIn dt.intentionA.who)
    (hB : dt.amountFromB ≤ s.ledger.free dt.intentionA.assets.assetOut dt.intentionB.who)
    (h : dt.prepare cfg poolAccount s = (ok, dt', s')) :
    (ok = true ↔ dt.Reservable cfg s) ∧ s'.events = s.events := by
  cases prepare_run h with
  | lacksMain hlA => exact absurd hA (Nat.not_le_of_lt hlA)
  | lacksMatched hlB => exact absurd hB (Nat.not_le_of_lt hlB)
  | amountARefused hrA =>
      refine ⟨iff_of_false Bool.false_ne_true ?_, rfl⟩
      rintro ⟨s₁, _, _, _, _, _, hrA', -⟩
      cases hrA.symm.trans hrA'
  | amountBRefused _ _ hrA hrB =>
      refine ⟨iff_of_false Bool.false_ne_true ?_, reserveIfCan_events hrA⟩
      rintro ⟨s₁, s₂, _, _, _, _, hrA', hrB', -⟩
      cases hrA.symm.trans hrA'
      cases hrB.symm.trans hrB'
  | noFees _ _ hr hnone =>
      refine ⟨iff_of_false Bool.false_ne_true ?_, hr.events⟩
      rintro ⟨_, _, _, _, feeA, feeB, -, -, hfA, hfB, -⟩
      exact hnone feeA feeB ⟨hfA, hfB⟩
  | feeARefused _ _ _ _ hr hf hr₃ =>
      refine ⟨iff_of_false Bool.false_ne_true ?_, hr.events⟩
      rintro ⟨_, _, _, _, _, _, hrA', hrB', hfA, hfB, hr₃', -⟩
      cases hr.first.symm.trans hrA'
      cases hr.second.symm.trans hrB'
      cases hf.first.symm.trans hfA
      cases hf.second.symm.trans hfB
      cases hr₃.symm.trans hr₃'
  | feeBRefused _ _ _ _ _ hr hf hr₃ hr₄ =>
      refine ⟨iff_of_false Bool.false_ne_true ?_, (reserveIfCan_events hr₃).trans hr.events⟩
      rintro ⟨_, _, _, _, _, _, hrA', hrB', hfA, hfB, hr₃', hr₄'⟩
      cases hr.first.symm.trans hrA'
      cases hr.second.symm.trans hrB'
      cases hf.first.symm.trans hfA
      cases hf.second.symm.trans hfB
      cases hr₃.symm.trans hr₃'
      cases hr₄.symm.trans hr₄'
  | prepared s₁ s₂ s₃ _ feeA feeB hr hf hr₃ hr₄ =>
      refine ⟨iff_of_true rfl ?_, ?_⟩
      · exact ⟨s₁, s₂, s₃, s', feeA, feeB, hr.first, hr.second, hf.first, hf.second, hr₃, hr₄⟩
      · rw [reserveIfCan_events hr₄, reserveIfCan_events hr₃, hr.events]

end DirectTradeData

/-! ## Traces -/

section Traces

variable [DecidableEq Hash] {id : Hash} {i : Intention AccountId Hash}
  {s s' : State AccountId Hash}

/-- Something has become of the intention, and if nothing is reported about it, a trade was made
for it. -/
def NotLost (i : Intention AccountId Hash) (s : State AccountId Hash) : Prop :=
  history i.intentionId s ≠ [] ∧
  ((∀ e ∈ history i.intentionId s, isReport e = false) →
    ∃ e ∈ history i.intentionId s, isTrade e = true)

/-- An event about an intention is a report or a trade. -/
theorem isReport_or_isTrade {e : Event AccountId Hash} (h : concerns id e = true) :
    isReport e = true ∨ isTrade e = true := by
  cases e with
  | IntentionResolvedAMMTrade => exact Or.inr rfl
  | IntentionResolvedDirectTrade => exact Or.inr rfl
  | InsufficientAssetBalanceEvent => exact Or.inl rfl
  | IntentionResolveErrorEvent => exact Or.inl rfl
  | _ => cases h

theorem notLost_iff : NotLost i s ↔ history i.intentionId s ≠ [] := by
  refine ⟨And.left, fun h => ⟨h, fun hquiet => ?_⟩⟩
  obtain ⟨e, he⟩ := List.exists_mem_of_ne_nil _ h
  refine ⟨e, he, (isReport_or_isTrade (List.mem_filter.mp he).2).resolve_left ?_⟩
  rw [hquiet e he]
  exact Bool.false_ne_true

theorem history_ne_nil {e : Event AccountId Hash} (he : e ∈ s.events)
    (hc : concerns id e = true) : history id s ≠ [] :=
  List.ne_nil_of_mem (List.mem_filter.mpr ⟨he, hc⟩)

/-- A trace is not lost again. -/
theorem AddsFor.history_ne_nil {ids : List Hash} (h : AddsFor ids s s')
    (hne : history id s ≠ []) : history id s' ≠ [] := by
  obtain ⟨E, hE, -⟩ := h
  rw [history, hE, List.filter_append]
  exact fun hnil => hne (List.append_eq_nil_iff.mp hnil).1

theorem sendIntentionErrorEvent_trace (i : Intention AccountId Hash) (error : DispatchError)
    (s : State AccountId Hash) : history i.intentionId (sendIntentionErrorEvent i error s) ≠ [] :=
  history_ne_nil (List.mem_append_right _ (List.mem_singleton_self _)) (decide_eq_true rfl)

theorem sendInsufficientBalanceEvent_trace (i : Intention AccountId Hash) (asset : AssetId)
    (s : State AccountId Hash) :
    history i.intentionId (DirectTradeData.sendInsufficientBalanceEvent i asset s) ≠ [] :=
  history_ne_nil (List.mem_append_right _ (List.mem_singleton_self _)) (decide_eq_true rfl)

/-- The AMM trades an intention or reports it. -/
theorem resolveSingleIntention_trace [DecidableEq AccountId] (cfg : Config AccountId Hash)
    (i : Intention AccountId Hash) (s : State AccountId Hash) :
    history i.intentionId (resolveSingleIntention cfg i s) ≠ [] := by
  rcases resolveSingleIntention_cases cfg i s with ⟨error, h⟩ | ⟨t, -, h⟩
  · rw [h]
    exact sendIntentionErrorEvent_trace i error s
  · rw [h]
    refine history_ne_nil (e := .IntentionResolvedAMMTrade t.origin i.sellOrBuy i.intentionId
      t.amount t.amountOut) (List.mem_append_right _ ?_) (decide_eq_true rfl)
    exact List.mem_cons_of_mem _ (List.mem_singleton_self _)

end Traces

/-! ## The iteration for a matched intention -/

section Iteration

variable [DecidableEq AccountId] (cfg : Config AccountId Hash)

/-- The iteration leaves a trace of the matched intention: the limit of the main intention does
not turn an exact match away, and if a direct trade is prepared, the main account has what it is
to give, and all can be reserved, unless the matched account does not have what it is to give. -/
def MatchedReported : IterationCond AccountId Hash :=
  fun _ intention sc matched => ¬ ExceedsMain intention sc.2 matched ∧
    ∀ scenario fromA fromB, Prepares cfg intention sc.1 sc.2 matched scenario fromA fromB →
      fromA ≤ sc.1.ledger.free sc.2.assets.assetIn sc.2.who ∧
      (fromB ≤ sc.1.ledger.free sc.2.assets.assetOut matched.who →
        (directTrade sc.2 matched fromA fromB).Reservable cfg sc.1)

variable {cfg} {s s' : State AccountId Hash} {pairAccount : AccountId}
  {i copy copy' m : Intention AccountId Hash} {scenario : Scenario AccountId} {fromA fromB : Nat}

theorem Prepares.not_exceedsMain (h : Prepares cfg i s copy m scenario fromA fromB) :
    ¬ ExceedsMain i copy m := by
  rintro ⟨heq, hexceeds⟩
  cases h with
  | complete hlt _ => omega
  | split _ _ hlt _ _ _ _ => omega
  | exactMatch _ hmain _ =>
      rw [hmain] at hexceeds
      cases hexceeds

/-- The condition, where it is known which trade is prepared. -/
theorem Prepares.reported_iff (h : Prepares cfg i s copy m scenario fromA fromB) :
    MatchedReported cfg pairAccount i (s, copy) m ↔
      fromA ≤ s.ledger.free copy.assets.assetIn copy.who ∧
      (fromB ≤ s.ledger.free copy.assets.assetOut m.who →
        (directTrade copy m fromA fromB).Reservable cfg s) := by
  constructor
  · intro hr
    exact hr.2 scenario fromA fromB h
  · intro hr
    refine ⟨h.not_exceedsMain, fun scenario' fromA' fromB' h' => ?_⟩
    obtain ⟨-, rfl, rfl⟩ := h'.unique h
    exact hr

/-- A preparation that succeeds has found the balances and made the reservations. -/
theorem Prepares.reported_of_prepared {dt : DirectTradeData AccountId Hash}
    (h : Prepares cfg i s copy m scenario fromA fromB)
    (hp : (directTrade copy m fromA fromB).prepare cfg pairAccount s = (true, dt, s')) :
    MatchedReported cfg pairAccount i (s, copy) m := by
  by_cases hA : s.ledger.free copy.assets.assetIn copy.who < fromA
  · rw [DirectTradeData.prepare_lacks_main hA] at hp
    cases hp
  · by_cases hB : s.ledger.free copy.assets.assetOut m.who < fromB
    · rw [DirectTradeData.prepare_lacks_matched (Nat.le_of_not_lt hA) hB] at hp
      cases hp
    · obtain ⟨hiff, -⟩ :=
        DirectTradeData.prepare_iff_reservable (Nat.le_of_not_lt hA) (Nat.le_of_not_lt hB) hp
      exact h.reported_iff.mpr ⟨Nat.le_of_not_lt hA, fun _ => hiff.mp rfl⟩

variable [DecidableEq Hash]

theorem revert_history (id : Hash) (dt : DirectTradeData AccountId Hash)
    (s : State AccountId Hash) : history id (dt.revert cfg s) = history id s := by
  rw [DirectTradeData.revert_eq]
  rfl

/-- An executed trade is a trace of both intentions. -/
theorem Traded.trace {id : Hash}
    (h : Traded cfg pairAccount i s copy m scenario fromA fromB s' copy')
    (hid : copy.intentionId = id ∨ m.intentionId = id) : history id s' ≠ [] := by
  obtain ⟨fees, -, hevents⟩ := h.events
  refine history_ne_nil (e := .IntentionResolvedDirectTrade copy.who m.who copy.intentionId
    m.intentionId fromA fromB) ?_ (decide_eq_true hid)
  rw [hevents]
  exact List.mem_append_right _ List.mem_cons_self

/-- A preparation that fails leaves a trace of the matched intention exactly if it is the one that
lacks balance. -/
theorem Prepares.reported_iff_of_not_prepared {dt : DirectTradeData AccountId Hash}
    (h : Prepares cfg i s copy m scenario fromA fromB)
    (hfresh : history m.intentionId s = []) (hne : copy.intentionId ≠ m.intentionId)
    (hp : (directTrade copy m fromA fromB).prepare cfg pairAccount s = (false, dt, s')) :
    history m.intentionId s' ≠ [] ↔ MatchedReported cfg pairAccount i (s, copy) m := by
  rw [h.reported_iff]
  by_cases hA : s.ledger.free copy.assets.assetIn copy.who < fromA
  · -- reported for the main intention
    rw [DirectTradeData.prepare_lacks_main hA] at hp
    cases hp
    have hsame : history m.intentionId
        (DirectTradeData.sendInsufficientBalanceEvent copy copy.assets.assetIn s) = [] := by
      show (s.events ++ [_]).filter (concerns m.intentionId) = []
      rw [List.filter_append, ← history, hfresh, List.nil_append, List.filter_eq_nil_iff]
      intro e he hc
      rw [List.mem_singleton.mp he] at hc
      exact hne (of_decide_eq_true hc)
    refine iff_of_false (fun hnil => hnil hsame) fun hr => ?_
    omega
  · by_cases hB : s.ledger.free copy.assets.assetOut m.who < fromB
    · rw [DirectTradeData.prepare_lacks_matched (Nat.le_of_not_lt hA) hB] at hp
      cases hp
      refine iff_of_true (sendInsufficientBalanceEvent_trace m _ s) ⟨Nat.le_of_not_lt hA, ?_⟩
      intro hle
      omega
    · obtain ⟨hiff, hevents⟩ :=
        DirectTradeData.prepare_iff_reservable (Nat.le_of_not_lt hA) (Nat.le_of_not_lt hB) hp
      refine iff_of_false (fun hnil => hnil ?_) fun hr => ?_
      · rw [history, hevents]
        exact hfresh
      · cases hiff.mpr (hr.2 (Nat.le_of_not_lt hB))

/-- An iteration that prepares no trade reports the matched intention, except where it reports
the main one. -/
theorem refused_reported_iff (hfresh : history m.intentionId s = [])
    (hne : i.intentionId ≠ m.intentionId)
    (hnone : ∀ scenario fromA fromB, ¬ Prepares cfg i s copy m scenario fromA fromB)
    (h : resolveMatched cfg pairAccount i (s, copy) m = .ok (s', copy')) :
    history m.intentionId s' ≠ [] ↔ MatchedReported cfg pairAccount i (s, copy) m := by
  have hiff : MatchedReported cfg pairAccount i (s, copy) m ↔ ¬ ExceedsMain i copy m :=
    ⟨And.left, fun hnot => ⟨hnot, fun a b c hprep => absurd hprep (hnone a b c)⟩⟩
  rw [hiff]
  rcases resolveMatched_of_not_prepares pairAccount hnone with
    ⟨failed, error, hor, heq⟩ | ⟨_, _, -, -, -, -, heq⟩
  · rw [heq] at h
    cases h
    rcases hor with ⟨rfl, hexceeds⟩ | ⟨rfl, hfits⟩
    · refine iff_of_false (fun hnil => hnil ?_) fun hnot => hnot hexceeds
      rw [(sendIntentionErrorEvent_addsFor failed error s).history_eq, hfresh]
      rw [List.mem_singleton]
      exact hne.symm
    · exact iff_of_true (sendIntentionErrorEvent_trace failed error s) hfits
  · rw [heq] at h
    cases h

/-- **One iteration**: it leaves a trace of the matched intention exactly if it meets the
condition. -/
theorem resolveMatched_reported_iff (hfresh : history m.intentionId s = [])
    (hcopy : CopyOf i copy) (hne : i.intentionId ≠ m.intentionId)
    (h : resolveMatched cfg pairAccount i (s, copy) m = .ok (s', copy')) :
    history m.intentionId s' ≠ [] ↔ MatchedReported cfg pairAccount i (s, copy) m := by
  have hne' : copy.intentionId ≠ m.intentionId := by
    rw [hcopy.intentionId]
    exact hne
  cases resolveMatched_ok h with
  | refused failed error hnone => exact refused_reported_iff hfresh hne hnone h
  | unreserved scenario fromA fromB dt s₁ hprep hp =>
      rw [revert_history]
      exact hprep.reported_iff_of_not_prepared hfresh hne' hp
  | ammFailed scenario fromA fromB dt s₁ error hprep hp hamm =>
      refine iff_of_true ?_ (hprep.reported_of_prepared hp)
      rw [revert_history]
      exact sendIntentionErrorEvent_trace m error s₁
  | executed scenario fromA fromB dt s₁ s₂ _ _ hprep hp hamm hex hnext =>
      refine iff_of_true ?_ (hprep.reported_of_prepared hp)
      exact (Traded.of_executed hprep hp hamm hex hnext).trace (Or.inr rfl)

end Iteration

/-! ## A block -/

section Block

variable [DecidableEq AccountId] (cfg : Config AccountId Hash)

/-- The iteration for `m` as a matched intention, if there is one, meets `P` when the block is
finalized from `s`. -/
def MatchedIteration (P : IterationCond AccountId Hash) (s : State AccountId Hash)
    (m : Intention AccountId Hash) : Prop :=
  ∀ t before pairAccount main pre post after s₁ s₂ copy,
    finalizeLog cfg s = .ok (t, before ++ .matched pairAccount main (pre ++ m :: post) :: after) →
    before.foldlM (Work.run cfg) s = .ok s₁ →
    pre.foldlM (resolveMatched cfg pairAccount main) (s₁, main) = .ok (s₂, copy) →
      P pairAccount main (s₂, copy) m

variable {cfg} [DecidableEq Hash] {s t : State AccountId Hash} {key : AssetId × AssetId}
  {pairAccount : AccountId} {main i m : Intention AccountId Hash}
  {pre post : List (Intention AccountId Hash)} {log before after : List (Work AccountId Hash)}

/-- A matched intention: the block, cut at the iteration for it. -/
theorem matched_reported_iff (hs : Registering cfg s) (hfresh : history m.intentionId s = [])
    (hlog : finalizeLog cfg s
      = .ok (t, before ++ .matched pairAccount main (pre ++ m :: post) :: after)) :
    ∃ s₁ s₂ copy, before.foldlM (Work.run cfg) s = .ok s₁ ∧
      pre.foldlM (resolveMatched cfg pairAccount main) (s₁, main) = .ok (s₂, copy) ∧
      (history m.intentionId t ≠ [] ↔ MatchedReported cfg pairAccount main (s₂, copy) m) := by
  have hm : m ∈ (Work.matched pairAccount main (pre ++ m :: post)).intentions :=
    List.mem_cons_of_mem _ (List.mem_append_right _ List.mem_cons_self)
  obtain ⟨s₁, s₃, hbefore, hrun, -, -, hids, hsame, hsame'⟩ :=
    (finalizeLog_logs hlog).cut (hs.registered.processed_nodup cfg) hm
  obtain ⟨s₂, copy, s₄, copy', hpre, hstep, hcopy, hne, hcut, hcut'⟩ := Work.cut_matched hids hrun
  refine ⟨s₁, s₂, copy, hbefore, hpre, ?_⟩
  rw [hsame', hcut']
  exact resolveMatched_reported_iff (by rw [hcut, hsame, hfresh]) hcopy hne hstep

/-- In the iterations, a main intention is traded or stays as it is. -/
theorem resolveLoop_trace {s s' : State AccountId Hash} {copy : Intention AccountId Hash}
    {bvec : List (Intention AccountId Hash)}
    (h : bvec.foldlM (resolveMatched cfg pairAccount i) (s, i) = .ok (s', copy)) :
    CopyOf i copy ∧ (copy.amountIn = i.amountIn ∨ history i.intentionId s' ≠ []) := by
  refine foldlM_induction (I := fun sc _ => CopyOf i sc.2 ∧
    (sc.2.amountIn = i.amountIn ∨ history i.intentionId sc.1 ≠ [])) (fun sc m rest sc' hI hstep => ?_)
    ⟨CopyOf.refl i, Or.inl rfl⟩ h
  obtain ⟨hcopy, htrace⟩ := hI
  refine ⟨resolveMatched_copyOf hcopy hstep, ?_⟩
  rcases resolveMatched_cases hstep with ⟨scenario, fromA, fromB, ht⟩ | ⟨-, hn⟩
  · exact Or.inr (ht.trace (Or.inl hcopy.intentionId))
  · rcases htrace with hsame | htrace
    · rw [hn.copy_eq]
      exact Or.inl hsame
    · exact Or.inr ((resolveMatched_addsFor hcopy.intentionId hstep).history_ne_nil htrace)

/-- A main intention is not lost. -/
theorem main_trace (hs : Registering cfg s) (hfresh : history i.intentionId s = [])
    (hlog : finalizeLog cfg s = .ok (t, log)) (hi : i ∈ s.intentions key) (hlt : key.2 < key.1) :
    history i.intentionId t ≠ [] := by
  rcases main_group_verified hs hfresh hlog hi hlt with hv | ⟨error, herror⟩
  · obtain ⟨before, pairAccount, bvec, after, rfl⟩ := resolved_of_valid hlog hv
    obtain ⟨s₁, s₂, copy, -, hloop, -, -, -, hsame⟩ := main_group_resolved hs hfresh hlog
    obtain ⟨hcopy, htrace⟩ := resolveLoop_trace hloop
    rw [hsame]
    by_cases hleft : copy.amountIn > 0
    · rw [if_pos hleft, ← hcopy.intentionId]
      exact resolveSingleIntention_trace cfg copy s₂
    · -- nothing is left, and there was something to begin with
      rw [if_neg hleft]
      refine htrace.resolve_left fun hsame => ?_
      have hpos := (hs.amounts key i hi).1
      omega
  · rw [herror]
    exact List.cons_ne_nil _ _

/-- An intention that is resolved by itself is not lost. -/
theorem single_trace (hs : Registering cfg s)
    (hlog : finalizeLog cfg s = .ok (t, before ++ .single i :: after)) :
    history i.intentionId t ≠ [] := by
  obtain ⟨s₁, s₂, -, hrun, -, -, -, -, hsame⟩ :=
    (finalizeLog_logs hlog).cut (hs.registered.processed_nodup cfg) (List.mem_singleton_self i)
  cases hrun
  rw [hsame]
  exact resolveSingleIntention_trace cfg i s₁

/-- **No intention disappears silently, exactly if the iteration for it reports it.** Finalizing a
block leaves a trace of every intention that is not matched, and of a matched one exactly if its
iteration meets `MatchedReported`. -/
theorem not_lost_iff (cfg : Config AccountId Hash) (hseeds : XYK.SeedsInjective cfg)
    (s₀ s s' : State AccountId Hash) (hstart : BlockStart s₀) (hself : XYK.NoSelfPool cfg s₀)
    (hrun : BlockRuns cfg (Identifies cfg) s₀ s) (h : onFinalize cfg s = .ok s') :
    ∀ key, ∀ i ∈ s.intentions key,
      (NotLost i s' ↔ MatchedIteration cfg (MatchedReported cfg) s i) := by
  have hs := registering_of_blockRuns hseeds hstart hself hrun
  have hfresh := history_of_blockRuns hstart hrun
  obtain ⟨t, log, hlog, rfl⟩ := onFinalize_iff_log.mp h
  intro key i hi
  rw [notLost_iff]
  show history i.intentionId t ≠ [] ↔ _
  constructor
  · intro htrace t' before pairAccount main pre post after s₁ s₂ copy hlog' hbefore hpre
    rw [hlog'] at hlog
    cases hlog
    obtain ⟨s₁', s₂', copy', hbefore', hpre', hiff⟩ := matched_reported_iff hs (hfresh _) hlog'
    rw [hbefore] at hbefore'
    cases hbefore'
    rw [hpre] at hpre'
    cases hpre'
    exact hiff.mp htrace
  · intro hall
    rcases hs.processed hi with ⟨-, hmem⟩ | ⟨hlt, -⟩
    · -- the second group: matched with a main intention, or resolved by itself
      rw [← (finalizeLog_logs hlog).others] at hmem
      obtain ⟨w, hw, hiw⟩ := List.mem_flatMap.mp hmem
      obtain ⟨before, after, rfl⟩ := List.append_of_mem hw
      cases w with
      | verify j ok => cases hiw
      | single j =>
          obtain rfl := List.mem_singleton.mp hiw
          exact single_trace hs hlog
      | matched pairAccount main bvec =>
          obtain ⟨pre, post, rfl⟩ := List.append_of_mem hiw
          obtain ⟨s₁, s₂, copy, hbefore, hpre, hiff⟩ := matched_reported_iff hs (hfresh _) hlog
          exact hiff.mpr (hall t before pairAccount main pre post after s₁ s₂ copy hlog hbefore hpre)
    · exact main_trace hs (hfresh _) hlog hi hlt

end Block

/-! ### A buyer who cannot pay the fee -/

/-- `[2]` sells 1000 of asset `2`, and `[3]`, who has `balance` of asset `1`, buys them for as
many. -/
def tightBuyer (balance : Nat) : Except Failure (State Dev.AccountId Dev.Hash) :=
  Dev.after (Dev.genesis [(1, [1], 1000000), (2, [1], 1000000), (1, [2], 10000), (2, [2], 10000),
      (1, [3], balance)])
    [.xyk (.createPool [1] 1 2 500000 (10 ^ 18)), .sell [2] 2 1 1000 1 false,
      .buy [3] 2 1 1000 2000 false]

/-- `[3]` has just what it is to pay. The fee of `2` cannot be reserved, and the buy is gone. -/
theorem buy_disappears :
    Succeeds (tightBuyer 1000) fun s => Succeeds (onFinalize Dev.cfg s) fun s' =>
      ∃ i ∈ s.intentions (1, 2), i.who = [3] ∧ history i.intentionId s' = [] ∧
        s'.ledger.free 1 [3] = 1000 ∧ s'.ledger.free 2 [3] = 0 := by
  decide +kernel

/-- With enough for the fee it is traded. -/
theorem not_lost_iff_tightBuyer :
    Succeeds (tightBuyer 1100) fun s => Succeeds (onFinalize Dev.cfg s) fun s' =>
      ∃ i ∈ s.intentions (1, 2), i.who = [3] ∧ NotLost i s' ∧
        MatchedIteration Dev.cfg (MatchedReported Dev.cfg) s i := by
  have hok : Succeeds (tightBuyer 1100) fun s => Succeeds (onFinalize Dev.cfg s) fun s' =>
      ∃ i ∈ s.intentions (1, 2), i.who = [3] ∧ history i.intentionId s' ≠ [] := by
    decide +kernel
  obtain ⟨s, hs, s', hs', i, hi, hwho, htrace⟩ := hok
  have hnot := notLost_iff.mpr htrace
  have hiff := not_lost_iff Dev.cfg Dev.seedsInjective _ s s'
    (Dev.blockStart _) (Dev.noSelfPool _) (Runs.of_foldlM (fun _ e => Dev.identifies e) hs) hs' _ i hi
  exact ⟨s, hs, s', hs', i, hi, hwho, hnot, hiff.mp hnot⟩

end HydraDX.Exchange
