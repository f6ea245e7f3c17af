import HydraDX.Exchange.History

set_option autoImplicit false

/-! # What a sell gives

Over all its direct trades and AMM trades a sell gives at most the amount it offers. One of the
second group gives all of it or nothing. A main one gives what is not left of its copy after the
iterations, and the rest by its AMM trade: all of it, unless that trade is refused. -/

namespace HydraDX.Exchange

open Tally Fallible

variable {AccountId Hash : Type}

/-- What the intention `id` gave and got by the event, if it is a direct trade. -/
def directFlow [DecidableEq Hash] (id : Hash) : Event AccountId Hash → Nat × Nat
  | .IntentionResolvedDirectTrade _ _ idA idB fromA fromB =>
      (if idA = id then (fromA, fromB) else 0) + (if idB = id then (fromB, fromA) else 0)
  | _ => 0

/-- The AMM makes no trade for the intention: it does not validate it, or the validated trade
fails. -/
def AmmRefuses [DecidableEq AccountId] (cfg : Config AccountId Hash)
    (i : Intention AccountId Hash) (s : State AccountId Hash) : Prop :=
  ∀ transfer, validateIntention cfg i s = .ok transfer →
    ∀ s', executeAmmTransfer cfg i.sellOrBuy i.intentionId transfer s ≠ .ok s'

section Direct

variable [DecidableEq Hash]

theorem directFlow_eq_zero {id : Hash} {e : Event AccountId Hash} (h : concerns id e = false) :
    directFlow id e = 0 := by
  cases e with
  | IntentionResolvedDirectTrade whoA whoB idA idB fromA fromB =>
      obtain ⟨hA, hB⟩ := not_or.mp (of_decide_eq_false h)
      simp [directFlow, hA, hB]
  | _ => rfl

theorem directFlow_report {id : Hash} {e : Event AccountId Hash} (h : isReport e = true) :
    directFlow id e = 0 := by
  cases e with
  | IntentionResolvedDirectTrade => cases h
  | _ => rfl

theorem tally_directFlow_legEvents (id : Hash) (m : Intention AccountId Hash)
    (scenario : Scenario AccountId) : tally directFlow id (legEvents m scenario) = 0 := by
  cases scenario with
  | split t => cases hb : m.sellOrBuy <;> simp [tally, legEvents, tradedEvents, directFlow, hb]
  | complete => rfl
  | exactMatch => rfl

variable [DecidableEq AccountId] {cfg : Config AccountId Hash} {s s' : State AccountId Hash}
  {pairAccount : AccountId} {i copy copy' matched : Intention AccountId Hash}

theorem Traded.directFlow_eq {scenario : Scenario AccountId} {fromA fromB : Nat}
    (h : Traded cfg pairAccount i s copy matched scenario fromA fromB s' copy') (id : Hash) :
    tally directFlow id s'.events = tally directFlow id s.events +
      ((if copy.intentionId = id then (fromA, fromB) else 0) +
        if matched.intentionId = id then (fromB, fromA) else 0) := by
  obtain ⟨fees, hfees, hevents⟩ := h.events
  have hzero : tally directFlow id fees = 0 := by
    refine tally_eq_zero fun e he => ?_
    obtain ⟨_, _, _, _, _, rfl⟩ := hfees e he
    rfl
  rw [hevents, tally_append, tally_append, tally_cons, hzero, tally_directFlow_legEvents, add_zero,
    add_zero, directFlow]

/-- In the iterations the main intention has direct trades only. -/
theorem resolveLoop_direct {bvec : List (Intention AccountId Hash)} (hcopy : CopyOf i copy)
    (hne : ∀ m ∈ bvec, m.intentionId ≠ i.intentionId)
    (hs : tally flow i.intentionId s.events = tally directFlow i.intentionId s.events)
    (h : bvec.foldlM (resolveMatched cfg pairAccount i) (s, copy) = .ok (s', copy')) :
    tally flow i.intentionId s'.events = tally directFlow i.intentionId s'.events := by
  refine (foldlM_induction
    (I := fun sc rest => (∀ m ∈ rest, m.intentionId ≠ i.intentionId) ∧ CopyOf i sc.2 ∧
      tally flow i.intentionId sc.1.events = tally directFlow i.intentionId sc.1.events)
    (fun sc m rest sc' hI hstep => ?_) ⟨hne, hcopy, hs⟩ h).2.2
  obtain ⟨hne, hcopy, heq⟩ := hI
  refine ⟨fun m' hm' => hne m' (List.mem_cons_of_mem m hm'), resolveMatched_copyOf hcopy hstep, ?_⟩
  have hm : m.intentionId ≠ i.intentionId := hne m List.mem_cons_self
  rcases resolveMatched_cases hstep with ⟨scenario, fromA, fromB, ht⟩ | ⟨-, hn⟩
  · rw [ht.tally_eq, ht.directFlow_eq, if_neg hm, if_neg hm, heq]
  · obtain ⟨reports, hreports, hevents⟩ := hn.events
    have hzero : tally directFlow i.intentionId reports = 0 :=
      tally_eq_zero fun e he => directFlow_report (hreports e he)
    rw [hevents, tally_reports reports hreports, tally_append, hzero, add_zero, heq]

end Direct

section Amm

variable [DecidableEq AccountId] {cfg : Config AccountId Hash} {s : State AccountId Hash}
  {i : Intention AccountId Hash}

theorem resolveSingleIntention_refused (h : AmmRefuses cfg i s) :
    ∃ error, resolveSingleIntention cfg i s = sendIntentionErrorEvent i error s := by
  unfold resolveSingleIntention
  cases hv : validateIntention cfg i s with
  | error error => exact ⟨error, rfl⟩
  | ok transfer =>
      simp only
      cases he : executeAmmTransfer cfg i.sellOrBuy i.intentionId transfer s with
      | error error => exact ⟨error, rfl⟩
      | ok s' => exact absurd he (h transfer hv s')

theorem resolveSingleIntention_accepted (h : ¬ AmmRefuses cfg i s) :
    ∃ transfer, validateIntention cfg i s = .ok transfer ∧
      (resolveSingleIntention cfg i s).events
        = s.events ++ tradedEvents i.sellOrBuy i.intentionId transfer := by
  simp only [AmmRefuses, not_forall, not_not] at h
  obtain ⟨transfer, hv, s', he⟩ := h
  refine ⟨transfer, hv, ?_⟩
  unfold resolveSingleIntention
  rw [hv]
  simp only [he]
  rw [executeAmmTransfer_ok he]

end Amm

section Sells

variable [DecidableEq AccountId]

/-- Sells, with what is left of the amount of the main one. -/
theorem spendingRule (cfg : Config AccountId Hash) :
    SettlementRule cfg (fun _ _ _ _ => True) (fun _ => True)
      (fun i τ => i.sellOrBuy = .SELL → τ.1 ≤ i.amountIn)
      (fun i copy τ => i.sellOrBuy = .SELL → τ.1 + copy.amountIn = i.amountIn) where
  untouched i _ _ := Nat.zero_le _
  amm i s t _ hv hb := by
    rw [hb]
    exact ((validateIntention_amounts hv).1 hb).1.le
  start i _ _ := Nat.zero_add _
  trade pairAccount i s copy matched scenario fromA fromB copy' τ _ _ hcopy hpart _ hprep hnext := by
    refine ⟨fun hb => ?_, fun hb => ?_⟩
    · have hspent := hprep.spent hnext
      have hleft := hpart hb
      simp only [Prod.fst_add]
      omega
    · have hwhole := hprep.whole
      rw [Whole, hb] at hwhole
      exact hwhole.le
  finish i copy τ _ hpart hb := by
    have hleft := hpart hb
    omega
  finishAmm i s copy τ t _ hcopy _ hpart hv hb := by
    have hcb := hcopy.sellOrBuy.trans hb
    have hamount := ((validateIntention_amounts hv).1 hcb).1
    have hleft := hpart hb
    rw [hcb]
    simp only [ammFlow, Prod.fst_add]
    omega

variable [DecidableEq Hash] {cfg : Config AccountId Hash} {s t : State AccountId Hash}
  {before after : List (Work AccountId Hash)} {pairAccount : AccountId}
  {bvec : List (Intention AccountId Hash)} {i : Intention AccountId Hash}

/-- What is left of a main sell goes to the AMM, which takes all of it or refuses. -/
theorem resolveCopy_given {copy : Intention AccountId Hash} (hcopy : CopyOf i copy)
    (hsell : i.sellOrBuy = .SELL) (hnot : ¬ (0 < copy.amountIn ∧ AmmRefuses cfg copy s)) :
    (tally flow i.intentionId
        (if copy.amountIn > 0 then resolveSingleIntention cfg copy s else s).events).1
      = (tally flow i.intentionId s.events).1 + copy.amountIn := by
  by_cases hleft : 0 < copy.amountIn
  · obtain ⟨transfer, hv, hevents⟩ := resolveSingleIntention_accepted fun hr => hnot ⟨hleft, hr⟩
    have hcb := hcopy.sellOrBuy.trans hsell
    have hamount := ((validateIntention_amounts hv).1 hcb).1
    rw [if_pos hleft, hevents, tally_append, tally_tradedEvents, if_pos hcopy.intentionId, hcb,
      Prod.fst_add]
    show _ + transfer.amount = _
    rw [hamount]
  · rw [if_neg hleft]
    omega

/-- A refusal changes neither what the intention gave nor what its direct trades took. -/
theorem tally_refused {copy : Intention AccountId Hash} (id : Hash)
    (hrefuse : AmmRefuses cfg copy s) :
    tally flow id (resolveSingleIntention cfg copy s).events = tally flow id s.events ∧
    tally directFlow id (resolveSingleIntention cfg copy s).events
      = tally directFlow id s.events := by
  obtain ⟨error, he⟩ := resolveSingleIntention_refused hrefuse
  rw [he]
  refine ⟨tally_sendIntentionErrorEvent id copy error s, ?_⟩
  have hzero : tally directFlow id [_] = 0 :=
    tally_eq_zero fun e he => directFlow_report (isReport_error copy error e he)
  show tally directFlow id (s.events ++ [_]) = _
  rw [tally_append, hzero, add_zero]

/-- A main sell: after the iterations its copy has what it did not give, and the AMM takes that
or refuses. -/
theorem main_sell_spends (hs : Registering cfg s) (hfresh : history i.intentionId s = [])
    (hlog : finalizeLog cfg s = .ok (t, before ++ .matched pairAccount i bvec :: after))
    (hsell : i.sellOrBuy = .SELL) :
    ∃ s₁ s₂ copy, before.foldlM (Work.run cfg) s = .ok s₁ ∧
      bvec.foldlM (resolveMatched cfg pairAccount i) (s₁, i) = .ok (s₂, copy) ∧
      (0 < copy.amountIn → AmmRefuses cfg copy s₂ →
        (tally flow i.intentionId t.events).1 = (tally directFlow i.intentionId t.events).1) ∧
      (¬ (0 < copy.amountIn ∧ AmmRefuses cfg copy s₂) →
        (tally flow i.intentionId t.events).1 = i.amountIn) := by
  obtain ⟨s₁, s₂, copy, hbefore, hloop, hids, -, hnone, hsame⟩ := main_group_resolved hs hfresh hlog
  have hzero := tally_eq_zero_of_history hnone
  have hzero' : tally directFlow i.intentionId s₁.events = 0 := by
    rw [tally_history (fun _ => directFlow_eq_zero), hnone]
    rfl
  have hdirect := resolveLoop_direct (CopyOf.refl i) (ids_ne_of_nodup hids)
    (by rw [hzero, hzero']) hloop
  obtain ⟨hcopy, ⟨τ, hpart, hτ⟩, -, -⟩ := (spendingRule cfg).resolveLoop trivial
    (fun _ _ => trivial) hids (Always.of_forall (fun _ _ => trivial) _ _) (CopyOf.refl i)
    (fun _ => Nat.zero_add _) (by rw [hzero, add_zero]) hloop
  rw [zero_add] at hτ
  refine ⟨s₁, s₂, copy, hbefore, hloop, fun hleft hrefuse => ?_, fun hnot => ?_⟩
  · obtain ⟨hflow, hdirect'⟩ := tally_refused i.intentionId hrefuse
    rw [if_pos hleft] at hsame
    -- both tallies are in the history, which is that after the refusal
    rw [tally_eq_of_history hsame, hflow, hdirect, ← hdirect',
      tally_history (fun _ => directFlow_eq_zero) t, hsame,
      ← tally_history (fun _ => directFlow_eq_zero)]
  · rw [tally_eq_of_history hsame, resolveCopy_given hcopy hsell hnot, hτ]
    exact hpart hsell

/-- **A sell never gives more than it offers.** Over all its direct trades and AMM trades of a
block it gives at most `amountIn`. A sell of the second group, matched or resolved by itself,
gives `amountIn` or nothing. A main sell that is found valid is resolved with the intentions
`bvec` by one of the calls; it gives `amountIn`, unless something is left of it and the AMM
refuses that: then it gives what its direct trades took. -/
theorem sell_gives_at_most_offered (cfg : Config AccountId Hash)
    (hseeds : XYK.SeedsInjective cfg) (s₀ s s' : State AccountId Hash) (hstart : BlockStart s₀)
    (hself : XYK.NoSelfPool cfg s₀) (hrun : BlockRuns cfg (Identifies cfg) s₀ s)
    (h : onFinalize cfg s = .ok s') :
    ∃ t log, finalizeLog cfg s = .ok (t, log) ∧
      s' = { t with intentionCount := ∅, intentions := fun _ => [] } ∧
      ∀ key, ∀ i ∈ s.intentions key, i.sellOrBuy = .SELL →
        (tally flow i.intentionId s'.events).1 ≤ i.amountIn ∧
        (key.1 < key.2 → (tally flow i.intentionId s'.events).1 = i.amountIn ∨
          (tally flow i.intentionId s'.events).1 = 0) ∧
        (Work.verify i true ∈ log → ∃ before pairAccount bvec after s₁ s₂ copy,
          log = before ++ .matched pairAccount i bvec :: after ∧
          before.foldlM (Work.run cfg) s = .ok s₁ ∧
          bvec.foldlM (resolveMatched cfg pairAccount i) (s₁, i) = .ok (s₂, copy) ∧
          (0 < copy.amountIn → AmmRefuses cfg copy s₂ →
            (tally flow i.intentionId s'.events).1
              = (tally directFlow i.intentionId s'.events).1) ∧
          (¬ (0 < copy.amountIn ∧ AmmRefuses cfg copy s₂) →
            (tally flow i.intentionId s'.events).1 = i.amountIn)) := by
  have hs := registering_of_blockRuns hseeds hstart hself hrun
  have hfresh := history_of_blockRuns hstart hrun
  have hmost := (spendingRule cfg).onFinalize hs.registered (fun _ _ _ => trivial) hs.quiet
    (everyIteration_of_forall (fun _ _ _ _ => trivial) s) h
  obtain ⟨t, log, hlog, rfl⟩ := onFinalize_iff_log.mp h
  refine ⟨t, log, hlog, rfl, fun key i hi hsell => ⟨hmost key i hi hsell, fun hlt => ?_,
    fun hv => ?_⟩⟩
  · rcases second_group_whole hs (hfresh _) hlog hi hlt with hreports | hwhole
    · right
      show (tally flow i.intentionId t.events).1 = 0
      rw [tally_eq_zero_of_reports hreports]
      rfl
    · rw [Whole, hsell] at hwhole
      exact Or.inl hwhole
  · obtain ⟨before, pairAccount, bvec, after, rfl⟩ := resolved_of_valid hlog hv
    obtain ⟨s₁, s₂, copy, hspends⟩ := main_sell_spends hs (hfresh _) hlog hsell
    exact ⟨before, pairAccount, bvec, after, s₁, s₂, copy, rfl, hspends⟩

end Sells

/-- The sell of `[2]` is a main one and found valid, and the larger one of `[3]` is matched
with it. -/
theorem sell_gives_at_most_offered_raisedPrice :
    Succeeds (raisedPrice 900) fun s => Succeeds (onFinalize Dev.cfg s) fun s' =>
      ∃ t log, finalizeLog Dev.cfg s = .ok (t, log) ∧
        (∃ i ∈ s.intentions (2, 1), i.sellOrBuy = .SELL ∧
          ∃ before pairAccount bvec after, log = before ++ .matched pairAccount i bvec :: after ∧
            (tally flow i.intentionId s'.events).1 ≤ i.amountIn) ∧
        ∃ i ∈ s.intentions (1, 2), i.sellOrBuy = .SELL ∧
          ((tally flow i.intentionId s'.events).1 = i.amountIn ∨
            (tally flow i.intentionId s'.events).1 = 0) := by
  have hok : Succeeds (raisedPrice 900) fun s =>
      (Succeeds (finalizeLog Dev.cfg s) fun p => ∃ i ∈ s.intentions (2, 1), i.sellOrBuy = .SELL ∧
        (p.2.filterMap Work.valid).contains i = true) ∧
      (∃ i ∈ s.intentions (1, 2), i.sellOrBuy = .SELL) ∧
      Succeeds (onFinalize Dev.cfg s) fun _ => True := by
    decide +kernel
  obtain ⟨s, hs, ⟨p, hp, i, hi, hsell, hvalid⟩, ⟨j, hj, hsell'⟩, s', hs', -⟩ := hok
  obtain ⟨t, log, hlog, -, hall⟩ := sell_gives_at_most_offered Dev.cfg Dev.seedsInjective
    _ s s' (Dev.blockStart _) (Dev.noSelfPool _)
    (Runs.of_foldlM (fun _ e => Dev.identifies e) hs) hs'
  rw [hp] at hlog
  cases hlog
  obtain ⟨w, hw, hiw⟩ := List.mem_filterMap.mp (List.contains_iff_mem.mp hvalid)
  have hverified : w = .verify i true := Work.valid_eq_some.mp hiw
  obtain ⟨hle, -, hmain⟩ := hall _ i hi hsell
  obtain ⟨before, pairAccount, bvec, after, -, -, -, hcut, -⟩ := hmain (hverified ▸ hw)
  obtain ⟨-, hwhole, -⟩ := hall _ j hj hsell'
  exact ⟨s, hs, s', hs', t, log, hp, ⟨i, hi, hsell, before, pairAccount, bvec, after, hcut, hle⟩,
    j, hj, hsell', hwhole (by decide)⟩

end HydraDX.Exchange
