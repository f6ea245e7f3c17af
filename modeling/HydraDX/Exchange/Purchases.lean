import HydraDX.Exchange.Spending

set_option autoImplicit false

/-! # What a buy gets

A buy that is resolved without an error is to get the amount it asks for, over all its direct
trades and AMM trades. One of the second group does. For a main one the resolver looks at
`amountIn`: the scenario is chosen by it, and a copy without `amountIn` counts as exhausted.
What the main intention gets goes by the amounts of the matched ones, which were worked out
from other prices and rounded:

* a complete fill can give more than is still asked for;
* an exact match of `amountIn` is not one of `amountOut`;
* an exhausted copy keeps its `amountOut`, which the next matched intention pays once more.

`BuyerGetsAsked` says that none of the three happens. Once one does, the amounts are never put
right again, so a main buy gets what it asks for exactly when all of its iterations meet the
condition. -/

namespace HydraDX.Exchange

open Tally Fallible

variable {AccountId Hash : Type}

variable [DecidableEq AccountId] (cfg : Config AccountId Hash)

omit [DecidableEq AccountId] in
/-- The direct trade gives the main intention what it still asks for: a complete fill no more
than that, an exact match just that, and an exhausted one has nothing left to ask for. -/
def GivesAsked (copy matched : Intention AccountId Hash) : Scenario AccountId → Prop
  | .complete => matched.amountIn ≤ copy.amountOut
  | .split _ => copy.amountIn = 0 → copy.amountOut = 0
  | .exactMatch => matched.amountIn = copy.amountOut

/-- If the iteration trades, it gives the main intention what it still asks for. -/
def BuyerGetsAsked : IterationCond AccountId Hash :=
  fun pairAccount intention sc matched => ∀ scenario fromA fromB,
    Trades cfg pairAccount intention sc.1 sc.2 matched scenario fromA fromB →
      GivesAsked sc.2 matched scenario

/-- The iterations for the main intention `i` meet `P` when the block is finalized from `s`. -/
def MainIterations (P : IterationCond AccountId Hash) (s : State AccountId Hash)
    (i : Intention AccountId Hash) : Prop :=
  ∀ t before pairAccount bvec after s₁,
    finalizeLog cfg s = .ok (t, before ++ .matched pairAccount i bvec :: after) →
    before.foldlM (Work.run cfg) s = .ok s₁ →
      Always (resolveMatched cfg pairAccount i) (P pairAccount i) (s₁, i) bvec

/-- The main buy has got `got` and will get what it asks for. -/
def OnTrack (i copy : Intention AccountId Hash) (got : Nat) : Prop :=
  (0 < copy.amountIn ∧ got + copy.amountOut = i.amountOut) ∨
  (copy.amountIn = 0 ∧ got = i.amountOut)

/-- It has got too much, or is exhausted and will get too much if anything. -/
def OffTrack (i copy : Intention AccountId Hash) (got : Nat) : Prop :=
  i.amountOut < got ∨
  (copy.amountIn = 0 ∧ got < i.amountOut ∧ i.amountOut < got + copy.amountOut)

section Iterations

variable {cfg} {s s' : State AccountId Hash} {pairAccount : AccountId}
  {i copy copy' matched : Intention AccountId Hash} {scenario : Scenario AccountId}
  {fromA fromB got : Nat}

/-- A trade that gives what is asked for. -/
theorem OnTrack.trade (hon : OnTrack i copy got) (hout : 0 < matched.amountOut)
    (hprep : Prepares cfg i s copy matched scenario fromA fromB)
    (hnext : nextCopy cfg copy matched scenario = .ok copy')
    (hasked : GivesAsked copy matched scenario) : OnTrack i copy' (got + fromB) := by
  have hspent := hprep.spent hnext
  unfold OnTrack at hon ⊢
  cases hprep with
  | complete hlt _ =>
      have hle : matched.amountIn ≤ copy.amountOut := hasked
      have hrest := restOfMain_amountOut hle hnext
      omega
  | split t _ _ _ _ _ _ =>
      have hnone : copy.amountIn = 0 → copy.amountOut = 0 := hasked
      omega
  | exactMatch heq _ _ =>
      have hexact : matched.amountIn = copy.amountOut := hasked
      omega

/-- A trade that does not. -/
theorem OnTrack.leave (hon : OnTrack i copy got) (hin : 0 < matched.amountIn)
    (hout : 0 < matched.amountOut)
    (hprep : Prepares cfg i s copy matched scenario fromA fromB)
    (hnext : nextCopy cfg copy matched scenario = .ok copy')
    (hasked : ¬ GivesAsked copy matched scenario) : OffTrack i copy' (got + fromB) := by
  unfold OnTrack at hon
  unfold OffTrack
  cases hprep with
  | complete hlt _ =>
      have hgt : ¬ matched.amountIn ≤ copy.amountOut := hasked
      omega
  | split t _ _ _ _ _ _ =>
      have hmore : ¬ (copy.amountIn = 0 → copy.amountOut = 0) := hasked
      omega
  | exactMatch heq _ _ =>
      -- too much at once, or too little and the same `amountOut` once more
      have hne : matched.amountIn ≠ copy.amountOut := hasked
      cases hnext
      show i.amountOut < _ ∨ (0 = 0 ∧ _ < _ ∧ _ < _ + copy.amountOut)
      omega

/-- Nothing puts the amounts right again. -/
theorem OffTrack.trade (hoff : OffTrack i copy got) (hout : 0 < matched.amountOut)
    (hprep : Prepares cfg i s copy matched scenario fromA fromB) :
    OffTrack i copy' (got + fromB) := by
  unfold OffTrack at hoff ⊢
  cases hprep with
  | complete hlt _ => omega
  | split t _ _ _ _ _ _ => omega
  | exactMatch heq _ _ => omega

variable [DecidableEq Hash] {bvec : List (Intention AccountId Hash)}

/-- What an iteration adds to what the main intention got. -/
theorem resolveMatched_got (hcopy : CopyOf i copy) (hne : matched.intentionId ≠ i.intentionId)
    (h : resolveMatched cfg pairAccount i (s, copy) matched = .ok (s', copy')) :
    (∃ scenario fromA fromB, Prepares cfg i s copy matched scenario fromA fromB ∧
      nextCopy cfg copy matched scenario = .ok copy' ∧
      (BuyerGetsAsked cfg pairAccount i (s, copy) matched ↔ GivesAsked copy matched scenario) ∧
      (tally flow i.intentionId s'.events).2
        = (tally flow i.intentionId s.events).2 + fromB) ∨
    (copy' = copy ∧ BuyerGetsAsked cfg pairAccount i (s, copy) matched ∧
      (tally flow i.intentionId s'.events).2 = (tally flow i.intentionId s.events).2) := by
  rcases resolveMatched_cases h with ⟨scenario, fromA, fromB, ht⟩ | ⟨hno, hn⟩
  · refine Or.inl ⟨scenario, fromA, fromB, ht.trades.1, ht.copy_eq, ⟨fun hP => ?_, ?_⟩, ?_⟩
    · exact hP scenario fromA fromB ht.trades
    · rintro hasked scenario' fromA' fromB' ht'
      obtain ⟨rfl, -, -⟩ := ht'.1.unique ht.trades.1
      exact hasked
    · rw [ht.tally_eq, if_pos hcopy.intentionId, if_neg hne, add_zero, Prod.snd_add]
  · obtain ⟨reports, hreports, hevents⟩ := hn.events
    refine Or.inr ⟨hn.copy_eq, fun scenario fromA fromB ht => absurd ht (hno _ _ _), ?_⟩
    rw [hevents, tally_reports reports hreports]

/-- What holds of the copy of a main intention and of those still to be matched with it. -/
structure Matching (i copy : Intention AccountId Hash) (rest : List (Intention AccountId Hash)) :
    Prop where
  copyOf : CopyOf i copy
  ids_ne : ∀ m ∈ rest, m.intentionId ≠ i.intentionId
  amounts : ∀ m ∈ rest, 0 < m.amountIn ∧ 0 < m.amountOut

omit [DecidableEq Hash] in
theorem Matching.next {rest : List (Intention AccountId Hash)}
    (hM : Matching i copy (matched :: rest))
    (h : resolveMatched cfg pairAccount i (s, copy) matched = .ok (s', copy')) :
    Matching i copy' rest where
  copyOf := resolveMatched_copyOf hM.copyOf h
  ids_ne m hm := hM.ids_ne m (List.mem_cons_of_mem matched hm)
  amounts m hm := hM.amounts m (List.mem_cons_of_mem matched hm)

/-- **The iterations for a main buy** end on track if all of them give what is asked for, and off
track if one does not. -/
theorem resolveLoop_track (hM : Matching i copy bvec)
    (hon : OnTrack i copy (tally flow i.intentionId s.events).2)
    (h : bvec.foldlM (resolveMatched cfg pairAccount i) (s, copy) = .ok (s', copy')) :
    (Always (resolveMatched cfg pairAccount i) (BuyerGetsAsked cfg pairAccount i) (s, copy) bvec ∧
      OnTrack i copy' (tally flow i.intentionId s'.events).2) ∨
    (¬ Always (resolveMatched cfg pairAccount i) (BuyerGetsAsked cfg pairAccount i) (s, copy)
        bvec ∧
      OffTrack i copy' (tally flow i.intentionId s'.events).2) := by
  have hend := always_or_never (f := resolveMatched cfg pairAccount i)
    (P := BuyerGetsAsked cfg pairAccount i)
    (I := fun sc rest => Matching i sc.2 rest ∧
      OnTrack i sc.2 (tally flow i.intentionId sc.1.events).2)
    (J := fun sc rest => Matching i sc.2 rest ∧
      OffTrack i sc.2 (tally flow i.intentionId sc.1.events).2)
    ?_ ?_ ?_ ⟨hM, hon⟩ h
  · rcases hend with ⟨hall, -, hon'⟩ | ⟨hnot, -, hoff'⟩
    · exact Or.inl ⟨hall, hon'⟩
    · exact Or.inr ⟨hnot, hoff'⟩
  · -- on track, and the iteration gives what is asked for or does not trade
    rintro sc m rest sc' ⟨hM, hon⟩ hP hstep
    refine ⟨hM.next hstep, ?_⟩
    rcases resolveMatched_got hM.copyOf (hM.ids_ne m List.mem_cons_self) hstep with
      ⟨_, _, _, hprep, hcopy', hiff, hgot⟩ | ⟨hcopy', -, hgot⟩
    · rw [hgot]
      exact hon.trade (hM.amounts m List.mem_cons_self).2 hprep hcopy' (hiff.mp hP)
    · rw [hgot, hcopy']
      exact hon
  · -- on track, and the iteration trades something else
    rintro sc m rest sc' ⟨hM, hon⟩ hP hstep
    refine ⟨hM.next hstep, ?_⟩
    obtain ⟨hin, hout⟩ := hM.amounts m List.mem_cons_self
    rcases resolveMatched_got hM.copyOf (hM.ids_ne m List.mem_cons_self) hstep with
      ⟨_, _, _, hprep, hcopy', hiff, hgot⟩ | ⟨-, hP', -⟩
    · rw [hgot]
      exact hon.leave hin hout hprep hcopy' fun hasked => hP (hiff.mpr hasked)
    · exact absurd hP' hP
  · -- off track, whatever the iteration does
    rintro sc m rest sc' ⟨hM, hoff⟩ hstep
    refine ⟨hM.next hstep, ?_⟩
    rcases resolveMatched_got hM.copyOf (hM.ids_ne m List.mem_cons_self) hstep with
      ⟨_, _, _, hprep, -, -, hgot⟩ | ⟨hcopy', -, hgot⟩
    · rw [hgot]
      exact hoff.trade (hM.amounts m List.mem_cons_self).2 hprep
    · rw [hgot, hcopy']
      exact hoff

/-- What the AMM adds to what a main buy got, if it does not refuse: the rest. -/
theorem resolveCopy_got (hcopy : CopyOf i copy) (hbuy : i.sellOrBuy = .BUY)
    (hquiet : ∀ e ∈ history i.intentionId
      (if copy.amountIn > 0 then resolveSingleIntention cfg copy s else s), isReport e = false) :
    (tally flow i.intentionId
        (if copy.amountIn > 0 then resolveSingleIntention cfg copy s else s).events).2
      = (tally flow i.intentionId s.events).2 + if 0 < copy.amountIn then copy.amountOut else 0 := by
  by_cases hleft : 0 < copy.amountIn
  · rw [if_pos hleft] at hquiet
    rw [if_pos hleft, if_pos hleft]
    have hcb := hcopy.sellOrBuy.trans hbuy
    by_cases hrefuse : AmmRefuses cfg copy s
    · -- the refusal would be reported
      obtain ⟨error, he⟩ := resolveSingleIntention_refused hrefuse
      have hmem : Event.IntentionResolveErrorEvent copy.who copy.assets copy.sellOrBuy
          copy.intentionId error ∈ history i.intentionId (resolveSingleIntention cfg copy s) := by
        rw [he]
        exact List.mem_filter.mpr ⟨List.mem_append_right _ (List.mem_singleton_self _),
          decide_eq_true hcopy.intentionId⟩
      cases hquiet _ hmem
    · obtain ⟨transfer, hv, hevents⟩ := resolveSingleIntention_accepted hrefuse
      have hamount := ((validateIntention_amounts hv).2 hcb).1
      rw [hevents, tally_append, tally_tradedEvents, if_pos hcopy.intentionId, hcb, Prod.snd_add]
      show _ + transfer.amount = _
      rw [hamount]
  · rw [if_neg hleft, if_neg hleft, Nat.add_zero]

end Iterations

section Block

variable {cfg} [DecidableEq Hash] {s t : State AccountId Hash}
  {before after : List (Work AccountId Hash)} {pairAccount : AccountId}
  {bvec : List (Intention AccountId Hash)} {i : Intention AccountId Hash}

/-- A main buy about which nothing is reported. -/
theorem main_buy_gets_iff (hs : Registering cfg s) (hfresh : history i.intentionId s = [])
    (hlog : finalizeLog cfg s = .ok (t, before ++ .matched pairAccount i bvec :: after))
    (hbuy : i.sellOrBuy = .BUY) (hquiet : ∀ e ∈ history i.intentionId t, isReport e = false) :
    ∃ s₁, before.foldlM (Work.run cfg) s = .ok s₁ ∧
      ((tally flow i.intentionId t.events).2 = i.amountOut ↔
        Always (resolveMatched cfg pairAccount i) (BuyerGetsAsked cfg pairAccount i) (s₁, i)
          bvec) := by
  obtain ⟨s₁, s₂, copy, hbefore, hloop, hids, hreg, hnone, hsame⟩ :=
    main_group_resolved hs hfresh hlog
  have hpos : ∀ m ∈ i :: bvec, 0 < m.amountIn ∧ 0 < m.amountOut := fun m hm => by
    obtain ⟨key, hkey⟩ := hreg m hm
    exact hs.amounts key m hkey
  have hstart : OnTrack i i (tally flow i.intentionId s₁.events).2 := by
    rw [tally_eq_zero_of_history hnone]
    exact Or.inl ⟨(hpos i List.mem_cons_self).1, Nat.zero_add _⟩
  have hM : Matching i i bvec :=
    ⟨CopyOf.refl i, ids_ne_of_nodup hids, fun m hm => hpos m (List.mem_cons_of_mem i hm)⟩
  have hend := resolveLoop_track hM hstart hloop
  obtain ⟨hcopy, -⟩ := resolveLoop_addsFor (CopyOf.refl i) hloop
  have hgot := resolveCopy_got hcopy hbuy (by rwa [← hsame])
  rw [← tally_eq_of_history hsame] at hgot
  refine ⟨s₁, hbefore, ?_⟩
  rw [hgot]
  -- the AMM adds the rest of what is asked for on track, and cannot lower what is off it
  rcases hend with ⟨hall, hon⟩ | ⟨hnot, hoff⟩
  · refine iff_of_true ?_ hall
    unfold OnTrack at hon
    split_ifs <;> omega
  · refine iff_of_false ?_ hnot
    unfold OffTrack at hoff
    split_ifs <;> omega

end Block

/-- **A buy that is resolved without an error gets exactly what it asks for, exactly when its
iterations as a main intention give it that.** Without an error means: nothing is reported about
it, and there is a trade for it. An intention of the second group has no iterations as a main
one and gets what it asks for. -/
theorem buy_gets_asked_iff [DecidableEq Hash] (cfg : Config AccountId Hash)
    (hseeds : XYK.SeedsInjective cfg) (s₀ s s' : State AccountId Hash) (hstart : BlockStart s₀)
    (hself : XYK.NoSelfPool cfg s₀) (hrun : BlockRuns cfg (Identifies cfg) s₀ s)
    (h : onFinalize cfg s = .ok s') :
    ∀ key, ∀ i ∈ s.intentions key, i.sellOrBuy = .BUY →
      (∀ e ∈ history i.intentionId s', isReport e = false) →
      (∃ e ∈ history i.intentionId s', isTrade e = true) →
        ((tally flow i.intentionId s'.events).2 = i.amountOut ↔
          MainIterations cfg (BuyerGetsAsked cfg) s i) := by
  have hs := registering_of_blockRuns hseeds hstart hself hrun
  have hfresh := history_of_blockRuns hstart hrun
  obtain ⟨t, log, hlog, rfl⟩ := onFinalize_iff_log.mp h
  intro key i hi hbuy (hquiet : ∀ e ∈ history i.intentionId t, isReport e = false)
    (htrade : ∃ e ∈ history i.intentionId t, isTrade e = true)
  show (tally flow i.intentionId t.events).2 = i.amountOut ↔ _
  constructor
  · intro hgot t' before pairAccount bvec after s₁ hlog' hbefore
    rw [hlog'] at hlog
    cases hlog
    obtain ⟨s₁', hbefore', hiff⟩ := main_buy_gets_iff hs (hfresh _) hlog' hbuy hquiet
    rw [hbefore] at hbefore'
    cases hbefore'
    exact hiff.mp hgot
  · intro hall
    rcases hs.processed hi with ⟨hlt, -⟩ | ⟨hlt, -⟩
    · rcases second_group_whole hs (hfresh _) hlog hi hlt with hreports | hwhole
      · -- a trade is no report
        obtain ⟨e, he, -⟩ := htrade
        cases (hquiet e he).symm.trans (hreports e he)
      · rw [Whole, hbuy] at hwhole
        exact hwhole
    · rcases main_group_verified hs (hfresh _) hlog hi hlt with hv | ⟨error, herror⟩
      · obtain ⟨before, pairAccount, bvec, after, rfl⟩ := resolved_of_valid hlog hv
        obtain ⟨s₁, hbefore, hiff⟩ := main_buy_gets_iff hs (hfresh _) hlog hbuy hquiet
        exact hiff.mpr (hall t before pairAccount bvec after s₁ hlog hbefore)
      · rw [herror] at hquiet
        cases hquiet _ (List.mem_singleton_self _)

/-! ### A main buy that gets too much -/

/-- One unit of asset `1` costs two of asset `2`. `[2]` buys 1000 of asset `1`, which the sell of
`[3]` matches exactly; then there may be `more`. -/
def matchedBuy (more : List (Extrinsic Dev.AccountId)) :
    Except Failure (State Dev.AccountId Dev.Hash) :=
  Dev.after (Dev.genesis [(1, [1], 1000000), (2, [1], 1000000), (1, [2], 10000), (2, [2], 10000),
      (1, [3], 10000), (2, [3], 10000), (1, [4], 10000), (2, [4], 10000)])
    ([.xyk (.createPool [1] 1 2 500000 (2 * 10 ^ 18)), .buy [2] 1 2 1000 5000 false,
      .sell [3] 1 2 1000 1 false] ++ more)

/-- The buy of `[4]` is popped as well. It pays the 1000 that `[2]` asked for once more. -/
theorem buy_gets_twice_asked :
    Succeeds (matchedBuy [.buy [4] 2 1 2000 5000 false]) fun s =>
      Succeeds (onFinalize Dev.cfg s) fun s' =>
        ∃ i ∈ s.intentions (2, 1), i.sellOrBuy = .BUY ∧ i.amountOut = 1000 ∧
          (∀ e ∈ history i.intentionId s', isReport e = false) ∧
          (∃ e ∈ history i.intentionId s', isTrade e = true) ∧
          (tally flow i.intentionId s'.events).2 = 2000 := by
  decide +kernel

theorem buy_gets_asked_iff_matchedBuy :
    Succeeds (matchedBuy []) fun s => Succeeds (onFinalize Dev.cfg s) fun s' =>
      ∃ i ∈ s.intentions (2, 1), i.sellOrBuy = .BUY ∧
        ((tally flow i.intentionId s'.events).2 = i.amountOut ↔
          MainIterations Dev.cfg (BuyerGetsAsked Dev.cfg) s i) := by
  have hok : Succeeds (matchedBuy []) fun s => Succeeds (onFinalize Dev.cfg s) fun s' =>
      ∃ i ∈ s.intentions (2, 1), i.sellOrBuy = .BUY ∧
        (∀ e ∈ history i.intentionId s', isReport e = false) ∧
        (∃ e ∈ history i.intentionId s', isTrade e = true) := by
    decide +kernel
  obtain ⟨s, hs, s', hs', i, hi, hbuy, hquiet, htrade⟩ := hok
  exact ⟨s, hs, s', hs', i, hi, hbuy, buy_gets_asked_iff Dev.cfg Dev.seedsInjective
    _ s s' (Dev.blockStart _) (Dev.noSelfPool _)
    (Runs.of_foldlM (fun _ e => Dev.identifies e) hs) hs' _ i hi hbuy hquiet htrade⟩

end HydraDX.Exchange
