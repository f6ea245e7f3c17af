import HydraDX.Exchange.Outcome
import HydraDX.Chain

set_option autoImplicit false

/-! # An exhausted main intention

Scenarios 2 and 3 set the remaining `amountIn` of the main intention to zero and leave its
`amountOut` as it is. The loop goes on: a further matched intention is then resolved in
scenario 2, whose direct trade takes nothing from the main account and the whole remaining
`amountOut` from the matched one. -/

namespace HydraDX.Exchange

variable {AccountId Hash : Type} [DecidableEq AccountId]

/-- The event of a direct trade in which only the matched account pays. -/
def isUnpaid : Event AccountId Hash → Bool
  | .IntentionResolvedDirectTrade _ _ _ _ fromA fromB => fromA = 0 ∧ 0 < fromB
  | _ => false

/-- How many direct trades there were in which only the matched account pays. -/
def unpaid (events : List (Event AccountId Hash)) : Nat := events.countP isUnpaid

/-- An exhausted main intention has nothing left to ask for, or asks for more than the matched
intention offers, or than its account has. -/
def ExhaustedIdle : IterationCond AccountId Hash :=
  fun _ _ sc matched => sc.2.amountIn = 0 → sc.2.amountOut = 0 ∨
    matched.amountIn < sc.2.amountOut ∨
    sc.1.ledger.free sc.2.assets.assetOut matched.who < sc.2.amountOut

instance (account : AccountId) (i : Intention AccountId Hash)
    (sc : State AccountId Hash × Intention AccountId Hash) (m : Intention AccountId Hash) :
    Decidable (ExhaustedIdle account i sc m) :=
  inferInstanceAs (Decidable (_ = _ → _ = _ ∨ _ < _ ∨ _ < _))

/-- If the iteration executes a direct trade, then not one in which only the matched account
pays. -/
def TradesPaid (cfg : Config AccountId Hash) : IterationCond AccountId Hash :=
  fun pairAccount intention sc matched => ∀ scenario fromA fromB,
    Trades cfg pairAccount intention sc.1 sc.2 matched scenario fromA fromB →
      ¬ (fromA = 0 ∧ 0 < fromB)

section Events

variable {AccountId Hash : Type}

theorem unpaid_append (E E' : List (Event AccountId Hash)) :
    unpaid (E ++ E') = unpaid E + unpaid E' := List.countP_append

theorem unpaid_eq_zero {E : List (Event AccountId Hash)} (h : ∀ e ∈ E, isUnpaid e = false) :
    unpaid E = 0 := by
  rw [unpaid, List.countP_eq_zero]
  intro e he
  rw [h e he]
  exact Bool.false_ne_true

theorem unpaid_tradedEvents (intentionType : IntentionType) (id : Hash)
    (t : AMMTransfer AccountId) : unpaid (tradedEvents intentionType id t) = 0 := by
  cases intentionType <;> rfl

theorem unpaid_legEvents (matched : Intention AccountId Hash) (scenario : Scenario AccountId) :
    unpaid (legEvents matched scenario) = 0 := by
  cases scenario with
  | split t => exact unpaid_tradedEvents _ _ t
  | complete => rfl
  | exactMatch => rfl

end Events

variable {cfg : Config AccountId Hash} {s s' : State AccountId Hash} {pairAccount : AccountId}
  {intention copy copy' matched : Intention AccountId Hash}

/-- A trade in which only the matched account pays is one for an exhausted main intention. -/
theorem Prepares.unpaid_iff {scenario : Scenario AccountId} {fromA fromB : Nat}
    (hm : 0 < matched.amountOut)
    (h : Prepares cfg intention s copy matched scenario fromA fromB) :
    (fromA = 0 ∧ 0 < fromB) ↔ copy.amountIn = 0 ∧ 0 < copy.amountOut := by
  cases h with
  | complete hlt _ => omega
  | split t _ hlt _ _ _ _ => exact Iff.rfl
  | exactMatch heq _ _ => omega

/-- No trade with an exhausted main intention is made where it stays idle. -/
theorem ExhaustedIdle.tradesPaid (hm : 0 < matched.amountOut)
    (hidle : ExhaustedIdle pairAccount intention (s, copy) matched) :
    TradesPaid cfg pairAccount intention (s, copy) matched := by
  intro scenario fromA fromB
    (ht : Trades cfg pairAccount intention s copy matched scenario fromA fromB) hunpaid
  obtain ⟨hprep, dt, s₁, s₂, hp, -⟩ := ht
  obtain ⟨hin, hout⟩ := (hprep.unpaid_iff hm).mp hunpaid
  have hless : copy.amountOut = 0 ∨ matched.amountIn < copy.amountOut ∨
      s.ledger.free copy.assets.assetOut matched.who < copy.amountOut := hidle hin
  cases hprep with
  | complete hlt _ => omega
  | exactMatch heq _ _ => omega
  | split t _ hlt hle _ _ _ =>
      -- what is asked for could be reserved, so the matched account has it
      have hcovered : copy.amountOut ≤ s.ledger.free copy.assets.assetOut matched.who := by
        cases DirectTradeData.prepare_run hp with
        | prepared _ _ _ _ _ _ hr _ _ _ => exact DirectTradeData.amountB_of_reserved hr
      omega

/-- Where a trade is made and paid for, an exhausted main intention asks for nothing. -/
theorem TradesPaid.exhaustedIdle {scenario : Scenario AccountId} {fromA fromB : Nat}
    (hm : 0 < matched.amountOut) (hpaid : TradesPaid cfg pairAccount intention (s, copy) matched)
    (ht : Trades cfg pairAccount intention s copy matched scenario fromA fromB) :
    ExhaustedIdle pairAccount intention (s, copy) matched := by
  intro hin
  have hnot := hpaid scenario fromA fromB ht
  rw [ht.1.unpaid_iff hm] at hnot
  exact Or.inl (Nat.eq_zero_of_not_pos fun hout => hnot ⟨hin, hout⟩)

/-- One iteration. -/
theorem resolveMatched_unpaid
    (h : resolveMatched cfg pairAccount intention (s, copy) matched = .ok (s', copy')) :
    unpaid s.events ≤ unpaid s'.events ∧
    (unpaid s'.events ≤ unpaid s.events ↔
      TradesPaid cfg pairAccount intention (s, copy) matched) := by
  rcases resolveMatched_cases h with ⟨scenario, fromA, fromB, ht⟩ | ⟨hno, hn⟩
  · obtain ⟨fees, hfees, hevents⟩ := ht.events
    have hzero : unpaid fees = 0 := by
      refine unpaid_eq_zero fun e he => ?_
      obtain ⟨_, _, _, _, _, rfl⟩ := hfees e he
      rfl
    have hcount : unpaid s'.events
        = unpaid s.events + if fromA = 0 ∧ 0 < fromB then 1 else 0 := by
      rw [hevents, unpaid_append, unpaid_append, unpaid_legEvents, unpaid, unpaid,
        List.countP_cons, ← unpaid, ← unpaid, hzero]
      simp only [isUnpaid, decide_eq_true_eq]
      omega
    rw [hcount]
    refine ⟨Nat.le_add_right _ _, ?_⟩
    by_cases hex : fromA = 0 ∧ 0 < fromB
    · rw [if_pos hex]
      exact iff_of_false (by omega) fun hpaid => hpaid scenario fromA fromB ht.trades hex
    · rw [if_neg hex]
      refine iff_of_true le_rfl fun _ _ _ ht' => ?_
      -- an iteration prepares one trade only
      obtain ⟨-, rfl, rfl⟩ := ht'.1.unique ht.trades.1
      exact hex
  · obtain ⟨reports, hreports, hevents⟩ := hn.events
    have hzero : unpaid reports = 0 := by
      refine unpaid_eq_zero fun e he => ?_
      have := hreports e he
      cases e <;> first | rfl | cases this
    rw [hevents, unpaid_append, hzero]
    exact ⟨le_rfl, iff_of_true le_rfl fun _ _ _ ht => absurd ht (hno _ _ _)⟩

theorem resolveSingleIntention_unpaid (intention : Intention AccountId Hash)
    (s : State AccountId Hash) :
    unpaid (resolveSingleIntention cfg intention s).events = unpaid s.events := by
  rcases resolveSingleIntention_cases cfg intention s with ⟨error, h⟩ | ⟨t, -, h⟩
  · rw [h]
    exact unpaid_append _ _
  · rw [h]
    show unpaid (s.events ++ _) = _
    rw [unpaid_append, unpaid_tradedEvents, Nat.add_zero]

/-- All direct trades are paid for exactly when those of every iteration are. -/
theorem resolveMatchedIntentions_unpaid {matched : List (Intention AccountId Hash)}
    (h : resolveMatchedIntentions cfg pairAccount intention matched s = .ok s') :
    unpaid s'.events = unpaid s.events ↔
      Fallible.Always (resolveMatched cfg pairAccount intention)
        (TradesPaid cfg pairAccount intention) (s, intention) matched := by
  unfold resolveMatchedIntentions at h
  rw [Fallible.bind_eq_ok] at h
  obtain ⟨⟨s₁, copy⟩, hloop, h⟩ := h
  obtain ⟨hle, hiff⟩ := Fallible.le_iff_always (μ := fun sc => unpaid sc.1.events)
    (fun sc m _ sc' hr => resolveMatched_unpaid hr) hloop
  have hs' : unpaid s'.events = unpaid s₁.events := by
    cases h
    split_ifs
    · exact resolveSingleIntention_unpaid copy s₁
    · rfl
  rw [hs', ← hiff]
  exact ⟨fun he => he.le, fun hge => Nat.le_antisymm hge hle⟩

/-- **Every direct trade is paid for on both sides** if exhausted main intentions stay idle, and
only if they do so in every iteration that executes a trade. The matched intentions are registered
ones, whose `amountOut` is positive. -/
theorem resolveMatchedIntentions_paid (cfg : Config AccountId Hash) (pairAccount : AccountId)
    (intention : Intention AccountId Hash) (matched : List (Intention AccountId Hash))
    (s s' : State AccountId Hash) (hm : ∀ m ∈ matched, 0 < m.amountOut)
    (h : resolveMatchedIntentions cfg pairAccount intention matched s = .ok s') :
    (Fallible.Always (resolveMatched cfg pairAccount intention)
        (ExhaustedIdle pairAccount intention) (s, intention) matched →
      unpaid s'.events = unpaid s.events) ∧
    (unpaid s'.events = unpaid s.events →
      Fallible.Always (resolveMatched cfg pairAccount intention)
        (fun sc m => (∃ scenario fromA fromB,
          Trades cfg pairAccount intention sc.1 sc.2 m scenario fromA fromB) →
            ExhaustedIdle pairAccount intention sc m) (s, intention) matched) := by
  rw [resolveMatchedIntentions_unpaid h]
  have hrest : ∀ (sc : State AccountId Hash × Intention AccountId Hash) m ms sc',
      (∀ n ∈ m :: ms, 0 < n.amountOut) → resolveMatched cfg pairAccount intention sc m = .ok sc' →
      ∀ n ∈ ms, 0 < n.amountOut := fun _ m _ _ hpos _ n hn => hpos n (List.mem_cons_of_mem m hn)
  constructor
  · intro hidle
    exact hidle.of_invariant (I := fun _ ms => ∀ m ∈ ms, 0 < m.amountOut) hrest
      (fun _ m _ hpos hcond => hcond.tradesPaid (hpos m List.mem_cons_self)) hm
  · intro hpaid
    refine hpaid.of_invariant (I := fun _ ms => ∀ m ∈ ms, 0 < m.amountOut) hrest ?_ hm
    rintro ⟨t, copy⟩ m ms hpos hcond ⟨_, _, _, ht⟩
    exact hcond.exhaustedIdle (hpos m List.mem_cons_self) ht

/-! ## A matched intention after exhaustion -/

open Fallible

/-- One unit of asset `1` costs two of asset `2`. The sell of `[2]` is matched exactly by the
sell of `[3]`, which leaves it with 1000 to ask for and nothing to pay; the amounts popped so far
are less than `amountIn`, so `[4]` follows. It buys `amount`, for half as much. -/
def overmatched (amount : Nat) : Except Failure (State Dev.AccountId Dev.Hash) :=
  Dev.after (Dev.genesis [(1, [1], 1000000), (2, [1], 1000000), (1, [2], 10000), (2, [2], 10000),
      (1, [3], 10000), (2, [3], 10000), (1, [4], 10000), (2, [4], 10000)])
    [.xyk (.createPool [1] 1 2 500000 (2 * 10 ^ 18)), .sell [2] 2 1 2000 1 false,
      .sell [3] 1 2 1000 1 false, .buy [4] 2 1 amount 5000 false]

/-- `[4]` pays 1000 to `[2]` and gets nothing for it, in the call of the resolver and so in
the block. -/
theorem exhausted_main_takes_more :
    Succeeds (overmatched 2000) fun s =>
      (∃ i ∈ s.intentions (2, 1),
        Succeeds (resolveMatchedIntentions Dev.cfg (XYK.getPairId Dev.cfg ⟨1, 2⟩) i
          (s.intentions (1, 2)) s) fun s' => unpaid s.events = 0 ∧ unpaid s'.events = 1) ∧
      Succeeds (onFinalize Dev.cfg s) fun s' => unpaid s'.events = 1 := by
  decide +kernel

/-- The 500 that `[4]` offers for 1000 are too little, and it is turned away. -/
theorem resolveMatchedIntentions_paid_overmatched :
    Succeeds (overmatched 1000) fun s => (s.intentions (1, 2)).length = 2 ∧
      ∃ i ∈ s.intentions (2, 1), Succeeds (resolveMatchedIntentions Dev.cfg
        (XYK.getPairId Dev.cfg ⟨1, 2⟩) i (s.intentions (1, 2)) s) fun s' =>
          unpaid s'.events = unpaid s.events := by
  have hok : Succeeds (overmatched 1000) fun s => (s.intentions (1, 2)).length = 2 ∧
      (∀ m ∈ s.intentions (1, 2), 0 < m.amountOut) ∧
      ∃ i ∈ s.intentions (2, 1),
        Always (resolveMatched Dev.cfg (XYK.getPairId Dev.cfg ⟨1, 2⟩) i)
          (ExhaustedIdle (XYK.getPairId Dev.cfg ⟨1, 2⟩) i) (s, i) (s.intentions (1, 2)) ∧
        Succeeds (resolveMatchedIntentions Dev.cfg (XYK.getPairId Dev.cfg ⟨1, 2⟩) i
          (s.intentions (1, 2)) s) fun _ => True := by
    decide +kernel
  obtain ⟨s, hs, hlength, hm, i, hi, hidle, s', hs', -⟩ := hok
  exact ⟨s, hs, hlength, i, hi, s', hs',
    (resolveMatchedIntentions_paid Dev.cfg _ i _ s s' hm hs').1 hidle⟩

end HydraDX.Exchange
