import HydraDX.Exchange.Registration

set_option autoImplicit false

/-! # Trade limits

A buy is to pay at most its limit and a sell that is spent entirely is to get at least its
limit, over all direct trades and AMM trades of the block. The checks of the resolver do
not always compare the amounts that they should:

* scenario 1 and scenario 3 compare what a matched buy *gets* with the limit on what it
  pays, and scenario 3 does the same for the main intention;
* after a complete fill, the limit of a main buy is lowered by what it got;
* scenario 2 does not check the main intention at all.

`BuyersWithinLimits` and `SellerGetsRest` say what the amounts have to satisfy for the
limits to be kept all the same. -/

namespace HydraDX.Exchange

open Tally Fallible

variable {AccountId Hash : Type} [DecidableEq AccountId] (cfg : Config AccountId Hash)

/-- What keeps buys within their limits in one iteration: a matched buy that is filled by a
direct trade alone has an `amountIn` within its limit, a main buy that is exhausted has its
remaining `amountIn` within what is left of its limit, and a main buy that is not pays no
more for the fill than its limit is lowered by. -/
def BuyersWithinLimits : IterationCond AccountId Hash :=
  fun _ intention sc matched => ∀ scenario fromA fromB,
    Prepares cfg intention sc.1 sc.2 matched scenario fromA fromB →
      match scenario with
      | .complete => (matched.sellOrBuy = .BUY → matched.amountIn ≤ matched.tradeLimit) ∧
          (sc.2.sellOrBuy = .BUY →
            matched.amountOut ≤ matched.amountIn ∧ matched.amountIn ≤ sc.2.tradeLimit)
      | .split _ => sc.2.sellOrBuy = .BUY → sc.2.amountIn ≤ sc.2.tradeLimit
      | .exactMatch => (matched.sellOrBuy = .BUY → matched.amountIn ≤ matched.tradeLimit) ∧
          (sc.2.sellOrBuy = .BUY → sc.2.amountIn ≤ sc.2.tradeLimit)

/-- What gives sells their limits in one iteration: a main sell whose rest is taken by a
larger matched intention asks for what is left of its limit. -/
def SellerGetsRest : IterationCond AccountId Hash :=
  fun _ intention sc matched => ∀ scenario fromA fromB,
    Prepares cfg intention sc.1 sc.2 matched scenario fromA fromB →
      match scenario with
      | .split _ => sc.2.sellOrBuy = .SELL → 0 < sc.2.amountIn → sc.2.tradeLimit ≤ sc.2.amountOut
      | _ => True

instance (account : AccountId) (i : Intention AccountId Hash)
    (sc : State AccountId Hash × Intention AccountId Hash) (m : Intention AccountId Hash) :
    Decidable (BuyersWithinLimits cfg account i sc m) :=
  have (scenario : Scenario AccountId) : Decidable (match scenario with
      | .complete => (m.sellOrBuy = .BUY → m.amountIn ≤ m.tradeLimit) ∧
          (sc.2.sellOrBuy = .BUY → m.amountOut ≤ m.amountIn ∧ m.amountIn ≤ sc.2.tradeLimit)
      | .split _ => sc.2.sellOrBuy = .BUY → sc.2.amountIn ≤ sc.2.tradeLimit
      | .exactMatch => (m.sellOrBuy = .BUY → m.amountIn ≤ m.tradeLimit) ∧
          (sc.2.sellOrBuy = .BUY → sc.2.amountIn ≤ sc.2.tradeLimit)) :=
    match scenario with
    | .complete => inferInstanceAs (Decidable (_ ∧ _))
    | .split _ => inferInstanceAs (Decidable (_ → _))
    | .exactMatch => inferInstanceAs (Decidable (_ ∧ _))
  decidableForallPrepares

instance (account : AccountId) (i : Intention AccountId Hash)
    (sc : State AccountId Hash × Intention AccountId Hash) (m : Intention AccountId Hash) :
    Decidable (SellerGetsRest cfg account i sc m) :=
  have (scenario : Scenario AccountId) : Decidable (match scenario with
      | .split _ => sc.2.sellOrBuy = .SELL → 0 < sc.2.amountIn → sc.2.tradeLimit ≤ sc.2.amountOut
      | _ => True) :=
    match scenario with
    | .split _ => inferInstanceAs (Decidable (_ → _))
    | .complete => isTrue trivial
    | .exactMatch => isTrue trivial
  decidableForallPrepares

section Amounts

variable {cfg} {s : State AccountId Hash} {i copy copy' matched : Intention AccountId Hash}
  {t : AMMTransfer AccountId}

/-- The amounts of the AMM trade of the rest of a matched intention. -/
theorem validateRest_amounts {restIn restOut restLimit : Nat}
    (h : validateRest cfg matched restIn restOut restLimit s = .ok t) :
    (matched.sellOrBuy = .SELL → t.amount = restIn ∧ restLimit ≤ t.amountOut) ∧
    (matched.sellOrBuy = .BUY → t.amount = restOut ∧ t.amountOut ≤ restLimit) := by
  unfold validateRest at h
  cases hb : matched.sellOrBuy with
  | SELL =>
      rw [hb] at h
      obtain ⟨fee, hv⟩ := XYK.validateSell_ok h
      refine ⟨fun _ => ⟨by rw [hv.transfer_eq], hv.limit_le⟩, fun h => by cases h⟩
  | BUY =>
      rw [hb] at h
      obtain ⟨price, fee, hv⟩ := XYK.validateBuy_ok h
      refine ⟨fun h => (by cases h), fun _ => ⟨by rw [hv.transfer_eq], hv.limit_le⟩⟩

/-- The amounts of the AMM trade of a whole intention. -/
theorem validateIntention_amounts (h : validateIntention cfg i s = .ok t) :
    (i.sellOrBuy = .SELL → t.amount = i.amountIn ∧ i.tradeLimit ≤ t.amountOut) ∧
    (i.sellOrBuy = .BUY → t.amount = i.amountOut ∧ t.amountOut ≤ i.tradeLimit) :=
  validateRest_amounts (validateIntention_eq i s ▸ h)

/-- What is left of the main intention after a complete fill of a smaller one. -/
theorem restOfMain_amounts (hlt : matched.amountOut < copy.amountIn)
    (h : restOfMain cfg copy matched = .ok copy') :
    copy'.amountIn = copy.amountIn - matched.amountOut ∧
    (copy.sellOrBuy = .SELL → copy'.tradeLimit = copy.tradeLimit - matched.amountIn) ∧
    (copy.sellOrBuy = .BUY → matched.amountIn ≤ copy.tradeLimit →
      copy'.tradeLimit = copy.tradeLimit - matched.amountIn) := by
  simp only [restOfMain, subBalance_of_le hlt.le, Fallible.bind_eq_ok] at h
  obtain ⟨_, hin, _, -, h⟩ := h
  cases hin
  cases hb : copy.sellOrBuy with
  | SELL =>
      rw [hb] at h
      cases h
      exact ⟨rfl, fun _ => rfl, fun h => by cases h⟩
  | BUY =>
      rw [hb] at h
      simp only [Fallible.bind_eq_ok] at h
      obtain ⟨limit, hlimit, h⟩ := h
      cases h
      refine ⟨rfl, fun h => (by cases h), fun _ hle => ?_⟩
      rw [subBalance_of_le hle] at hlimit
      cases hlimit
      rfl

theorem restOfMain_amountOut (hle : matched.amountIn ≤ copy.amountOut)
    (h : restOfMain cfg copy matched = .ok copy') :
    copy'.amountOut = copy.amountOut - matched.amountIn := by
  simp only [restOfMain, subBalance_of_le hle, Fallible.bind_eq_ok] at h
  obtain ⟨_, -, _, hout, h⟩ := h
  cases hout
  cases hb : copy.sellOrBuy with
  | SELL =>
      rw [hb] at h
      cases h
      rfl
  | BUY =>
      rw [hb] at h
      simp only [Fallible.bind_eq_ok] at h
      obtain ⟨_, -, h⟩ := h
      cases h
      rfl

/-- What the main intention gives in a direct trade is taken off the copy. -/
theorem Prepares.spent {scenario : Scenario AccountId} {fromA fromB : Nat}
    (h : Prepares cfg i s copy matched scenario fromA fromB)
    (hnext : nextCopy cfg copy matched scenario = .ok copy') :
    fromA + copy'.amountIn = copy.amountIn := by
  cases h with
  | complete hlt _ =>
      obtain ⟨hin, -⟩ := restOfMain_amounts hlt hnext
      omega
  | split t _ _ _ _ _ _ =>
      cases hnext
      rfl
  | exactMatch _ _ _ =>
      cases hnext
      rfl

theorem exceedsLimit_sell {amount limit : Nat} :
    exceedsLimit .SELL amount limit = false ↔ limit ≤ amount := by
  simp [exceedsLimit]

theorem exceedsLimit_buy {amount limit : Nat} :
    exceedsLimit .BUY amount limit = false ↔ amount ≤ limit := by
  simp [exceedsLimit]

end Amounts

/-- Buys, with what is left of the limit of the main one. -/
theorem buyersRule : SettlementRule cfg (BuyersWithinLimits cfg) (fun _ => True)
    (fun i τ => i.sellOrBuy = .BUY → τ.1 ≤ i.tradeLimit)
    (fun i copy τ => i.sellOrBuy = .BUY → τ.1 ≤ i.tradeLimit ∧
      (0 < copy.amountIn → τ.1 + copy.tradeLimit ≤ i.tradeLimit)) where
  untouched i _ _ := Nat.zero_le _
  amm i s t _ hv hb := by
    rw [hb]
    exact ((validateIntention_amounts hv).2 hb).2
  start i _ _ := ⟨Nat.zero_le _, fun _ => (Nat.zero_add _).le⟩
  trade pairAccount i s copy matched scenario fromA fromB copy' τ _ _ hcopy hpart hP hprep hnext := by
    have hlim := hP scenario fromA fromB hprep
    cases hprep with
    | complete hlt _ =>
        -- The main buy pays `matched.amountOut`, and `matched.amountIn` is taken off its limit.
        refine ⟨fun hb => ?_, fun hb => ?_⟩
        · have hcb := hcopy.sellOrBuy.trans hb
          obtain ⟨hin, -, hlimit⟩ := restOfMain_amounts hlt hnext
          obtain ⟨hout, hle⟩ := hlim.2 hcb
          have htotal := (hpart hb).2 (by omega)
          rw [hin, hlimit hcb hle]
          simp only [Prod.fst_add]
          simp only at hle hout
          omega
        · simpa [legFlow] using hlim.1 hb
    | split t limitLeft hlt hle hvalid hleft hlimit =>
        cases hnext
        refine ⟨fun hb => ?_, fun hb => ?_⟩
        · have hle' := hlim (hcopy.sellOrBuy.trans hb)
          obtain ⟨h₁, h₂⟩ := hpart hb
          simp only [Prod.fst_add]
          simp only at hle'
          omega
        · -- Scenario 2 checks the limit of the matched buy against both of its payments.
          have ht := ((validateRest_amounts hvalid).2 hb).2
          rw [subBalance_of_le (by omega)] at hleft
          cases hleft
          rw [hb, exceedsLimit_buy] at hlimit
          simp only [legFlow, ammFlow, hb, Prod.fst_add]
          omega
    | exactMatch heq _ _ =>
        cases hnext
        refine ⟨fun hb => ?_, fun hb => ?_⟩
        · have hle' := hlim.2 (hcopy.sellOrBuy.trans hb)
          obtain ⟨h₁, h₂⟩ := hpart hb
          simp only [Prod.fst_add]
          simp only at hle'
          omega
        · simpa [legFlow] using hlim.1 hb
  finish i copy τ _ hpart hb := (hpart hb).1
  finishAmm i s copy τ t _ hcopy hin hpart hv hb := by
    have hcb := hcopy.sellOrBuy.trans hb
    have ht := ((validateIntention_amounts hv).2 hcb).2
    have hle := (hpart hb).2 hin
    rw [hcb]
    simp only [ammFlow, Prod.fst_add]
    omega

/-- **A buy pays at most its limit** over all its direct trades and AMM trades, in every
block whose iterations meet `BuyersWithinLimits`. -/
theorem buy_pays_at_most_limit [DecidableEq Hash] (cfg : Config AccountId Hash)
    (hseeds : XYK.SeedsInjective cfg) (s₀ s s' : State AccountId Hash) (hstart : BlockStart s₀)
    (hself : XYK.NoSelfPool cfg s₀) (hrun : BlockRuns cfg (Identifies cfg) s₀ s)
    (hall : EveryIteration cfg (BuyersWithinLimits cfg) s) (h : onFinalize cfg s = .ok s') :
    ∀ key, ∀ i ∈ s.intentions key, i.sellOrBuy = .BUY →
      (tally flow i.intentionId s'.events).1 ≤ i.tradeLimit := by
  have hs := registering_of_blockRuns hseeds hstart hself hrun
  exact (buyersRule cfg).onFinalize hs.registered (fun _ _ _ => trivial) hs.quiet hall h

/-! ### A matched buy that pays more than its limit -/

/-- One unit of asset `2` costs two of asset `1`; `[3]` buys 1000 of it for at most `limit`. -/
def pricedBuy (limit : Nat) : Except Failure (State Dev.AccountId Dev.Hash) :=
  Dev.after (Dev.genesis [(1, [1], 2000000), (2, [1], 2000000), (1, [2], 10000), (2, [2], 10000),
      (1, [3], 10000), (2, [3], 10000)])
    [.xyk (.createPool [1] 1 2 1000000 (5 * 10 ^ 17)), .sell [2] 2 1 1000 1 false,
      .buy [3] 2 1 1000 limit false]

/-- The sell of `[2]` matches the buy exactly. The 1000 that `[3]` gets are compared with its
limit of 1500, and it pays 2000. -/
theorem buy_pays_more_than_limit :
    Succeeds (pricedBuy 1500) fun s => Succeeds (onFinalize Dev.cfg s) fun s' =>
      ∃ i ∈ s.intentions (1, 2), i.sellOrBuy = .BUY ∧ i.tradeLimit = 1500 ∧
        (tally flow i.intentionId s'.events).1 = 2000 := by
  decide +kernel

theorem buy_pays_at_most_limit_pricedBuy :
    Succeeds (pricedBuy 2500) fun s => Succeeds (onFinalize Dev.cfg s) fun s' =>
      ∀ key, ∀ i ∈ s.intentions key, i.sellOrBuy = .BUY →
        (tally flow i.intentionId s'.events).1 ≤ i.tradeLimit := by
  have hok : Succeeds (pricedBuy 2500) fun s =>
      EveryIteration Dev.cfg (BuyersWithinLimits Dev.cfg) s ∧
        Succeeds (onFinalize Dev.cfg s) fun _ => True := by
    decide +kernel
  obtain ⟨s, hs, hall, s', hs', -⟩ := hok
  exact ⟨s, hs, s', hs', buy_pays_at_most_limit Dev.cfg Dev.seedsInjective _ s s'
    (Dev.blockStart _) (Dev.noSelfPool _) (Runs.of_foldlM (fun _ e => Dev.identifies e) hs) hall hs'⟩

/-- Sells, with what is left of the amount and of the limit of the main one. -/
theorem sellersRule : SettlementRule cfg (SellerGetsRest cfg) (fun i => 0 < i.amountIn)
    (fun i τ => i.sellOrBuy = .SELL → i.amountIn ≤ τ.1 → i.tradeLimit ≤ τ.2)
    (fun i copy τ => i.sellOrBuy = .SELL → τ.1 + copy.amountIn = i.amountIn ∧
      i.tradeLimit ≤ τ.2 + copy.tradeLimit ∧ (copy.amountIn = 0 → i.tradeLimit ≤ τ.2)) where
  untouched i hi _ hle := by
    have : i.amountIn ≤ 0 := hle
    omega
  amm i s t _ hv hb _ := by
    rw [hb]
    exact ((validateIntention_amounts hv).1 hb).2
  start i hi _ := ⟨Nat.zero_add _, (Nat.zero_add _).ge, fun hz => by omega⟩
  trade pairAccount i s copy matched scenario fromA fromB copy' τ _ _ hcopy hpart hP hprep hnext := by
    have hlim := hP scenario fromA fromB hprep
    cases hprep with
    | complete hlt hlimit =>
        refine ⟨fun hb => ?_, fun hb _ => ?_⟩
        · obtain ⟨hin, hrest, -⟩ := restOfMain_amounts hlt hnext
          obtain ⟨h₁, h₂, -⟩ := hpart hb
          rw [hin, hrest (hcopy.sellOrBuy.trans hb)]
          simp only [Prod.fst_add, Prod.snd_add]
          omega
        · rw [hb, exceedsLimit_sell] at hlimit
          simpa [legFlow] using hlimit
    | split t limitLeft hlt hle hvalid hleft hlimit =>
        -- The one place where the limit of the main sell is not looked at.
        cases hnext
        refine ⟨fun hb => ?_, fun hb _ => ?_⟩
        · have hrest := hlim (hcopy.sellOrBuy.trans hb)
          obtain ⟨h₁, h₂, h₃⟩ := hpart hb
          simp only [Prod.fst_add, Prod.snd_add]
          simp only at hrest
          omega
        · have ht := ((validateRest_amounts hvalid).1 hb).2
          simp only [legFlow, ammFlow, hb, Prod.snd_add]
          omega
    | exactMatch heq hmain hlimit =>
        cases hnext
        refine ⟨fun hb => ?_, fun hb _ => ?_⟩
        · obtain ⟨h₁, h₂, h₃⟩ := hpart hb
          rw [hb, exceedsLimit_sell] at hmain
          simp only [Prod.fst_add, Prod.snd_add]
          omega
        · rw [hb, exceedsLimit_sell] at hlimit
          simpa [legFlow] using hlimit
  finish i copy τ _ hpart hb hle := by
    obtain ⟨h₁, -, h₃⟩ := hpart hb
    exact h₃ (by omega)
  finishAmm i s copy τ t _ hcopy hin hpart hv hb _ := by
    have hcb := hcopy.sellOrBuy.trans hb
    have ht := ((validateIntention_amounts hv).1 hcb).2
    obtain ⟨-, h₂, -⟩ := hpart hb
    rw [hcb]
    simp only [ammFlow, Prod.snd_add]
    omega

/-- **A sell that is spent entirely gets at least its limit** over all its direct trades and
AMM trades, in every block whose iterations meet `SellerGetsRest`. -/
theorem sell_gets_at_least_limit [DecidableEq Hash] (cfg : Config AccountId Hash)
    (hseeds : XYK.SeedsInjective cfg) (s₀ s s' : State AccountId Hash) (hstart : BlockStart s₀)
    (hself : XYK.NoSelfPool cfg s₀) (hrun : BlockRuns cfg (Identifies cfg) s₀ s)
    (hall : EveryIteration cfg (SellerGetsRest cfg) s) (h : onFinalize cfg s = .ok s') :
    ∀ key, ∀ i ∈ s.intentions key, i.sellOrBuy = .SELL →
      i.amountIn ≤ (tally flow i.intentionId s'.events).1 →
        i.tradeLimit ≤ (tally flow i.intentionId s'.events).2 := by
  have hs := registering_of_blockRuns hseeds hstart hself hrun
  exact (sellersRule cfg).onFinalize hs.registered (fun key i hi => (hs.amounts key i hi).1)
    hs.quiet hall h

/-! ### A main sell that gets less than its limit -/

/-- `[2]` sells 1000 of asset `2` for at least `limit` when they are worth 1000 of asset `1`.
Then `[1]` raises the price of asset `2`, and `[3]` sells more than `[2]` asked for. -/
def raisedPrice (limit : Nat) : Except Failure (State Dev.AccountId Dev.Hash) :=
  Dev.after (Dev.genesis [(1, [1], 2000000), (2, [1], 2000000), (1, [2], 10000), (2, [2], 10000),
      (1, [3], 10000), (2, [3], 10000)])
    [.xyk (.createPool [1] 1 2 500000 (10 ^ 18)), .sell [2] 2 1 1000 limit false,
      .xyk (.sell [1] 1 2 100000 1 false), .sell [3] 1 2 3000 1500 false]

/-- At the new price the AMM would pay more than 1200. Scenario 2 pays the 1000 of the old
price and does not look at the limit. -/
theorem sell_gets_less_than_limit :
    Succeeds (raisedPrice 1200) fun s => Succeeds (onFinalize Dev.cfg s) fun s' =>
      ∃ i ∈ s.intentions (2, 1), i.sellOrBuy = .SELL ∧ i.amountIn = 1000 ∧ i.tradeLimit = 1200 ∧
        tally flow i.intentionId s'.events = (1000, 1000) := by
  decide +kernel

theorem sell_gets_at_least_limit_raisedPrice :
    Succeeds (raisedPrice 900) fun s => Succeeds (onFinalize Dev.cfg s) fun s' =>
      ∀ key, ∀ i ∈ s.intentions key, i.sellOrBuy = .SELL →
        i.amountIn ≤ (tally flow i.intentionId s'.events).1 →
          i.tradeLimit ≤ (tally flow i.intentionId s'.events).2 := by
  have hok : Succeeds (raisedPrice 900) fun s =>
      EveryIteration Dev.cfg (SellerGetsRest Dev.cfg) s ∧
        Succeeds (onFinalize Dev.cfg s) fun _ => True := by
    decide +kernel
  obtain ⟨s, hs, hall, s', hs', -⟩ := hok
  exact ⟨s, hs, s', hs', sell_gets_at_least_limit Dev.cfg Dev.seedsInjective
    _ s s' (Dev.blockStart _) (Dev.noSelfPool _)
    (Runs.of_foldlM (fun _ e => Dev.identifies e) hs) hall hs'⟩

end HydraDX.Exchange
