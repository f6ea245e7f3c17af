import HydraDX.Exchange.Outcome
import HydraDX.Chain

set_option autoImplicit false

/-! # Unchecked arithmetic in `onFinalize`

With overflow checks, an addition or subtraction that leaves the range of a balance panics,
so "no arithmetic fault" is: finalizing does not end in `Panic.arithmetic`. (Without the
checks the first fault happens at the same place and wraps instead.) The running total of
matched amounts stays in range as long as the registered amounts add up to a balance. The
three subtractions of the resolver are not covered by the comparisons in front of them, and
`SubtractionsFit` says what they need. It is met where the registered amounts are of one price
and the limits of sells are close enough to it: `FillsFit` and `LimitCoversRest`. -/

namespace HydraDX.Exchange

variable {AccountId Hash : Type} [DecidableEq AccountId] (cfg : Config AccountId Hash)

/-- What the subtractions of one iteration need. If the matched intention is filled
completely, its `amountIn` fits into what is left of the main `amountOut`, and of the limit
if the main intention is a buy; if its rest is sent to the AMM, the AMM amount fits into its
limit. -/
structure SubtractionsFit (pairAccount : AccountId) (intention : Intention AccountId Hash)
    (sc : State AccountId Hash × Intention AccountId Hash) (matched : Intention AccountId Hash) :
    Prop where
  filled : ∀ dt s₁ s₂, Prepares cfg intention sc.1 sc.2 matched .complete matched.amountOut
      matched.amountIn →
    (directTrade sc.2 matched matched.amountOut matched.amountIn).prepare cfg pairAccount sc.1
      = (true, dt, s₁) →
    dt.execute cfg s₁ = .ok s₂ →
    matched.amountIn ≤ sc.2.amountOut ∧
      (sc.2.sellOrBuy = .BUY → matched.amountIn ≤ sc.2.tradeLimit)
  limit : ∀ t, sc.2.amountIn < matched.amountOut → sc.2.amountOut ≤ matched.amountIn →
    validateRest cfg matched (matched.amountIn - sc.2.amountOut)
      (matched.amountOut - sc.2.amountIn) (matched.tradeLimit - sc.2.amountIn) sc.1 = .ok t →
    t.amountOut ≤ matched.tradeLimit

variable {cfg} {s s' : State AccountId Hash} {pairAccount : AccountId}
  {intention copy copy' matched : Intention AccountId Hash}

/-- Executing a direct trade only panics in its `expect`. -/
theorem execute_ne_arithmetic (dt : DirectTradeData AccountId Hash) (s : State AccountId Hash) :
    dt.execute cfg s ≠ .error .arithmetic := by
  rw [DirectTradeData.execute, Fallible.ne_error_iff_always]
  refine Fallible.Always.of_forall (fun s t => ?_) _ _
  unfold DirectTradeData.executeTransfer
  cases cfg.currency.repatriateReserved t.asset t.source t.dest t.amount s.ledger with
  | error e => simp
  | ok p =>
      simp only
      split_ifs <;> simp

/-- The subtractions for the rest of the main intention. -/
theorem restOfMain_ne_arithmetic (hchecks : cfg.overflowChecks = true)
    (hlt : matched.amountOut < copy.amountIn) :
    restOfMain cfg copy matched ≠ .error .arithmetic ↔
      matched.amountIn ≤ copy.amountOut ∧
        (copy.sellOrBuy = .BUY → matched.amountIn ≤ copy.tradeLimit) := by
  unfold restOfMain
  rw [hchecks, subBalance_of_le hlt.le]
  by_cases hout : matched.amountIn ≤ copy.amountOut
  · rw [subBalance_of_le hout]
    cases hb : copy.sellOrBuy with
    | SELL => simp [hout, bind, Except.bind, pure, Except.pure]
    | BUY =>
        by_cases hl : matched.amountIn ≤ copy.tradeLimit
        · rw [subBalance_of_le hl]
          simp [hout, hl, bind, Except.bind, pure, Except.pure]
        · have he := subBalance_error_iff.mpr ⟨Nat.lt_of_not_le hl, rfl⟩
          simp [hl, he, bind, Except.bind]
  · have he := subBalance_error_iff.mpr ⟨Nat.lt_of_not_le hout, rfl⟩
    simp [hout, he, bind, Except.bind]

/-- In scenario 2 the AMM amount is taken off the limit of the matched intention. -/
theorem resolveMatched_limit_panics (hchecks : cfg.overflowChecks = true)
    {t : AMMTransfer AccountId} (hlt : copy.amountIn < matched.amountOut)
    (hle : copy.amountOut ≤ matched.amountIn)
    (hvalid : validateRest cfg matched (matched.amountIn - copy.amountOut)
      (matched.amountOut - copy.amountIn) (matched.tradeLimit - copy.amountIn) s = .ok t)
    (hlim : matched.tradeLimit < t.amountOut) :
    resolveMatched cfg pairAccount intention (s, copy) matched = .error .arithmetic := by
  have he := subBalance_error_iff.mpr ⟨hlim, rfl⟩
  rw [resolveMatched, if_neg (by simp only; omega), if_pos hlt, resolveScenario2_of_le hlt hle,
    hvalid]
  simp only [executeScenario2, directTrade, hchecks, he]
  rfl

/-- The common tail of the scenarios only subtracts for the next copy. -/
theorem tradeDirectly_ne_arithmetic_iff {scenario : Scenario AccountId} {fromA fromB : Nat} :
    tradeDirectly cfg pairAccount copy matched scenario fromA fromB s ≠ .error .arithmetic ↔
      ∀ dt s₁ s₂ s₃, (directTrade copy matched fromA fromB).prepare cfg pairAccount s
          = (true, dt, s₁) →
        ammLeg cfg matched scenario s₁ = .ok s₂ → dt.execute cfg s₂ = .ok s₃ →
          nextCopy cfg copy matched scenario ≠ .error .arithmetic := by
  unfold tradeDirectly
  generalize (directTrade copy matched fromA fromB).prepare cfg pairAccount s = p
  obtain ⟨ok, dt, s₁⟩ := p
  cases ok with
  | false => simp
  | true =>
      simp only [Prod.mk.injEq, true_and]
      cases hamm : ammLeg cfg matched scenario s₁ with
      | error e =>
          refine iff_of_true (by simp) ?_
          rintro dt' s₁' s₂ s₃ ⟨rfl, rfl⟩ hamm'
          rw [hamm] at hamm'
          cases hamm'
      | ok s₂ =>
          simp only [Ne, Fallible.bind_eq_error, execute_ne_arithmetic, false_or]
          constructor
          · rintro h dt' s₁' s₂' s₃ ⟨rfl, rfl⟩ hamm' hex hcopy
            rw [hamm] at hamm'
            cases hamm'
            exact h ⟨s₃, hex, Or.inl hcopy⟩
          · rintro h ⟨s₃, hex, hcopy | ⟨_, -, hpure⟩⟩
            · exact h dt s₁ s₂ s₃ ⟨rfl, rfl⟩ hamm hex hcopy
            · cases hpure

/-- An iteration that prepares a direct trade. Scenarios 2 and 3 leave the copy with nothing to
sell, so that only a complete fill subtracts for the next copy. -/
theorem tradeDirectly_fits_iff (hchecks : cfg.overflowChecks = true)
    {scenario : Scenario AccountId} {fromA fromB : Nat}
    (hprep : Prepares cfg intention s copy matched scenario fromA fromB) :
    tradeDirectly cfg pairAccount copy matched scenario fromA fromB s ≠ .error .arithmetic ↔
      SubtractionsFit cfg pairAccount intention (s, copy) matched := by
  rw [tradeDirectly_ne_arithmetic_iff]
  cases hprep with
  | complete hlt hlimit =>
      have hprep' : Prepares cfg intention s copy matched .complete _ _ := .complete hlt hlimit
      constructor
      · intro h
        refine ⟨fun dt s₁ s₂ _ hp he => ?_, fun t hlt' => ?_⟩
        · exact (restOfMain_ne_arithmetic hchecks hlt).mp (h dt s₁ s₁ s₂ hp rfl he)
        · simp only at hlt'
          omega
      · intro h dt s₁ s₂ s₃ hp hamm he
        cases hamm
        exact (restOfMain_ne_arithmetic hchecks hlt).mpr (h.filled dt s₁ s₃ hprep' hp he)
  | split t limitLeft hlt hle hvalid hleft hlimit =>
      refine iff_of_true (fun dt s₁ s₂ s₃ _ _ _ => by simp [nextCopy]) ⟨?_, ?_⟩
      · rintro dt s₁ s₂ (⟨hlt', -⟩)
        simp only at hlt'
        omega
      · -- The limit was large enough, or the trade would not have been prepared.
        intro t' _ _ hvalid'
        obtain rfl : t' = t := by
          rw [hvalid] at hvalid'
          cases hvalid'
          rfl
        by_contra hgt
        rw [hchecks, subBalance_error_iff.mpr ⟨Nat.lt_of_not_le hgt, rfl⟩] at hleft
        cases hleft
  | exactMatch heq hmain hlimit =>
      refine iff_of_true (fun dt s₁ s₂ s₃ _ _ _ => by simp [nextCopy]) ⟨?_, ?_⟩
      · rintro dt s₁ s₂ (⟨hlt', -⟩)
        simp only at hlt'
        omega
      · intro t' hlt'
        simp only at hlt'
        omega

/-- One iteration. -/
theorem resolveMatched_ne_arithmetic_iff (hchecks : cfg.overflowChecks = true) :
    resolveMatched cfg pairAccount intention (s, copy) matched ≠ .error .arithmetic ↔
      SubtractionsFit cfg pairAccount intention (s, copy) matched := by
  by_cases hex : ∃ scenario fromA fromB,
      Prepares cfg intention s copy matched scenario fromA fromB
  · obtain ⟨scenario, fromA, fromB, hprep⟩ := hex
    rw [resolveMatched_of_prepares hprep]
    exact tradeDirectly_fits_iff hchecks hprep
  · have hnone : ∀ scenario fromA fromB,
        ¬ Prepares cfg intention s copy matched scenario fromA fromB :=
      fun a b c hp => hex ⟨a, b, c, hp⟩
    constructor
    · intro h
      refine ⟨fun dt s₁ s₂ hp => absurd hp (hnone _ _ _), fun t hlt hle hvalid => ?_⟩
      by_contra hgt
      exact h (resolveMatched_limit_panics hchecks hlt hle hvalid (Nat.lt_of_not_le hgt))
    · intro h
      rcases resolveMatched_of_not_prepares pairAccount hnone with
        ⟨failed, error, -, heq⟩ | ⟨t, e, hlt, hle, hvalid, hleft, -⟩
      · rw [heq]
        simp
      · rw [hchecks, subBalance_error_iff] at hleft
        have := h.limit t hlt hle hvalid
        omega

/-- One main intention. -/
theorem processMain_ne_arithmetic_iff (hchecks : cfg.overflowChecks = true)
    {stack : List (Intention AccountId Hash)}
    (hsum : (stack.map (·.amountIn)).sum < balanceBound) :
    processMain cfg pairAccount (s, stack) intention ≠ .error .arithmetic ↔
      EveryMatched cfg (SubtractionsFit cfg) pairAccount (s, stack) intention := by
  have hpop : popMatched cfg.overflowChecks intention.amountIn 0 stack ≠ .error .arithmetic :=
    popMatched_ne_error (by omega)
  have hloop : ∀ bvec : List (Intention AccountId Hash),
      bvec.foldlM (resolveMatched cfg pairAccount intention) (s, intention) ≠ .error .arithmetic ↔
        Fallible.Always (resolveMatched cfg pairAccount intention)
          (SubtractionsFit cfg pairAccount intention) (s, intention) bvec := by
    intro bvec
    rw [Fallible.ne_error_iff_always]
    exact Fallible.Always.iff_of_invariant (I := fun _ => True) (fun _ _ _ _ _ => trivial)
      (fun sc m _ _ => resolveMatched_ne_arithmetic_iff hchecks) trivial
  rw [Ne, processMain_error]
  constructor
  · intro h transfer bvec rest hv hb
    exact (hloop bvec).mp fun he => h ⟨transfer, hv, Or.inr ⟨bvec, rest, hb, he⟩⟩
  · rintro h ⟨transfer, hv, he | ⟨bvec, rest, hb, he⟩⟩
    · exact hpop he
    · exact (hloop bvec).mpr (h transfer bvec rest hv hb) he

/-- One pair of assets. -/
theorem finalizePair_ne_arithmetic_iff (hchecks : cfg.overflowChecks = true)
    {key : AssetId × AssetId}
    (hsum : ((s.intentions (key.1, key.2)).map (·.amountIn)).sum < balanceBound) :
    finalizePair cfg s key ≠ .error .arithmetic ↔
      EveryInPair cfg (SubtractionsFit cfg) s key := by
  unfold finalizePair EveryInPair
  by_cases hcount : (s.intentionCount.lookup key).getD 0 = 0
  · rw [if_pos hcount]
    exact iff_of_true (by simp) fun hne => absurd hcount hne
  · rw [if_neg hcount, processExchangeIntentions, Ne, Fallible.bind_eq_error]
    have hperm := sortByAmountIn_perm (s.intentions (key.1, key.2))
    have hsorted : ((sortByAmountIn (s.intentions (key.1, key.2))).map (·.amountIn)).sum
        < balanceBound := by
      rw [(hperm.map _).sum_eq]
      exact hsum
    -- What is left on the stack is a part of it.
    have hstep : ∀ (ss : State AccountId Hash × List (Intention AccountId Hash)) i ss',
        (ss.2.map (·.amountIn)).sum < balanceBound →
        processMain cfg (XYK.getPairId cfg { assetIn := key.1, assetOut := key.2 }) ss i = .ok ss' →
        (ss'.2.map (·.amountIn)).sum < balanceBound := by
      rintro ⟨t, stack⟩ i ⟨t', rest⟩ hss h
      rcases processMain_cases h with ⟨_, -, -, rfl⟩ | ⟨_, bvec, _, _, -, hb, -, -⟩
      · exact hss
      · rw [popMatched_ok hb] at hss
        simp only [List.map_append, List.sum_append] at hss ⊢
        omega
    have hiff : (sortByAmountIn (s.intentions (key.2, key.1))).foldlM
          (processMain cfg (XYK.getPairId cfg { assetIn := key.1, assetOut := key.2 }))
          (s, sortByAmountIn (s.intentions (key.1, key.2))) ≠ .error .arithmetic ↔
        Fallible.Always (processMain cfg (XYK.getPairId cfg { assetIn := key.1, assetOut := key.2 }))
          (EveryMatched cfg (SubtractionsFit cfg)
            (XYK.getPairId cfg { assetIn := key.1, assetOut := key.2 }))
          (s, sortByAmountIn (s.intentions (key.1, key.2)))
          (sortByAmountIn (s.intentions (key.2, key.1))) := by
      rw [Fallible.ne_error_iff_always]
      exact Fallible.Always.iff_of_invariant hstep
        (fun ss i _ hss => processMain_ne_arithmetic_iff hchecks hss) hsorted
    constructor
    · intro h _
      exact hiff.mp fun he => h (Or.inl he)
    · rintro h (he | ⟨_, -, hpure⟩)
      · exact hiff.mpr (h hcount) he
      · cases hpure

/-- Finalizing a block is free of arithmetic faults exactly when the subtractions of every
iteration fit, provided that for every pair the registered amounts add up to a balance. -/
theorem onFinalize_ne_arithmetic_iff (cfg : Config AccountId Hash)
    (hchecks : cfg.overflowChecks = true) (s : State AccountId Hash)
    (hsum : ∀ key ∈ s.intentionCount.keys,
      ((s.intentions key).map (·.amountIn)).sum < balanceBound) :
    onFinalize cfg s ≠ .error .arithmetic ↔ EveryIteration cfg (SubtractionsFit cfg) s := by
  -- `finalizePair` leaves the intentions as they are, so the sums stay those of `s`.
  have hagree : ∀ keys : List (AssetId × AssetId), (∀ key ∈ keys, key ∈ s.intentionCount.keys) →
      ∀ t : State AccountId Hash, ∀ key ∈ keys, t.intentions = s.intentions →
        (finalizePair cfg t key ≠ .error .arithmetic ↔
          EveryInPair cfg (SubtractionsFit cfg) t key) := by
    intro keys hkeys t key hkey ht
    apply finalizePair_ne_arithmetic_iff hchecks
    rw [ht]
    exact hsum key (hkeys key hkey)
  have hiff := Fallible.Always.iff_of_invariant (f := finalizePair cfg)
    (I := fun t => t.intentions = s.intentions)
    (fun t key t' ht h => (finalizePair_storage h).intentions.trans ht)
    (hagree (cfg.iterOrder s.intentionCount.keys)
      fun key hkey => (cfg.iterOrder_perm _).mem_iff.mp hkey) (s := s) rfl
  unfold EveryIteration
  rw [← hiff, ← Fallible.ne_error_iff_always, onFinalize, Ne, Fallible.bind_eq_error]
  constructor
  · exact fun h he => h (Or.inl he)
  · rintro h (he | ⟨_, -, hpure⟩)
    · exact h he
    · cases hpure

/-! ## Amounts and limits for which they fit -/

section Registered

variable {main : Intention AccountId Hash}
  {others stack filled left : List (Intention AccountId Hash)}

/-- Whichever of the other intentions ask together for less than the main one offers, they offer
no more than it asks for and, if it buys, no more than its limit. -/
def FillsFit (main : Intention AccountId Hash) (others : List (Intention AccountId Hash)) : Prop :=
  ∀ filled ∈ others.sublists, (filled.map (·.amountOut)).sum < main.amountIn →
    (filled.map (·.amountIn)).sum ≤ main.amountOut ∧
      (main.sellOrBuy = .BUY → (filled.map (·.amountIn)).sum ≤ main.tradeLimit)

/-- What the pool pays, at its reserves, for an amount of the asset that is sold to it. -/
def paidByPool (cfg : Config AccountId Hash) (s : State AccountId Hash) (assets : AssetPair)
    (amount : Nat) (discount : Bool) : Nat :=
  match XYK.transferFee cfg discount amount with
  | .ok fee => XYK.reserveOf cfg s assets assets.assetOut * (amount - fee)
      / (XYK.reserveOf cfg s assets assets.assetIn + (amount - fee)) + 1
  | .error _ => 0

/-- The limit of a sell that the main intention can fill only in part covers what the pool pays
for its rest. -/
def LimitCoversRest (cfg : Config AccountId Hash) : IterationCond AccountId Hash :=
  fun _ _ sc matched => matched.sellOrBuy = .SELL → sc.2.amountIn < matched.amountOut →
    sc.2.amountOut ≤ matched.amountIn →
      paidByPool cfg sc.1 matched.assets (matched.amountIn - sc.2.amountOut) matched.discount
        ≤ matched.tradeLimit

instance (main : Intention AccountId Hash) (others : List (Intention AccountId Hash)) :
    Decidable (FillsFit main others) :=
  inferInstanceAs (Decidable (∀ filled ∈ others.sublists, _ → _ ∧ (_ → _)))

instance (account : AccountId) (i : Intention AccountId Hash)
    (sc : State AccountId Hash × Intention AccountId Hash) (m : Intention AccountId Hash) :
    Decidable (LimitCoversRest cfg account i sc m) :=
  inferInstanceAs (Decidable (_ → _ → _ → _ ≤ _))

/-- The copy is what is left of the main intention once the intentions `filled` are filled
completely from it. -/
structure FilledBy (main : Intention AccountId Hash) (filled : List (Intention AccountId Hash))
    (copy : Intention AccountId Hash) : Prop where
  sellOrBuy : copy.sellOrBuy = main.sellOrBuy
  amountIn : copy.amountIn + (filled.map (·.amountOut)).sum = main.amountIn
  amountOut : copy.amountOut + (filled.map (·.amountIn)).sum = main.amountOut
  tradeLimit : main.sellOrBuy = .BUY →
    copy.tradeLimit + (filled.map (·.amountIn)).sum = main.tradeLimit

/-- The copy before the iterations for `left`: exhausted, or what some of the intentions before
them have left of the main one. -/
def LeftBy (main : Intention AccountId Hash) (others : List (Intention AccountId Hash))
    (copy : Intention AccountId Hash) (left : List (Intention AccountId Hash)) : Prop :=
  copy.amountIn = 0 ∨ ∃ filled, (filled ++ left).Subperm others ∧ FilledBy main filled copy

omit [DecidableEq AccountId] in
theorem FillsFit.of_subperm (h : FillsFit main others) (hsub : filled.Subperm others)
    (hlt : (filled.map (·.amountOut)).sum < main.amountIn) :
    (filled.map (·.amountIn)).sum ≤ main.amountOut ∧
      (main.sellOrBuy = .BUY → (filled.map (·.amountIn)).sum ≤ main.tradeLimit) := by
  obtain ⟨filled', hperm, hsub'⟩ := hsub
  have hin : (filled'.map (·.amountIn)).sum = (filled.map (·.amountIn)).sum :=
    (hperm.map _).sum_eq
  have hout : (filled'.map (·.amountOut)).sum = (filled.map (·.amountOut)).sum :=
    (hperm.map _).sum_eq
  rw [← hin]
  exact h filled' (List.mem_sublists.mpr hsub') (by rwa [hout])

omit [DecidableEq AccountId] in
/-- One more intention adds its own amount. -/
theorem sum_map_concat (amount : Intention AccountId Hash → Nat)
    (filled : List (Intention AccountId Hash)) (matched : Intention AccountId Hash) :
    ((filled ++ [matched]).map amount).sum = (filled.map amount).sum + amount matched := by
  simp

omit [DecidableEq AccountId] in
theorem FilledBy.nil (main : Intention AccountId Hash) : FilledBy main [] main :=
  ⟨rfl, rfl, rfl, fun _ => rfl⟩

/-- What is left once one more is filled: the subtractions have not gone below zero. -/
theorem FilledBy.next (hchecks : cfg.overflowChecks = true) (h : FilledBy main filled copy)
    (hlt : matched.amountOut < copy.amountIn) (hnext : restOfMain cfg copy matched = .ok copy') :
    FilledBy main (filled ++ [matched]) copy' := by
  obtain ⟨hsame, hin, hout, hlimit⟩ := h
  obtain ⟨hle, hle'⟩ := (restOfMain_ne_arithmetic hchecks hlt).mp (by rw [hnext]; simp)
  have hsumIn := sum_map_concat (·.amountIn) filled matched
  have hsumOut := sum_map_concat (·.amountOut) filled matched
  unfold restOfMain at hnext
  rw [subBalance_of_le hlt.le, subBalance_of_le hle] at hnext
  cases hb : copy.sellOrBuy with
  | SELL =>
      rw [hb] at hnext
      cases hnext
      have hmain : main.sellOrBuy = .SELL := by rw [← hsame, hb]
      refine ⟨hmain.symm, ?_, ?_, fun hbuy => by rw [hmain] at hbuy; cases hbuy⟩
      · rw [hsumOut]; simp only; omega
      · rw [hsumIn]; simp only; omega
  | BUY =>
      have hle'' := hle' hb
      rw [hb, subBalance_of_le hle''] at hnext
      cases hnext
      refine ⟨hb.symm.trans hsame, ?_, ?_, fun hbuy => ?_⟩
      · rw [hsumOut]; simp only; omega
      · rw [hsumIn]; simp only; omega
      · have := hlimit hbuy
        rw [hsumIn]; simp only; omega

/-- One iteration leaves the copy exhausted, as it is, or with one more intention filled. -/
theorem LeftBy.resolveMatched (hchecks : cfg.overflowChecks = true)
    (h : LeftBy main others copy (matched :: left))
    (hstep : resolveMatched cfg pairAccount main (s, copy) matched = .ok (s', copy')) :
    LeftBy main others copy' left := by
  rcases resolveMatched_cases hstep with ⟨scenario, fromA, fromB, ht⟩ | ⟨-, hn⟩
  · have hnext := ht.copy_eq
    cases ht.trades.1 with
    | complete hlt _ =>
        rcases h with hzero | ⟨filled, hsub, hfilled⟩
        · omega
        · refine Or.inr ⟨filled ++ [matched], ?_, hfilled.next hchecks hlt hnext⟩
          rw [List.append_assoc]
          exact hsub
    | split t _ _ _ _ _ _ =>
        cases hnext
        exact Or.inl rfl
    | exactMatch _ _ _ =>
        cases hnext
        exact Or.inl rfl
  · rw [hn.copy_eq]
    rcases h with hzero | ⟨filled, hsub, hfilled⟩
    · exact Or.inl hzero
    · refine Or.inr ⟨filled, (List.Sublist.subperm ?_).trans hsub, hfilled⟩
      exact List.Sublist.append_left (List.sublist_cons_self matched left) filled

/-- The limit of the rest is not below what the AMM asks of a buyer, nor, if it covers it, below
what the AMM pays to a seller. -/
theorem amountOut_le_tradeLimit {restOut : Nat} {t : AMMTransfer AccountId}
    (hcover : matched.sellOrBuy = .SELL →
      paidByPool cfg s matched.assets (matched.amountIn - copy.amountOut) matched.discount
        ≤ matched.tradeLimit)
    (hvalid : validateRest cfg matched (matched.amountIn - copy.amountOut) restOut
      (matched.tradeLimit - copy.amountIn) s = .ok t) :
    t.amountOut ≤ matched.tradeLimit := by
  unfold validateRest at hvalid
  cases hb : matched.sellOrBuy with
  | SELL =>
      rw [hb] at hvalid
      obtain ⟨fee, hv⟩ := XYK.validateSell_ok hvalid
      have hpaid := hcover hb
      rw [paidByPool, hv.fee_eq] at hpaid
      rw [hv.amountOut_eq]
      exact hpaid
  | BUY =>
      rw [hb] at hvalid
      obtain ⟨price, fee, hv⟩ := XYK.validateBuy_ok hvalid
      have hle := hv.limit_le
      omega

/-- One iteration. -/
theorem LeftBy.subtractionsFit (hfits : FillsFit main others)
    (h : LeftBy main others copy (matched :: left))
    (hcover : LimitCoversRest cfg pairAccount main (s, copy) matched) :
    SubtractionsFit cfg pairAccount main (s, copy) matched := by
  refine ⟨fun dt s₁ s₂ hprep _ _ => ?_, fun t hlt hle hvalid =>
    amountOut_le_tradeLimit (fun hb => hcover hb hlt hle) hvalid⟩
  have hlt : matched.amountOut < copy.amountIn := by
    cases hprep with
    | complete hlt _ => exact hlt
  rcases h with hzero | ⟨filled, hsub, hsame, hin, hout, hlimit⟩
  · omega
  · -- the matched intention asks for less than what is left, so together they do not ask too much
    have hsub' : (filled ++ [matched]).Subperm others :=
      (List.Sublist.subperm (List.Sublist.append_left
        (List.singleton_sublist.mpr List.mem_cons_self) filled)).trans hsub
    have hsumIn := sum_map_concat (·.amountIn) filled matched
    have hsumOut := sum_map_concat (·.amountOut) filled matched
    obtain ⟨hfit, hfitLimit⟩ := hfits.of_subperm hsub' (by omega)
    refine ⟨by simp only; omega, fun hb => ?_⟩
    have hbuy : main.sellOrBuy = .BUY := by rw [← hsame]; exact hb
    have := hfitLimit hbuy
    have := hlimit hbuy
    simp only
    omega

/-- One main intention. -/
theorem everyMatched_fits (hchecks : cfg.overflowChecks = true) (hfits : FillsFit main others)
    (hsub : stack.Subperm others)
    (h : EveryMatched cfg (LimitCoversRest cfg) pairAccount (s, stack) main) :
    EveryMatched cfg (SubtractionsFit cfg) pairAccount (s, stack) main := by
  intro transfer bvec rest hv hpop
  have hstack : stack = bvec ++ rest := popMatched_ok hpop
  have hbvec : bvec.Subperm others := by
    refine (List.Sublist.subperm ?_).trans hsub
    rw [hstack]
    exact List.sublist_append_left bvec rest
  exact (h transfer bvec rest hv hpop).of_invariant (I := fun sc left => LeftBy main others sc.2 left)
    (fun _ _ _ _ hleft hstep => hleft.resolveMatched hchecks hstep)
    (fun _ _ _ hleft hcover => hleft.subtractionsFit hfits hcover)
    (Or.inr ⟨[], hbvec, .nil main⟩)

/-- One pair of assets. -/
theorem everyInPair_fits (hchecks : cfg.overflowChecks = true) {key : AssetId × AssetId}
    (hfits : ∀ main ∈ s.intentions (key.2, key.1), FillsFit main (s.intentions key))
    (h : EveryInPair cfg (LimitCoversRest cfg) s key) :
    EveryInPair cfg (SubtractionsFit cfg) s key := by
  intro hcount
  refine (h hcount).of_invariant (I := fun ss mains => (∀ main ∈ mains,
    main ∈ s.intentions (key.2, key.1)) ∧ ss.2.Subperm (s.intentions key)) ?_ ?_ ?_
  · -- what is left on the stack is a part of it
    rintro ⟨t, stack⟩ i mains ⟨t', rest⟩ ⟨hmains, hsub⟩ hstep
    refine ⟨fun main hmain => hmains main (List.mem_cons_of_mem i hmain), ?_⟩
    rcases processMain_cases hstep with ⟨_, -, -, rfl⟩ | ⟨_, bvec, _, _, -, hpop, -, -⟩
    · exact hsub
    · refine (List.Sublist.subperm ?_).trans hsub
      rw [popMatched_ok hpop]
      exact List.sublist_append_right bvec rest
  · rintro ⟨t, stack⟩ i mains ⟨hmains, hsub⟩ hcover
    exact everyMatched_fits hchecks (hfits i (hmains i List.mem_cons_self)) hsub hcover
  · exact ⟨fun main hmain => (sortByAmountIn_perm _).mem_iff.mp hmain,
      (sortByAmountIn_perm _).subperm⟩

/-- All iterations of a block. -/
theorem everyIteration_fits (hchecks : cfg.overflowChecks = true)
    (hfits : ∀ key ∈ s.intentionCount.keys, ∀ main ∈ s.intentions (key.2, key.1),
      FillsFit main (s.intentions key))
    (h : EveryIteration cfg (LimitCoversRest cfg) s) :
    EveryIteration cfg (SubtractionsFit cfg) s := by
  refine h.of_invariant (I := fun t keys => (∀ key ∈ keys, key ∈ s.intentionCount.keys) ∧
    t.intentions = s.intentions) ?_ ?_ ?_
  · rintro t key keys t' ⟨hkeys, hsame⟩ hstep
    exact ⟨fun key' hkey' => hkeys key' (List.mem_cons_of_mem key hkey'),
      (finalizePair_storage hstep).intentions.trans hsame⟩
  · rintro t key keys ⟨hkeys, hsame⟩ hcover
    refine everyInPair_fits hchecks ?_ hcover
    rw [hsame]
    exact hfits key (hkeys key List.mem_cons_self)
  · exact ⟨fun key hkey => (cfg.iterOrder_perm _).mem_iff.mp hkey, rfl⟩

end Registered

/-- **Finalizing a block is free of arithmetic faults** if the registered amounts of each pair add
up to a balance, counter-intentions that a main intention can fill completely do not offer more than
it asks for, and the limits of sells cover what the pool pays for their rests. -/
theorem onFinalize_ne_arithmetic (cfg : Config AccountId Hash)
    (hchecks : cfg.overflowChecks = true) (s : State AccountId Hash)
    (hsum : ∀ key ∈ s.intentionCount.keys,
      ((s.intentions key).map (·.amountIn)).sum < balanceBound)
    (hfits : ∀ key ∈ s.intentionCount.keys, ∀ main ∈ s.intentions (key.2, key.1),
      FillsFit main (s.intentions key))
    (hlimits : EveryIteration cfg (LimitCoversRest cfg) s) :
    onFinalize cfg s ≠ .error .arithmetic :=
  (onFinalize_ne_arithmetic_iff cfg hchecks s hsum).mpr (everyIteration_fits hchecks hfits hlimits)

/-! ## A limit that is smaller than the AMM amount -/

open Fallible

/-- `[3]` sells twice what `[2]` asks for, and wants at least `limit` for it. -/
def partlyFilled (limit : Nat) : Except Failure (State Dev.AccountId Dev.Hash) :=
  Dev.after (Dev.genesis [(1, [1], 1000000), (2, [1], 1000000), (1, [2], 10000), (2, [2], 10000),
      (1, [3], 10000), (2, [3], 10000)])
    [.xyk (.createPool [1] 1 2 500000 (10 ^ 18)), .sell [2] 2 1 1000 1 false,
      .sell [3] 1 2 2000 limit false]

/-- The AMM amount is taken off the limit `0` of `[3]`. -/
theorem onFinalize_underflows :
    Succeeds (partlyFilled 0) fun s =>
      ((s.intentions (1, 2)).map (·.amountIn)).sum < balanceBound ∧
      ((s.intentions (2, 1)).map (·.amountIn)).sum < balanceBound ∧
      onFinalize Dev.cfg s = .error .arithmetic := by
  decide +kernel

/-- A limit of 1000 covers the 997 that the AMM pays for the other half, and `[3]` is traded. -/
theorem onFinalize_ne_arithmetic_partlyFilled :
    Succeeds (partlyFilled 1000) fun s => onFinalize Dev.cfg s ≠ .error .arithmetic ∧
      Succeeds (onFinalize Dev.cfg s) fun s' => s.ledger.free 1 [3] = 10000 ∧
        s'.ledger.free 1 [3] = 8000 ∧ s'.ledger.free 2 [3] = 11995 := by
  have hok : Succeeds (partlyFilled 1000) fun s =>
      (s.intentionCount.keys.all (fun key =>
        ((s.intentions key).map (·.amountIn)).sum < balanceBound) = true ∧
      s.intentionCount.keys.all (fun key =>
        (s.intentions (key.2, key.1)).all fun main => FillsFit main (s.intentions key)) = true ∧
      EveryIteration Dev.cfg (LimitCoversRest Dev.cfg) s) ∧
      Succeeds (onFinalize Dev.cfg s) fun s' => s.ledger.free 1 [3] = 10000 ∧
        s'.ledger.free 1 [3] = 8000 ∧ s'.ledger.free 2 [3] = 11995 := by
    decide +kernel
  obtain ⟨s, hs, ⟨hsum, hfits, hlimits⟩, htraded⟩ := hok
  refine ⟨s, hs, onFinalize_ne_arithmetic Dev.cfg rfl s (fun key hkey => ?_)
    (fun key hkey main hmain => ?_) hlimits, htraded⟩
  · exact of_decide_eq_true (List.all_eq_true.mp hsum key hkey)
  · exact of_decide_eq_true (List.all_eq_true.mp (List.all_eq_true.mp hfits key hkey) main hmain)

end HydraDX.Exchange
