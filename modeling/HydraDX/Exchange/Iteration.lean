import HydraDX.Exchange.Resolver

set_option autoImplicit false

/-! # What one iteration of the resolver does

`resolveMatched` has three scenarios with several exits each. The theorems at the end say
once what an iteration can do, and everything about the resolver is derived from them:

* an iteration that gets as far as preparing a direct trade (`Prepares`) is the common tail
  `tradeDirectly` of the three scenarios (`resolveMatched_of_prepares`);
* any other iteration only reports an error, or panics in the limit check of scenario 2
  (`resolveMatched_of_not_prepares`);
* so there are four ways in which an iteration returns (`Iterated`). -/

namespace HydraDX.Exchange

variable {AccountId Hash : Type} [DecidableEq AccountId] (cfg : Config AccountId Hash)

/-- The three ways to trade with a matched intention: it is filled completely, its rest goes
to the AMM by the given transfer, or the amounts match exactly. -/
inductive Scenario (AccountId : Type) where
  | complete
  | split (ammTransfer : AMMTransfer AccountId)
  | exactMatch

/-- The direct trade of `fromA` of the main against `fromB` of the matched intention. -/
def directTrade (copy matched : Intention AccountId Hash) (fromA fromB : Nat) :
    DirectTradeData AccountId Hash :=
  { intentionA := copy
    intentionB := matched
    amountFromA := fromA
    amountFromB := fromB
    transfers := [] }

/-- The iteration for `matched` passes its checks in the given scenario and prepares the
direct trade of `fromA` against `fromB`. -/
inductive Prepares (intention : Intention AccountId Hash) (s : State AccountId Hash)
    (copy matched : Intention AccountId Hash) : Scenario AccountId → Nat → Nat → Prop where
  | complete (hlt : matched.amountOut < copy.amountIn)
      (hlimit : exceedsLimit matched.sellOrBuy matched.amountOut matched.tradeLimit = false) :
      Prepares intention s copy matched .complete matched.amountOut matched.amountIn
  | split (ammTransfer : AMMTransfer AccountId) (limitLeft : Nat)
      (hlt : copy.amountIn < matched.amountOut) (hle : copy.amountOut ≤ matched.amountIn)
      (hvalid : validateRest cfg matched (matched.amountIn - copy.amountOut)
        (matched.amountOut - copy.amountIn) (matched.tradeLimit - copy.amountIn) s
          = .ok ammTransfer)
      (hleft : subBalance cfg.overflowChecks matched.tradeLimit ammTransfer.amountOut
        = .ok limitLeft)
      (hlimit : exceedsLimit matched.sellOrBuy copy.amountOut limitLeft = false) :
      Prepares intention s copy matched (.split ammTransfer) copy.amountIn copy.amountOut
  | exactMatch (heq : copy.amountIn = matched.amountOut)
      (hmain : exceedsLimit intention.sellOrBuy matched.amountIn intention.tradeLimit = false)
      (hlimit : exceedsLimit matched.sellOrBuy copy.amountIn matched.tradeLimit = false) :
      Prepares intention s copy matched .exactMatch copy.amountIn matched.amountIn

/-- The direct trade that the iteration prepares, if any: `Prepares` as a function. -/
def preparesOf (intention : Intention AccountId Hash) (s : State AccountId Hash)
    (copy matched : Intention AccountId Hash) : Option (Scenario AccountId × Nat × Nat) :=
  if matched.amountOut < copy.amountIn then
    if exceedsLimit matched.sellOrBuy matched.amountOut matched.tradeLimit then none
    else some (.complete, matched.amountOut, matched.amountIn)
  else if copy.amountIn < matched.amountOut then
    if copy.amountOut ≤ matched.amountIn then
      match validateRest cfg matched (matched.amountIn - copy.amountOut)
        (matched.amountOut - copy.amountIn) (matched.tradeLimit - copy.amountIn) s with
      | .error _ => none
      | .ok ammTransfer =>
          match subBalance cfg.overflowChecks matched.tradeLimit ammTransfer.amountOut with
          | .error _ => none
          | .ok limitLeft =>
              if exceedsLimit matched.sellOrBuy copy.amountOut limitLeft then none
              else some (.split ammTransfer, copy.amountIn, copy.amountOut)
    else none
  else if exceedsLimit intention.sellOrBuy matched.amountIn intention.tradeLimit then none
  else if exceedsLimit matched.sellOrBuy copy.amountIn matched.tradeLimit then none
  else some (.exactMatch, copy.amountIn, matched.amountIn)

/-- The AMM leg of the matched intention, if the scenario has one. -/
def ammLeg (matched : Intention AccountId Hash) (scenario : Scenario AccountId)
    (s : State AccountId Hash) : Except DispatchError (State AccountId Hash) :=
  match scenario with
  | .split ammTransfer =>
      executeAmmTransfer cfg matched.sellOrBuy matched.intentionId ammTransfer s
  | _ => .ok s

/-- The copy of the main intention after a direct trade. -/
def nextCopy (copy matched : Intention AccountId Hash) (scenario : Scenario AccountId) :
    Except Panic (Intention AccountId Hash) :=
  match scenario with
  | .complete => restOfMain cfg copy matched
  | _ => .ok { copy with amountIn := 0 }

/-- The common tail of the scenarios: prepare the direct trade, make the AMM trade of the
matched intention, execute the direct trade; revert it if one of the first two fails. -/
def tradeDirectly (pairAccount : AccountId) (copy matched : Intention AccountId Hash)
    (scenario : Scenario AccountId) (fromA fromB : Nat) (s : State AccountId Hash) :
    Except Panic (State AccountId Hash × Intention AccountId Hash) :=
  match (directTrade copy matched fromA fromB).prepare cfg pairAccount s with
  | (true, dt, s) =>
      match ammLeg cfg matched scenario s with
      | .ok s => do
          let s ← dt.execute cfg s
          let copy ← nextCopy cfg copy matched scenario
          return (s, copy)
      | .error error => .ok (dt.revert cfg (sendIntentionErrorEvent matched error s), copy)
  | (false, dt, s) => .ok (dt.revert cfg s, copy)

/-- The four ways in which an iteration returns: it prepares no direct trade, the trade it
prepares cannot be reserved, the AMM leg of the matched intention fails, or all is executed. -/
inductive Iterated (pairAccount : AccountId) (intention : Intention AccountId Hash)
    (s : State AccountId Hash) (copy matched : Intention AccountId Hash) :
    State AccountId Hash → Intention AccountId Hash → Prop where
  | refused (failed : Intention AccountId Hash) (error : DispatchError)
      (hnone : ∀ scenario fromA fromB,
        ¬ Prepares cfg intention s copy matched scenario fromA fromB) :
      Iterated pairAccount intention s copy matched (sendIntentionErrorEvent failed error s) copy
  | unreserved (scenario : Scenario AccountId) (fromA fromB : Nat)
      (dt : DirectTradeData AccountId Hash) (s₁ : State AccountId Hash)
      (hprep : Prepares cfg intention s copy matched scenario fromA fromB)
      (hp : (directTrade copy matched fromA fromB).prepare cfg pairAccount s = (false, dt, s₁)) :
      Iterated pairAccount intention s copy matched (dt.revert cfg s₁) copy
  | ammFailed (scenario : Scenario AccountId) (fromA fromB : Nat)
      (dt : DirectTradeData AccountId Hash) (s₁ : State AccountId Hash) (error : DispatchError)
      (hprep : Prepares cfg intention s copy matched scenario fromA fromB)
      (hp : (directTrade copy matched fromA fromB).prepare cfg pairAccount s = (true, dt, s₁))
      (hamm : ammLeg cfg matched scenario s₁ = .error error) :
      Iterated pairAccount intention s copy matched
        (dt.revert cfg (sendIntentionErrorEvent matched error s₁)) copy
  | executed (scenario : Scenario AccountId) (fromA fromB : Nat)
      (dt : DirectTradeData AccountId Hash) (s₁ s₂ s' : State AccountId Hash)
      (copy' : Intention AccountId Hash)
      (hprep : Prepares cfg intention s copy matched scenario fromA fromB)
      (hp : (directTrade copy matched fromA fromB).prepare cfg pairAccount s = (true, dt, s₁))
      (hamm : ammLeg cfg matched scenario s₁ = .ok s₂) (hex : dt.execute cfg s₂ = .ok s')
      (hcopy : nextCopy cfg copy matched scenario = .ok copy') :
      Iterated pairAccount intention s copy matched s' copy'

/-! ## AMM trades -/

section AmmTrades

variable {cfg} {intentionType : IntentionType} {intentionId : Hash} {t : AMMTransfer AccountId}
  {intention : Intention AccountId Hash} {s s' : State AccountId Hash}

/-- The ledger after an AMM trade. -/
def tradedLedger (cfg : Config AccountId Hash) (intentionType : IntentionType)
    (t : AMMTransfer AccountId) (l : Ledger AssetId AccountId) : Ledger AssetId AccountId :=
  match intentionType with
  | .SELL => XYK.soldLedger cfg t l
  | .BUY => XYK.boughtLedger cfg t l

/-- The events of an AMM trade made for an intention: that of the pool, and that of the
intention. -/
def tradedEvents (intentionType : IntentionType) (intentionId : Hash)
    (t : AMMTransfer AccountId) : List (Event AccountId Hash) :=
  [match intentionType with
    | .SELL => .SellExecuted t.origin t.assets.assetIn t.assets.assetOut t.amount t.amountOut
    | .BUY => .BuyExecuted t.origin t.assets.assetOut t.assets.assetIn t.amount t.amountOut,
   .IntentionResolvedAMMTrade t.origin intentionType intentionId t.amount t.amountOut]

/-- An intention is validated as the rest of itself. -/
theorem validateIntention_eq (i : Intention AccountId Hash) (s : State AccountId Hash) :
    validateIntention cfg i s = validateRest cfg i i.amountIn i.amountOut i.tradeLimit s := rfl

theorem executeAmmTransfer_ok
    (h : executeAmmTransfer cfg intentionType intentionId t s = .ok s') :
    s' = { s with
      ledger := tradedLedger cfg intentionType t s.ledger
      events := s.events ++ tradedEvents intentionType intentionId t } := by
  unfold executeAmmTransfer at h
  cases intentionType with
  | SELL =>
      obtain ⟨s₁, h₁, h⟩ := Fallible.bind_eq_ok.mp h
      cases h
      rw [XYK.executeSell_ok h₁]
      simp [State.depositEvent, State.setLedger, tradedLedger, tradedEvents]
  | BUY =>
      obtain ⟨s₁, h₁, h⟩ := Fallible.bind_eq_ok.mp h
      cases h
      rw [XYK.executeBuy_ok h₁]
      simp [State.depositEvent, State.setLedger, tradedLedger, tradedEvents]

theorem tradedLedger_reserved (l : Ledger AssetId AccountId) :
    (tradedLedger cfg intentionType t l).reserved = l.reserved := by
  cases intentionType with
  | SELL => simp [tradedLedger, XYK.soldLedger]
  | BUY => simp [tradedLedger, XYK.boughtLedger]

/-- Resolving an intention by the AMM alone reports an error, or makes the validated trade. -/
theorem resolveSingleIntention_cases (cfg : Config AccountId Hash)
    (intention : Intention AccountId Hash) (s : State AccountId Hash) :
    (∃ error, resolveSingleIntention cfg intention s = sendIntentionErrorEvent intention error s) ∨
    (∃ t, validateIntention cfg intention s = .ok t ∧
      resolveSingleIntention cfg intention s = { s with
        ledger := tradedLedger cfg intention.sellOrBuy t s.ledger
        events := s.events ++ tradedEvents intention.sellOrBuy intention.intentionId t }) := by
  unfold resolveSingleIntention
  cases hv : validateIntention cfg intention s with
  | error error => exact Or.inl ⟨error, rfl⟩
  | ok t =>
      simp only
      cases he : executeAmmTransfer cfg intention.sellOrBuy intention.intentionId t s with
      | error error => exact Or.inl ⟨error, rfl⟩
      | ok s' => exact Or.inr ⟨t, rfl, executeAmmTransfer_ok he⟩

theorem resolveSingleIntention_reserved (intention : Intention AccountId Hash)
    (s : State AccountId Hash) :
    (resolveSingleIntention cfg intention s).ledger.reserved = s.ledger.reserved := by
  rcases resolveSingleIntention_cases cfg intention s with ⟨error, h⟩ | ⟨t, -, h⟩
  · rw [h]; rfl
  · rw [h]; exact tradedLedger_reserved s.ledger

theorem ammLeg_reserved {scenario : Scenario AccountId}
    (h : ammLeg cfg intention scenario s = .ok s') : s'.ledger.reserved = s.ledger.reserved := by
  unfold ammLeg at h
  cases scenario with
  | split t =>
      rw [executeAmmTransfer_ok h]
      exact tradedLedger_reserved s.ledger
  | complete => cases h; rfl
  | exactMatch => cases h; rfl

end AmmTrades

/-! ## The iterations -/

section Iterations

variable {cfg} {pairAccount : AccountId} {intention copy copy' matched : Intention AccountId Hash}
  {s s' : State AccountId Hash} {scenario : Scenario AccountId} {fromA fromB : Nat}

/-- Scenario 2 trades exactly the remaining `amountOut` of the main intention. -/
theorem resolveScenario2_of_le (hlt : copy.amountIn < matched.amountOut)
    (hle : copy.amountOut ≤ matched.amountIn) :
    resolveScenario2 cfg pairAccount copy matched s =
      match validateRest cfg matched (matched.amountIn - copy.amountOut)
        (matched.amountOut - copy.amountIn) (matched.tradeLimit - copy.amountIn) s with
      | .error error => .ok (sendIntentionErrorEvent matched error s, copy)
      | .ok ammTransfer => executeScenario2 cfg pairAccount
          (directTrade copy matched copy.amountIn copy.amountOut) ammTransfer s := by
  have hin : checkedSub matched.amountIn copy.amountOut
      = some (matched.amountIn - copy.amountOut) := checkedSub_eq_some.mpr ⟨hle, rfl⟩
  have hout : checkedSub matched.amountOut copy.amountIn
      = some (matched.amountOut - copy.amountIn) := checkedSub_eq_some.mpr ⟨hlt.le, rfl⟩
  have hback : matched.amountIn - (matched.amountIn - copy.amountOut) = copy.amountOut := by omega
  simp only [resolveScenario2, hin, hout]
  rw [subBalance_of_le (Nat.sub_le _ _), hback]
  rfl

theorem prepares_iff : Prepares cfg intention s copy matched scenario fromA fromB ↔
    preparesOf cfg intention s copy matched = some (scenario, fromA, fromB) := by
  constructor
  · intro h
    unfold preparesOf
    cases h with
    | complete hlt hlimit => rw [if_pos hlt, hlimit]; rfl
    | split t limitLeft hlt hle hvalid hleft hlimit =>
        rw [if_neg (by omega), if_pos hlt, if_pos hle, hvalid]
        simp only [hleft, hlimit]
        rfl
    | exactMatch heq hmain hlimit =>
        rw [if_neg (by omega), if_neg (by omega), hmain, hlimit]
        rfl
  · intro h
    unfold preparesOf at h
    -- `split_ifs` closes the branches that turn the trade away.
    split_ifs at h with h₁ h₂ h₃ h₄ h₅ h₆
    · cases h
      exact .complete h₁ (by simpa using h₂)
    · cases hvalid : validateRest cfg matched (matched.amountIn - copy.amountOut)
          (matched.amountOut - copy.amountIn) (matched.tradeLimit - copy.amountIn) s with
      | error e => rw [hvalid] at h; cases h
      | ok t =>
          rw [hvalid] at h
          simp only at h
          cases hleft : subBalance cfg.overflowChecks matched.tradeLimit t.amountOut with
          | error e => rw [hleft] at h; cases h
          | ok limitLeft =>
              rw [hleft] at h
              simp only at h
              split_ifs at h with hlimit
              cases h
              exact .split t limitLeft h₃ h₄ hvalid hleft (by simpa using hlimit)
    · cases h
      exact .exactMatch (by omega) (by simpa using h₅) (by simpa using h₆)

/-- A condition on the trade that is prepared is decided by working out the trade. -/
instance decidableForallPrepares {Q : Scenario AccountId → Nat → Nat → Prop}
    [∀ scenario fromA fromB, Decidable (Q scenario fromA fromB)] :
    Decidable (∀ scenario fromA fromB,
      Prepares cfg intention s copy matched scenario fromA fromB → Q scenario fromA fromB) :=
  match h : preparesOf cfg intention s copy matched with
  | none => isTrue (fun _ _ _ hp => by rw [prepares_iff, h] at hp; cases hp)
  | some (scenario, fromA, fromB) =>
      decidable_of_iff (Q scenario fromA fromB)
        ⟨fun hq _ _ _ hp => by rw [prepares_iff, h] at hp; cases hp; exact hq,
          fun hq => hq scenario fromA fromB (prepares_iff.mpr h)⟩

/-- The state and the two intentions determine the direct trade. -/
theorem Prepares.unique {scenario' : Scenario AccountId} {fromA' fromB' : Nat}
    (h' : Prepares cfg intention s copy matched scenario' fromA' fromB')
    (h : Prepares cfg intention s copy matched scenario fromA fromB) :
    scenario' = scenario ∧ fromA' = fromA ∧ fromB' = fromB := by
  rw [prepares_iff] at h h'
  rw [h] at h'
  cases h'
  exact ⟨rfl, rfl, rfl⟩

/-- An iteration that prepares a direct trade is the common tail of the scenarios. -/
theorem resolveMatched_of_prepares (h : Prepares cfg intention s copy matched scenario fromA fromB) :
    resolveMatched cfg pairAccount intention (s, copy) matched
      = tradeDirectly cfg pairAccount copy matched scenario fromA fromB s := by
  unfold resolveMatched
  cases h with
  | complete hlt hlimit =>
      rw [if_pos hlt]
      simp only [resolveScenario1, hlimit, Bool.false_eq_true, if_false, tradeDirectly, directTrade]
      generalize DirectTradeData.prepare cfg _ pairAccount s = p
      obtain ⟨ok, dt, s₁⟩ := p
      cases ok <;> rfl
  | split amm limitLeft hlt hle hvalid hleft hlimit =>
      rw [if_neg (by simp only; omega), if_pos hlt, resolveScenario2_of_le hlt hle, hvalid]
      simp only [executeScenario2, directTrade, hleft, tradeDirectly]
      show (if exceedsLimit matched.sellOrBuy copy.amountOut limitLeft then _ else _) = _
      simp only [hlimit, Bool.false_eq_true, if_false]
      generalize DirectTradeData.prepare cfg _ pairAccount s = p
      obtain ⟨ok, dt, s₁⟩ := p
      cases ok with
      | false => rfl
      | true =>
          simp only [ammLeg]
          generalize executeAmmTransfer cfg _ _ amm s₁ = r
          cases r <;> rfl
  | exactMatch heq hmain hlimit =>
      rw [if_neg (by simp only; omega), if_neg (by simp only; omega)]
      simp only [resolveScenario3, hmain, hlimit, Bool.false_eq_true, if_false, tradeDirectly,
        directTrade]
      generalize DirectTradeData.prepare cfg _ pairAccount s = p
      obtain ⟨ok, dt, s₁⟩ := p
      cases ok <;> rfl

/-- The amounts match exactly, and the trade is outside the limit of the main intention. -/
def ExceedsMain (intention copy matched : Intention AccountId Hash) : Prop :=
  matched.amountOut = copy.amountIn ∧
    exceedsLimit intention.sellOrBuy matched.amountIn intention.tradeLimit = true

/-- An iteration that prepares no direct trade reports an error and changes nothing else, unless
it panics where it takes the AMM amount off the limit of the matched intention. The error is
that of the matched intention, except where the limit of the main one is exceeded. -/
theorem resolveMatched_of_not_prepares (pairAccount : AccountId)
    (h : ∀ scenario fromA fromB, ¬ Prepares cfg intention s copy matched scenario fromA fromB) :
    (∃ failed error, (failed = intention ∧ ExceedsMain intention copy matched ∨
        failed = matched ∧ ¬ ExceedsMain intention copy matched) ∧
      resolveMatched cfg pairAccount intention (s, copy) matched
        = .ok (sendIntentionErrorEvent failed error s, copy)) ∨
    (∃ ammTransfer e, copy.amountIn < matched.amountOut ∧ copy.amountOut ≤ matched.amountIn ∧
      validateRest cfg matched (matched.amountIn - copy.amountOut)
        (matched.amountOut - copy.amountIn) (matched.tradeLimit - copy.amountIn) s
          = .ok ammTransfer ∧
      subBalance cfg.overflowChecks matched.tradeLimit ammTransfer.amountOut = .error e ∧
      resolveMatched cfg pairAccount intention (s, copy) matched = .error e) := by
  -- The three scenarios; in each the check that fails is the one the code reports.
  rcases Nat.lt_trichotomy matched.amountOut copy.amountIn with hlt | heq | hlt
  · have hlimit : exceedsLimit matched.sellOrBuy matched.amountOut matched.tradeLimit = true := by
      rw [← Bool.not_eq_false]
      exact fun hl => h _ _ _ (.complete hlt hl)
    refine Or.inl ⟨matched, .exchange .AssetBalanceLimitExceeded,
      Or.inr ⟨rfl, fun he => absurd he.1 (by omega)⟩, ?_⟩
    rw [resolveMatched, if_pos hlt]
    simp only [resolveScenario1, hlimit, if_true]
  · rw [resolveMatched, if_neg (by simp only; omega), if_neg (by simp only; omega)]
    cases hmain : exceedsLimit intention.sellOrBuy matched.amountIn intention.tradeLimit with
    | true =>
        refine Or.inl ⟨intention, .exchange .AssetBalanceLimitExceeded,
          Or.inl ⟨rfl, heq, hmain⟩, ?_⟩
        simp only [resolveScenario3, hmain, if_true]
    | false =>
        have hlimit : exceedsLimit matched.sellOrBuy copy.amountIn matched.tradeLimit = true := by
          rw [← Bool.not_eq_false]
          exact fun hl => h _ _ _ (.exactMatch heq.symm hmain hl)
        have hfits : ¬ ExceedsMain intention copy matched := by
          rintro ⟨-, he⟩
          rw [hmain] at he
          cases he
        refine Or.inl ⟨matched, .exchange .AssetBalanceLimitExceeded, Or.inr ⟨rfl, hfits⟩, ?_⟩
        simp only [resolveScenario3, hmain, hlimit, Bool.false_eq_true, if_false, if_true]
  · have hfits : ¬ ExceedsMain intention copy matched := fun he => absurd he.1 (by omega)
    rw [resolveMatched, if_neg (by simp only; omega), if_pos hlt]
    by_cases hle : copy.amountOut ≤ matched.amountIn
    · rw [resolveScenario2_of_le hlt hle]
      cases hvalid : validateRest cfg matched (matched.amountIn - copy.amountOut)
          (matched.amountOut - copy.amountIn) (matched.tradeLimit - copy.amountIn) s with
      | error error => exact Or.inl ⟨matched, error, Or.inr ⟨rfl, hfits⟩, rfl⟩
      | ok amm =>
          simp only [executeScenario2, directTrade]
          cases hleft : subBalance cfg.overflowChecks matched.tradeLimit amm.amountOut with
          | error e => exact Or.inr ⟨amm, e, hlt, hle, rfl, hleft, rfl⟩
          | ok limitLeft =>
              have hlimit : exceedsLimit matched.sellOrBuy copy.amountOut limitLeft = true := by
                rw [← Bool.not_eq_false]
                exact fun hl => h _ _ _ (.split amm limitLeft hlt hle hvalid hleft hl)
              refine Or.inl ⟨matched, .exchange .AssetBalanceLimitExceeded,
                Or.inr ⟨rfl, hfits⟩, ?_⟩
              show (if exceedsLimit matched.sellOrBuy copy.amountOut limitLeft then _ else _) = _
              simp only [hlimit, if_true]
    · have hin : checkedSub matched.amountIn copy.amountOut = none := by
        rw [checkedSub, if_neg hle]
      refine Or.inl ⟨matched, .exchange .AssetBalanceLimitExceeded, Or.inr ⟨rfl, hfits⟩, ?_⟩
      simp only [resolveScenario2, hin]

/-- **What an iteration that returns has done.** -/
theorem resolveMatched_ok
    (h : resolveMatched cfg pairAccount intention (s, copy) matched = .ok (s', copy')) :
    Iterated cfg pairAccount intention s copy matched s' copy' := by
  by_cases hex : ∃ scenario fromA fromB,
      Prepares cfg intention s copy matched scenario fromA fromB
  · obtain ⟨scenario, fromA, fromB, hprep⟩ := hex
    rw [resolveMatched_of_prepares hprep] at h
    unfold tradeDirectly at h
    generalize hp : (directTrade copy matched fromA fromB).prepare cfg pairAccount s = p at h
    obtain ⟨ok, dt, s₁⟩ := p
    cases ok with
    | false => cases h; exact .unreserved scenario fromA fromB dt s₁ hprep hp
    | true =>
        simp only at h
        cases hamm : ammLeg cfg matched scenario s₁ with
        | error error =>
            rw [hamm] at h
            cases h
            exact .ammFailed scenario fromA fromB dt s₁ error hprep hp hamm
        | ok s₂ =>
            rw [hamm] at h
            simp only [Fallible.bind_eq_ok] at h
            obtain ⟨s₃, hs₃, copy₃, hcopy, h⟩ := h
            cases h
            exact .executed scenario fromA fromB dt s₁ s₂ s' copy' hprep hp hamm hs₃ hcopy
  · have hnone : ∀ scenario fromA fromB,
        ¬ Prepares cfg intention s copy matched scenario fromA fromB :=
      fun a b c hp => hex ⟨a, b, c, hp⟩
    rcases resolveMatched_of_not_prepares pairAccount hnone with
      ⟨failed, error, -, heq⟩ | ⟨_, _, -, -, -, -, heq⟩
    · rw [heq] at h
      cases h
      exact .refused failed error hnone
    · rw [heq] at h
      cases h

end Iterations

end HydraDX.Exchange
