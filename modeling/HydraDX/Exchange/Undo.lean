import HydraDX.Exchange.Finalize
import HydraDX.Exchange.Reservations
import HydraDX.Chain

set_option autoImplicit false

/-! # What a failed direct trade leaves reserved

Reserved balances never fall in a call of the resolver: an executed trade pays out exactly
what it reserved, and a reverted one releases what it pushed. They rise where a trade that
is not revertible is reverted. So finalizing a block leaves nothing behind exactly when
every trade it prepares is revertible. -/

namespace HydraDX.Exchange

variable {AccountId Hash : Type} [DecidableEq AccountId] (cfg : Config AccountId Hash)

/-- If the iteration prepares a direct trade, that trade is revertible. -/
def PreparesRevertible : IterationCond AccountId Hash :=
  fun _ intention sc matched => ∀ scenario fromA fromB,
    Prepares cfg intention sc.1 sc.2 matched scenario fromA fromB →
      (directTrade sc.2 matched fromA fromB).Revertible cfg sc.1

instance (account : AccountId) (i : Intention AccountId Hash)
    (sc : State AccountId Hash × Intention AccountId Hash) (m : Intention AccountId Hash) :
    Decidable (PreparesRevertible cfg account i sc m) :=
  decidableForallPrepares

variable {cfg} {s s' : State AccountId Hash} {pairAccount : AccountId}
  {intention copy copy' matched : Intention AccountId Hash}

theorem payOut_reserved (l : Ledger AssetId AccountId) (ts : List (Transfer AccountId)) :
    (payOut l ts).reserved = l.reserved := by
  unfold payOut
  induction ts generalizing l with
  | nil => rfl
  | cons t ts ih => rw [List.foldl_cons, ih, Ledger.move_reserved]

/-- Executing a prepared trade, after its AMM leg, gives back what was reserved for it. -/
theorem execute_reserved {dt dt' : DirectTradeData AccountId Hash} {feeA feeB : Nat}
    {s₁ s₂ : State AccountId Hash} {scenario : Scenario AccountId}
    (hp : DirectTradeData.Prepared dt pairAccount feeA feeB s dt' s₁)
    (hamm : ammLeg cfg matched scenario s₁ = .ok s₂) (hex : dt'.execute cfg s₂ = .ok s') :
    s'.ledger.reserved = s.ledger.reserved := by
  have htransfers : dt'.transfers = dt.preparedTransfers pairAccount feeA feeB := by
    rw [hp.trade_eq]
  have hres₂ : ∀ c w, s₂.ledger.reserved c w
      = s.ledger.reserved c w + Ledger.held (holdsOf dt'.transfers) c w := by
    intro c w
    rw [ammLeg_reserved hamm, htransfers, hp.holds.reserved]
  have hle : ∀ c w, Ledger.held (holdsOf dt'.transfers) c w ≤ s₂.ledger.reserved c w := by
    intro c w
    rw [hres₂]
    exact Nat.le_add_left _ _
  -- executing pays out on the ledger without the reservations, which is the one before
  have hl := Ledger.holds_unhold hle
  obtain ⟨hH, -, -⟩ := DirectTradeData.execute_ok hl hex
  rw [hH, payOut_reserved]
  funext c w
  have h₁ := hl.reserved c w
  have h₂ := hres₂ c w
  omega

/-- Of an iteration that prepares a trade, the condition is about that trade. -/
theorem preparesRevertible_iff {scenario : Scenario AccountId} {fromA fromB : Nat}
    (hprep : Prepares cfg intention s copy matched scenario fromA fromB) :
    PreparesRevertible cfg pairAccount intention (s, copy) matched ↔
      (directTrade copy matched fromA fromB).Revertible cfg s := by
  refine ⟨fun hall => hall _ _ _ hprep, fun hrev scenario' fromA' fromB' hprep' => ?_⟩
  obtain ⟨-, rfl, rfl⟩ := hprep'.unique hprep
  exact hrev

/-- One iteration: the reserved balances do not fall, and they stay exactly when the trade
that is prepared, if any, is revertible. -/
theorem resolveMatched_reserved
    (h : resolveMatched cfg pairAccount intention (s, copy) matched = .ok (s', copy')) :
    s.ledger.reserved ≤ s'.ledger.reserved ∧
    (s'.ledger.reserved ≤ s.ledger.reserved ↔
      PreparesRevertible cfg pairAccount intention (s, copy) matched) := by
  cases resolveMatched_ok h with
  | refused failed error hnone =>
      exact ⟨le_rfl, iff_of_true le_rfl fun a b c hp => absurd hp (hnone a b c)⟩
  | unreserved scenario fromA fromB dt s₁ hprep hp =>
      rw [preparesRevertible_iff hprep]
      obtain ⟨hfalse, -⟩ | ⟨-, left, hnot, hiff⟩ := DirectTradeData.prepare_cases rfl hp
      · cases hfalse
      · -- Reverting leaves reserved what was not pushed.
        have hH := DirectTradeData.revert_holds cfg hnot.holds
        rw [← hiff, ← Ledger.held_eq_zero_iff]
        refine ⟨fun c w => ?_, fun hle c w => ?_, fun hz c w => ?_⟩
        · rw [hH.reserved c w]
          exact Nat.le_add_right _ _
        · have h₁ : (dt.revert cfg s₁).ledger.reserved c w ≤ s.ledger.reserved c w := hle c w
          rw [hH.reserved c w] at h₁
          omega
        · rw [hH.reserved c w, hz c w]
          exact Nat.le_refl _
  | ammFailed scenario fromA fromB dt s₁ error hprep hp hamm =>
      rw [preparesRevertible_iff hprep]
      obtain ⟨-, _, _, hprepared, hrev⟩ | ⟨hfalse, -⟩ := DirectTradeData.prepare_cases rfl hp
      · have hH : Ledger.Holds s.ledger (sendIntentionErrorEvent matched error s₁).ledger
            (holdsOf dt.transfers ++ []) := by
          rw [hprepared.trade_eq, List.append_nil]
          exact hprepared.holds
        rw [(DirectTradeData.revert_holds cfg hH).eq_of_nil]
        exact ⟨le_rfl, iff_of_true le_rfl hrev⟩
      · cases hfalse
  | executed scenario fromA fromB dt s₁ s₂ _ _ hprep hp hamm hex hcopy =>
      rw [preparesRevertible_iff hprep]
      obtain ⟨-, _, _, hprepared, hrev⟩ | ⟨hfalse, -⟩ := DirectTradeData.prepare_cases rfl hp
      · rw [execute_reserved hprepared hamm hex]
        exact ⟨le_rfl, iff_of_true le_rfl hrev⟩
      · cases hfalse

/-- One main intention. -/
theorem processMain_reserved {stack rest : List (Intention AccountId Hash)}
    (h : processMain cfg pairAccount (s, stack) intention = .ok (s', rest)) :
    s.ledger.reserved ≤ s'.ledger.reserved ∧
    (s'.ledger.reserved ≤ s.ledger.reserved ↔
      EveryMatched cfg (PreparesRevertible cfg) pairAccount (s, stack) intention) := by
  rcases processMain_cases h with ⟨error, hv, rfl, -⟩ | ⟨transfer, bvec, s₁, copy, hv, hpop,
    hloop, hs'⟩
  · refine ⟨le_rfl, iff_of_true le_rfl fun transfer bvec rest hv' => ?_⟩
    rw [hv] at hv'
    cases hv'
  · -- the AMM trade of the rest reserves nothing
    have hs₁ : s'.ledger.reserved = s₁.ledger.reserved := by
      rw [hs']
      split_ifs
      · exact resolveSingleIntention_reserved copy s₁
      · rfl
    obtain ⟨hle, hiff⟩ := Fallible.le_iff_always (μ := fun sc => sc.1.ledger.reserved)
      (fun sc m _ sc' hm => resolveMatched_reserved hm) hloop
    rw [hs₁]
    refine ⟨hle, fun h => ?_, fun h => hiff.mpr (h transfer bvec rest hv hpop)⟩
    intro _ _ _ _ hpop'
    rw [hpop] at hpop'
    cases hpop'
    exact hiff.mp h

/-- The intentions that are left when all main ones are processed go to the AMM. -/
theorem resolveRest_reserved (rest : List (Intention AccountId Hash)) (s : State AccountId Hash) :
    (rest.foldl (fun s intention => resolveSingleIntention cfg intention s) s).ledger.reserved
      = s.ledger.reserved := by
  induction rest generalizing s with
  | nil => rfl
  | cons intention rest ih =>
      rw [List.foldl_cons, ih, resolveSingleIntention_reserved]

/-- One pair of assets. -/
theorem finalizePair_reserved {key : AssetId × AssetId} (h : finalizePair cfg s key = .ok s') :
    s.ledger.reserved ≤ s'.ledger.reserved ∧
    (s'.ledger.reserved ≤ s.ledger.reserved ↔ EveryInPair cfg (PreparesRevertible cfg) s key) := by
  unfold finalizePair at h
  unfold EveryInPair
  by_cases hcount : (s.intentionCount.lookup key).getD 0 = 0
  · rw [if_pos hcount] at h
    cases h
    exact ⟨le_rfl, iff_of_true le_rfl fun hne => absurd hcount hne⟩
  · rw [if_neg hcount, processExchangeIntentions, Fallible.bind_eq_ok] at h
    obtain ⟨⟨s₁, rest⟩, hloop, h⟩ := h
    cases h
    obtain ⟨hle, hiff⟩ := Fallible.le_iff_always (μ := fun ss => ss.1.ledger.reserved)
      (fun ss i _ ss' hi => processMain_reserved hi) hloop
    rw [resolveRest_reserved]
    exact ⟨hle, hiff.trans ⟨fun h _ => h, fun h => h hcount⟩⟩

theorem onFinalize_reserved (h : onFinalize cfg s = .ok s') :
    s.ledger.reserved ≤ s'.ledger.reserved ∧
    (s'.ledger.reserved ≤ s.ledger.reserved ↔ EveryIteration cfg (PreparesRevertible cfg) s) := by
  unfold onFinalize at h
  rw [Fallible.bind_eq_ok] at h
  obtain ⟨s₁, hloop, h⟩ := h
  cases h
  exact Fallible.le_iff_always (μ := fun s => s.ledger.reserved)
    (fun s key _ s' hk => finalizePair_reserved hk) hloop

/-- **Failed direct trades are undone exactly when they are revertible.** Whether a prepared
trade is reverted because its preparation failed or because its AMM leg did, the ledger is
as before exactly when the trade is revertible; and finalizing a block raises no reserved
balance exactly when every trade it prepares is. -/
theorem revert_restores_iff_revertible (cfg : Config AccountId Hash) :
    (∀ (a b : Intention AccountId Hash) (fromA fromB : Nat) (poolAccount : AccountId)
      (s s₁ s₂ : State AccountId Hash) (ok : Bool) (dt : DirectTradeData AccountId Hash),
      (directTrade a b fromA fromB).prepare cfg poolAccount s = (ok, dt, s₁) →
      s₂.ledger = s₁.ledger →
        ((dt.revert cfg s₂).ledger = s.ledger ↔
          (directTrade a b fromA fromB).Revertible cfg s)) ∧
    (∀ s s' : State AccountId Hash, onFinalize cfg s = .ok s' →
      ((∀ asset who, s'.ledger.reserved asset who ≤ s.ledger.reserved asset who) ↔
        EveryIteration cfg (PreparesRevertible cfg) s)) := by
  constructor
  · intro a b fromA fromB poolAccount s s₁ s₂ ok dt h hs₂
    exact DirectTradeData.revert_ledger_eq_iff rfl h hs₂
  · intro s s' h
    exact (onFinalize_reserved h).2

/-! ## A fee that stays reserved -/

open Fallible

/-- Account `[3]` sells asset `2` and holds `balance` of asset `1` for its fee; account `[2]`
sells asset `1` and holds nothing of asset `2`. -/
def feeShort (balance : Nat) : Except Failure (State Dev.AccountId Dev.Hash) :=
  Dev.after (Dev.genesis [(1, [1], 1000000), (2, [1], 1000000), (1, [2], 10000), (2, [3], 10000),
      (1, [3], balance)])
    [.xyk (.createPool [1] 1 2 500000 (10 ^ 18)), .sell [2] 1 2 5000 1 false,
      .sell [3] 2 1 5000 1 false]

/-- The trade that finalizing prepares for the two. -/
def feeShortTrade : DirectTradeData Dev.AccountId Dev.Hash :=
  directTrade
    { who := [3], assets := ⟨2, 1⟩, amountIn := 5000, amountOut := 5000, tradeLimit := 1,
      discount := false, sellOrBuy := .SELL, intentionId := (1, [3], 1, 1, 2) }
    { who := [2], assets := ⟨1, 2⟩, amountIn := 5000, amountOut := 5000, tradeLimit := 1,
      discount := false, sellOrBuy := .SELL, intentionId := (0, [2], 1, 1, 2) }
    5000 5000

/-- The two sells match exactly. The fee of `[3]` is reserved, that of `[2]` cannot be, and
the reversal does not know of the first. -/
theorem onFinalize_leaves_fee_reserved :
    Succeeds (feeShort 100) fun s =>
      (feeShortTrade.prepare Dev.cfg [0] s).1 = false ∧
      s.ledger.reserved 1 [3] = 0 ∧
      ((feeShortTrade.prepare Dev.cfg [0] s).2.1.revert Dev.cfg
        (feeShortTrade.prepare Dev.cfg [0] s).2.2).ledger.reserved 1 [3] = 10 ∧
      Succeeds (onFinalize Dev.cfg s) fun s' => s'.ledger.reserved 1 [3] = 10 := by
  decide +kernel

/-- Where `[3]` cannot pay its fee either, none is reserved, and all is undone. -/
theorem revert_restores_iff_revertible_noFee :
    Succeeds (feeShort 0) fun s =>
      (feeShortTrade.prepare Dev.cfg [0] s).1 = false ∧
      ((feeShortTrade.prepare Dev.cfg [0] s).2.1.revert Dev.cfg
        (feeShortTrade.prepare Dev.cfg [0] s).2.2).ledger = s.ledger ∧
      Succeeds (onFinalize Dev.cfg s) fun s' =>
        ∀ asset who, s'.ledger.reserved asset who ≤ s.ledger.reserved asset who := by
  have hok : Succeeds (feeShort 0) fun s => (feeShortTrade.prepare Dev.cfg [0] s).1 = false ∧
      feeShortTrade.Revertible Dev.cfg s ∧ EveryIteration Dev.cfg (PreparesRevertible Dev.cfg) s ∧
      Succeeds (onFinalize Dev.cfg s) fun _ => True := by
    decide +kernel
  obtain ⟨s, hs, hfails, htrade, hall, s', hs', -⟩ := hok
  refine ⟨s, hs, hfails, ?_, s', hs', ?_⟩
  · exact ((revert_restores_iff_revertible Dev.cfg).1 _ _ _ _ [0] s _ _ _ _ rfl rfl).mpr htrade
  · exact ((revert_restores_iff_revertible Dev.cfg).2 s s' hs').mpr hall

end HydraDX.Exchange
