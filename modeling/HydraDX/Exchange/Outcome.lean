import HydraDX.Exchange.Finalize
import HydraDX.Exchange.Reservations

set_option autoImplicit false

/-! # The outcome of one iteration

An iteration of the resolver that does not panic either executes a direct trade, or reports
an error and leaves the copy of the main intention as it is. `resolveMatched_cases` says so,
with the events of the two outcomes and the next copy. Nothing but the ledger and the events
changes in the loops of `onFinalize`. -/

namespace HydraDX.Exchange

variable {AccountId Hash : Type} [DecidableEq AccountId] (cfg : Config AccountId Hash)

/-- The event reports that something did not go through. -/
def isReport : Event AccountId Hash → Bool
  | .InsufficientAssetBalanceEvent .. => true
  | .IntentionResolveErrorEvent .. => true
  | _ => false

/-- The event is a trade for an intention. -/
def isTrade : Event AccountId Hash → Bool
  | .IntentionResolvedAMMTrade .. => true
  | .IntentionResolvedDirectTrade .. => true
  | _ => false

/-- The events of the AMM leg of a matched intention. -/
def legEvents (matched : Intention AccountId Hash) :
    Scenario AccountId → List (Event AccountId Hash)
  | .split t => tradedEvents matched.sellOrBuy matched.intentionId t
  | _ => []

/-- The iteration passes its checks and reserves the direct trade of `fromA` against `fromB`,
and the AMM leg of the matched intention, if there is one, succeeds. -/
def Trades (pairAccount : AccountId) (intention : Intention AccountId Hash)
    (s : State AccountId Hash) (copy matched : Intention AccountId Hash)
    (scenario : Scenario AccountId) (fromA fromB : Nat) : Prop :=
  Prepares cfg intention s copy matched scenario fromA fromB ∧
  ∃ dt s₁ s₂, (directTrade copy matched fromA fromB).prepare cfg pairAccount s = (true, dt, s₁) ∧
    ammLeg cfg matched scenario s₁ = .ok s₂

/-- A trade has been executed. -/
structure Traded (pairAccount : AccountId) (intention : Intention AccountId Hash)
    (s : State AccountId Hash) (copy matched : Intention AccountId Hash)
    (scenario : Scenario AccountId) (fromA fromB : Nat) (s' : State AccountId Hash)
    (copy' : Intention AccountId Hash) : Prop where
  trades : Trades cfg pairAccount intention s copy matched scenario fromA fromB
  copy_eq : nextCopy cfg copy matched scenario = .ok copy'
  storage : State.SameStorage s s'
  events : ∃ fees : List (Event AccountId Hash),
    (∀ e ∈ fees, ∃ who id paidTo asset amount,
      e = .IntentionResolvedDirectTradeFees who id paidTo asset amount) ∧
    s'.events = s.events ++ legEvents matched scenario ++
      .IntentionResolvedDirectTrade copy.who matched.who copy.intentionId matched.intentionId
        fromA fromB :: fees

/-- Nothing has been traded. -/
structure NotTraded (s : State AccountId Hash) (copy : Intention AccountId Hash)
    (s' : State AccountId Hash) (copy' : Intention AccountId Hash) : Prop where
  copy_eq : copy' = copy
  storage : State.SameStorage s s'
  events : ∃ reports, (∀ e ∈ reports, isReport e = true) ∧ s'.events = s.events ++ reports

section Outcome

variable {cfg} {s s' : State AccountId Hash} {pairAccount : AccountId}
  {intention copy copy' matched : Intention AccountId Hash} {scenario : Scenario AccountId}
  {fromA fromB : Nat}

theorem ammLeg_ok (h : ammLeg cfg matched scenario s = .ok s') :
    State.SameStorage s s' ∧ s'.events = s.events ++ legEvents matched scenario := by
  unfold ammLeg at h
  cases scenario with
  | split t =>
      rw [executeAmmTransfer_ok h]
      exact ⟨rfl, rfl⟩
  | complete => cases h; exact ⟨rfl, (List.append_nil _).symm⟩
  | exactMatch => cases h; exact ⟨rfl, (List.append_nil _).symm⟩

theorem feeEvents_fees {dt : DirectTradeData AccountId Hash} {ts : List (Transfer AccountId)} :
    ∀ e ∈ dt.feeEvents ts, ∃ who id paidTo asset amount,
      e = .IntentionResolvedDirectTradeFees who id paidTo asset amount := by
  intro e he
  obtain ⟨t, -, ht⟩ := List.mem_flatMap.mp he
  by_cases hf : t.feeTransfer = true
  · rw [if_pos hf, List.mem_singleton] at ht
    exact ⟨_, _, _, _, _, ht⟩
  · rw [if_neg hf] at ht
    cases ht

/-- Executing a prepared trade, after its AMM leg. -/
theorem execute_events {dt dt' : DirectTradeData AccountId Hash} {feeA feeB : Nat}
    {s₁ s₂ : State AccountId Hash}
    (hp : DirectTradeData.Prepared dt pairAccount feeA feeB s dt' s₁)
    (hamm : ammLeg cfg matched scenario s₁ = .ok s₂) (hex : dt'.execute cfg s₂ = .ok s') :
    State.SameStorage s₂ s' ∧
    s'.events = s₂.events ++ .IntentionResolvedDirectTrade dt.intentionA.who dt.intentionB.who
      dt.intentionA.intentionId dt.intentionB.intentionId dt.amountFromA dt.amountFromB
        :: dt'.feeEvents dt'.transfers := by
  have hres : ∀ c w, Ledger.held (holdsOf dt'.transfers) c w ≤ s₂.ledger.reserved c w := by
    intro c w
    rw [ammLeg_reserved hamm, hp.holds.reserved, hp.trade_eq]
    exact Nat.le_add_left _ _
  obtain ⟨-, hstorage, hevents⟩ := DirectTradeData.execute_ok
    (Ledger.holds_unhold hres) hex
  rw [hevents, hp.trade_eq]
  exact ⟨hstorage, rfl⟩

/-- An executed trade, with what it reports. -/
theorem Traded.of_executed {dt : DirectTradeData AccountId Hash} {s₁ s₂ : State AccountId Hash}
    (hprep : Prepares cfg intention s copy matched scenario fromA fromB)
    (hp : (directTrade copy matched fromA fromB).prepare cfg pairAccount s = (true, dt, s₁))
    (hamm : ammLeg cfg matched scenario s₁ = .ok s₂) (hex : dt.execute cfg s₂ = .ok s')
    (hcopy : nextCopy cfg copy matched scenario = .ok copy') :
    Traded cfg pairAccount intention s copy matched scenario fromA fromB s' copy' := by
  obtain ⟨-, feeA, feeB, hprepared, -⟩ | ⟨hfalse, -⟩ := DirectTradeData.prepare_cases rfl hp
  · obtain ⟨hstorage₂, hevents₂⟩ := ammLeg_ok hamm
    obtain ⟨hstorage₃, hevents₃⟩ := execute_events hprepared hamm hex
    have hstorage₁ : State.SameStorage s s₁ := by
      rw [hprepared.state_eq]; rfl
    refine ⟨⟨hprep, dt, s₁, s₂, hp, hamm⟩, hcopy, (hstorage₁.trans hstorage₂).trans hstorage₃,
      dt.feeEvents dt.transfers, feeEvents_fees, ?_⟩
    rw [hevents₃, hevents₂, hprepared.state_eq]
    rfl
  · cases hfalse

/-- A trade that was prepared and reverted, with what was reported before. -/
theorem NotTraded.of_reverted {dt : DirectTradeData AccountId Hash} {s₁ : State AccountId Hash}
    (reports : List (Event AccountId Hash)) (hstorage : State.SameStorage s s₁)
    (hreports : ∀ e ∈ reports, isReport e = true) (hevents : s₁.events = s.events ++ reports) :
    NotTraded s copy (dt.revert cfg s₁) copy := by
  rw [DirectTradeData.revert_eq]
  exact ⟨rfl, hstorage.trans (State.sameStorage_setLedger _ _), reports, hreports, hevents⟩

omit [DecidableEq AccountId] in
theorem isReport_error (i : Intention AccountId Hash) (error : DispatchError) :
    ∀ e ∈ [Event.IntentionResolveErrorEvent i.who i.assets i.sellOrBuy i.intentionId error],
      isReport e = true := by
  simp [isReport]

/-- **What an iteration can do**: execute the direct trade it has prepared, or report an
error; it executes the trade exactly when the checks, the reservations and the AMM leg
succeed. -/
theorem resolveMatched_cases
    (h : resolveMatched cfg pairAccount intention (s, copy) matched = .ok (s', copy')) :
    (∃ scenario fromA fromB,
      Traded cfg pairAccount intention s copy matched scenario fromA fromB s' copy') ∨
    ((∀ scenario fromA fromB,
      ¬ Trades cfg pairAccount intention s copy matched scenario fromA fromB) ∧
      NotTraded s copy s' copy') := by
  cases resolveMatched_ok h with
  | refused failed error hnone =>
      exact Or.inr ⟨fun a b c ht => hnone a b c ht.1, rfl, rfl, _, isReport_error failed error, rfl⟩
  | unreserved scenario fromA fromB dt s₁ hprep hp =>
      refine Or.inr ⟨?_, ?_⟩
      · rintro a b c ⟨hprep', _, _, _, hp', -⟩
        obtain ⟨-, rfl, rfl⟩ := hprep'.unique hprep
        cases hp.symm.trans hp'
      · obtain ⟨hfalse, -⟩ | ⟨-, left, hnot, -⟩ := DirectTradeData.prepare_cases rfl hp
        · cases hfalse
        · rcases hnot.events_eq with he | ⟨i, asset, -, he⟩
          · exact .of_reverted [] hnot.state_eq (by simp) (by rw [he, List.append_nil])
          · exact .of_reverted [_] hnot.state_eq (by simp [isReport]) he
  | ammFailed scenario fromA fromB dt s₁ error hprep hp hamm =>
      refine Or.inr ⟨?_, ?_⟩
      · rintro a b c ⟨hprep', _, _, _, hp', hamm'⟩
        obtain ⟨rfl, rfl, rfl⟩ := hprep'.unique hprep
        cases hp.symm.trans hp'
        cases hamm.symm.trans hamm'
      · obtain ⟨-, _, _, hprepared, -⟩ | ⟨hfalse, -⟩ := DirectTradeData.prepare_cases rfl hp
        · refine .of_reverted _ ?_ (isReport_error matched error) (by rw [hprepared.state_eq]; rfl)
          rw [hprepared.state_eq]
          rfl
        · cases hfalse
  | executed scenario fromA fromB dt s₁ s₂ _ _ hprep hp hamm hex hcopy =>
      exact Or.inl ⟨scenario, fromA, fromB, .of_executed hprep hp hamm hex hcopy⟩

/-! ## Storage -/

theorem resolveMatched_storage
    (h : resolveMatched cfg pairAccount intention (s, copy) matched = .ok (s', copy')) :
    State.SameStorage s s' := by
  rcases resolveMatched_cases h with ⟨_, _, _, ht⟩ | ⟨-, hn⟩
  · exact ht.storage
  · exact hn.storage

theorem resolveSingleIntention_storage (intention : Intention AccountId Hash)
    (s : State AccountId Hash) : State.SameStorage s (resolveSingleIntention cfg intention s) := by
  rcases resolveSingleIntention_cases cfg intention s with ⟨error, h⟩ | ⟨t, -, h⟩
  · rw [h]; rfl
  · rw [h]; rfl

theorem resolveLoop_storage {bvec : List (Intention AccountId Hash)}
    (h : bvec.foldlM (resolveMatched cfg pairAccount intention) (s, copy) = .ok (s', copy')) :
    State.SameStorage s s' :=
  Fallible.foldlM_rel (R := fun sc sc' => State.SameStorage sc.1 sc'.1)
    (fun sc => .refl sc.1) (fun _ _ _ => .trans) (fun _ _ _ hm => resolveMatched_storage hm) h

theorem processMain_storage {stack rest : List (Intention AccountId Hash)}
    (h : processMain cfg pairAccount (s, stack) intention = .ok (s', rest)) :
    State.SameStorage s s' := by
  rcases processMain_cases h with ⟨error, -, rfl, -⟩ | ⟨_, bvec, s₁, copy, -, -, hloop, rfl⟩
  · rfl
  · have hs₁ := resolveLoop_storage hloop
    split_ifs
    · exact hs₁.trans (resolveSingleIntention_storage copy s₁)
    · exact hs₁

theorem resolveRest_storage (rest : List (Intention AccountId Hash)) (s : State AccountId Hash) :
    State.SameStorage s
      (rest.foldl (fun s intention => resolveSingleIntention cfg intention s) s) := by
  induction rest generalizing s with
  | nil => rfl
  | cons intention rest ih =>
      exact (resolveSingleIntention_storage intention s).trans (ih _)

/-- The intentions of a pair are resolved without changing what is registered. -/
theorem finalizePair_storage {key : AssetId × AssetId} (h : finalizePair cfg s key = .ok s') :
    State.SameStorage s s' := by
  unfold finalizePair at h
  by_cases hcount : (s.intentionCount.lookup key).getD 0 = 0
  · rw [if_pos hcount] at h
    cases h
    rfl
  · rw [if_neg hcount, processExchangeIntentions, Fallible.bind_eq_ok] at h
    obtain ⟨⟨s₁, rest⟩, hloop, h⟩ := h
    cases h
    have hs₁ := Fallible.foldlM_rel (R := fun ss ss' => State.SameStorage ss.1 ss'.1)
      (fun ss => .refl ss.1) (fun _ _ _ => .trans) (fun _ _ _ hm => processMain_storage hm) hloop
    exact hs₁.trans (resolveRest_storage rest s₁)

end Outcome

end HydraDX.Exchange
