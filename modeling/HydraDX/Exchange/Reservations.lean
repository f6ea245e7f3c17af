import HydraDX.Exchange.Iteration

set_option autoImplicit false

/-! # The reservations of a direct trade

Preparing, executing and reverting a direct trade, followed through the reservations it
holds (`Ledger.Holds`). A preparation that returns `true` holds exactly its four transfers,
and executing it moves them on the ledger underneath. A preparation that returns `false`
holds the transfers it has pushed and, besides, what it reserved without pushing:
reverting it leaves that behind. `Revertible` says when that is nothing. -/

namespace HydraDX.Exchange

variable {AccountId Hash : Type} [DecidableEq AccountId] (cfg : Config AccountId Hash)

/-- What a list of transfers has reserved. -/
def holdsOf (ts : List (Transfer AccountId)) : List (AssetId × AccountId × Nat) :=
  ts.map (fun t => (t.asset, t.source, t.amount))

/-- The ledger with a list of transfers made from free balance to free balance. -/
def payOut (l : Ledger AssetId AccountId) (ts : List (Transfer AccountId)) :
    Ledger AssetId AccountId :=
  ts.foldl (fun l t => l.move t.asset t.source t.dest t.amount) l

namespace DirectTradeData

/-- The preparation of the trade does not stop between two reservations with the first of
them, of a positive amount, made and not pushed: where the first amount is reserved the
second one can be too, and where the first fee is reserved the second one can be too. -/
structure Revertible (dt : DirectTradeData AccountId Hash) (s : State AccountId Hash) : Prop where
  amounts : ∀ s₁,
    dt.amountFromB ≤ s.ledger.free dt.intentionA.assets.assetOut dt.intentionB.who →
    reserveIfCan cfg dt.intentionA.assets.assetIn dt.intentionA.who dt.amountFromA s = some s₁ →
    reserveIfCan cfg dt.intentionA.assets.assetOut dt.intentionB.who dt.amountFromB s₁ = none →
    dt.amountFromA = 0
  fees : ∀ s₁ s₂ s₃ feeA feeB,
    reserveIfCan cfg dt.intentionA.assets.assetIn dt.intentionA.who dt.amountFromA s = some s₁ →
    reserveIfCan cfg dt.intentionA.assets.assetOut dt.intentionB.who dt.amountFromB s₁ = some s₂ →
    justFee dt.amountFromA Fee.default = some feeA →
    justFee dt.amountFromB Fee.default = some feeB →
    reserveIfCan cfg (dt.feePayments feeA feeB).1.asset (dt.feePayments feeA feeB).1.who
      (dt.feePayments feeA feeB).1.amount s₂ = some s₃ →
    reserveIfCan cfg (dt.feePayments feeA feeB).2.asset (dt.feePayments feeA feeB).2.who
      (dt.feePayments feeA feeB).2.amount s₃ = none →
    (dt.feePayments feeA feeB).1.amount = 0

/-- Decided by making the reservations one after the other. -/
instance (dt : DirectTradeData AccountId Hash) (s : State AccountId Hash) :
    Decidable (dt.Revertible cfg s) :=
  decidable_of_iff (∀ s₁ ∈ reserveIfCan cfg dt.intentionA.assets.assetIn dt.intentionA.who
        dt.amountFromA s,
      (dt.amountFromB ≤ s.ledger.free dt.intentionA.assets.assetOut dt.intentionB.who →
        reserveIfCan cfg dt.intentionA.assets.assetOut dt.intentionB.who dt.amountFromB s₁ = none →
        dt.amountFromA = 0) ∧
      ∀ s₂ ∈ reserveIfCan cfg dt.intentionA.assets.assetOut dt.intentionB.who dt.amountFromB s₁,
        ∀ feeA ∈ justFee dt.amountFromA Fee.default, ∀ feeB ∈ justFee dt.amountFromB Fee.default,
          ∀ s₃ ∈ reserveIfCan cfg (dt.feePayments feeA feeB).1.asset
            (dt.feePayments feeA feeB).1.who (dt.feePayments feeA feeB).1.amount s₂,
          reserveIfCan cfg (dt.feePayments feeA feeB).2.asset (dt.feePayments feeA feeB).2.who
            (dt.feePayments feeA feeB).2.amount s₃ = none →
          (dt.feePayments feeA feeB).1.amount = 0)
    ⟨fun h => ⟨fun s₁ hle hA hB => (h s₁ hA).1 hle hB,
        fun s₁ s₂ s₃ feeA feeB hA hB hfA hfB h₃ h₄ =>
          (h s₁ hA).2 s₂ hB feeA hfA feeB hfB s₃ h₃ h₄⟩,
      fun h s₁ hA => ⟨fun hle hB => h.amounts s₁ hle hA hB,
        fun s₂ hB feeA hfA feeB hfB s₃ h₃ h₄ =>
          h.fees s₁ s₂ s₃ feeA feeB hA hB hfA hfB h₃ h₄⟩⟩

variable {cfg} {dt dt' : DirectTradeData AccountId Hash} {poolAccount : AccountId}
  {s s' : State AccountId Hash} {l : Ledger AssetId AccountId}

theorem reserveIfCan_eq_some {asset : AssetId} {who : AccountId} {amount : Nat}
    (h : reserveIfCan cfg asset who amount s = some s') :
    amount ≤ s.ledger.free asset who ∧ s' = s.setLedger (s.ledger.hold asset who amount) := by
  unfold reserveIfCan at h
  cases hr : cfg.currency.reserve asset who amount s.ledger with
  | error e => rw [hr] at h; cases h
  | ok l =>
      rw [hr] at h
      cases h
      obtain ⟨hle, rfl⟩ := cfg.currency.reserve_ok hr
      exact ⟨hle, rfl⟩

/-- A reservation that is made is appended to what is held. -/
theorem holds_reserveIfCan {asset : AssetId} {who : AccountId} {amount : Nat}
    {H : List (AssetId × AccountId × Nat)} (hH : Ledger.Holds l s.ledger H)
    (h : reserveIfCan cfg asset who amount s = some s') :
    Ledger.Holds l s'.ledger (H ++ [(asset, who, amount)]) := by
  obtain ⟨hle, rfl⟩ := reserveIfCan_eq_some h
  exact hH.hold hle

/-! ## Revert and execute -/

theorem revert_eq (dt : DirectTradeData AccountId Hash) (s : State AccountId Hash) :
    dt.revert cfg s = s.setLedger (dt.revert cfg s).ledger := by
  suffices key : ∀ (ts : List (Transfer AccountId)) (s : State AccountId Hash),
      ts.foldl (fun s t => s.setLedger (cfg.currency.unreserve t.asset t.source t.amount s.ledger)) s
        = s.setLedger (ts.foldl (fun s t => s.setLedger
            (cfg.currency.unreserve t.asset t.source t.amount s.ledger)) s).ledger from
    key dt.transfers s
  intro ts
  induction ts with
  | nil => intro s; rfl
  | cons t ts ih => intro s; rw [List.foldl_cons, ih]; rfl

/-- Reverting releases the pushed transfers and leaves the rest. -/
theorem revert_holds (cfg : Config AccountId Hash) {left : List (AssetId × AccountId × Nat)}
    (h : Ledger.Holds l s.ledger (holdsOf dt.transfers ++ left)) :
    Ledger.Holds l (dt.revert cfg s).ledger left := by
  suffices key : ∀ (ts : List (Transfer AccountId)) (s : State AccountId Hash),
      Ledger.Holds l s.ledger (holdsOf ts ++ left) →
      Ledger.Holds l (ts.foldl (fun s t => s.setLedger
        (cfg.currency.unreserve t.asset t.source t.amount s.ledger)) s).ledger left from
    key dt.transfers s h
  intro ts
  induction ts with
  | nil => intro s h; exact h
  | cons t ts ih =>
      intro s h
      rw [List.foldl_cons]
      apply ih
      rw [State.setLedger_ledger, cfg.currency.unreserve_eq]
      exact h.release

/-- Paying one transfer out is a move on the ledger underneath. -/
theorem executeTransfer_ok {t : Transfer AccountId} (h : executeTransfer cfg dt s t = .ok s') :
    s'.ledger = s.ledger.repatriate t.asset t.source t.dest t.amount ∧
    State.SameStorage s s' ∧
    s'.events = s.events ++ (if t.feeTransfer then
      [.IntentionResolvedDirectTradeFees t.source
        (if t.source = dt.intentionA.who then dt.intentionA else dt.intentionB).intentionId
        t.dest t.asset t.amount] else []) := by
  unfold executeTransfer at h
  cases hr : cfg.currency.repatriateReserved t.asset t.source t.dest t.amount s.ledger with
  | error e => rw [hr] at h; cases h
  | ok p =>
      obtain ⟨rest, l⟩ := p
      rw [hr] at h
      obtain rfl := cfg.currency.repatriateReserved_ok hr
      simp only at h
      by_cases hf : t.feeTransfer = true
      · rw [if_pos hf] at h ⊢
        cases h
        exact ⟨rfl, rfl, rfl⟩
      · rw [if_neg hf] at h ⊢
        cases h
        exact ⟨rfl, rfl, by rw [List.append_nil]; rfl⟩

/-- The events of paying the transfers out. -/
def feeEvents (dt : DirectTradeData AccountId Hash) (ts : List (Transfer AccountId)) :
    List (Event AccountId Hash) :=
  ts.flatMap (fun t => if t.feeTransfer then
    [.IntentionResolvedDirectTradeFees t.source
      (if t.source = dt.intentionA.who then dt.intentionA else dt.intentionB).intentionId
      t.dest t.asset t.amount] else [])

/-- Executing pays the transfers out on the ledger underneath, and reports the trade and the
fees. -/
theorem execute_ok (hH : Ledger.Holds l s.ledger (holdsOf dt.transfers))
    (h : dt.execute cfg s = .ok s') :
    s'.ledger = payOut l dt.transfers ∧
    State.SameStorage s s' ∧
    s'.events = s.events ++ .IntentionResolvedDirectTrade dt.intentionA.who dt.intentionB.who
      dt.intentionA.intentionId dt.intentionB.intentionId dt.amountFromA dt.amountFromB
        :: dt.feeEvents dt.transfers := by
  suffices key : ∀ (ts : List (Transfer AccountId)) (l : Ledger AssetId AccountId)
      (s : State AccountId Hash), Ledger.Holds l s.ledger (holdsOf ts) →
      ts.foldlM (executeTransfer cfg dt) s = .ok s' →
      s'.ledger = payOut l ts ∧
      State.SameStorage s s' ∧
      s'.events = s.events ++ dt.feeEvents ts by
    obtain ⟨h₁, h₂, h₃⟩ := key dt.transfers l (dt.sendDirectTradeResolveEvent s) hH h
    refine ⟨h₁, h₂, ?_⟩
    rw [h₃]
    simp [sendDirectTradeResolveEvent]
  intro ts
  induction ts with
  | nil =>
      intro l s hH h
      rw [Fallible.foldlM_nil_eq_ok] at h
      subst h
      exact ⟨hH.eq_of_nil, rfl, by simp [feeEvents]⟩
  | cons t ts ih =>
      intro l s hH h
      obtain ⟨s₁, ht, hts⟩ := Fallible.foldlM_cons_eq_ok.mp h
      obtain ⟨hl, hs, he⟩ := executeTransfer_ok ht
      have hH₁ : Ledger.Holds (l.move t.asset t.source t.dest t.amount) s₁.ledger
          (holdsOf ts) := by
        rw [hl]
        exact hH.repatriate t.dest
      obtain ⟨h₁, h₂, h₃⟩ := ih _ s₁ hH₁ hts
      refine ⟨h₁, ?_, ?_⟩
      · exact hs.trans h₂
      · rw [h₃, he, feeEvents, feeEvents, List.flatMap_cons, List.append_assoc]

/-! ## Prepare -/

/-- The four transfers of a prepared trade. -/
def preparedTransfers (dt : DirectTradeData AccountId Hash) (poolAccount : AccountId)
    (feeA feeB : Nat) : List (Transfer AccountId) :=
  [dt.transferA, dt.transferB, feeTransfer poolAccount (dt.feePayments feeA feeB).1,
    feeTransfer poolAccount (dt.feePayments feeA feeB).2]

/-- A preparation that succeeds holds its four transfers. -/
structure Prepared (dt : DirectTradeData AccountId Hash) (poolAccount : AccountId)
    (feeA feeB : Nat) (s : State AccountId Hash) (dt' : DirectTradeData AccountId Hash)
    (s' : State AccountId Hash) : Prop where
  feeA_eq : justFee dt.amountFromA Fee.default = some feeA
  feeB_eq : justFee dt.amountFromB Fee.default = some feeB
  trade_eq : dt' = { dt with transfers := dt.preparedTransfers poolAccount feeA feeB }
  state_eq : s' = s.setLedger s'.ledger
  holds : Ledger.Holds s.ledger s'.ledger (holdsOf (dt.preparedTransfers poolAccount feeA feeB))

/-- A preparation that fails has reserved what it pushed and `left`; the state differs in
the ledger and in at most one event. -/
structure NotPrepared (dt : DirectTradeData AccountId Hash) (s : State AccountId Hash)
    (dt' : DirectTradeData AccountId Hash) (s' : State AccountId Hash)
    (left : List (AssetId × AccountId × Nat)) : Prop where
  holds : Ledger.Holds s.ledger s'.ledger (holdsOf dt'.transfers ++ left)
  state_eq : State.SameStorage s s'
  events_eq : s'.events = s.events ∨ ∃ intention asset,
    (intention = dt.intentionA ∨ intention = dt.intentionB) ∧
    s'.events = (sendInsufficientBalanceEvent intention asset s).events

/-- Both amounts are reserved, one after the other. -/
structure AmountsReserved (cfg : Config AccountId Hash) (dt : DirectTradeData AccountId Hash)
    (s s₁ s₂ : State AccountId Hash) : Prop where
  first : reserveIfCan cfg dt.intentionA.assets.assetIn dt.intentionA.who dt.amountFromA s
    = some s₁
  second : reserveIfCan cfg dt.intentionA.assets.assetOut dt.intentionB.who dt.amountFromB s₁
    = some s₂

/-- Both fees are computed. -/
structure FeesComputed (dt : DirectTradeData AccountId Hash) (feeA feeB : Nat) : Prop where
  first : justFee dt.amountFromA Fee.default = some feeA
  second : justFee dt.amountFromB Fee.default = some feeB

/-- The trade with its two amounts pushed. -/
def pushAmounts (dt : DirectTradeData AccountId Hash) : DirectTradeData AccountId Hash :=
  (dt.push dt.transferA).push dt.transferB

/-- **The ways a preparation can go**, with the answer, the trade and the state at the end. -/
inductive PrepareRun (cfg : Config AccountId Hash) (dt : DirectTradeData AccountId Hash)
    (poolAccount : AccountId) (s : State AccountId Hash) :
    Bool → DirectTradeData AccountId Hash → State AccountId Hash → Prop where
  | lacksMain
      (hA : s.ledger.free dt.intentionA.assets.assetIn dt.intentionA.who < dt.amountFromA) :
      PrepareRun cfg dt poolAccount s false dt
        (sendInsufficientBalanceEvent dt.intentionA dt.intentionA.assets.assetIn s)
  | lacksMatched
      (hB : s.ledger.free dt.intentionA.assets.assetOut dt.intentionB.who < dt.amountFromB) :
      PrepareRun cfg dt poolAccount s false dt
        (sendInsufficientBalanceEvent dt.intentionB dt.intentionA.assets.assetOut s)
  | amountARefused
      (hA : reserveIfCan cfg dt.intentionA.assets.assetIn dt.intentionA.who dt.amountFromA s
        = none) :
      PrepareRun cfg dt poolAccount s false dt s
  | amountBRefused (s₁ : State AccountId Hash)
      (hle : dt.amountFromB ≤ s.ledger.free dt.intentionA.assets.assetOut dt.intentionB.who)
      (hA : reserveIfCan cfg dt.intentionA.assets.assetIn dt.intentionA.who dt.amountFromA s
        = some s₁)
      (hB : reserveIfCan cfg dt.intentionA.assets.assetOut dt.intentionB.who dt.amountFromB s₁
        = none) :
      PrepareRun cfg dt poolAccount s false dt s₁
  | noFees (s₁ s₂ : State AccountId Hash) (hr : AmountsReserved cfg dt s s₁ s₂)
      (hnone : ∀ feeA feeB, ¬ FeesComputed dt feeA feeB) :
      PrepareRun cfg dt poolAccount s false dt.pushAmounts s₂
  | feeARefused (s₁ s₂ : State AccountId Hash) (feeA feeB : Nat)
      (hr : AmountsReserved cfg dt s s₁ s₂) (hf : FeesComputed dt feeA feeB)
      (hA : reserveIfCan cfg (dt.feePayments feeA feeB).1.asset (dt.feePayments feeA feeB).1.who
        (dt.feePayments feeA feeB).1.amount s₂ = none) :
      PrepareRun cfg dt poolAccount s false dt.pushAmounts s₂
  | feeBRefused (s₁ s₂ s₃ : State AccountId Hash) (feeA feeB : Nat)
      (hr : AmountsReserved cfg dt s s₁ s₂) (hf : FeesComputed dt feeA feeB)
      (hA : reserveIfCan cfg (dt.feePayments feeA feeB).1.asset (dt.feePayments feeA feeB).1.who
        (dt.feePayments feeA feeB).1.amount s₂ = some s₃)
      (hB : reserveIfCan cfg (dt.feePayments feeA feeB).2.asset (dt.feePayments feeA feeB).2.who
        (dt.feePayments feeA feeB).2.amount s₃ = none) :
      PrepareRun cfg dt poolAccount s false dt.pushAmounts s₃
  | prepared (s₁ s₂ s₃ s₄ : State AccountId Hash) (feeA feeB : Nat)
      (hr : AmountsReserved cfg dt s s₁ s₂) (hf : FeesComputed dt feeA feeB)
      (hA : reserveIfCan cfg (dt.feePayments feeA feeB).1.asset (dt.feePayments feeA feeB).1.who
        (dt.feePayments feeA feeB).1.amount s₂ = some s₃)
      (hB : reserveIfCan cfg (dt.feePayments feeA feeB).2.asset (dt.feePayments feeA feeB).2.who
        (dt.feePayments feeA feeB).2.amount s₃ = some s₄) :
      PrepareRun cfg dt poolAccount s true
        ((dt.pushAmounts.push (feeTransfer poolAccount (dt.feePayments feeA feeB).1)).push
          (feeTransfer poolAccount (dt.feePayments feeA feeB).2)) s₄

/-- With both fees at hand, preparing them is reserving them. -/
theorem prepareFees_of_fees {feeA feeB : Nat}
    (hfA : justFee dt.amountFromA Fee.default = some feeA)
    (hfB : justFee dt.amountFromB Fee.default = some feeB) :
    prepareFees cfg dt.pushAmounts poolAccount s =
      reserveFees cfg dt.pushAmounts poolAccount (dt.feePayments feeA feeB).1
        (dt.feePayments feeA feeB).2 s := by
  have hpushedA : justFee dt.pushAmounts.amountFromA Fee.default = some feeA := hfA
  have hpushedB : justFee dt.pushAmounts.amountFromB Fee.default = some feeB := hfB
  unfold prepareFees
  rw [hpushedA, hpushedB]
  rfl

/-- Without one of the fees nothing more is reserved. -/
theorem prepareFees_of_none
    (hf : justFee dt.amountFromA Fee.default = none ∨ justFee dt.amountFromB Fee.default = none) :
    prepareFees cfg dt.pushAmounts poolAccount s = (false, dt.pushAmounts, s) := by
  unfold prepareFees
  rcases hf with hfA | hfB
  · have hpushed : justFee dt.pushAmounts.amountFromA Fee.default = none := hfA
    rw [hpushed]
  · have hpushed : justFee dt.pushAmounts.amountFromB Fee.default = none := hfB
    rw [hpushed]
    cases justFee dt.pushAmounts.amountFromA Fee.default with
    | none => rfl
    | some feeA => rfl

theorem prepareFees_run {ok : Bool} {s₁ s₂ : State AccountId Hash}
    (hr : AmountsReserved cfg dt s s₁ s₂)
    (h : prepareFees cfg dt.pushAmounts poolAccount s₂ = (ok, dt', s')) :
    PrepareRun cfg dt poolAccount s ok dt' s' := by
  cases hfA : justFee dt.amountFromA Fee.default with
  | none =>
      rw [prepareFees_of_none (Or.inl hfA)] at h
      cases h
      exact .noFees s₁ _ hr fun _ _ hf => by cases hfA.symm.trans hf.first
  | some feeA =>
      cases hfB : justFee dt.amountFromB Fee.default with
      | none =>
          rw [prepareFees_of_none (Or.inr hfB)] at h
          cases h
          exact .noFees s₁ _ hr fun _ _ hf => by cases hfB.symm.trans hf.second
      | some feeB =>
          rw [prepareFees_of_fees hfA hfB] at h
          simp only [reserveFees] at h
          cases hA : reserveIfCan cfg (dt.feePayments feeA feeB).1.asset
              (dt.feePayments feeA feeB).1.who (dt.feePayments feeA feeB).1.amount s₂ with
          | none =>
              rw [hA] at h
              cases h
              exact .feeARefused s₁ _ feeA feeB hr ⟨hfA, hfB⟩ hA
          | some s₃ =>
              rw [hA] at h
              simp only at h
              cases hB : reserveIfCan cfg (dt.feePayments feeA feeB).2.asset
                  (dt.feePayments feeA feeB).2.who (dt.feePayments feeA feeB).2.amount s₃ with
              | none =>
                  rw [hB] at h
                  cases h
                  exact .feeBRefused s₁ s₂ _ feeA feeB hr ⟨hfA, hfB⟩ hA hB
              | some s₄ =>
                  rw [hB] at h
                  cases h
                  exact .prepared s₁ s₂ s₃ _ feeA feeB hr ⟨hfA, hfB⟩ hA hB

theorem prepare_run {ok : Bool} (h : dt.prepare cfg poolAccount s = (ok, dt', s')) :
    PrepareRun cfg dt poolAccount s ok dt' s' := by
  unfold prepare at h
  split_ifs at h with hlA hlB
  · cases h
    exact .lacksMain hlA
  · cases h
    exact .lacksMatched hlB
  · cases hA : reserveIfCan cfg dt.intentionA.assets.assetIn dt.intentionA.who dt.amountFromA s with
    | none =>
        rw [hA] at h
        cases h
        exact .amountARefused hA
    | some s₁ =>
        rw [hA] at h
        simp only at h
        cases hB : reserveIfCan cfg dt.intentionA.assets.assetOut dt.intentionB.who
            dt.amountFromB s₁ with
        | none =>
            rw [hB] at h
            cases h
            exact .amountBRefused _ (Nat.le_of_not_lt hlB) hA hB
        | some s₂ =>
            rw [hB] at h
            exact prepareFees_run ⟨hA, hB⟩ h

/-- The transfer is one of the four that preparing the trade can push. -/
def IsTransfer (dt : DirectTradeData AccountId Hash) (poolAccount : AccountId)
    (t : Transfer AccountId) : Prop :=
  ∃ feeA feeB, t ∈ dt.preparedTransfers poolAccount feeA feeB

/-- **A rule for preparing**: a relation that reports and the reservations for the four transfers
extend holds between the states before and after, wherever the preparation stops. -/
theorem prepare_rel {R : State AccountId Hash → State AccountId Hash → Prop}
    (hrefl : ∀ s, R s s) (htrans : ∀ s t u, R s t → R t u → R s u)
    (hreport : ∀ intention asset s, R s (sendInsufficientBalanceEvent intention asset s))
    (hreserve : ∀ t, dt.IsTransfer poolAccount t → ∀ s s',
      reserveIfCan cfg t.asset t.source t.amount s = some s' → R s s')
    {ok : Bool} (hdt : dt.transfers = []) (h : dt.prepare cfg poolAccount s = (ok, dt', s')) :
    R s s' ∧ ∀ t ∈ dt'.transfers, dt.IsTransfer poolAccount t := by
  have hA : dt.IsTransfer poolAccount dt.transferA := ⟨0, 0, List.mem_cons_self⟩
  have hB : dt.IsTransfer poolAccount dt.transferB :=
    ⟨0, 0, List.mem_cons_of_mem _ List.mem_cons_self⟩
  have hfees : ∀ feeA feeB,
      dt.IsTransfer poolAccount (feeTransfer poolAccount (dt.feePayments feeA feeB).1) ∧
      dt.IsTransfer poolAccount (feeTransfer poolAccount (dt.feePayments feeA feeB).2) :=
    fun feeA feeB => ⟨⟨feeA, feeB, by simp [preparedTransfers]⟩,
      ⟨feeA, feeB, by simp [preparedTransfers]⟩⟩
  have hnil : ∀ t ∈ dt.transfers, dt.IsTransfer poolAccount t := fun t ht => by
    rw [hdt] at ht
    cases ht
  have hpushed : ∀ t ∈ dt.pushAmounts.transfers, dt.IsTransfer poolAccount t := by
    intro t ht
    simp only [pushAmounts, push, hdt, List.nil_append, List.cons_append, List.mem_cons,
      List.not_mem_nil, or_false] at ht
    rcases ht with rfl | rfl
    · exact hA
    · exact hB
  have hamounts : ∀ s₁ s₂, AmountsReserved cfg dt s s₁ s₂ → R s s₂ := fun s₁ s₂ hr =>
    htrans _ _ _ (hreserve dt.transferA hA s s₁ hr.first) (hreserve dt.transferB hB s₁ s₂ hr.second)
  cases prepare_run h with
  | lacksMain _ => exact ⟨hreport _ _ s, hnil⟩
  | lacksMatched _ => exact ⟨hreport _ _ s, hnil⟩
  | amountARefused _ => exact ⟨hrefl _, hnil⟩
  | amountBRefused _ _ hrA _ => exact ⟨hreserve dt.transferA hA s s' hrA, hnil⟩
  | noFees s₁ _ hr _ => exact ⟨hamounts s₁ s' hr, hpushed⟩
  | feeARefused s₁ _ _ _ hr _ _ => exact ⟨hamounts s₁ s' hr, hpushed⟩
  | feeBRefused s₁ s₂ _ feeA feeB hr _ hr₃ _ =>
      exact ⟨htrans _ _ _ (hamounts s₁ s₂ hr) (hreserve _ (hfees feeA feeB).1 s₂ s' hr₃), hpushed⟩
  | prepared s₁ s₂ s₃ _ feeA feeB hr _ hr₃ hr₄ =>
      refine ⟨htrans _ _ _ (htrans _ _ _ (hamounts s₁ s₂ hr)
        (hreserve _ (hfees feeA feeB).1 s₂ s₃ hr₃)) (hreserve _ (hfees feeA feeB).2 s₃ s' hr₄),
        fun t ht => ?_⟩
      rcases List.mem_append.mp ht with ht | ht
      · rcases List.mem_append.mp ht with ht | ht
        · exact hpushed t ht
        · exact List.mem_singleton.mp ht ▸ (hfees feeA feeB).1
      · exact List.mem_singleton.mp ht ▸ (hfees feeA feeB).2

section Left

variable {s₁ s₂ : State AccountId Hash}

/-- Where both amounts are reserved, only the fees can be left behind. -/
theorem revertible_iff_of_reserved (hr : AmountsReserved cfg dt s s₁ s₂) :
    dt.Revertible cfg s ↔ ∀ feeA feeB, FeesComputed dt feeA feeB → ∀ s₃,
      reserveIfCan cfg (dt.feePayments feeA feeB).1.asset (dt.feePayments feeA feeB).1.who
        (dt.feePayments feeA feeB).1.amount s₂ = some s₃ →
      reserveIfCan cfg (dt.feePayments feeA feeB).2.asset (dt.feePayments feeA feeB).2.who
        (dt.feePayments feeA feeB).2.amount s₃ = none →
      (dt.feePayments feeA feeB).1.amount = 0 := by
  constructor
  · intro h feeA feeB hf s₃ h₃ hnone
    exact h.fees s₁ s₂ s₃ feeA feeB hr.first hr.second hf.first hf.second h₃ hnone
  · intro h
    refine ⟨fun s₁' _ hA' hB' => ?_, fun s₁' s₂' s₃ feeA feeB hA' hB' hfA hfB h₃ hnone => ?_⟩
    · cases hr.first.symm.trans hA'
      cases hr.second.symm.trans hB'
    · cases hr.first.symm.trans hA'
      cases hr.second.symm.trans hB'
      exact h feeA feeB ⟨hfA, hfB⟩ s₃ h₃ hnone

/-- The fees are functions of the amounts, so there is one pair of them to look at. -/
theorem revertible_iff_of_fees {feeA feeB : Nat} (hr : AmountsReserved cfg dt s s₁ s₂)
    (hf : FeesComputed dt feeA feeB) :
    dt.Revertible cfg s ↔ ∀ s₃,
      reserveIfCan cfg (dt.feePayments feeA feeB).1.asset (dt.feePayments feeA feeB).1.who
        (dt.feePayments feeA feeB).1.amount s₂ = some s₃ →
      reserveIfCan cfg (dt.feePayments feeA feeB).2.asset (dt.feePayments feeA feeB).2.who
        (dt.feePayments feeA feeB).2.amount s₃ = none →
      (dt.feePayments feeA feeB).1.amount = 0 := by
  rw [revertible_iff_of_reserved hr]
  constructor
  · intro h
    exact h feeA feeB hf
  · intro h feeA' feeB' hf'
    cases hf.first.symm.trans hf'.first
    cases hf.second.symm.trans hf'.second
    exact h

/-- Where the first amount cannot be reserved, nothing is left behind. -/
theorem revertible_of_amountA
    (h : ∀ s₁, reserveIfCan cfg dt.intentionA.assets.assetIn dt.intentionA.who dt.amountFromA s
      ≠ some s₁) : dt.Revertible cfg s :=
  ⟨fun s₁ _ hA => absurd hA (h s₁), fun s₁ _ _ _ _ hA => absurd hA (h s₁)⟩

/-- The second reservation needs the balance that the check asks for: the first one does not add
to it. -/
theorem amountB_of_reserved (hr : AmountsReserved cfg dt s s₁ s₂) :
    dt.amountFromB ≤ s.ledger.free dt.intentionA.assets.assetOut dt.intentionB.who := by
  have hle := (reserveIfCan_eq_some hr.second).1
  rw [(reserveIfCan_eq_some hr.first).2, State.setLedger_ledger] at hle
  have hfree : (s.ledger.hold dt.intentionA.assets.assetIn dt.intentionA.who dt.amountFromA).free
      dt.intentionA.assets.assetOut dt.intentionB.who
        ≤ s.ledger.free dt.intentionA.assets.assetOut dt.intentionB.who := by
    simp only [Ledger.hold, Ledger.put_apply]
    split_ifs with hcw
    · rw [hcw.1, hcw.2]
      exact Nat.sub_le _ _
    · exact le_rfl
  omega

theorem AmountsReserved.setLedger (hr : AmountsReserved cfg dt s s₁ s₂) :
    s₂ = s.setLedger s₂.ledger := by
  rw [(reserveIfCan_eq_some hr.second).2, (reserveIfCan_eq_some hr.first).2]
  rfl

theorem AmountsReserved.holds (hr : AmountsReserved cfg dt s s₁ s₂) :
    Ledger.Holds s.ledger s₂.ledger (holdsOf [dt.transferA, dt.transferB]) :=
  holds_reserveIfCan (holds_reserveIfCan (Ledger.Holds.refl s.ledger) hr.first) hr.second

/-- Failing before a fee is reserved leaves the two amounts, which are both pushed. -/
theorem AmountsReserved.notPrepared (hdt : dt.transfers = [])
    (hr : AmountsReserved cfg dt s s₁ s₂) : NotPrepared dt s dt.pushAmounts s₂ [] := by
  have hs₂ := hr.setLedger
  refine ⟨?_, hs₂ ▸ rfl, Or.inl (by rw [hs₂]; rfl)⟩
  simpa [pushAmounts, push, hdt] using hr.holds

end Left

/-- What a preparation can do: succeed and hold its four transfers, or fail with `left`
reserved besides what it pushed. Nothing is left behind exactly when the trade is
`Revertible`. -/
theorem prepare_cases {ok : Bool} (hdt : dt.transfers = [])
    (h : dt.prepare cfg poolAccount s = (ok, dt', s')) :
    (ok = true ∧ ∃ feeA feeB, Prepared dt poolAccount feeA feeB s dt' s' ∧ dt.Revertible cfg s) ∨
    (ok = false ∧ ∃ left, NotPrepared dt s dt' s' left ∧
      ((∀ e ∈ left, e.2.2 = 0) ↔ dt.Revertible cfg s)) := by
  have hnil : ∀ s' : State AccountId Hash, s'.ledger = s.ledger →
      Ledger.Holds s.ledger s'.ledger (holdsOf dt.transfers ++ []) := by
    intro s' hs'
    rw [hs', hdt]
    exact Ledger.Holds.refl s.ledger
  have hnone : (∀ e ∈ ([] : List (AssetId × AccountId × Nat)), e.2.2 = 0) := by simp
  cases prepare_run h with
  | lacksMain hlA =>
      refine Or.inr ⟨rfl, [], ⟨hnil _ rfl, rfl, Or.inr ⟨_, _, Or.inl rfl, rfl⟩⟩, ?_⟩
      refine iff_of_true hnone (revertible_of_amountA fun s₁ hA => ?_)
      exact absurd (reserveIfCan_eq_some hA).1 (Nat.not_le_of_lt hlA)
  | lacksMatched hlB =>
      refine Or.inr ⟨rfl, [], ⟨hnil _ rfl, rfl, Or.inr ⟨_, _, Or.inr rfl, rfl⟩⟩, ?_⟩
      refine iff_of_true hnone ⟨fun s₁ hle => ?_, fun s₁ s₂ _ _ _ hA hB => ?_⟩
      · exact absurd hle (Nat.not_le_of_lt hlB)
      · exact absurd (amountB_of_reserved ⟨hA, hB⟩) (Nat.not_le_of_lt hlB)
  | amountARefused hA =>
      refine Or.inr ⟨rfl, [], ⟨hnil _ rfl, rfl, Or.inl rfl⟩, ?_⟩
      refine iff_of_true hnone (revertible_of_amountA fun s₁ hA' => ?_)
      cases hA.symm.trans hA'
  | amountBRefused _ hle hA hB =>
      have hs₁ : s' = s.setLedger s'.ledger := by
        rw [(reserveIfCan_eq_some hA).2]; rfl
      have hH := holds_reserveIfCan (Ledger.Holds.refl s.ledger) hA
      refine Or.inr ⟨rfl, [(dt.intentionA.assets.assetIn, dt.intentionA.who,
        dt.amountFromA)], ⟨by simpa [hdt, holdsOf] using hH, hs₁ ▸ rfl,
          Or.inl (by rw [hs₁]; rfl)⟩, ?_⟩
      rw [List.forall_mem_singleton]
      constructor
      · intro hz
        refine ⟨fun _ _ _ _ => hz, fun s₁' s₂ _ _ _ hA' hB' => ?_⟩
        cases hA.symm.trans hA'
        cases hB.symm.trans hB'
      · intro hrev
        exact hrev.amounts s' hle hA hB
  | noFees s₁ _ hr hfees =>
      refine Or.inr ⟨rfl, [], hr.notPrepared hdt, iff_of_true hnone ?_⟩
      rw [revertible_iff_of_reserved hr]
      exact fun feeA feeB hf => absurd hf (hfees feeA feeB)
  | feeARefused s₁ _ feeA feeB hr hf hA =>
      refine Or.inr ⟨rfl, [], hr.notPrepared hdt, iff_of_true hnone ?_⟩
      rw [revertible_iff_of_fees hr hf]
      intro s₃ hA'
      cases hA.symm.trans hA'
  | feeBRefused s₁ s₂ _ feeA feeB hr hf hA hB =>
      -- The first fee is reserved and not pushed.
      have hs₂ := hr.setLedger
      have hs' : s' = s.setLedger s'.ledger := by
        rw [(reserveIfCan_eq_some hA).2, hs₂]; rfl
      have hH := holds_reserveIfCan hr.holds hA
      refine Or.inr ⟨rfl, _, ⟨by simpa [pushAmounts, push, hdt] using hH, hs' ▸ rfl,
        Or.inl (by rw [hs']; rfl)⟩, ?_⟩
      rw [List.forall_mem_singleton, revertible_iff_of_fees hr hf]
      constructor
      · intro hz _ _ _
        exact hz
      · intro hrev
        exact hrev s' hA hB
  | prepared s₁ s₂ s₃ _ feeA feeB hr hf hA hB =>
      have hs₂ := hr.setLedger
      have hs' : s' = s.setLedger s'.ledger := by
        rw [(reserveIfCan_eq_some hB).2, (reserveIfCan_eq_some hA).2, hs₂]; rfl
      refine Or.inl ⟨rfl, feeA, feeB, ⟨hf.first, hf.second, ?_, hs', ?_⟩, ?_⟩
      · simp [pushAmounts, push, hdt, preparedTransfers]
      · exact holds_reserveIfCan (holds_reserveIfCan hr.holds hA) hB
      · rw [revertible_iff_of_fees hr hf]
        intro s₃' hA' hB'
        cases hA.symm.trans hA'
        cases hB.symm.trans hB'

/-- **Reverting restores the ledger exactly when the trade is revertible.** The reversal
follows a preparation that failed, or one that succeeded and was not used. -/
theorem revert_ledger_eq_iff (hdt : dt.transfers = [])
    {ok : Bool} (h : dt.prepare cfg poolAccount s = (ok, dt', s')) {s'' : State AccountId Hash}
    (hs'' : s''.ledger = s'.ledger) :
    (dt'.revert cfg s'').ledger = s.ledger ↔ dt.Revertible cfg s := by
  rcases prepare_cases hdt h with ⟨-, feeA, feeB, hp, hrev⟩ | ⟨-, left, hp, hiff⟩
  · have hH : Ledger.Holds s.ledger s''.ledger (holdsOf dt'.transfers ++ []) := by
      rw [hs'', hp.trade_eq, List.append_nil]
      exact hp.holds
    exact iff_of_true (revert_holds cfg hH).eq_of_nil hrev
  · rw [← hiff]
    exact (revert_holds cfg (hs'' ▸ hp.holds)).eq_iff

end DirectTradeData

end HydraDX.Exchange
