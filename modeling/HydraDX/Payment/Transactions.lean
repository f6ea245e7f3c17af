import HydraDX.Payment.Currencies

set_option autoImplicit false

/-! # A chain of paid transactions

Every call of a block is made by a transaction. Its fee is withdrawn before the call, where it may
have to be bought from a pool first, and what was withdrawn too much is given back afterwards,
whether the call succeeded or not. During the call the fee is issued and held by nobody.

Taken as a whole a transaction consists of operations that are covered by balances, issue what they
give and destroy what they take (`Transaction.moves`). So over whole blocks the issuance of every
asset stays exactly what the accounts hold (`issuance_exact`), and fees do not stand in the way of
liquidity providers who leave (`providers_can_leave_with_fees`). -/

namespace HydraDX.Payment

open Balances

variable {AccountId Hash : Type} [DecidableEq AccountId] (cfg : Params AccountId Hash)

/-! ## Transactions -/

/-- What a transaction calls: the pallets that trade and the transfers, or the multi payment
pallet. -/
inductive RuntimeCall (AccountId : Type) where
  | exchange (extrinsic : Extrinsic AccountId)
  | payment (origin : Origin AccountId) (call : Call AccountId)

/-- A transaction, with the fee that is predicted for it (the tip included) and the fee that is
found to be due afterwards. -/
structure Transaction (AccountId : Type) where
  who : AccountId
  fee : Nat
  fee_lt : fee < balanceBound
  tip : Nat
  correctedFee : Nat
  call : RuntimeCall AccountId

/-- The call of a transaction. One that fails changes nothing, a panic stops the block. -/
def RuntimeCall.dispatch (s : Storage AccountId Hash) :
    RuntimeCall AccountId → Except Failure (Storage AccountId Hash)
  | .exchange extrinsic =>
      match extrinsic.dispatch cfg.chain s.chain with
      | .ok chain => .ok { s with chain }
      | .error (.panic p) => .error (.panic p)
      | .error (.dispatch _) => .ok s
  | .payment origin call =>
      match Payment.Call.dispatch cfg s (origin, call) with
      | .ok s' => .ok s'
      | .error (.panic p) => .error (.panic p)
      | .error _ => .ok s

/-- `OnChargeTransaction`: the fee is withdrawn before the call and corrected after it. A
transaction whose fee cannot be withdrawn is not valid. -/
def Transaction.apply (tx : Transaction AccountId) (s : Storage AccountId Hash) :
    Except Failure (Storage AccountId Hash) := do
  let (alreadyWithdrawn, s) ← withdrawFee cfg tx.who tx.fee tx.tip s
  let s ← tx.call.dispatch cfg s
  correctAndDepositFee tx.who tx.correctedFee tx.tip alreadyWithdrawn s

/-- What happens on the chain. -/
inductive Step (AccountId : Type) where
  | transaction (tx : Transaction AccountId)
  | finalize
  | nextBlock

/-- An action of the chain that no transaction pays for. -/
def ofChain (action : Action AccountId) (s : Storage AccountId Hash) :
    Except Failure (Storage AccountId Hash) :=
  match action.dispatch cfg.chain s.chain with
  | .ok chain => .ok { s with chain }
  | .error (.panic p) => .error (.panic p)
  | .error (.dispatch error) => .error (.dispatch error)

def Step.dispatch (s : Storage AccountId Hash) :
    Step AccountId → Except Failure (Storage AccountId Hash)
  | transaction tx => tx.apply cfg s
  | finalize => ofChain cfg .finalize s
  | nextBlock => ofChain cfg .nextBlock s

variable {cfg} {s s' : Storage AccountId Hash} {who : AccountId} {fee : Nat}

theorem ofChain_eq_ok {action : Action AccountId} : ofChain cfg action s = .ok s' ↔
    ∃ chain, action.dispatch cfg.chain s.chain = .ok chain ∧ s' = { s with chain } := by
  unfold ofChain
  cases action.dispatch cfg.chain s.chain with
  | ok chain =>
      constructor
      · intro h
        cases h
        exact ⟨chain, rfl, rfl⟩
      · rintro ⟨_, hchain, rfl⟩
        cases hchain
        rfl
  | error failure => cases failure <;> simp

/-! ## What a transaction does to the ledger -/

/-- Some of the fee is given back, and the rest is written off. -/
theorem correctAndDepositFee_some (who : AccountId) (correctedFee tip : Nat)
    (s : Storage AccountId Hash) (hfee : fee < balanceBound) :
    ∃ refund ≤ fee, correctAndDepositFee who correctedFee tip (some ⟨fee⟩) s
      = .ok (s.setLedger
          ((s.ledger.give CORE_ASSET_ID who refund).retire CORE_ASSET_ID (fee - refund))) := by
  have hle : fee - correctedFee ≤ fee := Nat.sub_le _ _
  rcases depositIntoExisting_cases CORE_ASSET_ID who (fee - correctedFee) s.ledger with
    hdeposit | ⟨e, hdeposit⟩
  · refine ⟨fee - correctedFee, hle, ?_⟩
    simp only [correctAndDepositFee, NegativeImbalance.peek, hdeposit, offset_toSame hle]
    rw [onUnbalanceds_split tip (Nat.lt_of_le_of_lt (Nat.sub_le _ _) hfee)]
  · -- no refund: all of the fee is written off
    have hzero : ((⟨fee⟩ : NegativeImbalance).offset .zero).toSame = .ok ⟨fee⟩ :=
      offset_toSame (Nat.zero_le _)
    refine ⟨0, Nat.zero_le _, ?_⟩
    simp only [correctAndDepositFee, NegativeImbalance.peek, hdeposit, hzero]
    rw [onUnbalanceds_split tip hfee, Ledger.give_zero, Nat.sub_zero]

/-- A call of the multi payment pallet touches balances only when setting a currency is paid
for. -/
theorem chain_of_dispatch {origin : Origin AccountId} {call : Call AccountId}
    (h : Payment.Call.dispatch cfg s (origin, call) = .ok s') :
    s'.chain = s.chain ∨
    ∃ who currency t t', cfg.withdrawFeeForSetCurrency = .Yes ∧ t.chain = s.chain ∧
      withdrawSetFee cfg who currency t = .ok t' ∧ s'.chain = t'.chain := by
  cases call with
  | setCurrency currency =>
      unfold Payment.Call.dispatch setCurrency at h
      obtain ⟨who, -, h⟩ := Fallible.bind_eq_ok.mp h
      by_cases hc : currency = CORE_ASSET_ID ∨ currency ∈ s.acceptedCurrencies
      · rw [if_pos hc] at h
        obtain ⟨-, h⟩ := Fallible.ensure_bind_eq_ok.mp h
        simp only at h
        split_ifs at h with hpays
        · obtain ⟨t', hfee, h⟩ := Fallible.bind_eq_ok.mp h
          cases h
          refine Or.inr ⟨who, currency, _, t', hpays, ?_, hfee, rfl⟩
          rfl
        · cases h
          exact Or.inl rfl
      · rw [if_neg hc] at h
        cases h
  | addCurrency currency =>
      unfold Payment.Call.dispatch addCurrency at h
      simp only [Fallible.bind_eq_ok, ↓Fallible.ensure_bind_eq_ok] at h
      obtain ⟨_, -, -, -, -, h⟩ := h
      cases h
      exact Or.inl rfl
  | removeCurrency currency =>
      unfold Payment.Call.dispatch removeCurrency at h
      simp only [Fallible.bind_eq_ok, ↓Fallible.ensure_bind_eq_ok] at h
      obtain ⟨_, -, -, -, -, h⟩ := h
      cases h
      exact Or.inl rfl
  | addMember member =>
      unfold Payment.Call.dispatch addMember at h
      simp only [Fallible.bind_eq_ok, ↓Fallible.ensure_bind_eq_ok] at h
      obtain ⟨_, -, -, h⟩ := h
      cases h
      exact Or.inl rfl
  | removeMember member =>
      unfold Payment.Call.dispatch removeMember at h
      simp only [Fallible.bind_eq_ok, ↓Fallible.ensure_bind_eq_ok] at h
      obtain ⟨_, -, -, h⟩ := h
      cases h
      exact Or.inl rfl

/-- **The call of a transaction** leaves the chain as it is, is an action of the chain, or pays for
setting a currency. -/
theorem RuntimeCall.dispatch_cases {call : RuntimeCall AccountId}
    (h : call.dispatch cfg s = .ok s') :
    s'.chain = s.chain ∨ (∃ action : Action AccountId,
      action.dispatch cfg.chain s.chain = .ok s'.chain) ∨
    ∃ who currency t t', cfg.withdrawFeeForSetCurrency = .Yes ∧ t.chain = s.chain ∧
      withdrawSetFee cfg who currency t = .ok t' ∧ s'.chain = t'.chain := by
  cases call with
  | exchange e =>
      simp only [RuntimeCall.dispatch] at h
      cases he : e.dispatch cfg.chain s.chain with
      | ok chain =>
          rw [he] at h
          cases h
          exact Or.inr (Or.inl ⟨.extrinsic e, he⟩)
      | error failure =>
          rw [he] at h
          cases failure with
          | panic p => cases h
          | dispatch error =>
              cases h
              exact Or.inl rfl
  | payment origin call =>
      simp only [RuntimeCall.dispatch] at h
      cases hc : Payment.Call.dispatch cfg s (origin, call) with
      | ok t =>
          rw [hc] at h
          cases h
          exact (chain_of_dispatch hc).imp_right Or.inr
      | error failure =>
          rw [hc] at h
          cases failure with
          | panic p => cases h
          | payment | dispatch | currency | badOrigin | invalidPayment =>
              cases h
              exact Or.inl rfl

/-- Operations on the ledger that issue and destroy what they say. -/
abbrev Operations (s s' : Storage AccountId Hash) : Prop :=
  Ledger.Moves (fun _ => True) (fun _ => True) s.ledger s'.ledger

omit [DecidableEq AccountId] in
theorem ledger_congr {t : Storage AccountId Hash} (h : t.chain = s.chain) : t.ledger = s.ledger :=
  congrArg State.ledger h

theorem swapCurrency_operations (h : swapCurrency cfg who fee s = .ok s') : Operations s s' :=
  (swapCurrency_moves h).mono (fun _ h => h.elim) (fun _ h => h.elim)

theorem withdrawSetFee_operations {currency : AssetId}
    (h : withdrawSetFee cfg who currency s = .ok s') : Operations s s' := by
  obtain ⟨t, hswap, hcovered, rfl⟩ := withdrawSetFee_ok h
  exact (swapCurrency_operations hswap).trans
    (Ledger.Step.burn _ _ _ trivial hcovered).moves

theorem RuntimeCall.operations {call : RuntimeCall AccountId} (h : call.dispatch cfg s = .ok s') :
    Operations s s' := by
  rcases RuntimeCall.dispatch_cases h with hsame | ⟨action, haction⟩ |
    ⟨_, _, t, t', -, ht, hfee, ht'⟩
  · rw [Operations, ledger_congr hsame]
    exact .refl _
  · exact Action.moves haction
  · rw [Operations, ledger_congr ht', ← ledger_congr ht]
    exact withdrawSetFee_operations hfee

/-- A transaction that is valid: what is done before its call, and the ledger afterwards. -/
theorem Transaction.apply_cases {tx : Transaction AccountId} (h : tx.apply cfg s = .ok s') :
    tx.call.dispatch cfg s = .ok s' ∨
    ∃ t t₁ t₂ refund, 0 < tx.fee ∧ swapCurrency cfg tx.who tx.fee s = .ok t ∧
      tx.fee ≤ t.ledger.free CORE_ASSET_ID tx.who ∧
      t₁ = t.setLedger (t.ledger.take CORE_ASSET_ID tx.who tx.fee) ∧
      tx.call.dispatch cfg t₁ = .ok t₂ ∧ refund ≤ tx.fee ∧
      s' = t₂.setLedger ((t₂.ledger.give CORE_ASSET_ID tx.who refund).retire CORE_ASSET_ID
        (tx.fee - refund)) := by
  obtain ⟨⟨paid, t₁⟩, hpaid, h⟩ := Fallible.bind_eq_ok.mp h
  obtain ⟨t₂, hcall, hcorrected⟩ := Fallible.bind_eq_ok.mp h
  by_cases hfee : tx.fee = 0
  · unfold withdrawFee at hpaid
    rw [if_pos hfee] at hpaid
    cases hpaid
    cases hcorrected
    exact Or.inl hcall
  · have hpos : 0 < tx.fee := Nat.pos_of_ne_zero hfee
    obtain ⟨t, hswap, hcovered, rfl, ht₁⟩ := withdrawFee_ok hpos hpaid
    obtain ⟨refund, hrefund, hcorrect⟩ :=
      correctAndDepositFee_some tx.who tx.correctedFee tx.tip t₂ tx.fee_lt
    refine Or.inr ⟨t, t₁, t₂, refund, hpos, hswap, hcovered, ht₁, hcall, hrefund, ?_⟩
    exact Except.ok.inj (hcorrected.symm.trans hcorrect)

/-- **A transaction as a whole.** The fee is destroyed before the call and a part of it issued
again after it. -/
theorem Transaction.operations {tx : Transaction AccountId} (hback : s.ledger.Backed)
    (h : tx.apply cfg s = .ok s') : Operations s s' := by
  rcases Transaction.apply_cases h with hcall |
    ⟨t, t₁, t₂, refund, -, hswap, hcovered, rfl, hcall, hrefund, rfl⟩
  · exact RuntimeCall.operations hcall
  · have hswap := swapCurrency_operations hswap
    have hahead := (hswap.backed hback).ahead_take hcovered
    obtain ⟨hcall, hissued, -⟩ := (RuntimeCall.operations hcall).retire hahead
    have hburn : Ledger.Moves (fun _ => True) (fun _ => True) t.ledger
        (t.ledger.burn CORE_ASSET_ID tx.who tx.fee) :=
      (Ledger.Step.burn _ _ _ trivial hcovered).moves
    rw [Operations, Storage.setLedger_ledger, Ledger.give_retire hrefund hissued]
    exact ((hswap.trans hburn).trans hcall).trans (Ledger.Step.mint _ _ _ trivial).moves

theorem Step.operations {step : Step AccountId} (hback : s.ledger.Backed)
    (h : step.dispatch cfg s = .ok s') : Operations s s' := by
  cases step with
  | transaction tx => exact Transaction.operations hback h
  | finalize =>
      obtain ⟨chain, haction, rfl⟩ := ofChain_eq_ok.mp h
      exact Action.moves haction
  | nextBlock =>
      have h : ofChain cfg .nextBlock s = .ok s' := h
      obtain ⟨chain, haction, rfl⟩ := ofChain_eq_ok.mp h
      exact Action.moves haction

/-- **The issuance is exact.** Over every run of blocks of transactions, whatever their fees and
calls, the issuance of an asset changes exactly as much as what the accounts hold of it, and nobody
ever holds more than is issued. -/
theorem issuance_exact {s₀ : Storage AccountId Hash} (hfinite : s₀.ledger.FiniteHolders)
    (hback : s₀.ledger.Backed) (run : Fallible.Runs (Step.dispatch cfg) (fun _ _ => True) s₀ s) :
    s.ledger.Backed ∧
      ∀ c, s.ledger.issuance c + s₀.ledger.supply c = s₀.ledger.issuance c + s.ledger.supply c := by
  have key : Operations s₀ s :=
    run.invariant (I := Operations s₀)
      (fun _ _ _ ht _ h => ht.trans (Step.operations (ht.backed hback) h)) (.refl _)
  exact ⟨key.backed hback, (key.surplus hfinite hback).2⟩

/-! ### Two blocks of transactions -/

/-- A development chain on which everybody pays in asset `1`, and setting a currency is free. -/
def freeParams : Params Dev.AccountId Dev.Hash :=
  { devParams with withdrawFeeForSetCurrency := .No }

def feePayers : Storage Dev.AccountId Dev.Hash :=
  payingInOne (Dev.genesis [(0, [1], 2000000), (1, [1], 2000000), (0, [2], 500), (1, [2], 10000)])

/-- A pool is created for free. Then `[2]` sells asset `1`, tries to sell more than it has, and
registers an intention, each time paying a fee that is bought from the pool; `[1]` chooses to pay in
the native asset. -/
def paidBlocks : Except Failure (Storage Dev.AccountId Dev.Hash) :=
  [.transaction ⟨[1], 0, balanceBound_pos, 0, 0,
      .exchange (.xyk (.createPool [1] 0 1 1000000 1000000000000000000))⟩,
    .transaction ⟨[2], 1000, by decide, 10, 900, .exchange (.xyk (.sell [2] 1 0 2000 1 false))⟩,
    .transaction ⟨[2], 500, by decide, 0, 500, .exchange (.xyk (.sell [2] 1 0 9000 1 false))⟩,
    .transaction ⟨[2], 500, by decide, 0, 400, .exchange (.sell [2] 1 0 2000 1 false)⟩,
    .transaction ⟨[1], 100, by decide, 0, 100, .payment (.Signed [1]) (.setCurrency 0)⟩,
    .finalize, .nextBlock].foldlM (Step.dispatch freeParams) feePayers

open Fallible

/-- The fees are burned: `900`, `500`, `400` and `100`. -/
theorem issuance_exact_paidBlocks :
    Succeeds paidBlocks fun s =>
      s.ledger.issuance 0 + 1900 = feePayers.ledger.issuance 0 ∧
      s.ledger.Backed ∧
      ∀ c, s.ledger.issuance c + feePayers.ledger.supply c
        = feePayers.ledger.issuance c + s.ledger.supply c := by
  obtain ⟨s, hs, hburned⟩ : Succeeds paidBlocks fun s =>
      s.ledger.issuance 0 + 1900 = feePayers.ledger.issuance 0 := by decide +kernel
  exact ⟨s, hs, hburned, issuance_exact (Dev.finiteHolders _) (Dev.backed _)
    (Runs.of_foldlM (fun _ _ => trivial) hs)⟩

/-! ## Leaving a pool -/

section Leaving

open XYK

variable {l : Ledger AssetId AccountId}

/-- Withdrawing from balances keeps the accounting of shares, as long as no shares are withdrawn. -/
theorem solvent_setLedger {chain : State AccountId Hash} (hs : Solvent cfg.chain chain)
    (hback : l.Backed) (hle : ∀ c, l.issuance c ≤ chain.ledger.issuance c)
    (hshares : ∀ (assets : AssetPair) id, chain.registry.assetIds assets.name = some id →
      l.issuance id = chain.ledger.issuance id) : Solvent cfg.chain (chain.setLedger l) := by
  refine ⟨hs.accounts.imp (fun h => ?_) (fun h => ?_), hback,
    fun c => Nat.lt_of_le_of_lt (hle c) (hs.fits c), hs.noSelfPool⟩
  · refine ⟨h.registry, h.native, fun {id} hid => ?_, fun assets =>
      (h.pool assets).frame rfl rfl rfl rfl fun {id} hid => hshares assets id hid⟩
    have hzero := hle id
    rw [h.unissued hid] at hzero
    exact Nat.le_zero.mp hzero
  · refine ⟨h.shareToken, h.poolAssets, hback, fun id => ?_⟩
    have hzero := hle id
    rw [h.issuance] at hzero
    exact Nat.le_zero.mp hzero

/-- The native asset is not a share. -/
theorem solvent_notNative {chain : State AccountId Hash} (hs : Solvent cfg.chain chain)
    (hnative : cfg.chain.nativeAssetId = CORE_ASSET_ID) {x : Nat} (hx : 0 < x)
    (hissued : x ≤ chain.ledger.issuance CORE_ASSET_ID) (assets : AssetPair) :
    chain.registry.assetIds assets.name ≠ some CORE_ASSET_ID := by
  rcases hs.accounts with h | h
  · rw [← hnative]
    exact (h.pool assets).notNative
  · -- nothing is issued at all
    rw [h.issuance] at hissued
    omega

theorem solvent_action (hinj : SeedsInjective cfg.chain) {chain chain' : State AccountId Hash}
    (hs : Solvent cfg.chain chain) {action : Action AccountId}
    (h : action.dispatch cfg.chain chain = .ok chain') : Solvent cfg.chain chain' :=
  Solvent.move hinj hs (show (Move.chain action).dispatch cfg.chain chain = .ok chain' from h)

/-- Buying the fee is an action of the chain. -/
theorem swapCurrency_chain (h : swapCurrency cfg who fee s = .ok s') :
    s'.chain = s.chain ∨
      ∃ action : Action AccountId, action.dispatch cfg.chain s.chain = .ok s'.chain := by
  unfold swapCurrency at h
  split_ifs at h
  · obtain ⟨limit, -, h⟩ := Fallible.bind_eq_ok.mp h
    obtain ⟨chain, hbuy, rfl⟩ := ammBuy_ok cfg h
    refine Or.inr ⟨.extrinsic (.xyk (.buy who CORE_ASSET_ID (s.feeCurrency who) fee limit false)),
      ?_⟩
    exact (Extrinsic.xyk_ok cfg.chain).mpr hbuy
  · cases h
    exact Or.inl rfl

theorem solvent_call (hinj : SeedsInjective cfg.chain)
    (hsetFee : cfg.withdrawFeeForSetCurrency = .No) {call : RuntimeCall AccountId}
    (hs : Solvent cfg.chain s.chain) (h : call.dispatch cfg s = .ok s') :
    Solvent cfg.chain s'.chain := by
  rcases RuntimeCall.dispatch_cases h with hsame | ⟨action, haction⟩ | ⟨_, _, _, _, hpays, -⟩
  · rw [hsame]
    exact hs
  · exact solvent_action hinj hs haction
  · rw [hsetFee] at hpays
    cases hpays

theorem solvent_transaction (hinj : SeedsInjective cfg.chain)
    (hnative : cfg.chain.nativeAssetId = CORE_ASSET_ID)
    (hsetFee : cfg.withdrawFeeForSetCurrency = .No) {tx : Transaction AccountId}
    (hs : Solvent cfg.chain s.chain) (h : tx.apply cfg s = .ok s') :
    Solvent cfg.chain s'.chain := by
  have hall := Transaction.operations hs.backed h
  rcases Transaction.apply_cases h with hcall |
    ⟨t, t₁, t₂, refund, hpos, hswap, hcovered, rfl, hcall, hrefund, rfl⟩
  · exact solvent_call hinj hsetFee hs hcall
  · have ht : Solvent cfg.chain t.chain := by
      rcases swapCurrency_chain hswap with hsame | ⟨action, haction⟩
      · rw [hsame]
        exact hs
      · exact solvent_action hinj hs haction
    have hahead := ht.backed.ahead_take hcovered
    -- while the fee is outstanding
    have ht₁ : Solvent cfg.chain (t.chain.setLedger (t.ledger.take CORE_ASSET_ID tx.who tx.fee)) :=
      solvent_setLedger ht hahead.of_backed (fun _ => Nat.le_refl _) fun _ _ _ => rfl
    have ht₂ : Solvent cfg.chain t₂.chain := solvent_call hinj hsetFee ht₁ hcall
    have hissued := ((RuntimeCall.operations hcall).retire hahead).2.issued
    refine solvent_setLedger ht₂ (hall.backed hs.backed) (fun c => ?_) fun assets id hid => ?_
    · exact Ledger.retire_issuance_le c
    · have hne : id ≠ CORE_ASSET_ID := by
        rintro rfl
        exact solvent_notNative ht₂ hnative hpos hissued assets hid
      exact Function.update_of_ne hne _ _

theorem solvent_step (hinj : SeedsInjective cfg.chain)
    (hnative : cfg.chain.nativeAssetId = CORE_ASSET_ID)
    (hsetFee : cfg.withdrawFeeForSetCurrency = .No) {step : Step AccountId}
    (hs : Solvent cfg.chain s.chain) (h : step.dispatch cfg s = .ok s') :
    Solvent cfg.chain s'.chain := by
  cases step with
  | transaction tx => exact solvent_transaction hinj hnative hsetFee hs h
  | finalize =>
      obtain ⟨chain, haction, rfl⟩ := ofChain_eq_ok.mp h
      exact solvent_action hinj hs haction
  | nextBlock =>
      have h : ofChain cfg .nextBlock s = .ok s' := h
      obtain ⟨chain, haction, rfl⟩ := ofChain_eq_ok.mp h
      exact solvent_action hinj hs haction

/-- **Fees do not trap liquidity.** On a chain where every call pays a fee, in any accepted currency,
whoever holds shares of a pool can redeem any number of them. -/
theorem providers_can_leave_with_fees (hinj : SeedsInjective cfg.chain)
    (hnative : cfg.chain.nativeAssetId = CORE_ASSET_ID)
    (hsetFee : cfg.withdrawFeeForSetCurrency = .No) (hcurrency : Unrestricted cfg.chain.currency)
    (hmath : ExactLiquidityOut cfg.chain.math) {s₀ : Storage AccountId Hash} (h₀ : Fresh s₀.chain)
    (hfits : ∀ c, s₀.ledger.issuance c < balanceBound)
    (run : Fallible.Runs (Step.dispatch cfg) (fun _ _ => True) s₀ s) (assetA assetB : AssetId)
    (hpool : poolExists cfg.chain s.chain ⟨assetA, assetB⟩ = true) (shares : Nat)
    (hpos : 0 < shares) (hle : shares
      ≤ s.ledger.free (shareTokenOf s.chain (getPairId cfg.chain ⟨assetA, assetB⟩)) who) :
    ∃ chain, removeLiquidity cfg.chain who assetA assetB shares s.chain = .ok chain := by
  have hs : Solvent cfg.chain s.chain :=
    run.invariant (I := fun s => Solvent cfg.chain s.chain)
      (fun _ _ _ ht _ h => solvent_step hinj hnative hsetFee ht h)
      ⟨h₀.accounted_or_barren hnative, h₀.backed, hfits, h₀.noPools.noSelfPool⟩
  exact hs.removeLiquidity_ok hcurrency hmath hpool hpos hle

/-- `[1]` has all shares, and can redeem some of them. -/
theorem providers_can_leave_paidBlocks :
    Succeeds paidBlocks fun s =>
      s.ledger.free (shareTokenOf s.chain (getPairId Dev.cfg ⟨0, 1⟩)) [1] = 1000000 ∧
      ∃ chain, removeLiquidity Dev.cfg [1] 0 1 400000 s.chain = .ok chain := by
  obtain ⟨s, hs, hpool, hshares⟩ : Succeeds paidBlocks fun s =>
      poolExists Dev.cfg s.chain ⟨0, 1⟩ = true ∧
      s.ledger.free (shareTokenOf s.chain (getPairId Dev.cfg ⟨0, 1⟩)) [1] = 1000000 := by
    decide +kernel
  have hrun : Runs (Step.dispatch freeParams) (fun _ _ => True) feePayers s :=
    Runs.of_foldlM (fun _ _ => trivial) hs
  have hfresh : Fresh feePayers.chain := fresh_genesis (by decide)
  have hfits : ∀ c, feePayers.ledger.issuance c < balanceBound := genesis_fits (by decide)
  have hle : 400000
      ≤ s.ledger.free (shareTokenOf s.chain (getPairId freeParams.chain ⟨0, 1⟩)) [1] := by
    show 400000 ≤ s.ledger.free (shareTokenOf s.chain (getPairId Dev.cfg ⟨0, 1⟩)) [1]
    rw [hshares]
    decide
  exact ⟨s, hs, hshares, providers_can_leave_with_fees Dev.seedsInjective rfl rfl
    tokens_unrestricted exact_liquidityOut hfresh hfits hrun 0 1 hpool 400000 (by decide) hle⟩

end Leaving

end HydraDX.Payment
