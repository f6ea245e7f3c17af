import HydraDX.Payment.Pallet
import HydraDX.Imbalances
import HydraDX.XYK.Leave

set_option autoImplicit false

/-! # Charging a transaction

`MultiCurrencyAdapter` of `pallets/transaction-multi-payment/src/lib.rs`, over the balances
pallet, the multi payment pallet and `()` as the receiver of imbalances. Before a transaction is
dispatched `withdraw_fee` buys the fee if need be and withdraws it; after it
`correct_and_deposit_fee` refunds what was withdrawn too much and drops the rest.

The two calls together destroy the corrected fee of the payer (`charge_burns`). In between the
issuance is ahead of the balances, by the imbalance that the first call returns. -/

namespace HydraDX.Payment

open Balances

variable {AccountId Hash : Type} [DecidableEq AccountId] (cfg : Params AccountId Hash)

/-- `is_err` of the swap makes the transaction invalid; a panic is not an error. -/
def orInvalid {α : Type} : Except Failure α → Except Failure α
  | .ok a => .ok a
  | .error (.panic p) => .error (.panic p)
  | .error _ => .error .invalidPayment

/-- Withdraw the predicted fee, which includes the tip. -/
def withdrawFee (who : AccountId) (fee tip : Nat) (s : Storage AccountId Hash) :
    Except Failure (Option NegativeImbalance × Storage AccountId Hash) :=
  if fee = 0 then .ok (none, s)
  else do
    let withdrawReason : WithdrawReasons :=
      if tip = 0 then .TRANSACTION_PAYMENT
      else WithdrawReasons.union .TRANSACTION_PAYMENT .TIP
    let s ← orInvalid (swapCurrency cfg who fee s)
    match withdraw CORE_ASSET_ID who fee withdrawReason .KeepAlive s.ledger with
    | .ok (imbalance, l) => .ok (some imbalance, s.setLedger l)
    | .error _ => .error .invalidPayment

/-- Refund what was withdrawn too much, and hand the fee and the tip over. A refund that fails is
not made. -/
def correctAndDepositFee (who : AccountId) (correctedFee tip : Nat)
    (alreadyWithdrawn : Option NegativeImbalance) (s : Storage AccountId Hash) :
    Except Failure (Storage AccountId Hash) :=
  match alreadyWithdrawn with
  | none => .ok s
  | some paid =>
      -- `saturating_sub`
      let refundAmount := paid.peek - correctedFee
      let (refundImbalance, l) :=
        match depositIntoExisting CORE_ASSET_ID who refundAmount s.ledger with
        | .ok (imbalance, l) => (imbalance, l)
        | .error _ => (.zero, s.ledger)
      match (paid.offset refundImbalance).toSame with
      | .error _ => .error .invalidPayment
      | .ok adjustedPaid =>
          let imbalances := adjustedPaid.split tip
          .ok (s.setLedger (onUnbalanceds CORE_ASSET_ID [imbalances.1, imbalances.2] l))

variable {cfg} {s s' s₁ s₂ : Storage AccountId Hash} {who : AccountId} {c : AssetId}
  {fee tip correctedFee price : Nat} {paid : Option NegativeImbalance}

/-! ## Withdrawing -/

theorem orInvalid_eq_ok {α : Type} {x : Except Failure α} {a : α} :
    orInvalid x = .ok a ↔ x = .ok a := by
  cases x with
  | ok b => rfl
  | error e => cases e <;> simp [orInvalid]

/-- A fee that is withdrawn: the state after the swap, in which the fee is covered. -/
theorem withdrawFee_ok (hfee : 0 < fee) (h : withdrawFee cfg who fee tip s = .ok (paid, s₁)) :
    ∃ s', swapCurrency cfg who fee s = .ok s' ∧ fee ≤ s'.ledger.free CORE_ASSET_ID who ∧
      paid = some ⟨fee⟩ ∧ s₁ = s'.setLedger (s'.ledger.take CORE_ASSET_ID who fee) := by
  unfold withdrawFee at h
  rw [if_neg (by omega)] at h
  obtain ⟨s', hswap, h⟩ := Fallible.bind_eq_ok.mp h
  refine ⟨s', orInvalid_eq_ok.mp hswap, ?_⟩
  split at h
  · rename_i imbalance l hw
    obtain ⟨hcovered, rfl, rfl⟩ := withdraw_ok hw
    cases h
    exact ⟨hcovered, rfl, rfl⟩
  · cases h

/-- The balances after a fee was bought and withdrawn: all that the payer notices is the price. -/
structure PaidByPool (cfg : Params AccountId Hash) (s s₁ : Storage AccountId Hash)
    (who : AccountId) (c : AssetId) (fee price : Nat) : Prop where
  payer_native : s₁.ledger.free CORE_ASSET_ID who = s.ledger.free CORE_ASSET_ID who
  payer_currency : s₁.ledger.free c who + price = s.ledger.free c who
  pool_currency : s₁.ledger.free c (XYK.getPairId cfg.chain ⟨c, CORE_ASSET_ID⟩)
    = s.ledger.free c (XYK.getPairId cfg.chain ⟨c, CORE_ASSET_ID⟩) + price
  pool_native : s₁.ledger.free CORE_ASSET_ID (XYK.getPairId cfg.chain ⟨c, CORE_ASSET_ID⟩) + fee
    = s.ledger.free CORE_ASSET_ID (XYK.getPairId cfg.chain ⟨c, CORE_ASSET_ID⟩)
  others : ∀ a w, w ≠ who → w ≠ XYK.getPairId cfg.chain ⟨c, CORE_ASSET_ID⟩ →
    s₁.ledger.free a w = s.ledger.free a w
  assets : ∀ a w, a ≠ CORE_ASSET_ID → a ≠ c → s₁.ledger.free a w = s.ledger.free a w
  ledger_rest : s₁.ledger = { s.ledger with free := s₁.ledger.free }
  storage_rest : s₁ = { s with
    chain := { s.chain with
      ledger := s₁.ledger
      events := s.chain.events ++ [.BuyExecuted who CORE_ASSET_ID c fee price] } }

theorem Swapped.paidByPool (hcore : c ≠ CORE_ASSET_ID)
    (hwho : who ≠ XYK.getPairId cfg.chain ⟨c, CORE_ASSET_ID⟩)
    (h : Swapped cfg s s' who c fee price) :
    PaidByPool cfg s (s'.setLedger (s'.ledger.take CORE_ASSET_ID who fee)) who c fee price := by
  have hledger : s'.ledger
      = (s.ledger.move CORE_ASSET_ID (XYK.getPairId cfg.chain ⟨c, CORE_ASSET_ID⟩) who fee).move
          c who (XYK.getPairId cfg.chain ⟨c, CORE_ASSET_ID⟩) price := by
    rw [h.state_eq]
    rfl
  have hpool := h.pool_covers
  have hcovered := h.covered
  have hback := Ne.symm hwho
  refine ⟨?_, ?_, ?_, ?_, ?_, ?_, ?_, ?_⟩
  · rw [Storage.setLedger_ledger, Ledger.take_free_self, hledger,
      Ledger.move_free_of_ne (Or.inl hcore.symm), Ledger.move_free_dest hback]
    omega
  · rw [Storage.setLedger_ledger, Ledger.take_free_of_ne (Or.inl hcore), hledger,
      Ledger.move_free_source hwho, Ledger.move_free_of_ne (Or.inl hcore)]
    omega
  · rw [Storage.setLedger_ledger, Ledger.take_free_of_ne (Or.inl hcore), hledger,
      Ledger.move_free_dest hwho, Ledger.move_free_of_ne (Or.inl hcore)]
  · rw [Storage.setLedger_ledger, Ledger.take_free_of_ne (Or.inr hback), hledger,
      Ledger.move_free_of_ne (Or.inl hcore.symm), Ledger.move_free_source hback]
    omega
  · intro a w hw hw'
    rw [Storage.setLedger_ledger, Ledger.take_free_of_ne (Or.inr hw), hledger,
      Ledger.move_free_of_ne (Or.inr ⟨hw, hw'⟩), Ledger.move_free_of_ne (Or.inr ⟨hw', hw⟩)]
  · intro a w ha ha'
    rw [Storage.setLedger_ledger, Ledger.take_free_of_ne (Or.inl ha), hledger,
      Ledger.move_free_of_ne (Or.inl ha'), Ledger.move_free_of_ne (Or.inl ha)]
  · rw [Storage.setLedger_ledger, hledger]
    simp only [Ledger.take, Ledger.move, if_neg hwho, if_neg hback]
  · rw [h.state_eq]
    rfl

/-! ## Refunding -/

/-- The ledger once the payer is refunded, and the issuance is lowered by what is left. -/
structure Refunded (s s₁ s₂ : Storage AccountId Hash) (who : AccountId) (refund left : Nat) :
    Prop where
  payer : s₂.ledger.free CORE_ASSET_ID who = s₁.ledger.free CORE_ASSET_ID who + refund
  issuance : s₂.ledger.issuance CORE_ASSET_ID + left = s.ledger.issuance CORE_ASSET_ID
  rest : s₂ = s₁.setLedger
    ((s₁.ledger.give CORE_ASSET_ID who refund).retire CORE_ASSET_ID left)

theorem correctAndDepositFee_of_not_isNew {l : Ledger AssetId AccountId}
    (hcorrected : correctedFee ≤ fee) (hnew : isNew CORE_ASSET_ID l who = false)
    (hfits : l.free CORE_ASSET_ID who + fee < balanceBound) :
    correctAndDepositFee who correctedFee tip (some ⟨fee⟩) (s.setLedger l)
      = .ok (s.setLedger ((l.give CORE_ASSET_ID who (fee - correctedFee)).retire CORE_ASSET_ID
          correctedFee)) := by
  have hdeposit : depositIntoExisting CORE_ASSET_ID who (fee - correctedFee) l
      = .ok (⟨fee - correctedFee⟩, l.give CORE_ASSET_ID who (fee - correctedFee)) :=
    depositIntoExisting_of_fits hnew (by omega)
  have hoffset : ((⟨fee⟩ : NegativeImbalance).offset ⟨fee - correctedFee⟩).toSame
      = .ok ⟨correctedFee⟩ := by
    rw [offset_toSame (Nat.sub_le _ _), Nat.sub_sub_self hcorrected]
  simp only [correctAndDepositFee, NegativeImbalance.peek, Storage.setLedger_ledger, hdeposit,
    hoffset]
  rw [onUnbalanceds_split tip (by show correctedFee < balanceBound; omega)]
  rfl

theorem correctAndDepositFee_of_isNew {l : Ledger AssetId AccountId}
    (hnew : isNew CORE_ASSET_ID l who = true) (hfits : fee < balanceBound) :
    correctAndDepositFee who correctedFee tip (some ⟨fee⟩) (s.setLedger l)
      = .ok (s.setLedger (l.retire CORE_ASSET_ID fee)) := by
  -- either there is nothing to refund, or the account is gone
  have hdeposit : (match depositIntoExisting CORE_ASSET_ID who (fee - correctedFee) l with
      | .ok (imbalance, l) => (imbalance, l)
      | .error _ => (PositiveImbalance.zero, l)) = (.zero, l) := by
    by_cases hv : fee - correctedFee = 0
    · rw [hv]
      rfl
    · rw [depositIntoExisting_of_isNew hnew hv]
  have hoffset : ((⟨fee⟩ : NegativeImbalance).offset .zero).toSame = .ok ⟨fee⟩ :=
    offset_toSame (Nat.zero_le _)
  simp only [correctAndDepositFee, NegativeImbalance.peek, Storage.setLedger_ledger, hdeposit,
    hoffset]
  rw [onUnbalanceds_split tip hfits]
  rfl

/-! ## Both together -/

/-- Buying a fee neither issues nor destroys anything. -/
theorem swapCurrency_moves (h : swapCurrency cfg who fee s = .ok s') :
    Ledger.Moves (fun _ => False) (fun _ => False) s.ledger s'.ledger := by
  rcases swapCurrency_ok cfg h with ⟨-, rfl⟩ | ⟨hcore, price, hs⟩
  · exact .refl _
  · have hcovered : price ≤ (s.ledger.move CORE_ASSET_ID
        (XYK.getPairId cfg.chain ⟨s.feeCurrency who, CORE_ASSET_ID⟩) who fee).free
          (s.feeCurrency who) who := by
      rw [Ledger.move_free_of_ne (Or.inl hcore)]
      exact hs.covered
    rw [hs.state_eq]
    exact (Ledger.Step.move _ _ _ _ fun _ => hs.pool_covers.le).moves.trans
      (Ledger.Step.move _ _ _ _ fun _ => hcovered).moves

/-- **Charging a transaction destroys its fee.** After the swap, withdrawing the fee and refunding
a part of it is destroying the rest: the corrected fee, or all of it if the account of the payer
was left without data. -/
theorem charge_burns (hback : s.ledger.Backed)
    (hfits : s.ledger.issuance CORE_ASSET_ID < balanceBound) (hfee : 0 < fee)
    (hcorrected : correctedFee ≤ fee) (h : withdrawFee cfg who fee tip s = .ok (paid, s₁)) :
    ∃ s', swapCurrency cfg who fee s = .ok s' ∧ fee ≤ s'.ledger.free CORE_ASSET_ID who ∧
      s₁ = s'.setLedger (s'.ledger.take CORE_ASSET_ID who fee) ∧
      correctAndDepositFee who correctedFee tip paid s₁ = .ok (s'.setLedger
        (s'.ledger.burn CORE_ASSET_ID who
          (if isNew CORE_ASSET_ID s₁.ledger who then fee else correctedFee))) := by
  obtain ⟨s', hswap, hcovered, rfl, rfl⟩ := withdrawFee_ok hfee h
  have hmoves := swapCurrency_moves hswap
  have hfree : s'.ledger.free CORE_ASSET_ID who < balanceBound := by
    calc s'.ledger.free CORE_ASSET_ID who
        ≤ s'.ledger.issuance CORE_ASSET_ID := XYK.free_le_issuance (hmoves.backed hback) _ _
      _ = s.ledger.issuance CORE_ASSET_ID := hmoves.issuance id id
      _ < balanceBound := hfits
  refine ⟨s', hswap, hcovered, rfl, ?_⟩
  rw [Storage.setLedger_ledger]
  by_cases hnew : isNew CORE_ASSET_ID (s'.ledger.take CORE_ASSET_ID who fee) who = true
  · rw [if_pos hnew, correctAndDepositFee_of_isNew hnew (by omega), Ledger.take_retire]
  · rw [if_neg hnew, correctAndDepositFee_of_not_isNew hcorrected (eq_false_of_ne_true hnew)]
    · have hrest := Ledger.take_give_retire (Nat.sub_le fee correctedFee) hcovered
      rw [Nat.sub_sub_self hcorrected] at hrest
      rw [hrest]
    · rw [Ledger.take_free_self]
      omega

/-- Where all but `left` of a fee is refunded, `left` is destroyed. -/
theorem refunded_of_burn {refund left : Nat} (hparts : refund + left = fee)
    (hissuance : s'.ledger.issuance CORE_ASSET_ID = s.ledger.issuance CORE_ASSET_ID)
    (hcovered : fee ≤ s'.ledger.free CORE_ASSET_ID who)
    (hissued : s'.ledger.free CORE_ASSET_ID who ≤ s'.ledger.issuance CORE_ASSET_ID) :
    Refunded s (s'.setLedger (s'.ledger.take CORE_ASSET_ID who fee))
      (s'.setLedger (s'.ledger.burn CORE_ASSET_ID who left)) who refund left := by
  refine ⟨?_, ?_, ?_⟩
  · rw [Storage.setLedger_ledger, Storage.setLedger_ledger, Ledger.take_free_self,
      Ledger.burn_free_self, if_pos rfl]
    omega
  · rw [Storage.setLedger_ledger, Ledger.burn_issuance_self, ← hissuance]
    omega
  · have hleft : left = fee - refund := by omega
    rw [Storage.setLedger_ledger, hleft, Ledger.take_give_retire (by omega) hcovered]
    rfl

/-- **A fee from end to end.** For every payer, fee, tip and corrected fee: in the native currency
the fee is taken from the payer and nothing else happens. In another currency the payer pays at
most twice the fee of it to the pool, which gives up the fee in the native asset, and no other
account is touched, unless the payer is the pool itself. Afterwards the payer is refunded and the
issuance has fallen by the corrected fee, unless the account was left without data, in which case
there is no refund and the issuance has fallen by the fee. -/
theorem fee_accounted (cfg : Params AccountId Hash) (s : Storage AccountId Hash)
    (hback : s.ledger.Backed) (hfits : s.ledger.issuance CORE_ASSET_ID < balanceBound)
    (who : AccountId) (fee tip correctedFee : Nat) (hfee : 0 < fee)
    (hcorrected : correctedFee ≤ fee) (paid : Option NegativeImbalance)
    (s₁ : Storage AccountId Hash) (h : withdrawFee cfg who fee tip s = .ok (paid, s₁)) :
    (s.feeCurrency who = CORE_ASSET_ID → fee ≤ s.ledger.free CORE_ASSET_ID who ∧
      s₁ = s.setLedger (s.ledger.take CORE_ASSET_ID who fee)) ∧
    (s.feeCurrency who ≠ CORE_ASSET_ID →
      who ≠ XYK.getPairId cfg.chain ⟨s.feeCurrency who, CORE_ASSET_ID⟩ →
      ∃ price, price ≤ 2 * fee ∧ PaidByPool cfg s s₁ who (s.feeCurrency who) fee price) ∧
    ∃ s₂, correctAndDepositFee who correctedFee tip paid s₁ = .ok s₂ ∧
      (isNew CORE_ASSET_ID s₁.ledger who = false →
        Refunded s s₁ s₂ who (fee - correctedFee) correctedFee) ∧
      (isNew CORE_ASSET_ID s₁.ledger who = true → Refunded s s₁ s₂ who 0 fee) := by
  obtain ⟨s', hswap, hcovered, rfl, hcorrect⟩ := charge_burns hback hfits hfee hcorrected h
  have hmoves := swapCurrency_moves hswap
  have hissuance : s'.ledger.issuance CORE_ASSET_ID = s.ledger.issuance CORE_ASSET_ID :=
    hmoves.issuance id id
  have hissued := XYK.free_le_issuance (hmoves.backed hback) CORE_ASSET_ID who
  refine ⟨fun hcore => ?_, fun hcore hwho => ?_, _, hcorrect, fun hnew => ?_, fun hnew => ?_⟩
  · rcases swapCurrency_ok cfg hswap with ⟨-, rfl⟩ | ⟨hne, -⟩
    · exact ⟨hcovered, rfl⟩
    · exact absurd hcore hne
  · rcases swapCurrency_ok cfg hswap with ⟨heq, -⟩ | ⟨-, price, hs⟩
    · exact absurd heq hcore
    · exact ⟨price, hs.price_le, hs.paidByPool hcore hwho⟩
  · rw [hnew, if_neg Bool.false_ne_true]
    exact refunded_of_burn (by omega) hissuance hcovered hissued
  · rw [hnew, if_pos rfl]
    exact refunded_of_burn (by omega) hissuance hcovered hissued

/-! ## Paying for setting a currency -/

theorem withdrawSetFee_ok {currency : AssetId} (h : withdrawSetFee cfg who currency s = .ok s₁) :
    ∃ s', swapCurrency cfg who (setCurrencyFee cfg) s = .ok s' ∧
      setCurrencyFee cfg ≤ s'.ledger.free currency who ∧
      s₁ = s'.setLedger (s'.ledger.burn currency who (setCurrencyFee cfg)) := by
  obtain ⟨s', hswap, h⟩ := Fallible.bind_eq_ok.mp h
  refine ⟨s', hswap, ?_⟩
  split at h
  · rename_i l hw
    obtain ⟨hcovered, rfl⟩ := cfg.chain.currency.withdraw_ok hw
    cases h
    exact ⟨hcovered, rfl⟩
  · cases h

/-- A fee that is swapped from another currency is not zero. -/
theorem Swapped.fee_pos (h : Swapped cfg s s' who c fee price) : 0 < fee := by
  have hpos := h.price_pos
  have hle := h.price_le
  omega

/-- In the native currency both ways to pay a fee take it from the payer. -/
theorem withdrawSetFee_native (hcore : s.feeCurrency who = CORE_ASSET_ID)
    (hset : withdrawSetFee cfg who CORE_ASSET_ID s = .ok s₁)
    (hfee : withdrawFee cfg who (setCurrencyFee cfg) tip s = .ok (paid, s₂)) :
    s₁.ledger.free = s₂.ledger.free := by
  have hsame : ∀ t, swapCurrency cfg who (setCurrencyFee cfg) s = .ok t → t = s := by
    intro t ht
    rcases swapCurrency_ok cfg ht with ⟨-, heq⟩ | ⟨hne, -⟩
    · exact heq
    · exact absurd hcore hne
  obtain ⟨s', hswap, -, rfl⟩ := withdrawSetFee_ok hset
  rw [hsame s' hswap]
  by_cases hzero : setCurrencyFee cfg = 0
  · unfold withdrawFee at hfee
    rw [if_pos hzero] at hfee
    cases hfee
    rw [hzero]
    exact Ledger.put_eq_self _ _ _
  · obtain ⟨s'', hswap', -, -, rfl⟩ := withdrawFee_ok (Nat.pos_of_ne_zero hzero) hfee
    rw [hsame s'' hswap']
    rfl

/-- In another currency the payer keeps the fee that was bought, and pays it a second time. -/
theorem withdrawSetFee_keeps_fee {currency : AssetId} (hmap : s.feeCurrency who = currency)
    (hcore : currency ≠ CORE_ASSET_ID) (hset : withdrawSetFee cfg who currency s = .ok s₁)
    (hfee : withdrawFee cfg who (setCurrencyFee cfg) tip s = .ok (paid, s₂)) :
    0 < setCurrencyFee cfg ∧
    s₁.ledger.free CORE_ASSET_ID who
      = s₂.ledger.free CORE_ASSET_ID who + setCurrencyFee cfg ∧
    s₁.ledger.free currency who + setCurrencyFee cfg = s₂.ledger.free currency who := by
  obtain ⟨s', hswap, hcovered, rfl⟩ := withdrawSetFee_ok hset
  have hpos : 0 < setCurrencyFee cfg := by
    rcases swapCurrency_ok cfg hswap with ⟨heq, -⟩ | ⟨-, price, hs⟩
    · exact absurd (hmap.symm.trans heq) hcore
    · exact hs.fee_pos
  obtain ⟨s'', hswap', hcovered', -, rfl⟩ := withdrawFee_ok hpos hfee
  rw [hswap] at hswap'
  cases hswap'
  refine ⟨hpos, ?_, ?_⟩
  · rw [Storage.setLedger_ledger, Storage.setLedger_ledger,
      Ledger.burn_free_of_ne (Or.inl hcore.symm), Ledger.take_free_self]
    omega
  · rw [Storage.setLedger_ledger, Storage.setLedger_ledger, Ledger.burn_free_self, if_pos rfl,
      Ledger.take_free_of_ne (Or.inl hcore)]
    omega

/-- **The two ways to pay a fee agree exactly on the native currency.** For every account whose
fee currency is the one that is set, and every state in which both succeed. -/
theorem fee_paths_agree_iff (cfg : Params AccountId Hash) (s s₁ s₂ : Storage AccountId Hash)
    (who : AccountId) (currency : AssetId) (hmap : s.accountCurrencyMap who = some currency)
    (hset : withdrawSetFee cfg who currency s = .ok s₁) (tip : Nat)
    (paid : Option NegativeImbalance)
    (hfee : withdrawFee cfg who (setCurrencyFee cfg) tip s = .ok (paid, s₂)) :
    (∀ a, s₁.ledger.free a who = s₂.ledger.free a who ∧
      s₁.ledger.free a (XYK.getPairId cfg.chain ⟨currency, CORE_ASSET_ID⟩)
        = s₂.ledger.free a (XYK.getPairId cfg.chain ⟨currency, CORE_ASSET_ID⟩)) ↔
      currency = CORE_ASSET_ID := by
  have hcurrency : s.feeCurrency who = currency := by
    unfold Storage.feeCurrency
    rw [hmap]
  constructor
  · intro hagree
    by_contra hcore
    obtain ⟨hpos, hnative, -⟩ := withdrawSetFee_keeps_fee hcurrency hcore hset hfee
    have heq := (hagree CORE_ASSET_ID).1
    omega
  · rintro rfl a
    rw [withdrawSetFee_native hcurrency hset hfee]
    exact ⟨rfl, rfl⟩

/-! ### Fees in another currency -/

/-- A development chain on which setting a currency costs something. -/
def devParams : Params Dev.AccountId Dev.Hash where
  chain := Dev.cfg
  baseExtrinsic := 5
  maxBlock := 1024
  setCurrencyWeight := 184622000
  calcFee := id
  withdrawFeeForSetCurrency := .Yes

/-- A chain with a pool of the native asset and asset `1`, on which everybody pays in asset `1`. -/
def payingInOne (chain : State Dev.AccountId Dev.Hash) : Storage Dev.AccountId Dev.Hash where
  chain := chain
  accountCurrencyMap := fun _ => some 1
  acceptedCurrencies := insert 1 ∅
  authorities := [[1]]
  events := []

/-- A pool of the native asset and asset `1`, and an account that has asset `1` only. -/
def feePool : Except Exchange.Failure (State Dev.AccountId Dev.Hash) :=
  Dev.after (Dev.genesis [(0, [1], 2000000), (1, [1], 2000000), (0, [2], 500), (1, [2], 10000)])
    [.xyk (.createPool [1] 0 1 1000000 (10 ^ 18))]

open Fallible

/-- The pool pays a fee for itself: it trades with itself, and its native balance falls by the
fee. -/
theorem pool_pays_for_itself :
    Succeeds feePool fun chain =>
      let pool := XYK.getPairId Dev.cfg ⟨1, CORE_ASSET_ID⟩
      (payingInOne chain).feeCurrency pool = 1 ∧
      chain.ledger.miscFrozen 0 pool = 0 ∧ chain.ledger.feeFrozen 0 pool = 0 ∧
      Succeeds (withdrawFee devParams pool 1000 10 (payingInOne chain)) fun r =>
        r.2.ledger.free 0 pool + 1000 = chain.ledger.free 0 pool ∧
        r.2.ledger.free 1 pool = chain.ledger.free 1 pool := by
  decide +kernel

/-- The fee of `1000` costs `1004` of asset `1`, and `100` of it are refunded. -/
theorem fee_accounted_feePool :
    Succeeds feePool fun chain =>
      Succeeds (withdrawFee devParams [2] 1000 10 (payingInOne chain)) fun r =>
        (∃ price, price ≤ 2000 ∧
          PaidByPool devParams (payingInOne chain) r.2 [2] 1 1000 price) ∧
        Succeeds (correctAndDepositFee [2] 900 10 r.1 r.2) fun s₂ =>
          s₂.ledger.free 0 [2] = 600 ∧ s₂.ledger.issuance 0 + 900 = 2000500 := by
  have hok : Succeeds feePool fun chain =>
      Succeeds (withdrawFee devParams [2] 1000 10 (payingInOne chain)) fun r =>
        isNew CORE_ASSET_ID r.2.ledger [2] = false ∧ r.2.ledger.free 0 [2] = 500 ∧
        chain.ledger.issuance 0 = 2000500 := by
    decide +kernel
  obtain ⟨chain, hchain, ⟨paid, s₁⟩, hpaid, hnew, hfree, hissuance⟩ := hok
  have hsolvent : XYK.Solvent Dev.cfg chain := XYK.solvent_after (by decide) (by decide) hchain
  obtain ⟨-, hbought, s₂, hs₂, hrefund, -⟩ := fee_accounted devParams (payingInOne chain)
    hsolvent.backed (hsolvent.fits _) [2] 1000 10 900 (by decide) (by decide) paid s₁ hpaid
  have h := hrefund hnew
  have hcore : (1 : AssetId) ≠ CORE_ASSET_ID := by decide
  refine ⟨chain, hchain, (paid, s₁), hpaid, hbought hcore (Dev.notPoolAccount 2 1 0), s₂, hs₂, ?_,
    ?_⟩
  · have hpayer := h.payer
    rw [show s₁.ledger.free CORE_ASSET_ID [2] = 500 from hfree] at hpayer
    exact hpayer
  · exact h.issuance.trans hissuance

/-- Setting asset `1` costs a fee of `1029`. It is bought, but then it is asset `1` that is
withdrawn: `[2]` is left with the native asset that it bought, and has paid twice. -/
theorem set_fee_paid_twice :
    Succeeds feePool fun chain =>
      1 ∈ (payingInOne chain).acceptedCurrencies ∧
      Succeeds (withdrawSetFee devParams [2] 1 (payingInOne chain)) fun s₁ =>
        Succeeds (withdrawFee devParams [2] (setCurrencyFee devParams) 0 (payingInOne chain))
          fun r =>
            s₁.ledger.free 0 [2] = 1529 ∧ r.2.ledger.free 0 [2] = 500 ∧
            s₁.ledger.free 1 [2] = 7938 ∧ r.2.ledger.free 1 [2] = 8967 := by
  decide +kernel

/-- An account that pays in the native asset. -/
theorem fee_paths_agree_native :
    Succeeds feePool fun chain =>
      let s := { payingInOne chain with accountCurrencyMap := fun _ => some CORE_ASSET_ID }
      Succeeds (withdrawSetFee devParams [1] CORE_ASSET_ID s) fun s₁ =>
        Succeeds (withdrawFee devParams [1] (setCurrencyFee devParams) 0 s) fun r =>
          ∀ a, s₁.ledger.free a [1] = r.2.ledger.free a [1] := by
  have hok : Succeeds feePool fun chain =>
      let s := { payingInOne chain with accountCurrencyMap := fun _ => some CORE_ASSET_ID }
      Succeeds (withdrawSetFee devParams [1] CORE_ASSET_ID s) fun _ =>
        Succeeds (withdrawFee devParams [1] (setCurrencyFee devParams) 0 s) fun _ => True := by
    decide +kernel
  obtain ⟨chain, hchain, s₁, hset, ⟨paid, s₂⟩, hfee, -⟩ := hok
  have hagree := (fee_paths_agree_iff devParams _ s₁ s₂ [1] CORE_ASSET_ID rfl hset 0 paid
    hfee).mpr rfl
  exact ⟨chain, hchain, s₁, hset, (paid, s₂), hfee, fun a => (hagree a).1⟩

end HydraDX.Payment
