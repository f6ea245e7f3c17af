import HydraDX.PalletBalances.System
import HydraDX.PalletBalances.Transfer
import HydraDX.PalletBalances.Supply
import HydraDX.Lib.Histories

set_option autoImplicit false

/-! # The pallet and the ledger

The other pallets are modelled on a ledger, on which the native currency is `Balances.lean` and
`Imbalances.lean`. This file shows that the pallet on its own storage, with the existential deposit
of the runtime, answers their calls as those do on the ledger that shows the balances of the storage
(`answers_eq`). It is a simulation: the events, the locks and the counters of the account store have
no part in it. Of the store it asks that data that are all zero do not count as stored
(`NoZeroData`), since on the ledger they are no account. -/

namespace HydraDX

/-! ## The calls on the ledger -/

namespace Balances

variable {AccountId : Type} [DecidableEq AccountId] (native : AssetId)

/-- `transfer`. Without an existential deposit nobody is killed. -/
def transfer (transactor dest : AccountId) (value : Nat) (l : Ledger AssetId AccountId) :
    Except Error (Ledger AssetId AccountId) :=
  if value = 0 ∨ transactor = dest then .ok l
  else do
    ensure (value ≤ l.free native transactor) .InsufficientBalance
    ensure (l.free native dest + value < balanceBound) .Overflow
    ensureCanWithdraw native transactor value .TRANSFER (l.free native transactor - value) l
    return l.move native transactor dest value

def reserve (who : AccountId) (value : Nat) (l : Ledger AssetId AccountId) :
    Except Error (Ledger AssetId AccountId) :=
  if value = 0 then .ok l
  else do
    ensure (value ≤ l.free native who) .InsufficientBalance
    ensure (l.reserved native who + value < balanceBound) .Overflow
    ensureCanWithdraw native who value .RESERVE (l.free native who - value) l
    return l.hold native who value

end Balances

namespace PalletBalances

open Balances (WithdrawReasons Reasons ExistenceRequirement NegativeImbalance PositiveImbalance)
open Dispatch

/-- The errors under their names in the pallet. -/
def Error.ofWithdrawal : Balances.Error → Error
  | .LiquidityRestrictions => .LiquidityRestrictions
  | .InsufficientBalance => .InsufficientBalance
  | .KeepAlive => .KeepAlive
  | .DeadAccount => .DeadAccount
  | .Overflow => .Overflow

/-- The errors of a transfer of reserved balance. -/
def Failure.ofCurrency : CurrencyError → Failure
  | .DeadAccount => Error.DeadAccount.fail
  | .InsufficientBalance => Error.InsufficientBalance.fail
  | _ => Error.Overflow.fail

/-- A call of the native currency by another pallet. -/
inductive Call (AccountId : Type) where
  | transfer (transactor dest : AccountId) (value : Nat) (requirement : ExistenceRequirement)
  | reserve (who : AccountId) (value : Nat)
  | unreserve (who : AccountId) (value : Nat)
  | repatriateReserved (slashed beneficiary : AccountId) (value : Nat) (status : BalanceStatus)
  | withdraw (who : AccountId) (value : Nat) (reasons : WithdrawReasons)
      (liveness : ExistenceRequirement)
  | depositIntoExisting (who : AccountId) (value : Nat)
  | depositCreating (who : AccountId) (value : Nat)
  | dropPositive (imbalance : PositiveImbalance)
  | dropNegative (imbalance : NegativeImbalance)

/-- What a call returns. -/
inductive Reply where
  | done
  | rest (value : Nat)
  | positive (imbalance : PositiveImbalance)
  | negative (imbalance : NegativeImbalance)
  deriving DecidableEq, Repr

variable {AccountId : Type} [DecidableEq AccountId] {sys : AccountStore AccountId}

namespace Call

/-- The call as the pallet makes it. -/
def onPallet (cfg : Config) : Call AccountId → Op sys Reply
  | .transfer transactor dest value requirement => do
      PalletBalances.transfer cfg transactor dest value requirement
      return .done
  | .reserve who value => do
      PalletBalances.reserve cfg who value
      return .done
  | .unreserve who value => do
      let rest ← PalletBalances.unreserve cfg who value
      return .rest rest
  | .repatriateReserved slashed beneficiary value status => do
      let rest ← PalletBalances.repatriateReserved cfg slashed beneficiary value status
      return .rest rest
  | .withdraw who value reasons liveness => do
      let n ← PalletBalances.withdraw cfg who value reasons liveness
      return .negative n
  | .depositIntoExisting who value => do
      let p ← PalletBalances.depositIntoExisting cfg who value
      return .positive p
  | .depositCreating who value => do
      let p ← PalletBalances.depositCreating cfg who value
      return .positive p
  | .dropPositive imbalance => do
      dropped imbalance
      return .done
  | .dropNegative imbalance => do
      dropped imbalance
      return .done

/-- The call as it is on the ledger. -/
def onLedger (native : AssetId) (call : Call AccountId) (l : Ledger AssetId AccountId) :
    Except Failure (Reply × Ledger AssetId AccountId) :=
  match call with
  | .transfer transactor dest value _ =>
      match Balances.transfer native transactor dest value l with
      | .ok l' => .ok (.done, l')
      | .error e => .error (Error.ofWithdrawal e).fail
  | .reserve who value =>
      match Balances.reserve native who value l with
      | .ok l' => .ok (.done, l')
      | .error e => .error (Error.ofWithdrawal e).fail
  | .unreserve who value =>
      .ok (.rest (Balances.unreserve native who value l).1,
        (Balances.unreserve native who value l).2)
  | .repatriateReserved slashed beneficiary value status =>
      match Balances.repatriateReserved native slashed beneficiary value status l with
      | .ok (rest, l') => .ok (.rest rest, l')
      | .error e => .error (.ofCurrency e)
  | .withdraw who value reasons liveness =>
      match Balances.withdraw native who value reasons liveness l with
      | .ok (n, l') => .ok (.negative n, l')
      | .error e => .error (Error.ofWithdrawal e).fail
  | .depositIntoExisting who value =>
      match Balances.depositIntoExisting native who value l with
      | .ok (p, l') => .ok (.positive p, l')
      | .error e => .error (Error.ofWithdrawal e).fail
  | .depositCreating who value =>
      .ok (.positive (Balances.depositCreating native who value l).1,
        (Balances.depositCreating native who value l).2)
  | .dropPositive imbalance => .ok (.done, imbalance.drop native l)
  | .dropNegative imbalance => .ok (.done, imbalance.drop native l)

end Call

/-! ## What the ledger shows -/

/-- The data of an account on the ledger. -/
def row (native : AssetId) (l : Ledger AssetId AccountId) (who : AccountId) : AccountData :=
  ⟨l.free native who, l.reserved native who, l.miscFrozen native who, l.feeFrozen native who⟩

/-- The ledger shows the storage. -/
structure Shows (native : AssetId) (s : Storage sys)
    (l : Ledger AssetId AccountId) : Prop where
  account : ∀ who, s.account who = row native l who
  issuance : s.totalIssuance = l.issuance native

/-- A call of the pallet ends as `r` on the ledger; a call that fails has changed nothing. -/
def Agrees (native : AssetId) (s : Storage sys)
    (x : Except Failure Reply × Storage sys)
    (r : Except Failure (Reply × Ledger AssetId AccountId)) : Prop :=
  (∃ a t l', x = (.ok a, t) ∧ r = .ok (a, l') ∧ Shows native t l') ∨
    ∃ e, x = (.error e, s) ∧ r = .error e

/-- Data that are all zero are never stored. -/
def NoZeroData (sys : AccountStore AccountId) : Prop := ∀ a who, sys.get a who ≠ some default

omit [DecidableEq AccountId] in
theorem NoZeroData.get_eq_none_iff (hsys : NoZeroData sys) (a : sys.Accounts) (who : AccountId) :
    sys.get a who = none ↔ (sys.get a who).getD default = default := by
  cases h : sys.get a who with
  | none => exact iff_of_true rfl rfl
  | some d =>
      refine iff_of_false (fun he => by cases he) fun he => hsys a who ?_
      rw [h]
      exact congrArg some he

theorem system_noZeroData : NoZeroData (System : AccountStore AccountId) := by
  intro a who h
  have hdata : (a who).data = default := by
    rw [← (a who).stored_getD]
    exact congrArg (Option.getD · default) h
  cases (AccountInfo.stored_eq_none.mpr hdata).symm.trans h

section Shows

variable {native : AssetId} {cfg : Config} {who : AccountId} {d : AccountData}
  {s t u : Storage sys} {l l' : Ledger AssetId AccountId}

omit [DecidableEq AccountId] in
/-- An account counts as new where its data are all zero. -/
theorem Shows.isNew (h : Shows native s l) (hsys : NoZeroData sys) (who : AccountId) :
    s.isNew who = Balances.isNew native l who := by
  have hnone : s.isNew who = decide (s.account who = default) := by
    rw [Bool.eq_iff_iff, decide_eq_true_iff, Storage.account, ← hsys.get_eq_none_iff]
    exact Option.isNone_iff_eq_none
  rw [hnone, h.account, Balances.isNew, decide_eq_decide]
  show row native l who = ⟨0, 0, 0, 0⟩ ↔ _
  rw [row, AccountData.mk.injEq]

/-- Storing the data of an account that has no dust. -/
theorem Mutated.shows (hed : cfg.existentialDeposit = 0) (h : Mutated cfg who d s u)
    (hrows : ∀ w, row native l' w = if w = who then d else s.account w)
    (hissuance : l'.issuance native = s.totalIssuance) : Shows native u l' := by
  refine ⟨fun w => ?_, ?_⟩
  · rw [hrows w]
    split_ifs with hw
    · rw [hw, h.account_self]
      exact settled_of_le (by omega)
    · exact h.account_of_ne hw
  · rw [h.totalIssuance, dust_of_le (by omega), hissuance, Nat.sub_zero]

omit [DecidableEq AccountId] in
theorem Agrees.of_ok {x : Op sys Reply} {a : Reply}
    {r : Except Failure (Reply × Ledger AssetId AccountId)} (h : exec x s = (.ok a, t))
    (hr : r = .ok (a, l')) (hshows : Shows native t l') : Agrees native s (exec x s) r :=
  Or.inl ⟨a, t, l', h, hr, hshows⟩

omit [DecidableEq AccountId] in
theorem Agrees.of_error {x : Op sys Reply} {e : Failure}
    {r : Except Failure (Reply × Ledger AssetId AccountId)} (h : exec x s = (.error e, s))
    (hr : r = .error e) : Agrees native s (exec x s) r :=
  Or.inr ⟨e, h, hr⟩

/-! ### What the ledger operations do to the rows -/

theorem row_free (n : Nat) (w : AccountId) :
    row native { l with free := Ledger.put l.free native who n } w
      = if w = who then { row native l who with free := n } else row native l w := by
  simp only [row, Ledger.put_apply, true_and]
  split_ifs with h
  · rw [h]
  · rfl

theorem row_both (n m : Nat) (w : AccountId) :
    row native { l with
        free := Ledger.put l.free native who n, reserved := Ledger.put l.reserved native who m } w
      = if w = who then { row native l who with free := n, reserved := m }
        else row native l w := by
  simp only [row, Ledger.put_apply, true_and]
  split_ifs with h
  · rw [h]
  · rfl

omit [DecidableEq AccountId] in
theorem Shows.frozen (h : Shows native s l) (who : AccountId) (reasons : Reasons) :
    (s.account who).frozen reasons = Balances.frozen native l who reasons := by
  rw [h.account]
  cases reasons with
  | Fee | Misc | All => rfl

omit [DecidableEq AccountId] in
/-- What the storage shows besides the accounts. -/
theorem Shows.congr (h : Shows native s l) (haccounts : t.accounts = s.accounts)
    (hrows : ∀ w, row native l' w = row native l w)
    (hissuance : t.totalIssuance = l'.issuance native) : Shows native t l' := by
  refine ⟨fun w => ?_, hissuance⟩
  rw [hrows, ← h.account, Storage.account, haccounts]
  rfl

end Shows

/-! ## The calls agree -/

section Calls

variable {native : AssetId} {cfg : Config} {who : AccountId} {value : Nat}
  {reasons : WithdrawReasons} {s t u : Storage sys}
  {l : Ledger AssetId AccountId}

omit [DecidableEq AccountId] in
/-- A mutation whose closure succeeds. -/
theorem exists_mutated {α : Type} [Drop sys α]
    (hed : cfg.existentialDeposit = 0)
    {f : AccountData → Bool → Op sys (α × AccountData)} {a : α}
    {d : AccountData} (hf : exec (f (s.account who) (s.isNew who)) s = (.ok (a, d), s)) :
    ∃ u, exec (tryMutateAccount cfg who f) s = (.ok a, u) ∧ Mutated cfg who d s u := by
  obtain ⟨accounts, hset⟩ := lenient_of_zero hed s.accounts who d
  exact ⟨_, exec_tryMutateAccount_of_ok hf hset, accounts, hset, rfl⟩

omit [DecidableEq AccountId] in
theorem exec_ensureCanWithdraw_bind {β : Type} {newBalance : Nat}
    {f : Unit → Op sys β} :
    exec (ensureCanWithdraw who value reasons newBalance >>= f) s
      = if value = 0 ∨ (s.account who).frozen (.ofWithdrawReasons reasons) ≤ newBalance then
          exec (f ()) s
        else (.error Error.LiquidityRestrictions.fail, s) := by
  unfold ensureCanWithdraw
  by_cases hv : value = 0
  · rw [if_pos hv, if_pos (Or.inl hv)]
    rfl
  · rw [if_neg hv, bind_assoc, exec_get_bind]
    by_cases hle : (s.account who).frozen (.ofWithdrawReasons reasons) ≤ newBalance
    · rw [exec_ensure_bind_of_pos hle, if_pos (Or.inr hle)]
    · rw [exec_ensure_bind_of_neg hle, if_neg (not_or.mpr ⟨hv, hle⟩)]

/-- Without an existential deposit nobody is killed. -/
theorem wouldKill_of_zero (hed : cfg.existentialDeposit = 0) {account : AccountData} {left : Nat}
    (hfits : left + account.reserved < balanceBound) : wouldKill cfg left account = .ok false := by
  unfold wouldKill
  rw [plus_of_lt hfits]
  show (if left + account.reserved < cfg.existentialDeposit then _ else _) = _
  rw [if_neg (by omega)]
  rfl

variable (hed : cfg.existentialDeposit = 0) (hs : Shows native s l)
include hed hs

omit [DecidableEq AccountId] hed hs in
/-- A call that is one mutation, whose closure fails. -/
theorem Agrees.of_closure_error {α : Type} [Drop sys α]
    {f : AccountData → Bool → Op sys (α × AccountData)} {e : Failure}
    {g : α → Op sys Reply}
    {r : Except Failure (Reply × Ledger AssetId AccountId)}
    (hf : exec (f (s.account who) (s.isNew who)) s = (.error e, s)) (hr : r = .error e) :
    Agrees native s (exec (tryMutateAccount cfg who f >>= g) s) r :=
  .of_error (exec_bind_of_error (exec_tryMutateAccount_of_error hf)) hr

/-- A call that is one mutation, whose closure succeeds. -/
theorem Agrees.of_closure_ok {α : Type} [Drop sys α]
    {f : AccountData → Bool → Op sys (α × AccountData)} {a : α}
    {d : AccountData} {reply : Reply} {l' : Ledger AssetId AccountId}
    {g : α → Op sys Reply}
    {r : Except Failure (Reply × Ledger AssetId AccountId)}
    (hf : exec (f (s.account who) (s.isNew who)) s = (.ok (a, d), s))
    (hg : ∀ u, ∃ t, exec (g a) u = (.ok reply, t) ∧ t.accounts = u.accounts ∧
      t.totalIssuance = u.totalIssuance) (hr : r = .ok (reply, l'))
    (hrows : ∀ w, row native l' w = if w = who then d else row native l w)
    (hissuance : l'.issuance native = l.issuance native) :
    Agrees native s (exec (tryMutateAccount cfg who f >>= g) s) r := by
  obtain ⟨u, hexec, hu⟩ := exists_mutated hed hf
  obtain ⟨t, ht, haccounts, hissued⟩ := hg u
  have hshows : Shows native u l' := by
    refine hu.shows hed (fun w => ?_) (hissuance.trans hs.issuance.symm)
    rw [hs.account]
    exact hrows w
  exact .of_ok ((exec_bind_of_ok hexec).trans ht) hr
    (hshows.congr haccounts (fun _ => rfl) (hissued.trans hshows.issuance))

/-! ### Withdrawing and depositing -/

omit hed hs in
theorem withdraw_eq (hv : value ≠ 0) (liveness : ExistenceRequirement) :
    Balances.withdraw native who value reasons liveness l
      = if value ≤ l.free native who then
          if Balances.frozen native l who (.ofWithdrawReasons reasons)
              ≤ l.free native who - value then .ok (⟨value⟩, l.take native who value)
          else .error .LiquidityRestrictions
        else .error .InsufficientBalance := by
  unfold Balances.withdraw Balances.ensureCanWithdraw ensure
  rw [if_neg hv]
  by_cases h₁ : value ≤ l.free native who
  · by_cases h₂ : Balances.frozen native l who (.ofWithdrawReasons reasons)
        ≤ l.free native who - value
    · simp [hv, h₁, h₂, Balances.existentialDeposit, bind, Except.bind, pure, Except.pure]
    · simp [hv, h₁, h₂, Balances.existentialDeposit, bind, Except.bind]
  · simp [h₁, bind, Except.bind]

omit [DecidableEq AccountId] hs in
theorem exec_withdrawClosure_of_zero (hv : value ≠ 0) (liveness : ExistenceRequirement)
    (hfits : (s.account who).holding < balanceBound) :
    exec (withdrawClosure cfg who value reasons liveness (s.account who)) s
      = if value ≤ (s.account who).free then
          if (s.account who).frozen (.ofWithdrawReasons reasons) ≤ (s.account who).free - value then
            (.ok (⟨value⟩, { s.account who with free := (s.account who).free - value }), s)
          else (.error Error.LiquidityRestrictions.fail, s)
        else (.error Error.InsufficientBalance.fail, s) := by
  unfold withdrawClosure
  by_cases h₁ : value ≤ (s.account who).free
  · have hkill : wouldKill cfg ((s.account who).free - value) (s.account who) = .ok false := by
      refine wouldKill_of_zero hed ?_
      unfold AccountData.holding at hfits
      omega
    rw [if_pos h₁, exec_ensure_bind_of_pos h₁, exec_lift_bind_of_ok hkill,
      exec_ensure_bind_of_pos (Or.inr rfl), exec_ensureCanWithdraw_bind]
    simp only [hv, false_or]
    rfl
  · rw [if_neg h₁, exec_ensure_bind_of_neg h₁]

theorem withdraw_agrees (hfits : (s.account who).holding < balanceBound)
    (liveness : ExistenceRequirement) :
    Agrees native s (exec ((Call.withdraw who value reasons liveness).onPallet cfg) s)
      ((Call.withdraw who value reasons liveness).onLedger native l) := by
  simp only [Call.onPallet, Call.onLedger]
  by_cases hv : value = 0
  · unfold withdraw Balances.withdraw
    rw [if_pos hv, if_pos hv]
    exact .of_ok rfl rfl hs
  · have hclosure : exec (withdrawClosure cfg who value reasons liveness (s.account who)) s = _ :=
      exec_withdrawClosure_of_zero hed hv liveness hfits
    have hfree : (s.account who).free = l.free native who := by rw [hs.account]; rfl
    rw [hs.frozen, hfree] at hclosure
    rw [withdraw_eq hv]
    unfold withdraw
    rw [if_neg hv]
    by_cases h₁ : value ≤ l.free native who
    · rw [if_pos h₁] at hclosure ⊢
      by_cases h₂ : Balances.frozen native l who (.ofWithdrawReasons reasons)
          ≤ l.free native who - value
      · rw [if_pos h₂] at hclosure ⊢
        refine .of_closure_ok hed hs hclosure (fun u => ⟨u, rfl, rfl, rfl⟩) rfl (fun w => ?_) rfl
        rw [hs.account]
        exact row_free _ _
      · rw [if_neg h₂] at hclosure ⊢
        exact .of_closure_error hclosure rfl
    · rw [if_neg h₁] at hclosure ⊢
      exact .of_closure_error hclosure rfl

theorem depositIntoExisting_agrees (hsys : NoZeroData sys) :
    Agrees native s (exec ((Call.depositIntoExisting who value).onPallet cfg) s)
      ((Call.depositIntoExisting who value).onLedger native l) := by
  simp only [Call.onPallet, Call.onLedger]
  unfold depositIntoExisting Balances.depositIntoExisting ensure
  by_cases hv : value = 0
  · rw [if_pos hv, if_pos hv]
    exact .of_ok rfl rfl hs
  · rw [if_neg hv, if_neg hv]
    have hfree : (s.account who).free = l.free native who := by rw [hs.account]; rfl
    by_cases hnew : s.isNew who = false
    · rw [if_pos (by rw [← hs.isNew hsys]; exact hnew)]
      by_cases hfits : l.free native who + value < balanceBound
      · rw [if_pos hfits]
        have hclosure : exec (depositExistingClosure value (s.account who) (s.isNew who)) s = _ :=
          depositExistingClosure_eq_ok.mpr ⟨hnew, by rw [hfree]; exact hfits, rfl, rfl, rfl⟩
        refine .of_closure_ok hed hs hclosure (fun u => ⟨u, rfl, rfl, rfl⟩) rfl (fun w => ?_) rfl
        rw [hs.account]
        exact row_free _ _
      · rw [if_neg hfits]
        refine .of_closure_error (e := Error.Overflow.fail) ?_ rfl
        unfold depositExistingClosure
        rw [exec_ensure_bind_of_pos hnew, exec_ensure_bind_of_neg (by rw [hfree]; exact hfits)]
    · rw [if_neg (by rw [← hs.isNew hsys]; exact hnew)]
      refine .of_closure_error (e := Error.DeadAccount.fail) ?_ rfl
      unfold depositExistingClosure
      rw [exec_ensure_bind_of_neg hnew]

theorem depositCreating_agrees :
    Agrees native s (exec ((Call.depositCreating who value).onPallet cfg) s)
      ((Call.depositCreating who value).onLedger native l) := by
  simp only [Call.onPallet, Call.onLedger]
  by_cases hv : value = 0
  · unfold depositCreating Balances.depositCreating
    rw [if_pos hv, if_pos hv]
    exact .of_ok rfl rfl hs
  · have hfree : (s.account who).free = l.free native who := by rw [hs.account]; rfl
    have hled : Balances.depositCreating native who value l
        = if l.free native who + value < balanceBound then (⟨value⟩, l.give native who value)
          else (.zero, l) := by
      have hed : value ≥ Balances.existentialDeposit ∨ Balances.isNew native l who = false :=
        Or.inl (Nat.zero_le _)
      unfold Balances.depositCreating
      rw [if_neg hv, if_neg (not_not.mpr hed)]
    have hpallet : ∀ {p : PositiveImbalance} {d : AccountData},
        exec (depositCreatingClosure cfg value (s.account who) (s.isNew who)) s
          = (.ok (p, d), s) →
        ∃ u, exec (depositCreating cfg who value) s = (.ok p, u) ∧ Mutated cfg who d s u := by
      intro p d hclosure
      obtain ⟨u, hexec, hu⟩ := exists_mutated hed hclosure
      refine ⟨u, ?_, hu⟩
      unfold depositCreating
      rw [if_neg hv]
      exact exec_recover_of_ok hexec
    rw [hled]
    by_cases hfits : l.free native who + value < balanceBound
    · rw [if_pos hfits]
      obtain ⟨u, hexec, hu⟩ := hpallet (depositCreatingClosure_eq_ok.mpr
        ⟨Or.inl (by omega), Or.inl ⟨by rw [hfree]; exact hfits, rfl, rfl⟩, rfl⟩)
      refine .of_ok ((exec_bind_of_ok hexec).trans rfl) rfl (hu.shows hed (fun w => ?_)
        hs.issuance.symm)
      rw [hs.account, hs.account]
      exact row_free _ _
    · -- the account is stored as it was
      rw [if_neg hfits]
      obtain ⟨u, hexec, hu⟩ := hpallet (depositCreatingClosure_eq_ok.mpr
        ⟨Or.inl (by omega), Or.inr ⟨by rw [hfree]; exact hfits, rfl, rfl⟩, rfl⟩)
      refine .of_ok ((exec_bind_of_ok hexec).trans rfl) rfl (hu.shows hed (fun w => ?_)
        hs.issuance.symm)
      rw [hs.account, hs.account]
      split_ifs with hw
      · rw [hw]
      · rfl

/-! ### Reserving and releasing -/

theorem reserve_agrees :
    Agrees native s (exec ((Call.reserve who value).onPallet cfg) s)
      ((Call.reserve who value).onLedger native l) := by
  simp only [Call.onPallet, Call.onLedger]
  unfold reserve Balances.reserve Balances.ensureCanWithdraw ensure
  by_cases hv : value = 0
  · rw [if_pos hv, if_pos hv]
    exact .of_ok rfl rfl hs
  · rw [if_neg hv, if_neg hv, bind_assoc]
    have hfree : (s.account who).free = l.free native who := by rw [hs.account]; rfl
    have hreserved : (s.account who).reserved = l.reserved native who := by rw [hs.account]; rfl
    have hfrozen := hs.frozen who (.ofWithdrawReasons .RESERVE)
    by_cases h₁ : value ≤ l.free native who
    · by_cases h₂ : l.reserved native who + value < balanceBound
      · by_cases h₃ : Balances.frozen native l who (.ofWithdrawReasons .RESERVE)
            ≤ l.free native who - value
        · have hclosure : exec (reserveClosure who value (s.account who)) s = (.ok ((), _), s) :=
            reserveClosure_eq_ok.mpr ⟨by rw [hfree]; exact h₁, by rw [hreserved]; exact h₂,
              Or.inr (by rw [hfree, hfrozen]; exact h₃), rfl, rfl⟩
          have hrows : ∀ w, row native (l.hold native who value) w = if w = who then _ else _ :=
            row_both _ _
          rw [hs.account] at hclosure
          refine .of_closure_ok hed hs (by rw [hs.account]; exact hclosure)
            (fun u => ⟨_, rfl, rfl, rfl⟩) ?_ hrows rfl
          simp [h₁, h₂, h₃, hv, bind, Except.bind, pure, Except.pure]
        · refine .of_closure_error (e := Error.LiquidityRestrictions.fail) ?_ ?_
          · unfold reserveClosure
            rw [exec_ensure_bind_of_pos (by rw [hfree]; exact h₁),
              exec_ensure_bind_of_pos (by rw [hreserved]; exact h₂), exec_ensureCanWithdraw_bind]
            exact if_neg (not_or.mpr ⟨hv, by rw [hfree, hfrozen]; exact h₃⟩)
          · simp [h₁, h₂, h₃, hv, bind, Except.bind, Error.ofWithdrawal]
      · refine .of_closure_error (e := Error.Overflow.fail) ?_ ?_
        · unfold reserveClosure
          rw [exec_ensure_bind_of_pos (by rw [hfree]; exact h₁),
            exec_ensure_bind_of_neg (by rw [hreserved]; exact h₂)]
        · simp [h₁, h₂, bind, Except.bind, Error.ofWithdrawal]
    · refine .of_closure_error (e := Error.InsufficientBalance.fail) ?_ ?_
      · unfold reserveClosure
        rw [exec_ensure_bind_of_neg (by rw [hfree]; exact h₁)]
      · simp [h₁, bind, Except.bind, Error.ofWithdrawal]

/-- What is released, where it fits. -/
theorem exec_unreserve_shows (hroom : (s.account who).holding < balanceBound) :
    ∃ t, exec (unreserve cfg who value) s
        = (.ok (Balances.unreserve native who value l).1, t) ∧
      Shows native t (Balances.unreserve native who value l).2 := by
  have hfree : (s.account who).free = l.free native who := by rw [hs.account]; rfl
  have hreserved : (s.account who).reserved = l.reserved native who := by rw [hs.account]; rfl
  unfold AccountData.holding at hroom
  unfold unreserve Balances.unreserve
  by_cases hv : value = 0
  · rw [if_pos hv, if_pos hv]
    exact ⟨s, rfl, hs⟩
  · rw [if_neg hv, if_neg hv, exec_get_bind]
    have hnothing : totalBalance s who = 0 ↔ l.free native who + l.reserved native who = 0 := by
      have hbound : 1 < balanceBound := by decide
      unfold totalBalance AccountData.total saturatingAdd
      omega
    by_cases hzero : totalBalance s who = 0
    · rw [if_pos hzero, if_pos (hnothing.mp hzero)]
      exact ⟨s, rfl, hs⟩
    · rw [if_neg hzero, if_neg (fun h => hzero (hnothing.mpr h))]
      have hclosure : exec (unreserveClosure value (s.account who)) s = (.ok (_, _), s) := rfl
      obtain ⟨u, hexec, hu⟩ := exists_mutated hed
        (f := fun account _ => unreserveClosure value account) hclosure
      refine ⟨u.depositEvent (.Unreserved who (min (s.account who).reserved value)), ?_, ?_⟩
      · rw [← hreserved]
        exact exec_recover_of_ok ((exec_bind_of_ok hexec).trans rfl)
      · have hadd : saturatingAdd (s.account who).free (min (s.account who).reserved value)
            = l.free native who + min (l.reserved native who) value := by
          unfold saturatingAdd
          omega
        have hshows : Shows native u (l.release native who value) := by
          refine hu.shows hed (fun w => ?_) hs.issuance.symm
          rw [hadd, hreserved, hs.account, hs.account]
          exact row_both _ _ _
        exact hshows.congr rfl (fun _ => rfl) hshows.issuance

theorem unreserve_agrees (hroom : (s.account who).holding < balanceBound) :
    Agrees native s (exec ((Call.unreserve who value).onPallet cfg) s)
      ((Call.unreserve who value).onLedger native l) := by
  obtain ⟨t, ht, hshows⟩ : ∃ t, exec (unreserve cfg who value) s = _ ∧ _ :=
    exec_unreserve_shows hed hs hroom
  exact .of_ok ((exec_bind_of_ok ht).trans rfl) rfl hshows

/-! ### Two accounts -/

/-- Storing two accounts that have no dust, one after the other. -/
theorem Shows.of_set_set {w : AccountId} {d d' : AccountData} {l' : Ledger AssetId AccountId}
    {a : sys.Accounts}
    (h : sys.set who (kept cfg d) s.accounts = .ok a)
    (h' : sys.set w (kept cfg d') a = .ok u.accounts)
    (hissued : u.totalIssuance = s.totalIssuance)
    (hrows : ∀ x, row native l' x = if x = w then d' else if x = who then d else row native l x)
    (hissuance : l'.issuance native = l.issuance native) : Shows native u l' := by
  have hsettled : ∀ d, settled cfg d = d := fun d => settled_of_le (by omega)
  refine ⟨fun x => ?_, by rw [hissued, hissuance]; exact hs.issuance⟩
  rw [hrows]
  split_ifs with hxw hx
  · rw [hxw, ← hsettled d']
    exact get_set_kept h'
  · have hother : u.account x = Option.getD _ default :=
      congrArg (Option.getD · default) (sys.get_set_of_ne h' hxw)
    rw [hother, hx, ← hsettled d]
    exact get_set_kept h
  · have hother : u.account x = Option.getD _ default :=
      congrArg (Option.getD · default) (sys.get_set_of_ne h' hxw)
    have hsame : Option.getD _ default = s.account x :=
      congrArg (Option.getD · default) (sys.get_set_of_ne h hx)
    rw [hother, hsame, hs.account]

variable {transactor dest slashed beneficiary : AccountId}

theorem transfer_agrees (requirement : ExistenceRequirement) :
    Agrees native s (exec ((Call.transfer transactor dest value requirement).onPallet cfg) s)
      ((Call.transfer transactor dest value requirement).onLedger native l) := by
  simp only [Call.onPallet, Call.onLedger]
  unfold Balances.transfer Balances.ensureCanWithdraw ensure
  by_cases hnothing : value = 0 ∨ transactor = dest
  · rw [if_pos hnothing]
    exact .of_ok ((exec_bind_of_ok (exec_transfer_of_nothing hnothing)).trans rfl) rfl hs
  · rw [if_neg hnothing]
    have hv : value ≠ 0 := fun h => hnothing (Or.inl h)
    have hne : transactor ≠ dest := fun h => hnothing (Or.inr h)
    have hfrom : (s.account transactor).free = l.free native transactor := by rw [hs.account]; rfl
    have hto : (s.account dest).free = l.free native dest := by rw [hs.account]; rfl
    have hfrozen := hs.frozen transactor (.ofWithdrawReasons .TRANSFER)
    have hfails : ∀ {e : Failure}, exec (transferClosure cfg transactor value requirement
          (s.account dest) (s.account transactor)) s = (.error e, s) →
        exec (do
          transfer cfg transactor dest value requirement
          return Reply.done) s = (.error e, s) :=
      fun h => exec_bind_of_error (exec_transfer_of_error hnothing h)
    by_cases h₁ : value ≤ l.free native transactor
    · by_cases h₂ : l.free native dest + value < balanceBound
      · by_cases h₃ : Balances.frozen native l transactor (.ofWithdrawReasons .TRANSFER)
            ≤ l.free native transactor - value
        · have hallowed : Transferable cfg transactor dest value requirement s :=
            ⟨by rw [hfrom]; exact h₁, by rw [hto]; exact h₂, by omega,
              Or.inr (by rw [hfrozen, hfrom]; exact h₃), Or.inr (by omega)⟩
          obtain ⟨a₁, a₂, ha₁, ha₂⟩ := hallowed.exists_set
          have hshows : Shows native (transferred cfg transactor dest value s a₁ a₂)
              (l.move native transactor dest value) := by
            refine .of_set_set hed hs ha₁
              (ha₂.trans (congrArg Except.ok transferred_accounts.symm)) ?_ (fun x => ?_) ?_
            · rw [transferred_totalIssuance, dust_of_le (by omega), dust_of_le (by omega)]
              rfl
            · rw [debited, credited, hs.account, hs.account]
              simp only [Ledger.move, if_neg hne, row, Ledger.put_apply, true_and]
              split_ifs with hx hx'
              · rw [hx]
              · rw [hx']
              · rfl
            · rw [Ledger.move_issuance]
          refine .of_ok ((exec_bind_of_ok (exec_transfer_of_ok hnothing hallowed ha₁ ha₂)).trans
            rfl) ?_ hshows
          simp [h₁, h₂, h₃, hv, bind, Except.bind, pure, Except.pure]
        · refine .of_error (hfails (e := Error.LiquidityRestrictions.fail) ?_) ?_
          · unfold transferClosure
            rw [exec_ensure_bind_of_pos (by rw [hfrom]; exact h₁),
              exec_ensure_bind_of_pos (by rw [hto]; exact h₂),
              exec_ensure_bind_of_pos (by omega), exec_ensureCanWithdraw_bind]
            exact if_neg (not_or.mpr ⟨hv, by rw [hfrozen, hfrom]; exact h₃⟩)
          · simp [h₁, h₂, h₃, hv, bind, Except.bind, Error.ofWithdrawal]
      · refine .of_error (hfails (e := Error.Overflow.fail) ?_) ?_
        · unfold transferClosure
          rw [exec_ensure_bind_of_pos (by rw [hfrom]; exact h₁),
            exec_ensure_bind_of_neg (by rw [hto]; exact h₂)]
        · simp [h₁, h₂, bind, Except.bind, Error.ofWithdrawal]
    · refine .of_error (hfails (e := Error.InsufficientBalance.fail) ?_) ?_
      · unfold transferClosure
        rw [exec_ensure_bind_of_neg (by rw [hfrom]; exact h₁)]
      · simp [h₁, bind, Except.bind, Error.ofWithdrawal]

omit hed hs in
/-- What is given to the other account shows. -/
theorem giveTo_eq {status : BalanceStatus} {actual : Nat} {account : AccountData} :
    giveTo status actual account = match status with
      | .Free => if account.free + actual < balanceBound then
            .ok { account with free := account.free + actual }
          else .error Error.Overflow.fail
      | .Reserved => if account.reserved + actual < balanceBound then
            .ok { account with reserved := account.reserved + actual }
          else .error Error.Overflow.fail := by
  cases status with
  | Free =>
      by_cases h : account.free + actual < balanceBound
      · simp [giveTo, ensure, h, bind, Except.bind, pure, Except.pure]
      · simp [giveTo, ensure, h, bind, Except.bind]
  | Reserved =>
      by_cases h : account.reserved + actual < balanceBound
      · simp [giveTo, ensure, h, bind, Except.bind, pure, Except.pure]
      · simp [giveTo, ensure, h, bind, Except.bind]

/-- A transfer of reserved balance between two accounts that is allowed. -/
theorem shows_repatriated {paid : AccountData} {status : BalanceStatus}
    {l' : Ledger AssetId AccountId} (hv : value ≠ 0) (hne : slashed ≠ beneficiary)
    (hpay : Payable slashed beneficiary value true status s paid)
    (hrows : ∀ x, row native l' x = if x = beneficiary then paid
      else if x = slashed then docked s slashed value else row native l x)
    (hissuance : l'.issuance native = l.issuance native) :
    ∃ t, exec (doTransferReserved cfg slashed beneficiary value true status) s
        = (.ok (min (l.reserved native slashed) value), t) ∧ Shows native t l' := by
  obtain ⟨a₁, h₁⟩ := lenient_of_zero hed s.accounts slashed (docked s slashed value)
  obtain ⟨a₂, h₂⟩ := lenient_of_zero hed a₁ beneficiary paid
  have haccounts : (repatriated cfg slashed beneficiary value status s paid a₁ a₂).accounts
      = a₂ := repatriated_accounts
  have hreserved : (s.account slashed).reserved = l.reserved native slashed := by
    rw [hs.account]
    rfl
  have hexec := exec_doTransferReserved_of_ok hv hne hpay h₁ h₂
  rw [hreserved] at hexec
  refine ⟨_, hexec, .of_set_set hed hs h₁ (h₂.trans (congrArg Except.ok haccounts.symm)) ?_
    hrows hissuance⟩
  rw [repatriated_totalIssuance, dust_of_le (by omega), dust_of_le (by omega)]
  rfl

/-- How a transfer of reserved balance ends here and on the ledger. -/
theorem doTransferReserved_shows (hsys : NoZeroData sys)
    (hroom : (s.account slashed).holding < balanceBound) (beneficiary : AccountId) (value : Nat)
    (status : BalanceStatus) :
    (∃ actual t l', exec (doTransferReserved cfg slashed beneficiary value true status) s
        = (.ok actual, t) ∧
      Balances.doTransferReserved native slashed beneficiary value true status l
        = .ok (actual, l') ∧ Shows native t l') ∨
    (∃ e, exec (doTransferReserved cfg slashed beneficiary value true status) s
        = (.error (.ofCurrency e), s) ∧
      Balances.doTransferReserved native slashed beneficiary value true status l = .error e) := by
  unfold Balances.doTransferReserved
  by_cases hv : value = 0
  · rw [if_pos hv]
    refine Or.inl ⟨0, s, l, ?_, rfl, hs⟩
    unfold doTransferReserved
    rw [if_pos hv, exec_pure]
  · rw [if_neg hv]
    by_cases hself : slashed = beneficiary
    · rw [if_pos hself]
      cases status with
      | Free =>
          obtain ⟨t, ht, hshows⟩ : ∃ t, exec (unreserve cfg slashed value) s = _ ∧ _ :=
            exec_unreserve_shows hed hs hroom
          refine Or.inl ⟨_, t, _, ?_, rfl, hshows⟩
          unfold doTransferReserved
          rw [if_neg hv, if_pos hself]
          exact ht
      | Reserved =>
          refine Or.inl ⟨value - l.reserved native slashed, s, l, ?_, rfl, hs⟩
          have hreserved : reservedBalance s slashed = l.reserved native slashed := by
            rw [reservedBalance, hs.account]
            rfl
          unfold doTransferReserved
          rw [if_neg hv, if_pos hself, ← hreserved]
          rfl
    · rw [if_neg hself]
      by_cases hnew : s.isNew beneficiary = false
      · rw [if_neg (by rw [← hs.isNew hsys, hnew]; decide)]
        simp only [Bool.true_eq_false, false_and, if_false]
        have hreserved : (s.account slashed).reserved = l.reserved native slashed := by
          rw [hs.account]
          rfl
        -- what is given fits, or the transfer fails
        have hgive : giveTo status (min (l.reserved native slashed) value) (s.account beneficiary)
          = _ := giveTo_eq
        have hfails : ∀ {e : Failure},
            giveTo status (min (l.reserved native slashed) value) (s.account beneficiary)
              = .error e →
            exec (doTransferReserved cfg slashed beneficiary value true status) s
              = (.error e, s) := by
          intro e he
          refine exec_doTransferReserved_of_error hv hself hnew ?_
          unfold transferReservedClosure
          rw [hreserved, exec_ensure_bind_of_pos (Or.inl rfl), exec_lift_bind_of_error he]
        cases status with
        | Free =>
            simp only at hgive ⊢
            have hfree : (s.account beneficiary).free = l.free native beneficiary := by
              rw [hs.account]
              rfl
            rw [hfree] at hgive
            by_cases hfits : l.free native beneficiary + min (l.reserved native slashed) value
                < balanceBound
            · rw [if_pos hfits] at hgive ⊢
              have hpay : Payable slashed beneficiary value true .Free s _ :=
                ⟨hnew, Or.inl rfl, by rw [hreserved]; exact hgive⟩
              have hrows : ∀ x, row native (l.repatriate native slashed beneficiary value) x
                  = if x = beneficiary then { s.account beneficiary with
                      free := l.free native beneficiary + min (l.reserved native slashed) value }
                    else if x = slashed then docked s slashed value else row native l x := by
                intro x
                rw [docked, hs.account, hs.account]
                simp only [row, Ledger.repatriate, Ledger.put_apply, true_and]
                split_ifs with hx hx' hx'
                · exact absurd (hx'.symm.trans hx) hself
                · rw [hx]
                · rw [hx']
                · rfl
              obtain ⟨t, ht, hshows⟩ := shows_repatriated hed hs hv hself hpay hrows rfl
              exact Or.inl ⟨_, t, _, ht, rfl, hshows⟩
            · rw [if_neg hfits] at hgive ⊢
              exact Or.inr ⟨.Overflow, hfails hgive, rfl⟩
        | Reserved =>
            simp only at hgive ⊢
            have hheld : (s.account beneficiary).reserved = l.reserved native beneficiary := by
              rw [hs.account]
              rfl
            rw [hheld] at hgive
            by_cases hfits : l.reserved native beneficiary + min (l.reserved native slashed) value
                < balanceBound
            · rw [if_pos hfits] at hgive ⊢
              have hpay : Payable slashed beneficiary value true .Reserved s _ :=
                ⟨hnew, Or.inl rfl, by rw [hreserved]; exact hgive⟩
              have hrows : ∀ x, row native { l with
                    reserved := Ledger.put (Ledger.put l.reserved native beneficiary
                      (l.reserved native beneficiary + min (l.reserved native slashed) value))
                      native slashed
                      (l.reserved native slashed - min (l.reserved native slashed) value) } x
                  = if x = beneficiary then { s.account beneficiary with
                      reserved := l.reserved native beneficiary
                        + min (l.reserved native slashed) value }
                    else if x = slashed then docked s slashed value else row native l x := by
                intro x
                rw [docked, hs.account, hs.account]
                simp only [row, Ledger.put_apply, true_and]
                split_ifs with hx hx' hx'
                · exact absurd (hx.symm.trans hx') hself
                · rw [hx]
                · rw [hx']
                · rfl
              obtain ⟨t, ht, hshows⟩ := shows_repatriated hed hs hv hself hpay hrows rfl
              exact Or.inl ⟨_, t, _, ht, rfl, hshows⟩
            · rw [if_neg hfits] at hgive ⊢
              exact Or.inr ⟨.Overflow, hfails hgive, rfl⟩
      · refine Or.inr ⟨.DeadAccount, exec_doTransferReserved_of_new hv hself hnew, ?_⟩
        rw [if_pos (by rw [← hs.isNew hsys]; simpa using hnew)]

theorem repatriateReserved_agrees (hsys : NoZeroData sys) (hroom : (s.account slashed).holding < balanceBound)
    (status : BalanceStatus) :
    Agrees native s
      (exec ((Call.repatriateReserved slashed beneficiary value status).onPallet cfg) s)
      ((Call.repatriateReserved slashed beneficiary value status).onLedger native l) := by
  simp only [Call.onPallet, Call.onLedger, repatriateReserved, Balances.repatriateReserved]
  rcases doTransferReserved_shows hed hs hsys hroom beneficiary value status with
    ⟨actual, t, l', ht, hl', hshows⟩ | ⟨e, he, hl⟩
  · rw [hl']
    exact .of_ok ((exec_bind_of_ok ((exec_bind_of_ok ht).trans rfl)).trans rfl) rfl hshows
  · rw [hl]
    exact .of_error (exec_bind_of_error (exec_bind_of_error he)) rfl

omit hed in
theorem dropPositive_agrees (imbalance : PositiveImbalance) :
    Agrees native s (exec ((Call.dropPositive imbalance).onPallet cfg) s)
      ((Call.dropPositive imbalance).onLedger native l) := by
  have hdropped : Shows native (s.dropPositive imbalance) (imbalance.drop native l) := by
    refine hs.congr rfl (fun _ => rfl) ?_
    show saturatingAdd s.totalIssuance imbalance.amount = _
    rw [hs.issuance]
    unfold Balances.PositiveImbalance.drop
    exact (Function.update_self native _ l.issuance).symm
  exact .of_ok rfl rfl hdropped

omit hed in
theorem dropNegative_agrees (imbalance : NegativeImbalance) :
    Agrees native s (exec ((Call.dropNegative imbalance).onPallet cfg) s)
      ((Call.dropNegative imbalance).onLedger native l) := by
  have hdropped : Shows native (s.dropNegative imbalance) (imbalance.drop native l) := by
    refine hs.congr rfl (fun _ => rfl) ?_
    show s.totalIssuance - imbalance.amount = _
    rw [hs.issuance]
    unfold Balances.NegativeImbalance.drop
    exact (Function.update_self native _ l.issuance).symm
  exact .of_ok rfl rfl hdropped

end Calls

/-! ## Runs of calls -/

namespace Call

variable (cfg : Config) (native : AssetId)

def answer (s : Storage sys) (call : Call AccountId) :
    Except Failure Reply :=
  (exec (call.onPallet cfg) s).1

def step (s : Storage sys) (call : Call AccountId) :
    Storage sys :=
  (exec (call.onPallet cfg) s).2

def ledgerAnswer (l : Ledger AssetId AccountId) (call : Call AccountId) : Except Failure Reply :=
  (call.onLedger native l).map Prod.fst

/-- A call that fails changes nothing. -/
def ledgerStep (l : Ledger AssetId AccountId) (call : Call AccountId) : Ledger AssetId AccountId :=
  match call.onLedger native l with
  | .ok (_, l') => l'
  | .error _ => l

end Call

section Runs

variable {native : AssetId} {cfg : Config} {s : Storage sys}
  {l : Ledger AssetId AccountId}

/-- **Every call agrees.** -/
theorem Call.agrees (hsys : NoZeroData sys) (hed : cfg.existentialDeposit = 0)
    (hs : Shows native s l) (hfits : s.Fits) (call : Call AccountId) :
    Agrees native s (exec (call.onPallet cfg) s) (call.onLedger native l) := by
  cases call with
  | transfer transactor dest value requirement => exact transfer_agrees hed hs requirement
  | reserve who value => exact reserve_agrees hed hs
  | unreserve who value => exact unreserve_agrees hed hs (hfits who)
  | repatriateReserved slashed beneficiary value status =>
      exact repatriateReserved_agrees hed hs hsys (hfits slashed) status
  | withdraw who value reasons liveness => exact withdraw_agrees hed hs (hfits who) liveness
  | depositIntoExisting who value => exact depositIntoExisting_agrees hed hs hsys
  | depositCreating who value => exact depositCreating_agrees hed hs
  | dropPositive imbalance => exact dropPositive_agrees hs imbalance
  | dropNegative imbalance => exact dropNegative_agrees hs imbalance

/-- One call: the same answer, and the ledger shows the storage after it. -/
theorem Call.step_shows (hsys : NoZeroData sys) (hed : cfg.existentialDeposit = 0)
    (hs : Shows native s l) (hfits : s.Fits) (call : Call AccountId) :
    Shows native (Call.step cfg s call) (Call.ledgerStep native l call) ∧
      Call.answer cfg s call = Call.ledgerAnswer native l call := by
  unfold Call.step Call.ledgerStep Call.answer Call.ledgerAnswer
  rcases call.agrees hsys hed hs hfits with ⟨a, t, l', hx, hr, hshows⟩ | ⟨e, hx, hr⟩
  · rw [hx, hr]
    exact ⟨hshows, rfl⟩
  · rw [hx, hr]
    exact ⟨hs, rfl⟩

/-- **The pallet refines the ledger.** On any account store that stores no data that are all zero,
and over any run of calls, it answers as the calls on the ledger do, errors included, and the ledger
shows its storage at the end. -/
theorem answers_eq (hsys : NoZeroData sys) (hed : cfg.existentialDeposit = 0)
    (hs : Shows native s l) {calls : List (Call AccountId)}
    (hfits : Histories.Each (Call.step cfg) (fun s _ => s.Fits) s calls) :
    Histories.replies (Call.step cfg) (Call.answer cfg) s calls
        = Histories.replies (Call.ledgerStep native) (Call.ledgerAnswer native) l calls ∧
      Shows native (Histories.run (Call.step cfg) s calls)
        (Histories.run (Call.ledgerStep native) l calls) :=
  hfits.simulate (fun _ _ call hs hfits => call.step_shows hsys hed hs hfits) hs

namespace Dev

def emptyLedger : Ledger AssetId (Fin 3) where
  free := fun _ _ => 0
  reserved := fun _ _ => 0
  miscFrozen := fun _ _ => 0
  feeFrozen := fun _ _ => 0
  issuance := fun _ => 0

/-- Account `1` reserves and gives away what it has, and then has too little. -/
def paying : List (Call (Fin 3)) :=
  [.depositCreating 1 100, .dropPositive ⟨100⟩, .reserve 1 60, .transfer 1 2 30 .AllowDeath,
    .transfer 1 2 30 .AllowDeath, .repatriateReserved 1 2 80 .Free]

end Dev

theorem answers_eq_paying :
    Histories.replies (Call.ledgerStep 0) (Call.ledgerAnswer 0) Dev.emptyLedger Dev.paying
        = [.ok (.positive ⟨100⟩), .ok .done, .ok .done, .ok .done, .error Error.InsufficientBalance.fail,
          .ok (.rest 20)] ∧
      Histories.replies (Call.step Dev.runtime) (Call.answer Dev.runtime) Dev.empty Dev.paying
        = Histories.replies (Call.ledgerStep 0) (Call.ledgerAnswer 0) Dev.emptyLedger Dev.paying := by
  refine ⟨by decide +kernel, (answers_eq system_noZeroData rfl ⟨fun _ => rfl, rfl⟩ ?_).1⟩
  simp only [Histories.Each, Dev.paying, Storage.Fits]
  decide +kernel

end Runs

end PalletBalances

end HydraDX
