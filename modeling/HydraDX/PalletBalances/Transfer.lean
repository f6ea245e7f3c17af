import HydraDX.PalletBalances.Reservable

set_option autoImplicit false

/-! # Transfers

A transfer mutates one account inside the mutation of the other one. If it fails the storage is as
it was, also where the store may refuse to remove an account: the transactor is removed only if
nothing refers to it, and the other account is never removed. A transfer of reserved balance does
not look at the references, so that removing the account it takes from can be refused. -/

namespace HydraDX.PalletBalances

open Balances (ExistenceRequirement)
open Dispatch

variable {AccountId : Type} {sys : AccountStore AccountId}

/-! ## Free balance -/

section Transfer

/-- The transactor after a transfer. -/
def debited (s : Storage sys) (transactor : AccountId) (value : Nat) : AccountData :=
  { s.account transactor with free := (s.account transactor).free - value }

/-- The other account after a transfer. -/
def credited (s : Storage sys) (dest : AccountId) (value : Nat) : AccountData :=
  { s.account dest with free := (s.account dest).free + value }

/-- What a transfer asks of the two accounts. -/
structure Transferable (cfg : Config) (transactor dest : AccountId) (value : Nat)
    (requirement : ExistenceRequirement) (s : Storage sys) : Prop where
  covered : value ≤ (s.account transactor).free
  fits : (s.account dest).free + value < balanceBound
  deposit : cfg.existentialDeposit ≤ (credited s dest value).total
  permits : Permits s transactor value .TRANSFER ((s.account transactor).free - value)
  alive : (requirement = .AllowDeath ∧ sys.isProviderRequired s.accounts transactor = false) ∨
    cfg.existentialDeposit ≤ (debited s transactor value).total

/-- The storage after a transfer that has stored the two accounts. -/
def transferred (cfg : Config) (transactor dest : AccountId) (value : Nat) (s : Storage sys)
    (a₁ a₂ : sys.Accounts) : Storage sys :=
  (Drop.drop (cleaner cfg dest (credited s dest value))
    (Drop.drop (cleaner cfg transactor (debited s transactor value))
      ((s.written transactor (s.isNew transactor) (debited s transactor value) a₁).written dest
        (s.isNew dest) (credited s dest value) a₂))).depositEvent (.Transfer transactor dest value)

variable {cfg : Config} {transactor dest : AccountId} {value : Nat}
  {requirement : ExistenceRequirement} {s : Storage sys}

theorem transferred_accounts {a₁ a₂ : sys.Accounts} :
    (transferred cfg transactor dest value s a₁ a₂).accounts = a₂ :=
  (Drop.accounts_drop _ _).trans (Drop.accounts_drop _ _)

theorem transferred_locks {a₁ a₂ : sys.Accounts} :
    (transferred cfg transactor dest value s a₁ a₂).locks = s.locks :=
  (Drop.locks_drop _ _).trans (Drop.locks_drop _ _)

theorem transferred_totalIssuance {a₁ a₂ : sys.Accounts} :
    (transferred cfg transactor dest value s a₁ a₂).totalIssuance
      = s.totalIssuance
        - (dust cfg (debited s transactor value) + dust cfg (credited s dest value)) := by
  rw [← Nat.sub_sub]
  show (Drop.drop _ (Drop.drop _ _)).totalIssuance = _
  rw [drop_cleaner_totalIssuance, drop_cleaner_totalIssuance]
  rfl

theorem transferable_iff : Transferable cfg transactor dest value requirement s ↔
    exec (transferClosure cfg transactor value requirement (s.account dest)
        (s.account transactor)) s
      = (.ok (credited s dest value, debited s transactor value), s) := by
  rw [transferClosure_eq_ok]
  constructor
  · rintro ⟨h₁, h₂, h₃, h₄, h₅⟩
    exact ⟨h₁, h₂, h₃, h₄, h₅, rfl, rfl, rfl⟩
  · rintro ⟨h₁, h₂, h₃, h₄, h₅, -⟩
    exact ⟨h₁, h₂, h₃, h₄, h₅⟩

/-- The closure fails where the transfer is not allowed. -/
theorem transferClosure_of_not (h : ¬ Transferable cfg transactor dest value requirement s) :
    ∃ e, exec (transferClosure cfg transactor value requirement (s.account dest)
        (s.account transactor)) s = (.error e, s) := by
  have hreads : Reads (transferClosure cfg transactor value requirement (s.account dest)
      (s.account transactor) : Op sys _) := reads_transferClosure
  refine (hreads.exec_cases s).resolve_right ?_
  rintro ⟨⟨to', d⟩, hok⟩
  obtain ⟨h₁, h₂, h₃, h₄, h₅, -⟩ := transferClosure_eq_ok.mp hok
  exact h ⟨h₁, h₂, h₃, h₄, h₅⟩

/-- The store accepts both accounts of a transfer. -/
theorem Transferable.exists_set (h : Transferable cfg transactor dest value requirement s) :
    ∃ a₁ a₂, sys.set transactor (kept cfg (debited s transactor value)) s.accounts = .ok a₁ ∧
      sys.set dest (kept cfg (credited s dest value)) a₁ = .ok a₂ := by
  have hfrom : cfg.existentialDeposit ≤ (debited s transactor value).total ∨
      sys.canDecProvider s.accounts transactor = true :=
    h.alive.symm.imp_right fun h => sys.canDec_of_not_required h.2
  obtain ⟨a₁, ha₁⟩ := exists_set_kept hfrom
  obtain ⟨a₂, ha₂⟩ : ∃ a₂, sys.set dest (kept cfg (credited s dest value)) a₁ = .ok a₂ :=
    exists_set_kept (Or.inl h.deposit)
  exact ⟨a₁, a₂, ha₁, ha₂⟩

variable [DecidableEq AccountId]

/-- A transfer that moves nothing. -/
theorem exec_transfer_of_nothing (h : value = 0 ∨ transactor = dest) :
    exec (transfer cfg transactor dest value requirement) s = (.ok (), s) := by
  rw [transfer, if_pos h, exec_pure]

theorem exec_transfer_of_ok {a₁ a₂ : sys.Accounts} (hmoves : ¬ (value = 0 ∨ transactor = dest))
    (h : Transferable cfg transactor dest value requirement s)
    (h₁ : sys.set transactor (kept cfg (debited s transactor value)) s.accounts = .ok a₁)
    (h₂ : sys.set dest (kept cfg (credited s dest value)) a₁ = .ok a₂) :
    exec (transfer cfg transactor dest value requirement) s
      = (.ok (), transferred cfg transactor dest value s a₁ a₂) := by
  rw [transfer, if_neg hmoves]
  -- from the inside out
  have hinner : exec (tryMutateAccountWithDust cfg transactor fun fromAccount _ =>
      transferClosure cfg transactor value requirement (s.account dest) fromAccount) s = _ :=
    exec_tryMutateAccountWithDust_of_ok (transferable_iff.mp h) h₁
  refine (exec_bind_of_ok (exec_tryMutateAccountWithDust_of_ok
    ((exec_bind_of_ok hinner).trans rfl) h₂)).trans ?_
  rfl

/-- A transfer fails as its closure does. -/
theorem exec_transfer_of_error {e : Failure} (hmoves : ¬ (value = 0 ∨ transactor = dest))
    (h : exec (transferClosure cfg transactor value requirement (s.account dest)
      (s.account transactor)) s = (.error e, s)) :
    exec (transfer cfg transactor dest value requirement) s = (.error e, s) := by
  rw [transfer, if_neg hmoves]
  exact exec_bind_of_error (exec_tryMutateAccountWithDust_of_error
    (exec_bind_of_error (exec_tryMutateAccountWithDust_of_error h)))

/-- **How a transfer ends** that moves something: it is made if it is allowed, and otherwise it
fails and changes nothing. -/
theorem exec_transfer_cases (hmoves : ¬ (value = 0 ∨ transactor = dest)) :
    (¬ Transferable cfg transactor dest value requirement s ∧
      ∃ e, exec (transfer cfg transactor dest value requirement) s = (.error e, s)) ∨
    (Transferable cfg transactor dest value requirement s ∧ ∃ a₁ a₂,
      sys.set transactor (kept cfg (debited s transactor value)) s.accounts = .ok a₁ ∧
      sys.set dest (kept cfg (credited s dest value)) a₁ = .ok a₂ ∧
      exec (transfer cfg transactor dest value requirement) s
        = (.ok (), transferred cfg transactor dest value s a₁ a₂)) := by
  by_cases h : Transferable cfg transactor dest value requirement s
  · obtain ⟨a₁, a₂, h₁, h₂⟩ := h.exists_set
    exact Or.inr ⟨h, a₁, a₂, h₁, h₂, exec_transfer_of_ok hmoves h h₁ h₂⟩
  · obtain ⟨e, he⟩ := transferClosure_of_not h
    exact Or.inl ⟨h, e, exec_transfer_of_error hmoves he⟩

end Transfer

/-! ## Reserved balance -/

section TransferReserved

/-- The account that reserved balance is taken from. -/
def docked (s : Storage sys) (slashed : AccountId) (value : Nat) : AccountData :=
  { s.account slashed with
    reserved := (s.account slashed).reserved - min (s.account slashed).reserved value }

/-- What a transfer of reserved balance asks of the two accounts. -/
def Payable (slashed beneficiary : AccountId) (value : Nat) (bestEffort : Bool)
    (status : BalanceStatus) (s : Storage sys) (paid : AccountData) : Prop :=
  s.isNew beneficiary = false ∧
    (bestEffort = true ∨ min (s.account slashed).reserved value = value) ∧
    giveTo status (min (s.account slashed).reserved value) (s.account beneficiary) = .ok paid

/-- The storage after a transfer of reserved balance that has stored the two accounts. -/
def repatriated (cfg : Config) (slashed beneficiary : AccountId) (value : Nat)
    (status : BalanceStatus) (s : Storage sys) (paid : AccountData) (a₁ a₂ : sys.Accounts) :
    Storage sys :=
  Drop.drop (cleaner cfg slashed (docked s slashed value))
    (Drop.drop (cleaner cfg beneficiary paid)
      (((s.written slashed (s.isNew slashed) (docked s slashed value) a₁).written beneficiary
        (s.isNew beneficiary) paid a₂).depositEvent
          (.ReserveRepatriated slashed beneficiary (min (s.account slashed).reserved value) status)))

variable {cfg : Config} {slashed beneficiary : AccountId} {value : Nat} {bestEffort : Bool}
  {status : BalanceStatus} {s : Storage sys} {paid : AccountData}

theorem repatriated_accounts {a₁ a₂ : sys.Accounts} :
    (repatriated cfg slashed beneficiary value status s paid a₁ a₂).accounts = a₂ :=
  (Drop.accounts_drop _ _).trans (Drop.accounts_drop _ _)

theorem repatriated_locks {a₁ a₂ : sys.Accounts} :
    (repatriated cfg slashed beneficiary value status s paid a₁ a₂).locks = s.locks :=
  (Drop.locks_drop _ _).trans (Drop.locks_drop _ _)

theorem repatriated_totalIssuance {a₁ a₂ : sys.Accounts} :
    (repatriated cfg slashed beneficiary value status s paid a₁ a₂).totalIssuance
      = s.totalIssuance - (dust cfg (docked s slashed value) + dust cfg paid) := by
  rw [Nat.add_comm, ← Nat.sub_sub]
  show (Drop.drop _ (Drop.drop _ _)).totalIssuance = _
  rw [drop_cleaner_totalIssuance, drop_cleaner_totalIssuance]
  rfl

theorem transferReservedClosure_of_payable
    (h : Payable slashed beneficiary value bestEffort status s paid) :
    exec (transferReservedClosure value bestEffort status (s.account beneficiary)
        (s.account slashed)) s
      = (.ok ((min (s.account slashed).reserved value, paid), docked s slashed value), s) :=
  transferReservedClosure_eq_ok.mpr ⟨rfl, h.2.1, h.2.2, rfl, rfl⟩

/-- The closures fail where the transfer is not allowed. -/
theorem transferReservedClosure_of_not (hnew : s.isNew beneficiary = false)
    (h : ¬ ∃ paid, Payable slashed beneficiary value bestEffort status s paid) :
    ∃ e, exec (transferReservedClosure value bestEffort status (s.account beneficiary)
        (s.account slashed)) s = (.error e, s) := by
  have hreads : Reads (transferReservedClosure value bestEffort status (s.account beneficiary)
      (s.account slashed) : Op sys _) := reads_transferReservedClosure
  refine (Reads.exec_cases hreads s).resolve_right ?_
  rintro ⟨⟨⟨actual, to'⟩, d⟩, hok⟩
  obtain ⟨rfl, heffort, hto, -⟩ := transferReservedClosure_eq_ok.mp hok
  exact h ⟨to', hnew, heffort, hto⟩

variable [DecidableEq AccountId]

theorem exec_doTransferReserved_of_ok {a₁ a₂ : sys.Accounts} (hv : value ≠ 0)
    (hne : slashed ≠ beneficiary)
    (h : Payable slashed beneficiary value bestEffort status s paid)
    (h₁ : sys.set slashed (kept cfg (docked s slashed value)) s.accounts = .ok a₁)
    (h₂ : sys.set beneficiary (kept cfg paid) a₁ = .ok a₂) :
    exec (doTransferReserved cfg slashed beneficiary value bestEffort status) s
      = (.ok (min (s.account slashed).reserved value),
        repatriated cfg slashed beneficiary value status s paid a₁ a₂) := by
  unfold doTransferReserved
  rw [if_neg hv, if_neg hne]
  have hinner : exec (tryMutateAccountWithDust cfg slashed fun fromAccount _ =>
      transferReservedClosure value bestEffort status (s.account beneficiary) fromAccount) s = _ :=
    exec_tryMutateAccountWithDust_of_ok (transferReservedClosure_of_payable h) h₁
  refine (exec_bind_of_ok (exec_tryMutateAccountWithDust_of_ok
    ((exec_ensure_bind_of_pos h.1).trans ((exec_bind_of_ok hinner).trans rfl)) h₂)).trans ?_
  rfl

/-- Nothing is transferred to an account that counts as new. -/
theorem exec_doTransferReserved_of_new (hv : value ≠ 0) (hne : slashed ≠ beneficiary)
    (hnew : ¬ s.isNew beneficiary = false) :
    exec (doTransferReserved cfg slashed beneficiary value bestEffort status) s
      = (.error Error.DeadAccount.fail, s) := by
  unfold doTransferReserved
  rw [if_neg hv, if_neg hne]
  exact exec_bind_of_error (exec_tryMutateAccountWithDust_of_error (exec_ensure_bind_of_neg hnew))

/-- A transfer of reserved balance fails as its inner closure does. -/
theorem exec_doTransferReserved_of_error {e : Failure} (hv : value ≠ 0)
    (hne : slashed ≠ beneficiary) (hnew : s.isNew beneficiary = false)
    (h : exec (transferReservedClosure value bestEffort status (s.account beneficiary)
      (s.account slashed)) s = (.error e, s)) :
    exec (doTransferReserved cfg slashed beneficiary value bestEffort status) s = (.error e, s) := by
  unfold doTransferReserved
  rw [if_neg hv, if_neg hne]
  exact exec_bind_of_error (exec_tryMutateAccountWithDust_of_error
    ((exec_ensure_bind_of_pos hnew).trans
      (exec_bind_of_error (exec_tryMutateAccountWithDust_of_error h))))

/-- A transfer of reserved balance that is not allowed changes nothing. -/
theorem exec_doTransferReserved_of_not (hv : value ≠ 0) (hne : slashed ≠ beneficiary)
    (h : ¬ ∃ paid, Payable slashed beneficiary value bestEffort status s paid) :
    ∃ e, exec (doTransferReserved cfg slashed beneficiary value bestEffort status) s
      = (.error e, s) := by
  by_cases hnew : s.isNew beneficiary = false
  · obtain ⟨e, he⟩ := transferReservedClosure_of_not hnew h
    exact ⟨e, exec_doTransferReserved_of_error hv hne hnew he⟩
  · exact ⟨_, exec_doTransferReserved_of_new hv hne hnew⟩

end TransferReserved

end HydraDX.PalletBalances
