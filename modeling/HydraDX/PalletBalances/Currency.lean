import HydraDX.PalletBalances.Mutate

set_option autoImplicit false

/-! # The currency

`Currency` of the pallet. An operation that takes from one account only or gives to it returns
the imbalance; nothing but dropping an imbalance changes the total issuance. -/

namespace HydraDX.PalletBalances

open Balances (WithdrawReasons Reasons ExistenceRequirement NegativeImbalance PositiveImbalance)

variable {AccountId : Type} {sys : AccountStore AccountId}

/-- An imbalance of either sign. -/
inductive SignedImbalance where
  | Positive (imbalance : PositiveImbalance)
  | Negative (imbalance : NegativeImbalance)
  deriving DecidableEq, Repr

instance : Drop sys SignedImbalance where
  drop
    | .Positive imbalance, s => s.dropPositive imbalance
    | .Negative imbalance, s => s.dropNegative imbalance
  accounts_drop
    | .Positive _, _ => rfl
    | .Negative _, _ => rfl
  locks_drop
    | .Positive _, _ => rfl
    | .Negative _, _ => rfl

/-- An error is handled; a panic is not. -/
def recover {α : Type} (x y : Op sys α) : Op sys α :=
  tryCatch x fun
    | .dispatch _ => y
    | .panic p => throw (.panic p)

def totalBalance (s : Storage sys) (who : AccountId) : Nat := (s.account who).total

def freeBalance (s : Storage sys) (who : AccountId) : Nat := (s.account who).free

def canSlash (s : Storage sys) (who : AccountId) (value : Nat) : Bool :=
  value = 0 ∨ freeBalance s who ≥ value

def minimumBalance (cfg : Config) : Nat := cfg.existentialDeposit

/-- Take funds off the issuance, at most all. -/
def burn (amount : Nat) : Op sys PositiveImbalance :=
  if amount = 0 then return .zero
  else do
    let s ← get
    match checkedSub s.totalIssuance amount with
    | some issued =>
        set { s with totalIssuance := issued }
        return ⟨amount⟩
    | none =>
        set { s with totalIssuance := 0 }
        return ⟨s.totalIssuance⟩

/-- Add funds to the issuance, as many as fit. -/
def issue (amount : Nat) : Op sys NegativeImbalance :=
  if amount = 0 then return .zero
  else do
    let s ← get
    match checkedAdd s.totalIssuance amount with
    | some issued =>
        set { s with totalIssuance := issued }
        return ⟨amount⟩
    | none =>
        set { s with totalIssuance := balanceBound - 1 }
        return ⟨balanceBound - 1 - s.totalIssuance⟩

/-- The locks allow to withdraw. They are read from the storage. -/
def ensureCanWithdraw (who : AccountId) (amount : Nat) (reasons : WithdrawReasons)
    (newBalance : Nat) : Op sys Unit :=
  if amount = 0 then return ()
  else do
    let minBalance := ((← get).account who).frozen (.ofWithdrawReasons reasons)
    ensure (newBalance ≥ minBalance) Error.LiquidityRestrictions.fail

section Transfer

variable (cfg : Config) (transactor dest : AccountId) (value : Nat)
  (existenceRequirement : ExistenceRequirement)

/-- The inner closure: take from the transactor and give to the other account, whose new data are
the result. -/
def transferClosure (toAccount fromAccount : AccountData) : Op sys (AccountData × AccountData) := do
  ensure (value ≤ fromAccount.free) Error.InsufficientBalance.fail
  let fromAccount := { fromAccount with free := fromAccount.free - value }
  ensure (toAccount.free + value < balanceBound) Error.Overflow.fail
  let toAccount := { toAccount with free := toAccount.free + value }
  ensure (toAccount.total ≥ cfg.existentialDeposit) Error.ExistentialDeposit.fail
  ensureCanWithdraw transactor value .TRANSFER fromAccount.free
  let allowDeath := existenceRequirement = .AllowDeath ∧
    sys.isProviderRequired (← get).accounts transactor = false
  ensure (allowDeath ∨ fromAccount.total ≥ cfg.existentialDeposit) Error.KeepAlive.fail
  return (toAccount, fromAccount)

variable [DecidableEq AccountId]

/-- Transfer free balance. The dust of the transactor goes before that of the other account, and
both before the event. -/
def transfer : Op sys Unit :=
  if value = 0 ∨ transactor = dest then return ()
  else do
    let dustCleaners ← tryMutateAccountWithDust cfg dest fun toAccount _ => do
      let (toAccount, dustCleaner) ← tryMutateAccountWithDust cfg transactor fun fromAccount _ =>
        transferClosure cfg transactor value existenceRequirement toAccount fromAccount
      return (dustCleaner, toAccount)
    dropped dustCleaners
    depositEvent (.Transfer transactor dest value)

end Transfer

/-- What an attempt to slash takes at most. The second attempt leaves the existential deposit. -/
def bestValue (cfg : Config) (value attempt : Nat) (account : AccountData) : Except Failure Nat :=
  if attempt = 0 then .ok value
  else do
    let whole ← plus cfg account.free account.reserved
    return min value (whole - cfg.existentialDeposit)

def slashAttempt (cfg : Config) (value attempt : Nat) (account : AccountData) :
    Op sys ((NegativeImbalance × Nat) × AccountData) := do
  let bestValue ← bestValue cfg value attempt account
  let freeSlash := min account.free bestValue
  let account := { account with free := account.free - freeSlash }
  let remainingSlash := bestValue - freeSlash
  if remainingSlash ≠ 0 then
    let reservedSlash := min account.reserved remainingSlash
    return ((⟨freeSlash + reservedSlash⟩, value - freeSlash - reservedSlash),
      { account with reserved := account.reserved - reservedSlash })
  else return ((⟨freeSlash⟩, value - freeSlash), account)

/-- Slash the free and then the reserved balance; returns what could not be slashed. -/
def slash (cfg : Config) (who : AccountId) (value : Nat) : Op sys (NegativeImbalance × Nat) :=
  if value = 0 then return (.zero, 0)
  else do
    if totalBalance (← get) who = 0 then return (.zero, value)
    else
      recover (tryMutateAccount cfg who fun account _ => slashAttempt cfg value 0 account)
        (recover (tryMutateAccount cfg who fun account _ => slashAttempt cfg value 1 account)
          (return (.zero, value)))

def depositExistingClosure (value : Nat) (account : AccountData) (isNew : Bool) :
    Op sys (PositiveImbalance × AccountData) := do
  ensure (isNew = false) Error.DeadAccount.fail
  ensure (account.free + value < balanceBound) Error.Overflow.fail
  return (⟨value⟩, { account with free := account.free + value })

/-- Deposit into an account that is there. -/
def depositIntoExisting (cfg : Config) (who : AccountId) (value : Nat) :
    Op sys PositiveImbalance :=
  if value = 0 then return .zero
  else tryMutateAccount cfg who (depositExistingClosure value)

/-- A deposit that would overflow the balance is not made, and its imbalance is zero. -/
def depositCreatingClosure (cfg : Config) (value : Nat) (account : AccountData) (isNew : Bool) :
    Op sys (PositiveImbalance × AccountData) := do
  ensure (value ≥ cfg.existentialDeposit ∨ isNew = false) Error.ExistentialDeposit.fail
  if account.free + value < balanceBound then
    return (⟨value⟩, { account with free := account.free + value })
  else return (.zero, account)

/-- Deposit into an account, which is created if need be. -/
def depositCreating (cfg : Config) (who : AccountId) (value : Nat) : Op sys PositiveImbalance :=
  if value = 0 then return .zero
  else recover (tryMutateAccount cfg who (depositCreatingClosure cfg value)) (return .zero)

/-- `would_kill`: the existential deposit is there and would not be left. -/
def wouldKill (cfg : Config) (newFreeAccount : Nat) (account : AccountData) : Except Failure Bool := do
  let left ← plus cfg newFreeAccount account.reserved
  if left < cfg.existentialDeposit then
    let whole ← plus cfg account.free account.reserved
    return whole ≥ cfg.existentialDeposit
  else return false

def withdrawClosure (cfg : Config) (who : AccountId) (value : Nat) (reasons : WithdrawReasons)
    (liveness : ExistenceRequirement) (account : AccountData) :
    Op sys (NegativeImbalance × AccountData) := do
  ensure (value ≤ account.free) Error.InsufficientBalance.fail
  let newFreeAccount := account.free - value
  let kills ← wouldKill cfg newFreeAccount account
  ensure (liveness = .AllowDeath ∨ kills = false) Error.KeepAlive.fail
  ensureCanWithdraw who value reasons newFreeAccount
  return (⟨value⟩, { account with free := newFreeAccount })

/-- Withdraw free balance. -/
def withdraw (cfg : Config) (who : AccountId) (value : Nat) (reasons : WithdrawReasons)
    (liveness : ExistenceRequirement) : Op sys NegativeImbalance :=
  if value = 0 then return .zero
  else tryMutateAccount cfg who fun account _ => withdrawClosure cfg who value reasons liveness account

def makeFreeBalanceClosure (cfg : Config) (value : Nat) (account : AccountData) (isNew : Bool) :
    Op sys (SignedImbalance × AccountData) := do
  let total := saturatingAdd value account.reserved
  ensure (total ≥ cfg.existentialDeposit ∨ isNew = false) Error.ExistentialDeposit.fail
  let imbalance :=
    if account.free ≤ value then SignedImbalance.Positive ⟨value - account.free⟩
    else .Negative ⟨account.free - value⟩
  return (imbalance, { account with free := value })

/-- Force the free balance of an account to a value. -/
def makeFreeBalanceBe (cfg : Config) (who : AccountId) (value : Nat) : Op sys SignedImbalance :=
  recover (tryMutateAccount cfg who (makeFreeBalanceClosure cfg value)) (return .Positive .zero)

section Recover

open Dispatch

variable {α : Type} {x y : Op sys α} {s t : Storage sys}

theorem exec_recover_of_ok {a : α} (h : exec x s = (.ok a, t)) :
    exec (recover x y) s = (.ok a, t) := by
  rw [recover, exec_tryCatch, h]

theorem exec_recover_of_error {e : DispatchError} (h : exec x s = (.error (.dispatch e), t)) :
    exec (recover x y) s = exec y t := by
  rw [recover, exec_tryCatch, h]

theorem exec_recover_of_panic {p : Panic} (h : exec x s = (.error (.panic p), t)) :
    exec (recover x y) s = (.error (.panic p), t) := by
  rw [recover, exec_tryCatch, h]
  exact exec_throw

end Recover

/-! ## The closures only read -/

section Reads

open Dispatch

variable {cfg : Config} {who : AccountId} {value : Nat} {reasons : WithdrawReasons}
  {requirement : ExistenceRequirement} {account toAccount : AccountData} {isNew : Bool}

theorem reads_ensureCanWithdraw {newBalance : Nat} :
    Reads (ensureCanWithdraw who value reasons newBalance : Op sys Unit) :=
  .ite reads_pure (.bind reads_get fun _ => reads_lift)

theorem reads_transferClosure :
    Reads (transferClosure cfg who value requirement toAccount account : Op sys _) :=
  .bind reads_lift fun _ => .bind reads_lift fun _ => .bind reads_lift fun _ =>
    .bind reads_ensureCanWithdraw fun _ => .bind reads_get fun _ => .bind reads_lift fun _ =>
      reads_pure

theorem reads_slashAttempt {attempt : Nat} :
    Reads (slashAttempt cfg value attempt account : Op sys _) :=
  .bind reads_lift fun _ => .ite reads_pure reads_pure

theorem reads_depositExistingClosure :
    Reads (depositExistingClosure value account isNew : Op sys _) :=
  .bind reads_lift fun _ => .bind reads_lift fun _ => reads_pure

theorem reads_depositCreatingClosure :
    Reads (depositCreatingClosure cfg value account isNew : Op sys _) :=
  .bind reads_lift fun _ => .ite reads_pure reads_pure

theorem reads_withdrawClosure :
    Reads (withdrawClosure cfg who value reasons requirement account : Op sys _) :=
  .bind reads_lift fun _ => .bind reads_lift fun _ => .bind reads_lift fun _ =>
    .bind reads_ensureCanWithdraw fun _ => reads_pure

theorem reads_makeFreeBalanceClosure :
    Reads (makeFreeBalanceClosure cfg value account isNew : Op sys _) :=
  .bind reads_lift fun _ => reads_pure

end Reads

/-! ## When a closure succeeds -/

section Closures

open Dispatch

variable {cfg : Config} {who : AccountId} {value : Nat} {reasons : WithdrawReasons}
  {requirement : ExistenceRequirement} {account toAccount d : AccountData} {isNew : Bool}
  {s t : Storage sys}

/-- The locks leave the balance to withdraw. -/
def Permits (s : Storage sys) (who : AccountId) (amount : Nat) (reasons : WithdrawReasons)
    (newBalance : Nat) : Prop :=
  amount = 0 ∨ (s.account who).frozen (.ofWithdrawReasons reasons) ≤ newBalance

theorem exec_ensureCanWithdraw_bind_eq_ok {β : Type} {newBalance : Nat} {f : Unit → Op sys β}
    {b : β} : exec (ensureCanWithdraw who value reasons newBalance >>= f) s = (.ok b, t) ↔
      Permits s who value reasons newBalance ∧ exec (f ()) s = (.ok b, t) := by
  unfold ensureCanWithdraw Permits
  split_ifs with h
  · simp only [h, true_or, true_and]
    exact Iff.rfl
  · simp only [h, false_or]
    rw [bind_assoc, exec_get_bind]
    exact exec_ensure_bind_eq_ok

theorem transferClosure_eq_ok {toAccount' : AccountData} :
    exec (transferClosure cfg who value requirement toAccount account) s
        = (.ok (toAccount', d), t) ↔
      value ≤ account.free ∧ toAccount.free + value < balanceBound ∧
      cfg.existentialDeposit ≤ { toAccount with free := toAccount.free + value }.total ∧
      Permits s who value .TRANSFER (account.free - value) ∧
      ((requirement = .AllowDeath ∧ sys.isProviderRequired s.accounts who = false) ∨
        cfg.existentialDeposit ≤ { account with free := account.free - value }.total) ∧
      toAccount' = { toAccount with free := toAccount.free + value } ∧
      d = { account with free := account.free - value } ∧ t = s := by
  simp only [transferClosure, exec_ensure_bind_eq_ok, exec_ensureCanWithdraw_bind_eq_ok,
    exec_get_bind, exec_pure_eq_ok, Prod.mk.injEq, and_assoc, ge_iff_le]

theorem slashAttempt_eq_ok {attempt left : Nat} {n : NegativeImbalance} :
    exec (slashAttempt cfg value attempt account) s = (.ok ((n, left), d), t) ↔
      ∃ best, bestValue cfg value attempt account = .ok best ∧
        n = ⟨min account.free best + min account.reserved (best - min account.free best)⟩ ∧
        left = value - min account.free best - min account.reserved (best - min account.free best) ∧
        d = { account with
          free := account.free - min account.free best
          reserved := account.reserved - min account.reserved (best - min account.free best) } ∧
        t = s := by
  simp only [slashAttempt, exec_lift_bind_eq_ok]
  refine exists_congr fun best => and_congr_right fun _ => ?_
  by_cases h : best - min account.free best ≠ 0
  · rw [if_pos h]
    simp only [exec_pure_eq_ok, Prod.mk.injEq, and_assoc]
  · rw [if_neg h]
    simp only [exec_pure_eq_ok, Prod.mk.injEq, and_assoc, not_not.mp h, Nat.min_zero,
      Nat.add_zero, Nat.sub_zero]

theorem depositExistingClosure_eq_ok {p : PositiveImbalance} :
    exec (depositExistingClosure value account isNew) s = (.ok (p, d), t) ↔
      isNew = false ∧ account.free + value < balanceBound ∧ p = ⟨value⟩ ∧
      d = { account with free := account.free + value } ∧ t = s := by
  simp only [depositExistingClosure, exec_ensure_bind_eq_ok, exec_pure_eq_ok, Prod.mk.injEq,
    and_assoc]

theorem depositCreatingClosure_eq_ok {p : PositiveImbalance} :
    exec (depositCreatingClosure cfg value account isNew) s = (.ok (p, d), t) ↔
      (cfg.existentialDeposit ≤ value ∨ isNew = false) ∧
      ((account.free + value < balanceBound ∧ p = ⟨value⟩ ∧
          d = { account with free := account.free + value }) ∨
        (¬ account.free + value < balanceBound ∧ p = .zero ∧ d = account)) ∧ t = s := by
  simp only [depositCreatingClosure, exec_ensure_bind_eq_ok, ge_iff_le]
  refine and_congr_right fun _ => ?_
  by_cases h : account.free + value < balanceBound
  · rw [if_pos h]
    simp only [exec_pure_eq_ok, Prod.mk.injEq, and_assoc, h, true_and, not_true, false_and, or_false]
  · rw [if_neg h]
    simp only [exec_pure_eq_ok, Prod.mk.injEq, and_assoc, h, false_and, not_false_iff, true_and,
      false_or]

theorem withdrawClosure_eq_ok {n : NegativeImbalance} :
    exec (withdrawClosure cfg who value reasons requirement account) s = (.ok (n, d), t) ↔
      value ≤ account.free ∧
      (∃ kills, wouldKill cfg (account.free - value) account = .ok kills ∧
        (requirement = .AllowDeath ∨ kills = false)) ∧
      Permits s who value reasons (account.free - value) ∧ n = ⟨value⟩ ∧
      d = { account with free := account.free - value } ∧ t = s := by
  simp only [withdrawClosure, exec_lift_bind_eq_ok, Fallible.ensure_eq_ok, exists_const,
    exec_ensureCanWithdraw_bind_eq_ok, exec_pure_eq_ok, Prod.mk.injEq, and_assoc]
  refine and_congr_right fun _ => ?_
  constructor
  · rintro ⟨kills, hkills, hlive, hrest⟩
    exact ⟨⟨kills, hkills, hlive⟩, hrest⟩
  · rintro ⟨⟨kills, hkills, hlive⟩, hrest⟩
    exact ⟨kills, hkills, hlive, hrest⟩

theorem makeFreeBalanceClosure_eq_ok {r : SignedImbalance} :
    exec (makeFreeBalanceClosure cfg value account isNew) s = (.ok (r, d), t) ↔
      (cfg.existentialDeposit ≤ saturatingAdd value account.reserved ∨ isNew = false) ∧
      r = (if account.free ≤ value then SignedImbalance.Positive ⟨value - account.free⟩
        else .Negative ⟨account.free - value⟩) ∧
      d = { account with free := value } ∧ t = s := by
  simp only [makeFreeBalanceClosure, exec_ensure_bind_eq_ok, exec_pure_eq_ok, Prod.mk.injEq,
    and_assoc, ge_iff_le]

end Closures

end HydraDX.PalletBalances
