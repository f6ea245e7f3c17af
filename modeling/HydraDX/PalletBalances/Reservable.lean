import HydraDX.PalletBalances.Currency

set_option autoImplicit false

/-! # Reserved balance

`ReservableCurrency` of the pallet. -/

namespace HydraDX.PalletBalances

open Balances (WithdrawReasons NegativeImbalance)

variable {AccountId : Type} {sys : AccountStore AccountId}

def reservedBalance (s : Storage sys) (who : AccountId) : Nat := (s.account who).reserved

def canReserve (s : Storage sys) (who : AccountId) (value : Nat) : Bool :=
  value = 0 ∨ (value ≤ (s.account who).free ∧
    (s.account who).free - value
      ≥ (s.account who).frozen (.ofWithdrawReasons WithdrawReasons.RESERVE))

def reserveClosure (who : AccountId) (value : Nat) (account : AccountData) :
    Op sys (Unit × AccountData) := do
  ensure (value ≤ account.free) Error.InsufficientBalance.fail
  let account := { account with free := account.free - value }
  ensure (account.reserved + value < balanceBound) Error.Overflow.fail
  let account := { account with reserved := account.reserved + value }
  ensureCanWithdraw who value .RESERVE account.free
  return ((), account)

/-- Move free balance to the reserved balance. -/
def reserve (cfg : Config) (who : AccountId) (value : Nat) : Op sys Unit :=
  if value = 0 then return ()
  else do
    tryMutateAccount cfg who fun account _ => reserveClosure who value account
    depositEvent (.Reserved who value)

def unreserveClosure (value : Nat) (account : AccountData) : Op sys (Nat × AccountData) :=
  let actual := min account.reserved value
  return (actual, { account with
    reserved := account.reserved - actual
    free := saturatingAdd account.free actual })

/-- Move reserved balance back; returns what could not be moved. -/
def unreserve (cfg : Config) (who : AccountId) (value : Nat) : Op sys Nat :=
  if value = 0 then return 0
  else do
    if totalBalance (← get) who = 0 then return value
    else
      recover
        (do
          let actual ← mutateAccount cfg who fun account => unreserveClosure value account
          depositEvent (.Unreserved who actual)
          return value - actual)
        (return value)

/-- The closure of an attempt to slash reserved balance. -/
def slashReservedAttempt (cfg : Config) (value attempt : Nat) (account : AccountData) :
    Op sys ((NegativeImbalance × Nat) × AccountData) := do
  let bestValue ← bestValue cfg value attempt account
  let actual := min account.reserved bestValue
  return ((⟨actual⟩, value - actual), { account with reserved := account.reserved - actual })

/-- Slash reserved balance; returns what could not be slashed. -/
def slashReserved (cfg : Config) (who : AccountId) (value : Nat) :
    Op sys (NegativeImbalance × Nat) :=
  if value = 0 then return (.zero, 0)
  else do
    if totalBalance (← get) who = 0 then return (.zero, value)
    else
      recover (mutateAccount cfg who (slashReservedAttempt cfg value 0))
        (recover (mutateAccount cfg who (slashReservedAttempt cfg value 1))
          (return (.zero, value)))

section DoTransferReserved

variable (cfg : Config) (slashed beneficiary : AccountId) (value : Nat) (bestEffort : Bool)
  (status : BalanceStatus)

/-- Give to the free or to the reserved balance. -/
def giveTo (status : BalanceStatus) (actual : Nat) (toAccount : AccountData) :
    Except Failure AccountData :=
  match status with
  | .Free => do
      ensure (toAccount.free + actual < balanceBound) Error.Overflow.fail
      return { toAccount with free := toAccount.free + actual }
  | .Reserved => do
      ensure (toAccount.reserved + actual < balanceBound) Error.Overflow.fail
      return { toAccount with reserved := toAccount.reserved + actual }

/-- The inner closure: take from the reserved balance and give to the other account, whose new data
are part of the result. -/
def transferReservedClosure (toAccount fromAccount : AccountData) :
    Op sys ((Nat × AccountData) × AccountData) := do
  let actual := min fromAccount.reserved value
  ensure (bestEffort = true ∨ actual = value) Error.InsufficientBalance.fail
  let toAccount ← giveTo status actual toAccount
  return ((actual, toAccount), { fromAccount with reserved := fromAccount.reserved - actual })

variable [DecidableEq AccountId]

/-- Move reserved balance of one account to another; returns what was moved. The dust goes after
the event, that of the beneficiary first. -/
def doTransferReserved : Op sys Nat :=
  if value = 0 then return 0
  else if slashed = beneficiary then
    match status with
    | .Free => unreserve cfg slashed value
    | .Reserved => do return value - reservedBalance (← get) slashed
  else do
    let ((actual, oneDust), otherDust) ← tryMutateAccountWithDust cfg beneficiary
      fun toAccount isNew => do
        ensure (isNew = false) Error.DeadAccount.fail
        let ((actual, toAccount), oneDust) ← tryMutateAccountWithDust cfg slashed
          fun fromAccount _ => transferReservedClosure value bestEffort status toAccount fromAccount
        return ((actual, oneDust), toAccount)
    depositEvent (.ReserveRepatriated slashed beneficiary actual status)
    dropped otherDust
    dropped oneDust
    return actual

def repatriateReserved : Op sys Nat := do
  let actual ← doTransferReserved cfg slashed beneficiary value true status
  return value - actual

end DoTransferReserved

/-! ## The closures only read -/

section Reads

open Dispatch

variable {cfg : Config} {who : AccountId} {value : Nat} {account toAccount : AccountData}

theorem reads_reserveClosure : Reads (reserveClosure who value account : Op sys _) :=
  .bind reads_lift fun _ => .bind reads_lift fun _ => .bind reads_ensureCanWithdraw fun _ =>
    reads_pure

theorem reads_unreserveClosure : Reads (unreserveClosure value account : Op sys _) := reads_pure

theorem reads_slashReservedAttempt {attempt : Nat} :
    Reads (slashReservedAttempt cfg value attempt account : Op sys _) :=
  .bind reads_lift fun _ => reads_pure

theorem reads_transferReservedClosure {bestEffort : Bool} {status : BalanceStatus} :
    Reads (transferReservedClosure value bestEffort status toAccount account : Op sys _) :=
  .bind reads_lift fun _ => .bind reads_lift fun _ => reads_pure

end Reads

/-! ## When a closure succeeds -/

section Closures

open Dispatch

variable {cfg : Config} {who : AccountId} {value : Nat} {account toAccount d : AccountData}
  {s t : Storage sys}

theorem reserveClosure_eq_ok {u : Unit} :
    exec (reserveClosure who value account) s = (.ok (u, d), t) ↔
      value ≤ account.free ∧ account.reserved + value < balanceBound ∧
      Permits s who value .RESERVE (account.free - value) ∧
      d = { account with free := account.free - value, reserved := account.reserved + value } ∧
      t = s := by
  simp only [reserveClosure, exec_ensure_bind_eq_ok, exec_ensureCanWithdraw_bind_eq_ok,
    exec_pure_eq_ok, Prod.mk.injEq, true_and]

theorem slashReservedAttempt_eq_ok {attempt left : Nat} {n : NegativeImbalance} :
    exec (slashReservedAttempt cfg value attempt account) s = (.ok ((n, left), d), t) ↔
      ∃ best, bestValue cfg value attempt account = .ok best ∧
        n = ⟨min account.reserved best⟩ ∧ left = value - min account.reserved best ∧
        d = { account with reserved := account.reserved - min account.reserved best } ∧ t = s := by
  simp only [slashReservedAttempt, exec_lift_bind_eq_ok, exec_pure_eq_ok, Prod.mk.injEq, and_assoc]

theorem transferReservedClosure_eq_ok {bestEffort : Bool} {status : BalanceStatus} {actual : Nat}
    {toAccount' : AccountData} :
    exec (transferReservedClosure value bestEffort status toAccount account) s
        = (.ok ((actual, toAccount'), d), t) ↔
      actual = min account.reserved value ∧ (bestEffort = true ∨ actual = value) ∧
      giveTo status actual toAccount = .ok toAccount' ∧
      d = { account with reserved := account.reserved - actual } ∧ t = s := by
  simp only [transferReservedClosure, exec_lift_bind_eq_ok, Fallible.ensure_eq_ok, exists_const,
    exec_pure_eq_ok, Prod.mk.injEq]
  constructor
  · rintro ⟨heffort, to', hto, ⟨⟨rfl, rfl⟩, rfl⟩, rfl⟩
    exact ⟨rfl, heffort, hto, rfl, rfl⟩
  · rintro ⟨rfl, heffort, hto, rfl, rfl⟩
    exact ⟨heffort, toAccount', hto, ⟨⟨rfl, rfl⟩, rfl⟩, rfl⟩

theorem giveTo_eq_ok {status : BalanceStatus} {actual : Nat} :
    giveTo status actual toAccount = .ok d ↔
      (status = .Free ∧ toAccount.free + actual < balanceBound ∧
        d = { toAccount with free := toAccount.free + actual }) ∨
      (status = .Reserved ∧ toAccount.reserved + actual < balanceBound ∧
        d = { toAccount with reserved := toAccount.reserved + actual }) := by
  cases status with
  | Free =>
      simp only [giveTo, Fallible.ensure_bind_eq_ok, pure, Except.pure, Except.ok.injEq, true_and,
        reduceCtorEq, false_and, or_false, @eq_comm _ _ d]
  | Reserved =>
      simp only [giveTo, Fallible.ensure_bind_eq_ok, pure, Except.pure, Except.ok.injEq, true_and,
        reduceCtorEq, false_and, false_or, @eq_comm _ _ d]

end Closures

end HydraDX.PalletBalances
