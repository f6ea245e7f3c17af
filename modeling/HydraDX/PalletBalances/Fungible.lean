import HydraDX.PalletBalances.Reservable

set_option autoImplicit false

/-! # The fungible token

The traits of `fungible`: a second interface to the same balances, which announces the outcome of
an operation before it is made, and issues and destroys without imbalances. -/

namespace HydraDX.PalletBalances

open Balances (WithdrawReasons Reasons ExistenceRequirement)

variable {AccountId : Type} {sys : AccountStore AccountId}

inductive DepositConsequence where
  | BelowMinimum
  | Overflow
  | Success
  deriving DecidableEq, Repr

inductive WithdrawConsequence where
  | NoFunds
  | WouldDie
  | Underflow
  | Frozen
  | ReducedToZero (remaining : Nat)
  | Success
  deriving DecidableEq, Repr

def DepositConsequence.intoResult : DepositConsequence → Except Failure Unit
  | .BelowMinimum => .error (.dispatch (.Token .BelowMinimum))
  | .Overflow => .error (.dispatch (.Arithmetic .Overflow))
  | .Success => .ok ()

/-- The amount is what is withdrawn besides. -/
def WithdrawConsequence.intoResult : WithdrawConsequence → Except Failure Nat
  | .NoFunds => .error (.dispatch (.Token .NoFunds))
  | .WouldDie => .error (.dispatch (.Token .WouldDie))
  | .Underflow => .error (.dispatch (.Arithmetic .Underflow))
  | .Frozen => .error (.dispatch (.Token .Frozen))
  | .ReducedToZero remaining => .ok remaining
  | .Success => .ok 0

/-! ## Inspecting -/

def depositConsequence (cfg : Config) (s : Storage sys) (amount : Nat) (account : AccountData) :
    DepositConsequence :=
  if amount = 0 then .Success
  else if ¬ s.totalIssuance + amount < balanceBound then .Overflow
  else if ¬ account.total + amount < balanceBound then .Overflow
  else if account.total + amount < cfg.existentialDeposit then .BelowMinimum
  else .Success

def withdrawConsequence (cfg : Config) (s : Storage sys) (who : AccountId) (amount : Nat)
    (account : AccountData) : WithdrawConsequence :=
  if amount = 0 then .Success
  else if ¬ amount ≤ s.totalIssuance then .Underflow
  else if ¬ amount ≤ account.total then .NoFunds
  else
    let newTotalBalance := account.total - amount
    if newTotalBalance < cfg.existentialDeposit ∧
        sys.canDecProvider s.accounts who = false then .WouldDie
    else if ¬ amount ≤ account.free then .NoFunds
    else if account.free - amount < account.frozen .All then .Frozen
    else if newTotalBalance < cfg.existentialDeposit then .ReducedToZero newTotalBalance
    else .Success

/-- What can be withdrawn. The liquid balance is part of the total. -/
def reducibleBalance (cfg : Config) (s : Storage sys) (who : AccountId) (keepAlive : Bool) : Nat :=
  let a := s.account who
  let liquid := a.free - max a.feeFrozen a.miscFrozen
  if sys.canDecProvider s.accounts who = true ∧ keepAlive = false then liquid
  else
    let mustRemainToExist := cfg.existentialDeposit - (a.total - liquid)
    liquid - mustRemainToExist

def canDeposit (cfg : Config) (s : Storage sys) (who : AccountId) (amount : Nat) :
    DepositConsequence :=
  depositConsequence cfg s amount (s.account who)

def canWithdraw (cfg : Config) (s : Storage sys) (who : AccountId) (amount : Nat) :
    WithdrawConsequence :=
  withdrawConsequence cfg s who amount (s.account who)

def balanceOnHold (s : Storage sys) (who : AccountId) : Nat := (s.account who).reserved

def canHold (cfg : Config) (s : Storage sys) (who : AccountId) (amount : Nat) : Bool :=
  let a := s.account who
  let minBalance := max cfg.existentialDeposit (a.frozen .All)
  a.reserved + amount < balanceBound ∧ minBalance + amount < balanceBound ∧
    a.free ≥ minBalance + amount

/-! ## Issuing and destroying -/

/-- Plain `+` on the total issuance. -/
def raiseIssuance (cfg : Config) (amount : Nat) : Op sys Unit := do
  let s ← get
  let totalIssuance ← plus cfg s.totalIssuance amount
  set { s with totalIssuance }

/-- Plain `-` on the total issuance. -/
def lowerIssuance (cfg : Config) (amount : Nat) : Op sys Unit := do
  let s ← get
  let totalIssuance ← minus cfg s.totalIssuance amount
  set { s with totalIssuance }

def mintClosure (cfg : Config) (amount : Nat) (account : AccountData) :
    Op sys (Unit × AccountData) := do
  (depositConsequence cfg (← get) amount account).intoResult
  let free ← plus cfg account.free amount
  return ((), { account with free })

def mintInto (cfg : Config) (who : AccountId) (amount : Nat) : Op sys Unit :=
  if amount = 0 then return ()
  else do
    tryMutateAccount cfg who fun account _ => mintClosure cfg amount account
    raiseIssuance cfg amount

/-- What would be left of the account is taken as well if it is too little. It is taken from the
free balance, whatever part of it is reserved. -/
def burnClosure (cfg : Config) (who : AccountId) (amount : Nat) (account : AccountData) :
    Op sys (Nat × AccountData) := do
  let extra ← (withdrawConsequence cfg (← get) who amount account).intoResult
  let actual ← plus cfg amount extra
  let free ← minus cfg account.free actual
  return (actual, { account with free })

def burnFrom (cfg : Config) (who : AccountId) (amount : Nat) : Op sys Nat :=
  if amount = 0 then return 0
  else do
    let actual ← tryMutateAccount cfg who fun account _ => burnClosure cfg who amount account
    lowerIssuance cfg actual
    return actual

/-- `Transfer::transfer` of `fungible` -/
def transferFungible [DecidableEq AccountId] (cfg : Config) (source dest : AccountId)
    (amount : Nat) (keepAlive : Bool) : Op sys Nat := do
  transfer cfg source dest amount
    (if keepAlive then ExistenceRequirement.KeepAlive else .AllowDeath)
  return amount

/-- `Unbalanced::set_balance` -/
def setFreeBalance (cfg : Config) (who : AccountId) (amount : Nat) : Op sys Unit :=
  mutateAccount cfg who fun account => return ((), { account with free := amount })

/-- `Unbalanced::set_total_issuance` -/
def setTotalIssuance (amount : Nat) : Op sys Unit :=
  modify fun s => { s with totalIssuance := amount }

/-! ## Holding -/

def holdClosure (cfg : Config) (amount : Nat) (account : AccountData) :
    Op sys (Unit × AccountData) := do
  let free ← minus cfg account.free amount
  let reserved ← plus cfg account.reserved amount
  return ((), { account with free, reserved })

def hold (cfg : Config) (who : AccountId) (amount : Nat) : Op sys Unit :=
  if amount = 0 then return ()
  else do
    ensure (canReserve (← get) who amount = true) Error.InsufficientBalance.fail
    mutateAccount cfg who fun account => holdClosure cfg amount account

def releaseClosure (cfg : Config) (amount : Nat) (bestEffort : Bool) (account : AccountData) :
    Op sys (Nat × AccountData) := do
  let newFree := saturatingAdd account.free (min amount account.reserved)
  let actual ← minus cfg newFree account.free
  ensure (bestEffort = true ∨ actual = amount) Error.InsufficientBalance.fail
  return (actual, { account with free := newFree, reserved := account.reserved - actual })

def release (cfg : Config) (who : AccountId) (amount : Nat) (bestEffort : Bool) : Op sys Nat :=
  if amount = 0 then return amount
  else tryMutateAccount cfg who fun account _ => releaseClosure cfg amount bestEffort account

def transferHeld [DecidableEq AccountId] (cfg : Config) (source dest : AccountId) (amount : Nat)
    (bestEffort onHold : Bool) : Op sys Nat :=
  doTransferReserved cfg source dest amount bestEffort (if onHold then .Reserved else .Free)

/-! ## The closures only read -/

section Reads

open Dispatch

variable {cfg : Config} {who : AccountId} {amount : Nat} {account : AccountData}

theorem reads_mintClosure : Reads (mintClosure cfg amount account : Op sys _) :=
  .bind reads_get fun _ => .bind reads_lift fun _ => .bind reads_lift fun _ => reads_pure

theorem reads_burnClosure : Reads (burnClosure cfg who amount account : Op sys _) :=
  .bind reads_get fun _ => .bind reads_lift fun _ => .bind reads_lift fun _ =>
    .bind reads_lift fun _ => reads_pure

theorem reads_holdClosure : Reads (holdClosure cfg amount account : Op sys _) :=
  .bind reads_lift fun _ => .bind reads_lift fun _ => reads_pure

theorem reads_releaseClosure {bestEffort : Bool} :
    Reads (releaseClosure cfg amount bestEffort account : Op sys _) :=
  .bind reads_lift fun _ => .bind reads_lift fun _ => reads_pure

end Reads

/-! ## When a closure succeeds -/

section Closures

open Dispatch

variable {cfg : Config} {who : AccountId} {amount : Nat} {account d : AccountData}
  {s t : Storage sys}

theorem depositConsequence_intoResult {u : Unit} :
    (depositConsequence cfg s amount account).intoResult = .ok u ↔
      (amount ≠ 0 → s.totalIssuance + amount < balanceBound ∧
        account.total + amount < balanceBound ∧
        cfg.existentialDeposit ≤ account.total + amount) := by
  unfold depositConsequence
  split_ifs with h₀ h₁ h₂ h₃
  · simp [h₀, DepositConsequence.intoResult]
  · simp only [DepositConsequence.intoResult, reduceCtorEq, false_iff, Classical.not_imp]
    exact ⟨h₀, fun h => absurd h.2.2 (by omega)⟩
  · simp only [DepositConsequence.intoResult, true_iff]
    exact fun _ => ⟨h₁, h₂, by omega⟩
  · simp [h₀, h₂, DepositConsequence.intoResult]
  · simp [h₀, h₁, DepositConsequence.intoResult]

/-- What is withdrawn besides is what would be too little to be left. -/
theorem withdrawConsequence_intoResult {extra : Nat} (hamount : amount ≠ 0) :
    (withdrawConsequence cfg s who amount account).intoResult = .ok extra ↔
      amount ≤ s.totalIssuance ∧ amount ≤ account.total ∧ amount ≤ account.free ∧
      account.frozen .All ≤ account.free - amount ∧
      ((cfg.existentialDeposit ≤ account.total - amount ∧ extra = 0) ∨
        (account.total - amount < cfg.existentialDeposit ∧
          sys.canDecProvider s.accounts who = true ∧ extra = account.total - amount)) := by
  unfold withdrawConsequence
  rw [if_neg hamount]
  by_cases hissued : amount ≤ s.totalIssuance
  · by_cases htotal : amount ≤ account.total
    · rw [if_neg (not_not.mpr hissued), if_neg (not_not.mpr htotal)]
      simp only
      split_ifs with hdie hfree hfrozen hed
      · simp only [WithdrawConsequence.intoResult, reduceCtorEq, false_iff]
        rintro ⟨-, -, -, -, ⟨hle, -⟩ | ⟨-, hcan, -⟩⟩
        · omega
        · rw [hdie.2] at hcan
          cases hcan
      · simp only [WithdrawConsequence.intoResult, reduceCtorEq, false_iff]
        rintro ⟨-, -, -, hle, -⟩
        omega
      · have hcan : sys.canDecProvider s.accounts who = true := by
          by_contra hne
          exact hdie ⟨hed, by simpa using hne⟩
        simp only [WithdrawConsequence.intoResult, Except.ok.injEq, hissued, htotal, hfree, hed,
          hcan, true_and]
        omega
      · simp only [WithdrawConsequence.intoResult, Except.ok.injEq, hissued, htotal, hfree, hed,
          true_and, false_and, or_false]
        omega
      · simp only [WithdrawConsequence.intoResult, reduceCtorEq, false_iff]
        rintro ⟨-, -, hle, -⟩
        exact hfree hle
    · rw [if_neg (not_not.mpr hissued), if_pos htotal]
      simp [WithdrawConsequence.intoResult, htotal]
  · rw [if_pos hissued]
    simp [WithdrawConsequence.intoResult, hissued]

theorem mintClosure_eq_ok {u : Unit} :
    exec (mintClosure cfg amount account) s = (.ok (u, d), t) ↔
      (depositConsequence cfg s amount account).intoResult = .ok () ∧
      (∃ free, plus cfg account.free amount = .ok free ∧ d = { account with free }) ∧ t = s := by
  simp only [mintClosure, exec_get_bind, exec_lift_bind_eq_ok, exec_pure_eq_ok, Prod.mk.injEq,
    true_and]
  constructor
  · rintro ⟨⟨⟩, hok, free, hfree, rfl, rfl⟩
    exact ⟨hok, ⟨free, hfree, rfl⟩, rfl⟩
  · rintro ⟨hok, ⟨free, hfree, rfl⟩, rfl⟩
    exact ⟨(), hok, free, hfree, rfl, rfl⟩

theorem burnClosure_eq_ok {actual : Nat} :
    exec (burnClosure cfg who amount account) s = (.ok (actual, d), t) ↔
      ∃ extra free, (withdrawConsequence cfg s who amount account).intoResult = .ok extra ∧
        plus cfg amount extra = .ok actual ∧ minus cfg account.free actual = .ok free ∧
        d = { account with free } ∧ t = s := by
  simp only [burnClosure, exec_get_bind, exec_lift_bind_eq_ok, exec_pure_eq_ok, Prod.mk.injEq]
  constructor
  · rintro ⟨extra, hextra, a, ha, free, hfree, ⟨rfl, rfl⟩, rfl⟩
    exact ⟨extra, free, hextra, ha, hfree, rfl, rfl⟩
  · rintro ⟨extra, free, hextra, ha, hfree, rfl, rfl⟩
    exact ⟨extra, hextra, actual, ha, free, hfree, ⟨rfl, rfl⟩, rfl⟩

theorem holdClosure_eq_ok {u : Unit} :
    exec (holdClosure cfg amount account) s = (.ok (u, d), t) ↔
      ∃ free reserved, minus cfg account.free amount = .ok free ∧
        plus cfg account.reserved amount = .ok reserved ∧
        d = { account with free, reserved } ∧ t = s := by
  simp only [holdClosure, exec_lift_bind_eq_ok, exec_pure_eq_ok, Prod.mk.injEq, true_and]
  constructor
  · rintro ⟨free, hfree, reserved, hreserved, rfl, rfl⟩
    exact ⟨free, reserved, hfree, hreserved, rfl, rfl⟩
  · rintro ⟨free, reserved, hfree, hreserved, rfl, rfl⟩
    exact ⟨free, hfree, reserved, hreserved, rfl, rfl⟩

theorem releaseClosure_eq_ok {bestEffort : Bool} {actual : Nat} :
    exec (releaseClosure cfg amount bestEffort account) s = (.ok (actual, d), t) ↔
      minus cfg (saturatingAdd account.free (min amount account.reserved)) account.free
        = .ok actual ∧
      (bestEffort = true ∨ actual = amount) ∧
      d = { account with
        free := saturatingAdd account.free (min amount account.reserved)
        reserved := account.reserved - actual } ∧ t = s := by
  simp only [releaseClosure, exec_lift_bind_eq_ok, Fallible.ensure_eq_ok, exists_const,
    exec_pure_eq_ok, Prod.mk.injEq]
  constructor
  · rintro ⟨a, ha, heffort, ⟨rfl, rfl⟩, rfl⟩
    exact ⟨ha, heffort, rfl, rfl⟩
  · rintro ⟨ha, heffort, rfl, rfl⟩
    exact ⟨actual, ha, heffort, ⟨rfl, rfl⟩, rfl⟩

theorem exec_raiseIssuance (h : s.totalIssuance + amount < balanceBound) :
    exec (raiseIssuance cfg amount) s
      = (.ok (), { s with totalIssuance := s.totalIssuance + amount }) := by
  rw [raiseIssuance, exec_get_bind, exec_lift_bind_of_ok (plus_of_lt h)]
  exact exec_set

theorem exec_lowerIssuance (h : amount ≤ s.totalIssuance) :
    exec (lowerIssuance cfg amount) s
      = (.ok (), { s with totalIssuance := s.totalIssuance - amount }) := by
  rw [lowerIssuance, exec_get_bind, exec_lift_bind_of_ok (minus_of_le h)]
  exact exec_set

end Closures

end HydraDX.PalletBalances
