import HydraDX.PalletBalances.Currency

set_option autoImplicit false

/-! # Locks

`LockableCurrency` of the pallet. -/

namespace HydraDX.PalletBalances

open Balances (WithdrawReasons Reasons)

variable {AccountId : Type} {sys : AccountStore AccountId}

/-- The getter of `Locks`. -/
def Storage.locksOf (s : Storage sys) (who : AccountId) : List BalanceLock :=
  (s.locks who).getD []

/-- What one lock adds to the frozen amounts. -/
def freeze (account : AccountData) (l : BalanceLock) : AccountData :=
  let account :=
    if l.reasons = .All ∨ l.reasons = .Misc then
      { account with miscFrozen := max account.miscFrozen l.amount }
    else account
  if l.reasons = .All ∨ l.reasons = .Fee then
    { account with feeFrozen := max account.feeFrozen l.amount }
  else account

section Locks

variable [DecidableEq AccountId]

/-- Store the locks of an account, with a reference to it while there are any. The outcome of the
mutation is not looked at. -/
def updateLocks (cfg : Config) (who : AccountId) (locks : List BalanceLock) : Op sys Unit := do
  recover
    (mutateAccount cfg who fun account =>
      return ((), locks.foldl freeze { account with miscFrozen := 0, feeFrozen := 0 }))
    (return ())
  let s ← get
  let existed := (s.locks who).isSome
  if locks = [] then do
    set { s with
      locks := Function.update s.locks who none
      accounts := if existed then sys.decConsumers who s.accounts else s.accounts }
  else
    set { s with
      locks := Function.update s.locks who (some locks)
      accounts := if existed then s.accounts else sys.incConsumers who s.accounts }

/-- `filter_map` with `new_lock.take()`: the new lock goes where the first lock of its id is, later
ones are left out; it is appended if there is none. -/
def replaceLock (id : LockIdentifier) (replacement : BalanceLock → BalanceLock) :
    Option BalanceLock → List BalanceLock → List BalanceLock
  | newLock, [] => newLock.toList
  | newLock, l :: locks =>
      if l.id = id then (newLock.map fun _ => replacement l).toList ++ replaceLock id replacement none locks
      else l :: replaceLock id replacement newLock locks

/-- Set a lock, in place of one that has the id. -/
def setLock (cfg : Config) (id : LockIdentifier) (who : AccountId) (amount : Nat)
    (reasons : WithdrawReasons) : Op sys Unit :=
  if amount = 0 ∨ reasons.isEmpty then return ()
  else do
    let newLock : BalanceLock := ⟨id, amount, .ofWithdrawReasons reasons⟩
    updateLocks cfg who (replaceLock id (fun _ => newLock) (some newLock) ((← get).locksOf who))

/-- Extend a lock, or set it if there is none that has the id. -/
def extendLock (cfg : Config) (id : LockIdentifier) (who : AccountId) (amount : Nat)
    (reasons : WithdrawReasons) : Op sys Unit :=
  if amount = 0 ∨ reasons.isEmpty then return ()
  else do
    let newLock : BalanceLock := ⟨id, amount, .ofWithdrawReasons reasons⟩
    let extended (l : BalanceLock) : BalanceLock :=
      ⟨l.id, max l.amount newLock.amount, l.reasons.union newLock.reasons⟩
    updateLocks cfg who (replaceLock id extended (some newLock) ((← get).locksOf who))

def removeLock (cfg : Config) (id : LockIdentifier) (who : AccountId) : Op sys Unit := do
  updateLocks cfg who (((← get).locksOf who).filter fun l => l.id ≠ id)

end Locks

/-! ## Freezing leaves the balances alone -/

section Freeze

variable (account : AccountData) (l : BalanceLock)

@[simp] theorem freeze_free : (freeze account l).free = account.free := by
  unfold freeze
  split_ifs <;> rfl

@[simp] theorem freeze_reserved : (freeze account l).reserved = account.reserved := by
  unfold freeze
  split_ifs <;> rfl

theorem foldl_freeze (locks : List BalanceLock) :
    (locks.foldl freeze account).free = account.free ∧
      (locks.foldl freeze account).reserved = account.reserved := by
  induction locks generalizing account with
  | nil => exact ⟨rfl, rfl⟩
  | cons l locks ih =>
      obtain ⟨hfree, hreserved⟩ := ih (freeze account l)
      rw [List.foldl_cons, hfree, hreserved, freeze_free, freeze_reserved]
      exact ⟨rfl, rfl⟩

end Freeze

end HydraDX.PalletBalances
