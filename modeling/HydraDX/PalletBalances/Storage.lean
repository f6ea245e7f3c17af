import HydraDX.Imbalances
import HydraDX.Lib.Dispatch

set_option autoImplicit false

/-! # The storage of the balances pallet

`pallets/balances/src/lib.rs` as a whole, for any existential deposit. The files of this
directory model the pallet on its own storage; `Balances.lean` and `Imbalances.lean` have what
the other pallets see of it on a ledger, with the existential deposit of the runtime, and
`PalletBalances/Refines.lean` connects the two.

The data of the accounts are kept outside of the pallet (`T::AccountStore`), by `System` in the
runtime. Storing data always succeeds. Removing an account may be refused, which is what
`frame_system` does while something else refers to the account. So a mutation has three ends:
the account is written, the closure fails, or the store refuses. In the last case what the
closure has returned is dropped, and dropping an imbalance changes the total issuance.

`DustRemoval` is `()`, as in the runtime: dust is dropped. -/

namespace HydraDX

open Balances (WithdrawReasons Reasons ExistenceRequirement NegativeImbalance PositiveImbalance)

namespace Balances

def WithdrawReasons.TRANSFER : WithdrawReasons := ⟨false, true, false, false, false⟩

def WithdrawReasons.RESERVE : WithdrawReasons := ⟨false, false, true, false, false⟩

def WithdrawReasons.isEmpty (r : WithdrawReasons) : Bool :=
  !(r.transactionPayment || r.transfer || r.reserve || r.fee || r.tip)

/-- `BitOr` -/
def Reasons.union (r r' : Reasons) : Reasons := if r = r' then r else .All

end Balances

namespace PalletBalances

/-! ## Accounts, locks and errors -/

/-- `saturating_add` of `u128` -/
def saturatingAdd (a b : Nat) : Nat := min (a + b) (balanceBound - 1)

structure AccountData where
  free : Nat
  reserved : Nat
  miscFrozen : Nat
  feeFrozen : Nat
  deriving DecidableEq, Repr, Inhabited

namespace AccountData

/-- What the free balance may not fall below. -/
def frozen (account : AccountData) : Reasons → Nat
  | .All => max account.miscFrozen account.feeFrozen
  | .Misc => account.miscFrozen
  | .Fee => account.feeFrozen

def usable (account : AccountData) (reasons : Reasons) : Nat :=
  account.free - account.frozen reasons

def total (account : AccountData) : Nat := saturatingAdd account.free account.reserved

end AccountData

abbrev LockIdentifier := Vector UInt8 8

structure BalanceLock where
  id : LockIdentifier
  amount : Nat
  reasons : Reasons
  deriving DecidableEq, Repr

/-- The errors of the pallet. -/
inductive Error where
  | VestingBalance
  | LiquidityRestrictions
  | Overflow
  | InsufficientBalance
  | ExistentialDeposit
  | KeepAlive
  | ExistingVestingSchedule
  | DeadAccount
  deriving DecidableEq, Repr

inductive StoredMapError where
  | NoProviders
  | ConsumerRemaining
  deriving DecidableEq, Repr

inductive TokenError where
  | NoFunds
  | WouldDie
  | BelowMinimum
  | Frozen
  deriving DecidableEq, Repr

inductive ArithmeticError where
  | Underflow
  | Overflow
  deriving DecidableEq, Repr

inductive DispatchError where
  | BadOrigin
  | Store (error : StoredMapError)
  | Token (error : TokenError)
  | Arithmetic (error : ArithmeticError)
  | Module (error : Error)
  deriving DecidableEq, Repr

/-- A call fails with an error, which a caller can handle, or it stops the block. -/
inductive Failure where
  | dispatch (error : DispatchError)
  | panic (panic : Panic)
  deriving DecidableEq, Repr

/-- An error of the pallet as a failure. -/
def Error.fail (error : Error) : Failure := .dispatch (.Module error)

inductive Event (AccountId : Type) where
  | Endowed (who : AccountId) (free : Nat)
  | DustLost (who : AccountId) (balance : Nat)
  | Transfer (source dest : AccountId) (value : Nat)
  | BalanceSet (who : AccountId) (free reserved : Nat)
  | Deposit (who : AccountId) (deposit : Nat)
  | Reserved (who : AccountId) (value : Nat)
  | Unreserved (who : AccountId) (value : Nat)
  | ReserveRepatriated (source dest : AccountId) (balance : Nat) (status : BalanceStatus)
  deriving DecidableEq, Repr

/-- The constants of the runtime. `MaxLocks` is only compared for a warning in the log. -/
structure Config where
  existentialDeposit : Nat
  existentialDeposit_lt : existentialDeposit < balanceBound
  overflowChecks : Bool

def plus (cfg : Config) (a b : Nat) : Except Failure Nat :=
  (addBalance cfg.overflowChecks a b).mapError .panic

def minus (cfg : Config) (a b : Nat) : Except Failure Nat :=
  (subBalance cfg.overflowChecks a b).mapError .panic

theorem plus_of_lt {cfg : Config} {a b : Nat} (h : a + b < balanceBound) :
    plus cfg a b = .ok (a + b) := by
  rw [plus, addBalance_of_lt h]
  rfl

theorem minus_of_le {cfg : Config} {a b : Nat} (h : b ≤ a) : minus cfg a b = .ok (a - b) := by
  rw [minus, subBalance_of_le h]
  rfl

/-! ## The account store -/

/-- `T::AccountStore`, a `StoredMap`, with the reference counters of `frame_system` that the
pallet reads and writes. An account without data has none to read. -/
structure AccountStore (AccountId : Type) where
  Accounts : Type
  get : Accounts → AccountId → Option AccountData
  set : AccountId → Option AccountData → Accounts → Except StoredMapError Accounts
  canDecProvider : Accounts → AccountId → Bool
  isProviderRequired : Accounts → AccountId → Bool
  incConsumers : AccountId → Accounts → Accounts
  decConsumers : AccountId → Accounts → Accounts
  /-- Data can always be stored. Data that are all zero need not count as stored. -/
  set_some : ∀ a who d, ∃ a', set who (some d) a = .ok a' ∧ (get a' who).getD default = d
  get_set_none : ∀ {a a' who}, set who none a = .ok a' → get a' who = none
  get_set_of_ne : ∀ {a a' who w d}, set who d a = .ok a' → w ≠ who → get a' w = get a w
  canDecProvider_set_of_ne : ∀ {a a' who w d}, set who d a = .ok a' → w ≠ who →
    canDecProvider a' w = canDecProvider a w
  /-- There is nothing to refuse where there is no account, -/
  set_none_of_absent : ∀ {a who}, get a who = none → ∃ a', set who none a = .ok a'
  /-- and a removal is not refused where the pallet is not needed as a provider. -/
  set_none_of_canDec : ∀ {a who}, canDecProvider a who = true → ∃ a', set who none a = .ok a'
  canDec_of_not_required : ∀ {a who}, isProviderRequired a who = false →
    canDecProvider a who = true
  get_incConsumers : ∀ a who, get (incConsumers who a) = get a
  get_decConsumers : ∀ a who, get (decConsumers who a) = get a

variable {AccountId : Type}

/-- The storage of the pallet. -/
structure Storage (sys : AccountStore AccountId) where
  accounts : sys.Accounts
  totalIssuance : Nat
  locks : AccountId → Option (List BalanceLock)
  events : List (Event AccountId)

variable {sys : AccountStore AccountId}

/-- `Self::account` -/
def Storage.account (s : Storage sys) (who : AccountId) : AccountData :=
  (sys.get s.accounts who).getD default

def Storage.depositEvent (s : Storage sys) (event : Event AccountId) : Storage sys :=
  { s with events := s.events ++ [event] }

/-- A call on the storage of the pallet. What it has written stays if it fails. -/
abbrev Op (sys : AccountStore AccountId) (α : Type) := Dispatch (Storage sys) Failure α

def depositEvent (event : Event AccountId) : Op sys Unit := modify (·.depositEvent event)

end PalletBalances

end HydraDX
