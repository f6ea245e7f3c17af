import HydraDX.PalletBalances.Calls
import HydraDX.PalletBalances.Lockable
import HydraDX.PalletBalances.System
import HydraDX.Lib.Histories
import Mathlib.Data.Multiset.AddSub

set_option autoImplicit false

/-! # Runs of the pallet

An `Operation` is one call of the pallet, made by the runtime or dispatched. It returns the
imbalances it has created, which somebody holds from then on. The `World` is the storage of the
pallet together with the imbalances that are held. Operations are made in any order, and between
them imbalances are split, merged, offset and dropped in any order. What a failing operation has
written stays; a panic stops the block, so that nothing is written. -/

namespace HydraDX

namespace Balances.PositiveImbalance

def split (imbalance : PositiveImbalance) (amount : Nat) : PositiveImbalance × PositiveImbalance :=
  let first := min imbalance.amount amount
  (⟨first⟩, ⟨imbalance.amount - first⟩)

/-- The sum of the two, with `saturating_add`. -/
def merge (imbalance other : PositiveImbalance) : PositiveImbalance :=
  ⟨min (imbalance.amount + other.amount) (balanceBound - 1)⟩

def offset (imbalance : PositiveImbalance) (other : NegativeImbalance) :
    SameOrOther PositiveImbalance NegativeImbalance :=
  if other.amount < imbalance.amount then .same ⟨imbalance.amount - other.amount⟩
  else if imbalance.amount < other.amount then .other ⟨other.amount - imbalance.amount⟩
  else .none

end Balances.PositiveImbalance

namespace PalletBalances

open Balances (WithdrawReasons ExistenceRequirement NegativeImbalance PositiveImbalance)
open Payment (Origin)

variable {AccountId : Type} {sys : AccountStore AccountId}

inductive Operation (AccountId : Type) where
  -- `Currency`
  | transfer (transactor dest : AccountId) (value : Nat) (requirement : ExistenceRequirement)
  | slash (who : AccountId) (value : Nat)
  | depositIntoExisting (who : AccountId) (value : Nat)
  | depositCreating (who : AccountId) (value : Nat)
  | withdraw (who : AccountId) (value : Nat) (reasons : WithdrawReasons)
      (liveness : ExistenceRequirement)
  | makeFreeBalanceBe (who : AccountId) (value : Nat)
  | burn (amount : Nat)
  | issue (amount : Nat)
  -- `ReservableCurrency`
  | reserve (who : AccountId) (value : Nat)
  | unreserve (who : AccountId) (value : Nat)
  | slashReserved (who : AccountId) (value : Nat)
  | repatriateReserved (slashed beneficiary : AccountId) (value : Nat) (status : BalanceStatus)
  -- `LockableCurrency`
  | setLock (id : LockIdentifier) (who : AccountId) (amount : Nat) (reasons : WithdrawReasons)
  | extendLock (id : LockIdentifier) (who : AccountId) (amount : Nat) (reasons : WithdrawReasons)
  | removeLock (id : LockIdentifier) (who : AccountId)
  -- `fungible`
  | mintInto (who : AccountId) (amount : Nat)
  | burnFrom (who : AccountId) (amount : Nat)
  | transferFungible (source dest : AccountId) (amount : Nat) (keepAlive : Bool)
  | setFreeBalance (who : AccountId) (amount : Nat)
  | setTotalIssuance (amount : Nat)
  | hold (who : AccountId) (amount : Nat)
  | release (who : AccountId) (amount : Nat) (bestEffort : Bool)
  | transferHeld (source dest : AccountId) (amount : Nat) (bestEffort onHold : Bool)
  -- dispatchables
  | transferCall (origin : Origin AccountId) (dest : AccountId) (value : Nat)
  | setBalance (origin : Origin AccountId) (who : AccountId) (newFree newReserved : Nat)
  | forceTransfer (origin : Origin AccountId) (source dest : AccountId) (value : Nat)
  | transferKeepAlive (origin : Origin AccountId) (dest : AccountId) (value : Nat)

/-- The imbalances that an operation returns. -/
structure Imbalances where
  positive : List PositiveImbalance
  negative : List NegativeImbalance
  deriving DecidableEq, Repr

def Imbalances.none : Imbalances := ⟨[], []⟩

def SignedImbalance.held : SignedImbalance → Imbalances
  | .Positive p => ⟨[p], []⟩
  | .Negative n => ⟨[], [n]⟩

/-- An operation that returns something else than imbalances. -/
def Op.quiet {α : Type} (x : Op sys α) : Op sys Imbalances := do
  let _ ← x
  return .none

namespace Operation

variable [DecidableEq AccountId] (cfg : Config)

def apply : Operation AccountId → Op sys Imbalances
  | .transfer transactor dest value requirement =>
      Op.quiet (PalletBalances.transfer cfg transactor dest value requirement)
  | .slash who value => do
      let (n, _) ← PalletBalances.slash cfg who value
      return ⟨[], [n]⟩
  | .depositIntoExisting who value => do
      let p ← PalletBalances.depositIntoExisting cfg who value
      return ⟨[p], []⟩
  | .depositCreating who value => do
      let p ← PalletBalances.depositCreating cfg who value
      return ⟨[p], []⟩
  | .withdraw who value reasons liveness => do
      let n ← PalletBalances.withdraw cfg who value reasons liveness
      return ⟨[], [n]⟩
  | .makeFreeBalanceBe who value => do
      let r ← PalletBalances.makeFreeBalanceBe cfg who value
      return r.held
  | .burn amount => do
      let p ← PalletBalances.burn amount
      return ⟨[p], []⟩
  | .issue amount => do
      let n ← PalletBalances.issue amount
      return ⟨[], [n]⟩
  | .reserve who value => Op.quiet (PalletBalances.reserve cfg who value)
  | .unreserve who value => Op.quiet (PalletBalances.unreserve cfg who value)
  | .slashReserved who value => do
      let (n, _) ← PalletBalances.slashReserved cfg who value
      return ⟨[], [n]⟩
  | .repatriateReserved slashed beneficiary value status =>
      Op.quiet (PalletBalances.repatriateReserved cfg slashed beneficiary value status)
  | .setLock id who amount reasons => Op.quiet (PalletBalances.setLock cfg id who amount reasons)
  | .extendLock id who amount reasons =>
      Op.quiet (PalletBalances.extendLock cfg id who amount reasons)
  | .removeLock id who => Op.quiet (PalletBalances.removeLock cfg id who)
  | .mintInto who amount => Op.quiet (PalletBalances.mintInto cfg who amount)
  | .burnFrom who amount => Op.quiet (PalletBalances.burnFrom cfg who amount)
  | .transferFungible source dest amount keepAlive =>
      Op.quiet (PalletBalances.transferFungible cfg source dest amount keepAlive)
  | .setFreeBalance who amount => Op.quiet (PalletBalances.setFreeBalance cfg who amount)
  | .setTotalIssuance amount => Op.quiet (PalletBalances.setTotalIssuance amount)
  | .hold who amount => Op.quiet (PalletBalances.hold cfg who amount)
  | .release who amount bestEffort => Op.quiet (PalletBalances.release cfg who amount bestEffort)
  | .transferHeld source dest amount bestEffort onHold =>
      Op.quiet (PalletBalances.transferHeld cfg source dest amount bestEffort onHold)
  | .transferCall origin dest value =>
      Op.quiet (PalletBalances.transferCall cfg origin dest value)
  | .setBalance origin who newFree newReserved =>
      Op.quiet (PalletBalances.setBalance cfg origin who newFree newReserved)
  | .forceTransfer origin source dest value =>
      Op.quiet (PalletBalances.forceTransfer cfg origin source dest value)
  | .transferKeepAlive origin dest value =>
      Op.quiet (PalletBalances.transferKeepAlive cfg origin dest value)

end Operation

/-! ## The imbalances that are held -/

/-- The pallet, and the imbalances that somebody holds. -/
structure World (sys : AccountStore AccountId) where
  pallet : Storage sys
  positive : Multiset PositiveImbalance
  negative : Multiset NegativeImbalance

/-- A step of the runtime: an operation, or what it does to the imbalances it holds. -/
inductive Action (AccountId : Type) where
  | operate (op : Operation AccountId)
  | dropPositive (p : PositiveImbalance)
  | dropNegative (n : NegativeImbalance)
  | splitPositive (p : PositiveImbalance) (amount : Nat)
  | splitNegative (n : NegativeImbalance) (amount : Nat)
  | mergePositive (p other : PositiveImbalance)
  | mergeNegative (n other : NegativeImbalance)
  | offsetPositive (p : PositiveImbalance) (n : NegativeImbalance)
  | offsetNegative (n : NegativeImbalance) (p : PositiveImbalance)

namespace World

/-- Give an imbalance for others. -/
def exchange (w : World sys) (ps ps' : Multiset PositiveImbalance)
    (ns ns' : Multiset NegativeImbalance) : World sys :=
  { w with positive := w.positive - ps + ps', negative := w.negative - ns + ns' }

def operate [DecidableEq AccountId] (cfg : Config) (w : World sys) (op : Operation AccountId) :
    World sys :=
  match Dispatch.exec (op.apply cfg) w.pallet with
  | (.ok created, pallet) =>
      ⟨pallet, w.positive + created.positive, w.negative + created.negative⟩
  | (.error (.dispatch _), pallet) => { w with pallet }
  | (.error (.panic _), _) => w

/-- An action on imbalances that are not held does nothing. -/
def step [DecidableEq AccountId] (cfg : Config) (w : World sys) : Action AccountId → World sys
  | .operate op => w.operate cfg op
  | .dropPositive p =>
      if p ∈ w.positive then
        { w.exchange {p} 0 0 0 with pallet := w.pallet.dropPositive p }
      else w
  | .dropNegative n =>
      if n ∈ w.negative then
        { w.exchange 0 0 {n} 0 with pallet := w.pallet.dropNegative n }
      else w
  | .splitPositive p amount =>
      if p ∈ w.positive then w.exchange {p} {(p.split amount).1, (p.split amount).2} 0 0 else w
  | .splitNegative n amount =>
      if n ∈ w.negative then w.exchange 0 0 {n} {(n.split amount).1, (n.split amount).2} else w
  | .mergePositive p other =>
      if {p, other} ≤ w.positive then w.exchange {p, other} {p.merge other} 0 0 else w
  | .mergeNegative n other =>
      if {n, other} ≤ w.negative then w.exchange 0 0 {n, other} {n.merge other} else w
  | .offsetPositive p n =>
      if p ∈ w.positive ∧ n ∈ w.negative then
        match p.offset n with
        | .none => w.exchange {p} 0 {n} 0
        | .same p' => w.exchange {p} {p'} {n} 0
        | .other n' => w.exchange {p} 0 {n} {n'}
      else w
  | .offsetNegative n p =>
      if p ∈ w.positive ∧ n ∈ w.negative then
        match n.offset p with
        | .none => w.exchange {p} 0 {n} 0
        | .same n' => w.exchange {p} 0 {n} {n'}
        | .other p' => w.exchange {p} {p'} {n} 0
      else w

end World

/-! ## The first storage -/

/-- Nothing is stored. -/
structure Fresh (s : Storage sys) : Prop where
  accounts : ∀ who, sys.get s.accounts who = none
  locks : ∀ who, s.locks who = none

theorem Fresh.account {s : Storage sys} (h : Fresh s) (who : AccountId) : s.account who = default := by
  rw [Storage.account, h.accounts who]
  rfl

namespace Dev

def cfg (existentialDeposit : Nat) (h : existentialDeposit < balanceBound) : Config :=
  ⟨existentialDeposit, h, true⟩

/-- The constants of the runtime. -/
def runtime : Config := cfg 0 (by decide)

/-- An existential deposit of ten. -/
def dear : Config := cfg 10 (by decide)

section

variable {AccountId : Type} [DecidableEq AccountId]

def empty : Storage (System : AccountStore AccountId) :=
  ⟨fun _ => default, 0, fun _ => none, []⟩

theorem fresh : Fresh (empty : Storage (System : AccountStore AccountId)) :=
  ⟨fun _ => rfl, fun _ => rfl⟩

end

/-- Account `1` alone has something. -/
def alone (consumers free reserved : Nat) : Storage (System : AccountStore Nat) :=
  { empty with
    accounts := Function.update (fun _ => default) 1 ⟨consumers, 1, ⟨free, reserved, 0, 0⟩⟩
    totalIssuance := free + reserved }

theorem alone_get_of_ne {consumers free reserved who : Nat} (h : who ≠ 1) :
    System.get (alone consumers free reserved).accounts who = none := by
  have haccount : (alone consumers free reserved).accounts who = default := by
    show Function.update (fun _ : Nat => (default : AccountInfo)) 1 _ who = default
    exact Function.update_of_ne h _ _
  show ((alone consumers free reserved).accounts who).stored = none
  rw [haccount]
  rfl

end Dev

end PalletBalances

end HydraDX
