import HydraDX.PalletBalances.Fungible
import HydraDX.Payment.Pallet

set_option autoImplicit false

/-! # The calls and the genesis

The dispatchables. `transfer` and `transfer_keep_alive` ask for the root origin and then for a
signed one. -/

namespace HydraDX.PalletBalances

open Balances (ExistenceRequirement NegativeImbalance PositiveImbalance)
open Payment (Origin)

variable {AccountId : Type} {sys : AccountStore AccountId}

/-! ## Dispatchables -/

def ensureRoot : Origin AccountId → Except Failure Unit
  | .Root => .ok ()
  | _ => .error (.dispatch .BadOrigin)

def ensureSigned (origin : Origin AccountId) : Except Failure AccountId :=
  origin.signedOr (.dispatch .BadOrigin)

/-- `StaticLookup::lookup` is the identity of the account. -/
def transferCall [DecidableEq AccountId] (cfg : Config) (origin : Origin AccountId)
    (dest : AccountId) (value : Nat) : Op sys Unit := do
  ensureRoot origin
  let transactor ← ensureSigned origin
  transfer cfg transactor dest value .AllowDeath

/-- Drop the imbalance between an old and a new balance. -/
def square (old new : Nat) : Op sys Unit :=
  if new > old then dropped (⟨new - old⟩ : PositiveImbalance)
  else if new < old then dropped (⟨old - new⟩ : NegativeImbalance)
  else return ()

/-- The imbalances are dropped before the account is stored. -/
def setBalanceClosure (newFree newReserved : Nat) (account : AccountData) :
    Op sys ((Nat × Nat) × AccountData) := do
  square account.free newFree
  square account.reserved newReserved
  return ((newFree, newReserved), { account with free := newFree, reserved := newReserved })

def setBalance (cfg : Config) (origin : Origin AccountId) (who : AccountId)
    (newFree newReserved : Nat) : Op sys Unit := do
  ensureRoot origin
  let whole ← plus cfg newFree newReserved
  let wipeout := whole < cfg.existentialDeposit
  let newFree := if wipeout then 0 else newFree
  let newReserved := if wipeout then 0 else newReserved
  let (free, reserved) ← mutateAccount cfg who fun account =>
    setBalanceClosure newFree newReserved account
  depositEvent (.BalanceSet who free reserved)

def forceTransfer [DecidableEq AccountId] (cfg : Config) (origin : Origin AccountId)
    (source dest : AccountId) (value : Nat) : Op sys Unit := do
  ensureRoot origin
  transfer cfg source dest value .AllowDeath

def transferKeepAlive [DecidableEq AccountId] (cfg : Config) (origin : Origin AccountId)
    (dest : AccountId) (value : Nat) : Op sys Unit := do
  ensureRoot origin
  let transactor ← ensureSigned origin
  transfer cfg transactor dest value .KeepAlive

/-! ## Genesis -/

structure GenesisConfig (AccountId : Type) where
  balances : List (AccountId × Nat)

/-- `AccountStore::insert` -/
def insertAccount (who : AccountId) (data : AccountData) : Op sys Unit :=
  tryMutateExists who fun _ => return ((), some data)

/-- `build`. A failed assertion ends it. -/
def GenesisConfig.build [DecidableEq AccountId] (cfg : Config) (g : GenesisConfig AccountId) :
    Op sys Unit := do
  let total ← (g.balances.foldlM (fun acc entry => plus cfg acc entry.2) 0 : Except Failure Nat)
  setTotalIssuance total
  ensure (∀ entry ∈ g.balances, entry.2 ≥ cfg.existentialDeposit) (Failure.panic .expectFailed)
  ensure (g.balances.map Prod.fst).Nodup (Failure.panic .expectFailed)
  g.balances.forM fun entry => insertAccount entry.1 { (default : AccountData) with free := entry.2 }

end HydraDX.PalletBalances
