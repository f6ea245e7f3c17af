import HydraDX.Claims.Message
import HydraDX.Imbalances
import HydraDX.Payment.Pallet
import HydraDX.Lib.Dispatch
import HydraDX.Lib.Entries

set_option autoImplicit false

/-! # The claims pallet

`pallets/claims/src/lib.rs`. The holder of an Ethereum address that is entitled to an amount of the
native currency claims it for an account, with a signature of that account.

The call is not transactional. It first deposits the amount, and infers from the imbalance that the
deposit returns whether it was made; then it clears the claim. The imbalance is dropped when the
call ends, which squares up the total issuance. -/

namespace HydraDX.Claims

open Payment (Origin)
open Balances Dispatch

/-! ## Storage -/

inductive Error where
  | InvalidEthereumSignature
  | NoClaimOrAlreadyClaimed
  | BalanceOverflow
  deriving DecidableEq, Repr

inductive Failure where
  | claims (error : Error)
  | badOrigin
  deriving DecidableEq, Repr

inductive Event (AccountId : Type) where
  | Claim (who : AccountId) (address : EthereumAddress) (amount : Nat)
  deriving DecidableEq

structure PalletVersion where
  major : UInt16
  minor : UInt8
  patch : UInt8
  deriving DecidableEq, Repr

/-- The storage of the pallet, over the balances. An address without an entry has a claim of
zero. -/
structure Storage (AccountId : Type) where
  ledger : Ledger AssetId AccountId
  claims : EthereumAddress → Nat
  storageVersion : Option PalletVersion
  events : List (Event AccountId)

/-- What the pallet is instantiated with: the native asset, the prefix of a signed message, the
encoding of an account, and the host functions. -/
structure Params (AccountId : Type) where
  native : AssetId
  pfx : List UInt8
  encode : AccountId → List UInt8
  crypto : Crypto

/-! ## Genesis -/

/-- `*amount += *initial_balance` in the entry of an address. -/
def addClaim (overflowChecks : Bool) (claims : EthereumAddress → Nat)
    (entry : EthereumAddress × Nat) : Except Panic (EthereumAddress → Nat) := do
  let amount ← addBalance overflowChecks (claims entry.1) entry.2
  return Function.update claims entry.1 amount

structure GenesisConfig where
  claims : List (EthereumAddress × Nat)

def GenesisConfig.build (overflowChecks : Bool) (g : GenesisConfig) :
    Except Panic (EthereumAddress → Nat) :=
  g.claims.foldlM (addClaim overflowChecks) (fun _ => 0)

theorem foldlM_addClaim {checks : Bool} {entries : List (EthereumAddress × Nat)}
    {claims : EthereumAddress → Nat}
    (hfits : ∀ a, claims a + Entries.total entries a < balanceBound) :
    entries.foldlM (addClaim checks) claims
      = .ok fun a => claims a + Entries.total entries a := by
  induction entries generalizing claims with
  | nil => rfl
  | cons e entries ih =>
      have hself : Entries.amountFor e.1 e = e.2 := if_pos rfl
      have hfirst : claims e.1 + e.2 < balanceBound := by
        have h := hfits e.1
        rw [Entries.total_cons, hself] at h
        omega
      have hadd : addClaim checks claims e
          = .ok (Function.update claims e.1 (claims e.1 + e.2)) := by
        rw [addClaim, addBalance_of_lt hfirst]
        rfl
      have hsum : ∀ a, Function.update claims e.1 (claims e.1 + e.2) a + Entries.total entries a
          = claims a + Entries.total (e :: entries) a := by
        intro a
        rw [Entries.update_add, Entries.total_cons]
        exact Nat.add_assoc _ _ _
      rw [List.foldlM_cons, hadd]
      show entries.foldlM (addClaim checks) (Function.update claims e.1 (claims e.1 + e.2)) = _
      rw [ih fun a => by rw [hsum]; exact hfits a]
      exact congrArg Except.ok (funext hsum)

/-- **The genesis gives every address the sum of its entries**, if the sums fit. -/
theorem GenesisConfig.build_eq {checks : Bool} {g : GenesisConfig}
    (hfits : ∀ a, Entries.total g.claims a < balanceBound) :
    g.build checks = .ok (Entries.total g.claims) := by
  unfold GenesisConfig.build
  rw [foldlM_addClaim fun a => by rw [Nat.zero_add]; exact hfits a]
  simp only [Nat.zero_add]

/-! ## Calls -/

variable {AccountId : Type} [DecidableEq AccountId] (cfg : Params AccountId)

/-- The address that has signed for the account. -/
def signer (who : AccountId) (signature : EcdsaSignature) : Option EthereumAddress :=
  signature.recover cfg.crypto (toAsciiHex (cfg.encode who)) cfg.pfx

def validateClaim (who : AccountId) (signature : EcdsaSignature) (s : Storage AccountId) :
    Except Failure (Nat × EthereumAddress) :=
  match signer cfg who signature with
  | some address =>
      let balanceDue := s.claims address
      if balanceDue = 0 then .error (.claims .NoClaimOrAlreadyClaimed)
      else .ok (balanceDue, address)
  | none => .error (.claims .InvalidEthereumSignature)

/-- The imbalance goes out of scope, and is dropped, when the function returns. -/
def dropImbalance (imbalance : PositiveImbalance) : Dispatch (Storage AccountId) Failure Unit :=
  modify fun s => { s with ledger := imbalance.drop cfg.native s.ledger }

def processClaim (dest : AccountId) (balanceDue : Nat) (address : EthereumAddress) :
    Dispatch (Storage AccountId) Failure Unit := do
  let (imbalance, l) := depositCreating cfg.native dest balanceDue (← get).ledger
  modify fun s => { s with ledger := l }
  if imbalance.peek = PositiveImbalance.zero.peek then
    dropImbalance cfg imbalance
    throw (.claims .BalanceOverflow)
  modify fun s => { s with claims := Function.update s.claims address 0 }
  modify fun s => { s with events := s.events ++ [.Claim dest address balanceDue] }
  dropImbalance cfg imbalance

def claim (origin : Origin AccountId) (ethereumSignature : EcdsaSignature) :
    Dispatch (Storage AccountId) Failure Unit := do
  let sender ← origin.signedOr Failure.badOrigin
  let s ← get
  let (balanceDue, address) ← validateClaim cfg sender ethereumSignature s
  processClaim cfg sender balanceDue address

/-! ## What a claim does -/

section Specs

variable {cfg} {s : Storage AccountId} {who : AccountId} {origin : Origin AccountId}
  {signature : EcdsaSignature} {address : EthereumAddress} {due : Nat}

/-- The storage after a claim has been paid. -/
def Storage.paid (native : AssetId) (s : Storage AccountId) (who : AccountId)
    (address : EthereumAddress) : Storage AccountId :=
  { s with
    ledger := s.ledger.mint native who (s.claims address)
    claims := Function.update s.claims address 0
    events := s.events ++ [.Claim who address (s.claims address)] }

omit [DecidableEq AccountId] in
/-- What is due is the claim of the address that signed. -/
theorem validateClaim_ok (h : validateClaim cfg who signature s = .ok (due, address)) :
    signer cfg who signature = some address ∧ due = s.claims address := by
  unfold validateClaim at h
  cases hsigner : signer cfg who signature with
  | none =>
      rw [hsigner] at h
      cases h
  | some address' =>
      rw [hsigner] at h
      simp only at h
      split_ifs at h
      cases h
      exact ⟨rfl, rfl⟩

/-- A claim is paid in full and cleared, or nothing happens. -/
theorem processClaim_cases (hfits : s.ledger.issuance cfg.native + due < balanceBound) :
    (due ≠ 0 ∧ exec (processClaim cfg who due address) s =
      (.ok (), { s with
        ledger := s.ledger.mint cfg.native who due
        claims := Function.update s.claims address 0
        events := s.events ++ [.Claim who address due] })) ∨
    exec (processClaim cfg who due address) s = (.error (.claims .BalanceOverflow), s) := by
  unfold processClaim
  rw [exec_get_bind]
  have hdeposit :
      (due ≠ 0 ∧ depositCreating cfg.native who due s.ledger
        = (⟨due⟩, s.ledger.give cfg.native who due)) ∨
      depositCreating cfg.native who due s.ledger = (.zero, s.ledger) :=
    depositCreating_cases who due s.ledger
  rcases hdeposit with ⟨hdue, hd⟩ | hd
  · left
    refine ⟨hdue, ?_⟩
    have hpeek : ¬ (⟨due⟩ : PositiveImbalance).peek = PositiveImbalance.zero.peek := hdue
    rw [hd]
    simp only [if_neg hpeek]
    rw [← give_drop hfits]
    rfl
  · right
    have hzero : s.ledger = PositiveImbalance.zero.drop cfg.native s.ledger :=
      (drop_zero (by omega)).symm
    rw [hd]
    simp only [if_true]
    show (_, { s with ledger := PositiveImbalance.zero.drop cfg.native s.ledger }) = (_, s)
    rw [← hzero]

/-- **A claim**: it is refused and nothing has changed, or the address that signed is paid what it
is entitled to. No sum overflows. -/
theorem claim_cases (hfits : ∀ e, s.ledger.issuance cfg.native + s.claims e < balanceBound)
    (origin : Origin AccountId) (signature : EcdsaSignature) :
    (∃ e, exec (claim cfg origin signature) s = (.error e, s)) ∨
    (∃ who address, origin = .Signed who ∧ signer cfg who signature = some address ∧
      exec (claim cfg origin signature) s = (.ok (), s.paid cfg.native who address)) := by
  unfold claim
  cases origin with
  | Root => exact Or.inl ⟨.badOrigin, rfl⟩
  | None => exact Or.inl ⟨.badOrigin, rfl⟩
  | Signed who =>
      rw [exec_lift_bind_of_ok (Payment.Origin.signedOr_signed _ who), exec_get_bind]
      cases hvalid : validateClaim cfg who signature s with
      | error e =>
          left
          exact ⟨e, exec_lift_bind_of_error rfl⟩
      | ok due =>
          obtain ⟨balanceDue, address⟩ := due
          obtain ⟨hsigner, rfl⟩ := validateClaim_ok hvalid
          rw [exec_lift_bind_of_ok rfl]
          rcases processClaim_cases (hfits address) with ⟨-, hpaid⟩ | hfailed
          · exact Or.inr ⟨who, address, rfl, hsigner, hpaid⟩
          · exact Or.inl ⟨_, hfailed⟩

end Specs

end HydraDX.Claims
