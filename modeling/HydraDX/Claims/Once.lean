import HydraDX.Claims.Migration
import HydraDX.Lib.Histories

set_option autoImplicit false

/-! # Claims are paid once

Claims by anybody with any signatures, in any order, and runtime upgrades in between. Once the
version of the pallet is stored, an upgrade imports nothing. A claim that succeeds pays what the
address is entitled to and clears it; one that fails has changed nothing, although the pallet
deposits before it checks. What is issued and what is still to be claimed add up to the same at all
times, and this sum is assumed to fit into a balance. -/

namespace HydraDX.Claims

open Payment (Origin)
open Dispatch Histories

inductive Call (AccountId : Type) where
  | claim (origin : Origin AccountId) (signature : EcdsaSignature)
  | onRuntimeUpgrade

/-- The pallet in its runtime: its parameters, those of the migration, and the table. -/
structure Runtime (AccountId : Type) where
  cfg : Params AccountId
  hex : HexCrate
  readsWrites : Nat → Nat → Nat
  claimsData : List (List Char × Nat)

variable {AccountId : Type} [DecidableEq AccountId] (rt : Runtime AccountId)

/-- `on_runtime_upgrade`. A panic stops the block, so that nothing is stored. -/
def onRuntimeUpgrade (s : Storage AccountId) : Storage AccountId :=
  match importInitialClaims rt.hex rt.readsWrites rt.claimsData s with
  | .ok (_, s') => s'
  | .error _ => s

/-- The storage after a call, whether it succeeds or not. -/
def after (s : Storage AccountId) : Call AccountId → Storage AccountId
  | .claim origin signature => (exec (claim rt.cfg origin signature) s).2
  | .onRuntimeUpgrade => onRuntimeUpgrade rt s

/-- What a call credits to its sender, if it is a successful claim signed by the address. -/
def creditedBy (address : EthereumAddress) (s : Storage AccountId) : Call AccountId → Nat
  | .claim (.Signed who) signature =>
      match (exec (claim rt.cfg (.Signed who) signature) s).1 with
      | .ok _ =>
          if signer rt.cfg who signature = some address then
            (after rt s (.claim (.Signed who) signature)).ledger.free rt.cfg.native who
              - s.ledger.free rt.cfg.native who
          else 0
      | .error _ => 0
  | .claim .Root _ => 0
  | .claim .None _ => 0
  | .onRuntimeUpgrade => 0

/-- What the successful claims of an address credit in a history. -/
def credited (address : EthereumAddress) : Storage AccountId → List (Call AccountId) → Nat
  | _, [] => 0
  | s, x :: calls => creditedBy rt address s x + credited address (after rt s x) calls

/-- What is issued of the native currency, and what is still to be claimed. -/
noncomputable def issuedOrDue (s : Storage AccountId) : Nat :=
  s.ledger.issuance rt.cfg.native + Entries.sum s.claims

/-- The states that are reached: the version is stored, and nothing can overflow. -/
structure Sound (s : Storage AccountId) : Prop where
  version : s.storageVersion ≠ none
  finite : Function.HasFiniteSupport s.claims
  fits : issuedOrDue rt s < balanceBound

/-- A claim that fails leaves balances, issuance and claims as they are. -/
def FailsClean (s : Storage AccountId) (x : Call AccountId) : Prop :=
  ∀ origin signature e s', x = .claim origin signature →
    exec (claim rt.cfg origin signature) s = (.error e, s') →
    s'.ledger = s.ledger ∧ s'.claims = s.claims

variable {rt} {s : Storage AccountId} {x : Call AccountId} {address : EthereumAddress}

/-! ## One call -/

omit [DecidableEq AccountId] in
theorem Sound.claim_fits (h : Sound rt s) (e : EthereumAddress) :
    s.ledger.issuance rt.cfg.native + s.claims e < balanceBound := by
  have hle := Entries.le_sum h.finite e
  have hfits := h.fits
  unfold issuedOrDue at hfits
  omega

omit [DecidableEq AccountId] in
/-- An upgrade of a chain with a stored version does nothing. -/
theorem onRuntimeUpgrade_eq (h : s.storageVersion ≠ none) : onRuntimeUpgrade rt s = s := by
  unfold onRuntimeUpgrade importInitialClaims
  rw [if_neg h]
  rfl

/-- What a call does to the claims: it leaves them, and nothing is credited; or it pays one out. -/
theorem after_cases (h : Sound rt s) (x : Call AccountId) :
    (after rt s x = s ∧ ∀ e, creditedBy rt e s x = 0) ∨
    (∃ who address, after rt s x = s.paid rt.cfg.native who address ∧
      ∀ e, creditedBy rt e s x = if address = e then s.claims address else 0) := by
  cases x with
  | onRuntimeUpgrade => exact Or.inl ⟨onRuntimeUpgrade_eq h.version, fun _ => rfl⟩
  | claim origin signature =>
      rcases claim_cases h.claim_fits origin signature with ⟨e, he⟩ | ⟨who, address, rfl, hsigner, hok⟩
      · left
        refine ⟨by rw [after, he], fun e' => ?_⟩
        cases origin with
        | Root => rfl
        | None => rfl
        | Signed who => simp only [creditedBy, he]
      · right
        have hafter : after rt s (.claim (.Signed who) signature)
            = s.paid rt.cfg.native who address := by rw [after, hok]
        refine ⟨who, address, hafter, fun e' => ?_⟩
        have hfree : (s.paid rt.cfg.native who address).ledger.free rt.cfg.native who
            - s.ledger.free rt.cfg.native who = s.claims address := by
          show (s.ledger.mint rt.cfg.native who (s.claims address)).free rt.cfg.native who - _ = _
          rw [Ledger.mint_free_self, if_pos rfl]
          omega
        simp only [creditedBy, hok, hsigner, hafter, hfree, Option.some.injEq]

theorem failsClean (h : Sound rt s) (x : Call AccountId) : FailsClean rt s x := by
  intro origin signature e s' _ hx
  rcases claim_cases h.claim_fits origin signature with ⟨e', he⟩ | ⟨who, address, -, -, hok⟩
  · rw [he] at hx
    cases hx
    exact ⟨rfl, rfl⟩
  · rw [hok] at hx
    cases hx

/-- What is paid is issued. -/
theorem issuedOrDue_paid (h : Sound rt s) (who : AccountId) (address : EthereumAddress) :
    issuedOrDue rt (s.paid rt.cfg.native who address) = issuedOrDue rt s := by
  have hsum := Entries.sum_clear h.finite address
  unfold issuedOrDue
  show (s.ledger.mint rt.cfg.native who (s.claims address)).issuance rt.cfg.native
    + Entries.sum (Function.update s.claims address 0) = _
  rw [Ledger.mint_issuance, if_pos rfl]
  omega

/-- **A call keeps what is issued or due**, and the states sound. -/
theorem issuedOrDue_after (h : Sound rt s) (x : Call AccountId) :
    issuedOrDue rt (after rt s x) = issuedOrDue rt s ∧ Sound rt (after rt s x) := by
  rcases after_cases h x with ⟨hs, -⟩ | ⟨who, address, hs, -⟩
  · rw [hs]
    exact ⟨rfl, h⟩
  · rw [hs]
    have hsum := issuedOrDue_paid h who address
    refine ⟨hsum, h.version, Entries.update_finite h.finite address, ?_⟩
    rw [hsum]
    exact h.fits

/-! ## Histories -/

/-- **An address is paid once**: nothing, or what it was entitled to at the beginning. -/
theorem credited_eq (h : Sound rt s) (calls : List (Call AccountId)) (e : EthereumAddress) :
    credited rt e s calls = 0 ∨ credited rt e s calls = s.claims e := by
  induction calls generalizing s with
  | nil => exact Or.inl rfl
  | cons x calls ih =>
      have hrest := ih (issuedOrDue_after h x).2
      unfold credited
      rcases after_cases h x with ⟨hs, hcredit⟩ | ⟨who, address, hs, hcredit⟩
      · rw [hs] at hrest ⊢
        rw [hcredit, Nat.zero_add]
        exact hrest
      · have hclaims : (after rt s x).claims = Function.update s.claims address 0 := by
          rw [hs]
          rfl
        rw [hcredit]
        rw [hclaims, Function.update_apply] at hrest
        by_cases he : address = e
        · -- the claim is cleared, so nothing more is credited
          subst he
          rw [if_pos rfl] at hrest ⊢
          omega
        · rw [if_neg (Ne.symm he)] at hrest
          rw [if_neg he, Nat.zero_add]
          exact hrest

/-- **Every claim is paid at most once and in full.** From every genesis whose claims fit into a
balance together with what is issued, and over every history of claims and upgrades: what the
successful claims of an address credit is nothing or its initial claim, issuance and claims add up
to the same, and claims that fail change nothing. -/
theorem claims_paid_once (rt : Runtime AccountId) (checks : Bool) (l : Ledger AssetId AccountId)
    (genesis : GenesisConfig) (version : PalletVersion)
    (hfits : l.issuance rt.cfg.native + (genesis.claims.map Prod.snd).sum < balanceBound) :
    ∃ claims, genesis.build checks = .ok claims ∧ ∀ calls : List (Call AccountId),
      let s₀ : Storage AccountId := ⟨l, claims, some version, []⟩
      (∀ address, credited rt address s₀ calls = 0 ∨
        credited rt address s₀ calls = claims address) ∧
      issuedOrDue rt (run (after rt) s₀ calls) = issuedOrDue rt s₀ ∧
      Each (after rt) (FailsClean rt) s₀ calls := by
  have hfinite := Entries.total_finite genesis.claims
  have hsum := Entries.sum_total genesis.claims
  have hbuild : genesis.build checks = .ok (Entries.total genesis.claims) := by
    apply GenesisConfig.build_eq
    intro a
    have hle := Entries.le_sum hfinite a
    omega
  refine ⟨Entries.total genesis.claims, hbuild, fun calls => ?_⟩
  intro s₀
  have hsound : Sound rt s₀ := by
    refine ⟨nofun, hfinite, ?_⟩
    show l.issuance rt.cfg.native + Entries.sum (Entries.total genesis.claims) < balanceBound
    rw [hsum]
    exact hfits
  have hthroughout := run_invariant
    (I := fun s => Sound rt s ∧ issuedOrDue rt s = issuedOrDue rt s₀)
    (fun s x h => ⟨(issuedOrDue_after h.1 x).2, (issuedOrDue_after h.1 x).1.trans h.2⟩)
    ⟨hsound, rfl⟩ calls
  have hclean : Each (after rt) (FailsClean rt) s₀ calls :=
    Each.of_invariant (I := Sound rt) (fun s x h => (issuedOrDue_after h x).2)
      (fun s x h => failsClean h x) hsound calls
  exact ⟨credited_eq hsound calls, hthroughout.2, hclean⟩

/-! ## A claim of the test suite

The account `42` claims with the signature of `claiming_works` in `pallets/claims/src/tests.rs`. The
host functions have their values at what this claim needs. -/

/-- The signature of the test. -/
def aliceSignature : EcdsaSignature where
  bytes := ⟨[91, 43, 70, 176, 22, 47, 75, 68, 49, 241, 84, 196, 185, 252, 91, 169, 35, 105, 11, 152, 176,
    194, 6, 55, 32, 121, 157, 165, 76, 179, 90, 53, 67, 4, 16, 46, 222, 98, 151, 123, 165, 86,
    240, 176, 62, 103, 113, 5, 34, 212, 183, 82, 53, 71, 198, 47, 205, 197, 172, 234, 89, 201,
    154, 164, 27], rfl⟩

/-- The hash of the message that was signed. -/
def aliceHash : List.Vector UInt8 32 :=
  ⟨[92, 134, 76, 181, 23, 61, 77, 31, 178, 19, 211, 108, 201, 93, 134, 195, 142, 214, 148, 11,
    210, 52, 228, 151, 253, 117, 105, 80, 134, 237, 19, 18], rfl⟩

/-- The public key that signed. -/
def aliceKey : List.Vector UInt8 64 :=
  ⟨[80, 162, 119, 149, 213, 151, 135, 110, 100, 163, 207, 52, 64, 161, 25, 247, 130, 164, 94, 195,
    119, 171, 96, 241, 7, 160, 72, 97, 76, 234, 146, 178, 133, 150, 212, 111, 161, 3, 28, 56, 16,
    142, 37, 223, 131, 170, 61, 209, 54, 179, 90, 75, 32, 202, 206, 165, 34, 241, 157, 252, 205,
    51, 162, 188], rfl⟩

/-- The hash of the public key. -/
def aliceKeyHash : List.Vector UInt8 32 :=
  ⟨[47, 158, 134, 72, 214, 205, 58, 228, 140, 0, 100, 197, 130, 2, 192, 175, 89, 98, 183, 80, 18,
    60, 225, 169, 177, 46, 28, 48, 164, 151, 53, 87], rfl⟩

/-- The address `8202c0af5962b750123ce1a9b12e1c30a4973557`. -/
def aliceAddress : EthereumAddress := ⟨aliceKeyHash.drop 12⟩

def alice : Dev.AccountId := [42, 0, 0, 0, 0, 0, 0, 0]

/-- The text `I hereby claim all my xHDX tokens to wallet:`. -/
def claimText : List UInt8 :=
  [73, 32, 104, 101, 114, 101, 98, 121, 32, 99, 108, 97, 105, 109, 32, 97, 108, 108, 32, 109,
    121, 32, 120, 72, 68, 88, 32, 116, 111, 107, 101, 110, 115, 32, 116, 111, 32, 119, 97, 108,
    108, 101, 116, 58]

def aliceRuntime : Runtime Dev.AccountId where
  cfg :=
    { native := CORE_ASSET_ID
      pfx := claimText
      encode := id
      crypto :=
        { keccak256 := fun data =>
            if data = ethereumSignableMessage (toAsciiHex alice) claimText then aliceHash
            else if data = aliceKey.toList then aliceKeyHash
            else List.Vector.replicate 32 0
          secp256k1EcdsaRecover := fun signature msg =>
            if signature = aliceSignature.bytes ∧ msg = aliceHash then some aliceKey else none } }
  hex := .documented
  readsWrites := fun _ _ => 0
  claimsData := []

/-- Alice is paid her claim, and only once: after an upgrade the same claim fails. -/
theorem alice_paid_once :
    ∃ claims, GenesisConfig.build true ⟨[(aliceAddress, 1000000000000)]⟩ = .ok claims ∧
      let s₀ : Storage Dev.AccountId := ⟨(Dev.genesis []).ledger, claims, some ⟨3, 0, 0⟩, []⟩
      let calls : List (Call Dev.AccountId) := [.claim (.Signed alice) aliceSignature,
        .onRuntimeUpgrade, .claim (.Signed alice) aliceSignature]
      credited aliceRuntime aliceAddress s₀ calls = 1000000000000 ∧
      issuedOrDue aliceRuntime (run (after aliceRuntime) s₀ calls)
        = issuedOrDue aliceRuntime s₀ ∧
      Each (after aliceRuntime) (FailsClean aliceRuntime) s₀ calls := by
  obtain ⟨claims, hbuild, hcalls⟩ := claims_paid_once aliceRuntime true (Dev.genesis []).ledger
    ⟨[(aliceAddress, 1000000000000)]⟩ ⟨3, 0, 0⟩ (by decide)
  have hpaid : Fallible.Succeeds
      (GenesisConfig.build true ⟨[(aliceAddress, 1000000000000)]⟩) fun claims =>
        credited aliceRuntime aliceAddress
          ⟨(Dev.genesis []).ledger, claims, some ⟨3, 0, 0⟩, []⟩
          [.claim (.Signed alice) aliceSignature, .onRuntimeUpgrade,
            .claim (.Signed alice) aliceSignature] = 1000000000000 := by
    decide +kernel
  obtain ⟨claims', hbuild', hcredited⟩ := hpaid
  rw [hbuild] at hbuild'
  cases hbuild'
  exact ⟨claims, hbuild, hcredited, (hcalls _).2⟩

end HydraDX.Claims
