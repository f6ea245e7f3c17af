import HydraDX.Claims.Pallet

set_option autoImplicit false

/-! # The migration of the claims

`pallets/claims/src/migration.rs`. On a runtime upgrade of a chain that has no version of the pallet
stored, a table of addresses and amounts is put into `Claims`. The genesis of the pallet does the
same from its configuration.

The genesis adds the amounts of an address up, the migration keeps the last one. So the migration
loses nothing exactly when the table has no address twice, up to amounts of zero
(`migration_eq_genesis_iff`); the same address in another letter case counts as the same. -/

namespace HydraDX.Claims

/-- The crate `hex`: forty digits of either case are read as an address. What else is read is left
open. -/
structure HexCrate where
  fromHex : List Char → Except String EthereumAddress
  fromHex_digits : ∀ {text address}, DenotesBody text address → fromHex text = .ok address

/-- `EthereumAddress::default()`. -/
def EthereumAddress.zero : EthereumAddress := ⟨List.Vector.replicate 20 0⟩

/-- `&addr[2..]` of a text that is too short, or has a wide character there. -/
inductive SlicePanic where
  | notACharBoundary
  deriving DecidableEq, Repr

variable {AccountId : Type} (hex : HexCrate) (readsWrites : Nat → Nat → Nat)

/-- One entry of the table. An address that cannot be read is logged, and replaced by zeros. -/
def importClaim (claims : EthereumAddress → Nat) (entry : List Char × Nat) :
    Except SlicePanic (EthereumAddress → Nat) :=
  match sliceFrom 2 entry.1 with
  | none => .error .notACharBoundary
  | some addr =>
      let address :=
        match hex.fromHex addr with
        | .ok address => address
        | .error _ => EthereumAddress.zero
      .ok (Function.update claims address entry.2)

/-- The weight that the migration has used, and the storage after it. -/
def importInitialClaims (claimsData : List (List Char × Nat)) (s : Storage AccountId) :
    Except SlicePanic (Nat × Storage AccountId) :=
  if s.storageVersion = none then do
    let claims ← claimsData.foldlM (importClaim hex) s.claims
    return (readsWrites 2 3, { s with claims })
  else return (0, s)

/-! ## Against the genesis -/

/-- An entry of the table and one of the genesis: the text is `0x` and forty digits of the address,
and the amounts are the same. -/
def SameEntry (entry : List Char × Nat) (claim : EthereumAddress × Nat) : Prop :=
  (∃ digits, entry.1 = '0' :: 'x' :: digits ∧ DenotesBody digits claim.1) ∧ entry.2 = claim.2

/-- The migration gives the claims that the genesis builds from the same entries: every address has
the sum of its entries, and all together the sum of the table. -/
def LosesNothing (checks : Bool) (claimsData : List (List Char × Nat))
    (genesis : List (EthereumAddress × Nat)) (s : Storage AccountId) : Prop :=
  ∃ weight s', importInitialClaims hex readsWrites claimsData s = .ok (weight, s') ∧
    GenesisConfig.build checks ⟨genesis⟩ = .ok s'.claims ∧
    (∀ address, s'.claims address = Entries.total genesis address) ∧
    Entries.sum s'.claims = (claimsData.map Prod.snd).sum

variable {hex} {claimsData : List (List Char × Nat)} {genesis : List (EthereumAddress × Nat)}
  {claims : EthereumAddress → Nat}

theorem importClaim_of_same {entry : List Char × Nat} {claim : EthereumAddress × Nat}
    (h : SameEntry entry claim) : importClaim hex claims entry = .ok (Entries.put claims claim) := by
  obtain ⟨⟨digits, htext, hdenotes⟩, hamount⟩ := h
  have hslice : sliceFrom 2 entry.1 = some digits := by
    rw [htext]
    simp [sliceFrom, Char.utf8Size]
  unfold importClaim
  rw [hslice]
  simp only [hex.fromHex_digits hdenotes, hamount]
  rfl

/-- **The migration replaces.** -/
theorem foldlM_importClaim (h : List.Forall₂ SameEntry claimsData genesis) :
    claimsData.foldlM (importClaim hex) claims = .ok (Entries.overwrite genesis claims) := by
  induction h generalizing claims with
  | nil => rfl
  | cons hentry _ ih =>
      rw [List.foldlM_cons, importClaim_of_same hentry]
      exact ih

theorem map_snd_eq (h : List.Forall₂ SameEntry claimsData genesis) :
    claimsData.map Prod.snd = genesis.map Prod.snd := by
  induction h with
  | nil => rfl
  | cons hentry _ ih => rw [List.map_cons, List.map_cons, hentry.2, ih]

/-- **The migration loses no entitlement** exactly if in its table every entry that is followed by
another one of the same address is zero. The chain has no version of the pallet stored and no
claims, and the amounts are numbers of `u128`. -/
theorem migration_eq_genesis_iff (hex : HexCrate) (readsWrites : Nat → Nat → Nat) (checks : Bool)
    (claimsData : List (List Char × Nat)) (genesis : List (EthereumAddress × Nat))
    (hsame : List.Forall₂ SameEntry claimsData genesis)
    (hamounts : ∀ entry ∈ claimsData, entry.2 < balanceBound)
    (s : Storage AccountId) (hempty : s.claims = fun _ => 0) (hversion : s.storageVersion = none) :
    LosesNothing hex readsWrites checks claimsData genesis s ↔ Entries.OnlyLast genesis := by
  have himport : importInitialClaims hex readsWrites claimsData s
      = .ok (readsWrites 2 3, { s with claims := Entries.overwrite genesis fun _ => 0 }) := by
    unfold importInitialClaims
    rw [if_pos hversion, hempty, foldlM_importClaim hsame]
    rfl
  have hbound : ∀ claim ∈ genesis, claim.2 < balanceBound := by
    intro claim hclaim
    have hmem : claim.2 ∈ claimsData.map Prod.snd := by
      rw [map_snd_eq hsame]
      exact List.mem_map_of_mem hclaim
    obtain ⟨entry, hentry, heq⟩ := List.mem_map.mp hmem
    rw [← heq]
    exact hamounts entry hentry
  rw [← Entries.overwrite_eq_total_iff]
  constructor
  · rintro ⟨weight, s', hs', -, htotal, -⟩
    rw [himport] at hs'
    cases hs'
    exact htotal
  · intro h
    have heq : Entries.overwrite genesis (fun _ => 0) = Entries.total genesis := funext h
    -- what the last entries leave fits, so the genesis does not overflow
    have hfits : ∀ address, Entries.total genesis address < balanceBound := by
      intro address
      rw [← h address]
      exact Entries.overwrite_lt (by decide) hbound address
    refine ⟨_, _, himport, ?_, h, ?_⟩
    · show GenesisConfig.build checks ⟨genesis⟩ = .ok (Entries.overwrite genesis fun _ => 0)
      rw [heq]
      exact GenesisConfig.build_eq hfits
    · show Entries.sum (Entries.overwrite genesis fun _ => 0) = _
      rw [heq, Entries.sum_total, map_snd_eq hsame]

/-- The crate, as far as its behaviour is documented. -/
def HexCrate.documented : HexCrate where
  fromHex text :=
    match Hex.decode text with
    | none => .error "InvalidHexCharacter"
    | some bytes =>
        if h : bytes.length = 20 then .ok ⟨⟨bytes, h⟩⟩ else .error "InvalidStringLength"
  fromHex_digits := by
    rintro text ⟨⟨bytes, hlength⟩⟩ ⟨-, -, hdecode⟩
    have hdecode' : Hex.decode text = some bytes := hdecode
    simp only [hdecode', dif_pos hlength]

/-- An address of twenty equal bytes. -/
def repeated (b : UInt8) : EthereumAddress := ⟨List.Vector.replicate 20 b⟩

/-- A chain before the migration. -/
def unclaimed : Storage Dev.AccountId :=
  { ledger := (Dev.genesis []).ledger, claims := fun _ => 0, storageVersion := none, events := [] }

theorem denotes_repeated {c : Char} {b : UInt8} (hc : Hex.IsDigit c)
    (hdecode : Hex.decode (List.replicate 40 c) = some (repeated b).bytes.toList) :
    DenotesBody (List.replicate 40 c) (repeated b) := by
  refine ⟨List.length_replicate, fun d hd => ?_, hdecode⟩
  rw [List.eq_of_mem_replicate hd]
  exact hc

theorem denotes_repeated_a : DenotesBody (List.replicate 40 'a') (repeated 170) :=
  denotes_repeated (by decide) (by decide)

theorem denotes_repeated_upper : DenotesBody (List.replicate 40 'A') (repeated 170) :=
  denotes_repeated (by decide) (by decide)

theorem denotes_repeated_b : DenotesBody (List.replicate 40 'b') (repeated 187) :=
  denotes_repeated (by decide) (by decide)

/-- Two addresses, one entry each. -/
theorem migration_two_addresses :
    LosesNothing HexCrate.documented (fun _ _ => 0) true
      [('0' :: 'x' :: List.replicate 40 'a', 5), ('0' :: 'x' :: List.replicate 40 'b', 7)]
      [(repeated 170, 5), (repeated 187, 7)] unclaimed := by
  have hsame : List.Forall₂ SameEntry
      [('0' :: 'x' :: List.replicate 40 'a', 5), ('0' :: 'x' :: List.replicate 40 'b', 7)]
      [(repeated 170, 5), (repeated 187, 7)] :=
    .cons ⟨⟨_, rfl, denotes_repeated_a⟩, rfl⟩ (.cons ⟨⟨_, rfl, denotes_repeated_b⟩, rfl⟩ .nil)
  have hdifferent : repeated 187 ≠ repeated 170 := by decide
  rw [migration_eq_genesis_iff HexCrate.documented (fun _ _ => 0) true _ _ hsame (by decide)
    unclaimed rfl rfl]
  simp [Entries.onlyLast_cons, Entries.onlyLast_nil, hdifferent]

/-- One address in two letter cases, and with it two entries: the first one is lost. -/
theorem migration_loses_entry :
    List.Forall₂ SameEntry
      [('0' :: 'x' :: List.replicate 40 'a', 5), ('0' :: 'x' :: List.replicate 40 'A', 7)]
      [(repeated 170, 5), (repeated 170, 7)] ∧
    ¬ LosesNothing HexCrate.documented (fun _ _ => 0) true
      [('0' :: 'x' :: List.replicate 40 'a', 5), ('0' :: 'x' :: List.replicate 40 'A', 7)]
      [(repeated 170, 5), (repeated 170, 7)] unclaimed := by
  refine ⟨.cons ⟨⟨_, rfl, denotes_repeated_a⟩, rfl⟩
    (.cons ⟨⟨_, rfl, denotes_repeated_upper⟩, rfl⟩ .nil), ?_⟩
  have himport : Fallible.Succeeds (importInitialClaims HexCrate.documented (fun _ _ => 0)
      [('0' :: 'x' :: List.replicate 40 'a', 5), ('0' :: 'x' :: List.replicate 40 'A', 7)]
      unclaimed) fun r => r.2.claims (repeated 170) = 7 := by
    decide +kernel
  have htotal : Entries.total [(repeated 170, 5), (repeated 170, 7)] (repeated 170) = 12 := by
    decide
  rintro ⟨weight, s', hs', -, hclaims, -⟩
  obtain ⟨r, hr, hlast⟩ := himport
  rw [hs'] at hr
  cases hr
  have hsum := hclaims (repeated 170)
  rw [hlast, htotal] at hsum
  exact absurd hsum (by decide)

end HydraDX.Claims
