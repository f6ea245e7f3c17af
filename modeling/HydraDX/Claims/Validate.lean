import HydraDX.Claims.Once

set_option autoImplicit false

/-! # Claims in the transaction pool

A claim pays no fee, so the signed extension `ValidateClaim` keeps claims that would fail out of the
pool and out of blocks. It makes the check of the call, before the call is dispatched and without
writing anything. Here the two are compared: a claim that passes the check succeeds, and one that
does not would have changed nothing, so a block is the same with the check and without
(`run_includeClaim`). What the pool has found out stays true while other claims are paid
(`validate_run`): a claim that is refused is refused for good, and one that is valid stays so until
its address is paid. -/

namespace HydraDX.Claims

open Payment (Origin)
open Balances Dispatch Histories

/-- The calls of the runtime, as far as the extension tells them apart. -/
inductive RuntimeCall where
  | claim (signature : EcdsaSignature)
  | other
  deriving DecidableEq

def RuntimeCall.isSubType : RuntimeCall → Option EcdsaSignature
  | .claim signature => some signature
  | .other => none

inductive InvalidTransaction where
  | Custom (code : UInt8)
  deriving DecidableEq

variable {AccountId : Type} [DecidableEq AccountId] (rt : Runtime AccountId)
  (asU8 : Failure → UInt8)

/-- `ValidateClaim::validate`. The code of an error is generated. -/
def validate (who : AccountId) (call : RuntimeCall) (s : Storage AccountId) :
    Except InvalidTransaction Unit :=
  match call.isSubType with
  | some signature =>
      match validateClaim rt.cfg who signature s with
      | .ok _ => .ok ()
      | .error error => .error (.Custom (asU8 error))
  | none => .ok ()

/-- A claim by a signed account. -/
structure SignedClaim (AccountId : Type) where
  who : AccountId
  signature : EcdsaSignature

def SignedClaim.call (x : SignedClaim AccountId) : Call AccountId := .claim (.Signed x.who) x.signature

/-- A transaction is checked, and dispatched if it is valid. -/
def includeClaim (s : Storage AccountId) (x : SignedClaim AccountId) : Storage AccountId :=
  match validate rt asU8 x.who (.claim x.signature) s with
  | .ok _ => after rt s x.call
  | .error _ => s

variable {rt asU8} {s : Storage AccountId} {who : AccountId} {signature : EcdsaSignature}
  {address : EthereumAddress}

/-! ## One claim -/

omit [DecidableEq AccountId] in
theorem validateClaim_of_signer (h : signer rt.cfg who signature = some address) :
    validateClaim rt.cfg who signature s
      = if s.claims address = 0 then .error (.claims .NoClaimOrAlreadyClaimed)
        else .ok (s.claims address, address) := by
  unfold validateClaim
  rw [h]

omit [DecidableEq AccountId] in
theorem validateClaim_of_none (h : signer rt.cfg who signature = none) :
    validateClaim rt.cfg who signature s = .error (.claims .InvalidEthereumSignature) := by
  unfold validateClaim
  rw [h]

omit [DecidableEq AccountId] in
/-- A claim is valid if its address has something to claim. -/
theorem validate_claim_ok :
    validate rt asU8 who (.claim signature) s = .ok () ↔
      ∃ address, signer rt.cfg who signature = some address ∧ s.claims address ≠ 0 := by
  unfold validate RuntimeCall.isSubType
  cases h : signer rt.cfg who signature with
  | none =>
      simp only [validateClaim_of_none h]
      constructor
      · intro hok
        cases hok
      · rintro ⟨_, hsome, -⟩
        cases hsome
  | some address =>
      simp only [validateClaim_of_signer h]
      split_ifs with hzero
      · constructor
        · intro hok
          cases hok
        · rintro ⟨_, hsome, hdue⟩
          cases hsome
          exact absurd hzero hdue
      · exact iff_of_true rfl ⟨address, rfl, hzero⟩

omit [DecidableEq AccountId] in
/-- The check looks at nothing but the claims. -/
theorem validate_congr {t : Storage AccountId}
    (h : ∀ address, signer rt.cfg who signature = some address → t.claims address = s.claims address) :
    validate rt asU8 who (.claim signature) t = validate rt asU8 who (.claim signature) s := by
  unfold validate RuntimeCall.isSubType
  cases hsigner : signer rt.cfg who signature with
  | none => simp only [validateClaim_of_none hsigner]
  | some address => simp only [validateClaim_of_signer hsigner, h address hsigner]

/-- The states that are reached, and nobody holds more than is issued. -/
structure Solvent (rt : Runtime AccountId) (s : Storage AccountId) : Prop where
  sound : Sound rt s
  held : ∀ w, s.ledger.free rt.cfg.native w ≤ s.ledger.issuance rt.cfg.native

theorem Solvent.after (h : Solvent rt s) (x : Call AccountId) : Solvent rt (after rt s x) := by
  refine ⟨(issuedOrDue_after h.sound x).2, fun w => ?_⟩
  rcases after_cases h.sound x with ⟨hs, -⟩ | ⟨who, address, hs, -⟩
  · rw [hs]
    exact h.held w
  · rw [hs]
    show (s.ledger.mint rt.cfg.native who (s.claims address)).free rt.cfg.native w
      ≤ (s.ledger.mint rt.cfg.native who (s.claims address)).issuance rt.cfg.native
    have hheld := h.held w
    rw [Ledger.mint_issuance, if_pos rfl]
    by_cases hw : w = who
    · rw [hw] at hheld ⊢
      rw [Ledger.mint_free_self, if_pos rfl]
      omega
    · rw [Ledger.mint_free_of_ne (Or.inr hw)]
      omega

/-- What is due can be deposited. -/
theorem Solvent.processClaim (h : Solvent rt s) (who : AccountId) (hdue : s.claims address ≠ 0) :
    exec (processClaim rt.cfg who (s.claims address) address) s
      = (.ok (), s.paid rt.cfg.native who address) := by
  have hfits := h.sound.claim_fits address
  have hheld := h.held who
  have hdeposit : depositCreating rt.cfg.native who (s.claims address) s.ledger
      = (⟨s.claims address⟩, s.ledger.give rt.cfg.native who (s.claims address)) := by
    have hed : s.claims address ≥ existentialDeposit ∨ isNew rt.cfg.native s.ledger who = false :=
      Or.inl (Nat.zero_le _)
    unfold depositCreating
    rw [if_neg hdue, if_neg (not_not.mpr hed), if_pos (by omega)]
  have hpeek : ¬ (⟨s.claims address⟩ : PositiveImbalance).peek = PositiveImbalance.zero.peek := hdue
  unfold Claims.processClaim Storage.paid
  rw [exec_get_bind, hdeposit]
  simp only [if_neg hpeek]
  rw [← give_drop hfits]
  rfl

/-- **The check agrees with the call**: a valid claim is paid, and one that is not changes nothing. -/
theorem Solvent.claim_of_validate (h : Solvent rt s) (asU8 : Failure → UInt8) (who : AccountId)
    (signature : EcdsaSignature) :
    (validate rt asU8 who (.claim signature) s = .ok () ∧
      ∃ address, signer rt.cfg who signature = some address ∧
        exec (claim rt.cfg (.Signed who) signature) s
          = (.ok (), s.paid rt.cfg.native who address)) ∨
    ∃ e, validate rt asU8 who (.claim signature) s = .error (.Custom (asU8 e)) ∧
      exec (claim rt.cfg (.Signed who) signature) s = (.error e, s) := by
  unfold validate claim
  simp only [RuntimeCall.isSubType]
  rw [exec_lift_bind_of_ok (Payment.Origin.signedOr_signed _ who), exec_get_bind]
  cases hvalid : validateClaim rt.cfg who signature s with
  | error e => exact Or.inr ⟨e, rfl, exec_lift_bind_of_error rfl⟩
  | ok due =>
      obtain ⟨balanceDue, address⟩ := due
      obtain ⟨hsigner, rfl⟩ := validateClaim_ok hvalid
      rw [validateClaim_of_signer hsigner] at hvalid
      have hdue : s.claims address ≠ 0 := fun hzero => by
        rw [if_pos hzero] at hvalid
        cases hvalid
      refine Or.inl ⟨rfl, address, hsigner, ?_⟩
      rw [exec_lift_bind_of_ok rfl]
      exact h.processClaim who hdue

/-! ## Blocks -/

/-- **A block of claims is the same with the check and without it**, and every claim that has passed
the check succeeds. -/
theorem run_includeClaim (h : Solvent rt s) (xs : List (SignedClaim AccountId)) :
    run (includeClaim rt asU8) s xs = run (after rt) s (xs.map SignedClaim.call) ∧
      Each (includeClaim rt asU8) (fun s x =>
        validate rt asU8 x.who (.claim x.signature) s = .ok () →
          (exec (claim rt.cfg (.Signed x.who) x.signature) s).1 = .ok ()) s xs := by
  induction xs generalizing s with
  | nil => exact ⟨rfl, trivial⟩
  | cons x xs ih =>
      have hcase := h.claim_of_validate asU8 x.who x.signature
      have hstep : includeClaim rt asU8 s x = after rt s x.call := by
        unfold includeClaim
        rcases hcase with ⟨hvalid, -⟩ | ⟨e, hvalid, hexec⟩
        · rw [hvalid]
        · rw [hvalid]
          exact (congrArg Prod.snd hexec).symm
      obtain ⟨hrun, hsucceeds⟩ := ih (h.after x.call)
      rw [← hstep] at hrun hsucceeds
      refine ⟨?_, fun hvalid => ?_, hsucceeds⟩
      · show run (includeClaim rt asU8) (includeClaim rt asU8 s x) xs
          = run (after rt) (after rt s x.call) (xs.map SignedClaim.call)
        rw [hrun, hstep]
      · rcases hcase with ⟨-, _, -, hexec⟩ | ⟨e, hinvalid, -⟩
        · rw [hexec]
        · rw [hvalid] at hinvalid
          cases hinvalid

/-! ## The pool -/

/-- What becomes of a claim over a history: it is left, or paid. -/
theorem claims_run (h : Sound rt s) (calls : List (Call AccountId)) (e : EthereumAddress) :
    ((run (after rt) s calls).claims e = s.claims e ∧ credited rt e s calls = 0) ∨
    ((run (after rt) s calls).claims e = 0 ∧ credited rt e s calls = s.claims e) := by
  induction calls generalizing s with
  | nil => exact Or.inl ⟨rfl, rfl⟩
  | cons x calls ih =>
      have hrest := ih (issuedOrDue_after h x).2
      have hrun : run (after rt) s (x :: calls) = run (after rt) (after rt s x) calls := rfl
      rw [hrun]
      unfold credited
      rcases after_cases h x with ⟨hs, hcredit⟩ | ⟨who, address, hs, hcredit⟩
      · rw [hcredit, Nat.zero_add]
        rw [hs] at hrest ⊢
        exact hrest
      · have hclaims : (after rt s x).claims = Function.update s.claims address 0 := by
          rw [hs]
          rfl
        rw [hcredit]
        rw [hclaims, Function.update_apply] at hrest
        by_cases he : address = e
        · subst he
          rw [if_pos rfl] at hrest ⊢
          right
          omega
        · rw [if_neg (Ne.symm he)] at hrest
          rw [if_neg he, Nat.zero_add]
          exact hrest

/-- **What the pool knows about a claim** in spite of all that happens after it has looked: a claim
that was refused is refused with the same error, and one that was valid is valid unless its address
has been paid, by whichever claim. -/
theorem validate_run (h : Sound rt s) (asU8 : Failure → UInt8) (who : AccountId)
    (signature : EcdsaSignature) (calls : List (Call AccountId)) :
    (∀ e, validate rt asU8 who (.claim signature) s = .error e →
      validate rt asU8 who (.claim signature) (run (after rt) s calls) = .error e) ∧
    (validate rt asU8 who (.claim signature) s = .ok () →
      ∃ address, signer rt.cfg who signature = some address ∧
        (validate rt asU8 who (.claim signature) (run (after rt) s calls) = .ok () ↔
          credited rt address s calls = 0) ∧
        (credited rt address s calls ≠ 0 →
          validate rt asU8 who (.claim signature) (run (after rt) s calls)
            = .error (.Custom (asU8 (.claims .NoClaimOrAlreadyClaimed))))) := by
  constructor
  · intro e he
    rw [validate_congr, he]
    intro address hsigner
    have hzero : s.claims address = 0 := by
      by_contra hdue
      rw [validate_claim_ok.mpr ⟨address, hsigner, hdue⟩] at he
      cases he
    rcases claims_run h calls address with ⟨hsame, -⟩ | ⟨hcleared, -⟩
    · exact hsame
    · rw [hcleared, hzero]
  · intro hvalid
    obtain ⟨address, hsigner, hdue⟩ := validate_claim_ok.mp hvalid
    refine ⟨address, hsigner, ?_, fun hpaid => ?_⟩
    · rw [validate_claim_ok]
      rcases claims_run h calls address with ⟨hsame, hnone⟩ | ⟨hcleared, hall⟩
      · exact iff_of_true ⟨address, hsigner, by rwa [hsame]⟩ hnone
      · refine iff_of_false ?_ (by rwa [hall])
        rintro ⟨other, hother, hdue'⟩
        rw [hsigner] at hother
        cases hother
        exact hdue' hcleared
    · rcases claims_run h calls address with ⟨-, hnone⟩ | ⟨hcleared, -⟩
      · exact absurd hnone hpaid
      · unfold validate RuntimeCall.isSubType
        simp only [validateClaim_of_signer hsigner, hcleared, if_true]

/-! ### Alice claims twice -/

namespace Alice

/-- The state before Alice has claimed. -/
def before : Storage Dev.AccountId :=
  ⟨(Dev.genesis []).ledger, Entries.total [(aliceAddress, 1000000000000)], some ⟨3, 0, 0⟩, []⟩

/-- The claim, the claim again, and somebody else with the signature. -/
def three : List (SignedClaim Dev.AccountId) :=
  [⟨alice, aliceSignature⟩, ⟨alice, aliceSignature⟩, ⟨[7], aliceSignature⟩]

def code : Failure → UInt8
  | .claims .InvalidEthereumSignature => 0
  | .claims .NoClaimOrAlreadyClaimed => 1
  | .claims .BalanceOverflow => 2
  | .badOrigin => 255

theorem solvent : Solvent aliceRuntime before := by
  refine ⟨⟨nofun, Entries.total_finite _, ?_⟩, fun w => Nat.le_refl _⟩
  show (Dev.genesis []).ledger.issuance CORE_ASSET_ID
    + Entries.sum (Entries.total [(aliceAddress, 1000000000000)]) < balanceBound
  rw [Entries.sum_total]
  decide

end Alice

/-- Of the three claims the first is paid, and the others are not included. -/
theorem run_includeClaim_three :
    run (includeClaim aliceRuntime Alice.code) Alice.before Alice.three
        = run (after aliceRuntime) Alice.before (Alice.three.map SignedClaim.call) ∧
      (run (includeClaim aliceRuntime Alice.code) Alice.before Alice.three).ledger.free
        CORE_ASSET_ID alice = 1000000000000 ∧
      validate aliceRuntime Alice.code [7] (.claim aliceSignature) Alice.before
        = .error (.Custom 0) :=
  ⟨(run_includeClaim Alice.solvent Alice.three).1, by decide +kernel, by decide +kernel⟩

/-- A claim in the pool becomes invalid once it is paid. -/
theorem validate_run_three :
    validate aliceRuntime Alice.code alice (.claim aliceSignature) Alice.before = .ok () ∧
      validate aliceRuntime Alice.code alice (.claim aliceSignature)
        (run (after aliceRuntime) Alice.before (Alice.three.map SignedClaim.call))
          = .error (.Custom 1) := by
  have hvalid : validate aliceRuntime Alice.code alice (.claim aliceSignature) Alice.before
      = .ok () := by decide +kernel
  have hpaid : credited aliceRuntime aliceAddress Alice.before (Alice.three.map SignedClaim.call)
      = 1000000000000 := by decide +kernel
  have hsigner : signer aliceRuntime.cfg alice aliceSignature = some aliceAddress := by
    decide +kernel
  obtain ⟨address, hsigned, -, hinvalid⟩ := (validate_run Alice.solvent.sound Alice.code alice
    aliceSignature (Alice.three.map SignedClaim.call)).2 hvalid
  rw [hsigner] at hsigned
  cases hsigned
  exact ⟨hvalid, hinvalid (by rw [hpaid]; decide)⟩

end HydraDX.Claims
