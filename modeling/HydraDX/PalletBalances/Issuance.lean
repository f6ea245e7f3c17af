import HydraDX.PalletBalances.Supply

set_option autoImplicit false

/-! # The issuance accounts for the supply

In exact numbers the issuance would be what all accounts hold, plus the negative imbalances that
are held, less the positive ones. The pallet computes it in `u128` with saturating operations, when
imbalances and dust are dropped. It is exact in every state of a run if and only if that number
fits into `u128` in every state: there is no other way to go wrong than a positive imbalance that
exceeds what it was created for.

The store is one that does not refuse to remove an account, as with the existential deposit of the
runtime. -/

namespace HydraDX.PalletBalances

open Balances (WithdrawReasons ExistenceRequirement NegativeImbalance PositiveImbalance)
open Payment (Origin)
open Dispatch

variable {AccountId : Type} {sys : AccountStore AccountId}

/-! ## Computations that square -/

/-- However `x` ends, the issuance follows; `P` and `N` are the imbalances it returns. -/
def Squares {α : Type} (P N : α → Nat) (s : Storage sys) (x : Op sys α) : Prop :=
  match exec x s with
  | (.ok a, u) => Effect s (P a) (N a) u
  | (.error (.dispatch _), u) => Effect s 0 0 u
  | (.error (.panic _), _) => True

section Rules

variable {α β : Type} {P N : α → Nat} {s u : Storage sys} {x y : Op sys α}

theorem Squares.of_ok {a : α} (h : exec x s = (.ok a, u)) (heffect : Effect s (P a) (N a) u) :
    Squares P N s x := by
  rw [Squares, h]
  exact heffect

theorem Squares.of_exec_eq (h : exec x s = exec y s) (hy : Squares P N s y) :
    Squares P N s x := by
  rw [Squares, h]
  exact hy

/-- A computation that fails and has changed nothing. -/
theorem Squares.of_error {e : Failure} (hs : Sound s) (h : exec x s = (.error e, s)) :
    Squares P N s x := by
  rw [Squares, h]
  cases e with
  | dispatch e => exact .refl hs
  | panic p => trivial

theorem squares_pure {a : α} (hs : Sound s) (hP : P a = 0) (hN : N a = 0) :
    Squares P N s (pure a) := by
  refine .of_ok exec_pure ?_
  rw [hP, hN]
  exact .refl hs

theorem Squares.ite {p : Prop} [Decidable p] (hx : p → Squares P N s x)
    (hy : ¬ p → Squares P N s y) : Squares P N s (if p then x else y) := by
  split_ifs with h
  · exact hx h
  · exact hy h

/-- What comes after may write events only. -/
theorem Squares.bind {P' N' : β → Nat} {f : α → Op sys β} (hx : Squares P N s x)
    (hf : ∀ a u, ∃ b t, exec (f a) u = (.ok b, t) ∧ sys.get t.accounts = sys.get u.accounts ∧
      t.totalIssuance = u.totalIssuance ∧ P' b = P a ∧ N' b = N a) :
    Squares P' N' s (x >>= f) := by
  unfold Squares at hx ⊢
  rcases hexec : exec x s with ⟨e | a, u⟩
  all_goals rw [hexec] at hx
  · rw [exec_bind_of_error hexec]
    cases e with
    | dispatch e => exact hx
    | panic p => trivial
  · obtain ⟨b, t, ht, haccounts, hissuance, hP, hN⟩ := hf a u
    rw [exec_bind_of_ok hexec, ht]
    simp only [hP, hN]
    exact hx.congr haccounts hissuance

theorem Squares.get_bind {f : Storage sys → Op sys α} (h : Squares P N s (f s)) :
    Squares P N s (get >>= f) := by
  rw [Squares, exec_get_bind]
  exact h

/-- A computation whose result holds no imbalances. -/
theorem Squares.quiet (hx : Squares (fun _ => 0) (fun _ => 0) s x) :
    Squares (fun c : Imbalances => (c.positive.map PositiveImbalance.amount).sum)
      (fun c => (c.negative.map NegativeImbalance.amount).sum) s (Op.quiet x) :=
  hx.bind fun _ u => ⟨.none, u, rfl, rfl, rfl, rfl, rfl⟩

variable {cfg : Config} {who : AccountId} [Drop sys α]
  {f : AccountData → Bool → Op sys (α × AccountData)}

variable [DecidableEq AccountId]

/-- A mutation squares if the imbalances make up for the difference in the holdings. -/
theorem squares_mutation (hlenient : Lenient cfg sys) (hs : Sound s)
    (hreads : ∀ account isNew, Reads (f account isNew))
    (heq : ∀ r d, exec (f (s.account who) (s.isNew who)) s = (.ok (r, d), s) →
      d.holding + N r = (s.account who).holding + P r) :
    Squares P N s (tryMutateAccount cfg who f) := by
  rcases exec_tryMutateAccount_lenient hlenient hreads s with
    ⟨e, he⟩ | ⟨r, d, u, hok, hu, hexec⟩
  · exact .of_error hs he
  · exact .of_ok hexec (hu.effect hs (heq r d hok))

/-- The same, with a failure handled. -/
theorem squares_recover (hlenient : Lenient cfg sys) (hs : Sound s)
    (hreads : ∀ account isNew, Reads (f account isNew))
    (heq : ∀ r d, exec (f (s.account who) (s.isNew who)) s = (.ok (r, d), s) →
      d.holding + N r = (s.account who).holding + P r) (hy : Squares P N s y) :
    Squares P N s (recover (tryMutateAccount cfg who f) y) := by
  rcases exec_tryMutateAccount_lenient hlenient hreads s with
    ⟨e, he⟩ | ⟨r, d, u, hok, hu, hexec⟩
  · cases e with
    | dispatch e => exact .of_exec_eq (exec_recover_of_error he) hy
    | panic p => exact .of_error hs (exec_recover_of_panic he)
  · exact .of_ok (exec_recover_of_ok hexec) (hu.effect hs (heq r d hok))

end Rules

/-! ## The operations square -/

section Operations

variable {cfg : Config} {s : Storage sys} {who : AccountId} {value amount : Nat}

/-- What reserved balance is moved back to the free balance fits there. -/
def Room (s : Storage sys) (who : AccountId) (value : Nat) : Prop :=
  (s.account who).free + min (s.account who).reserved value < balanceBound

theorem squares_burn (hs : Sound s) :
    Squares (·.amount) (fun _ => 0) s (burn amount : Op sys PositiveImbalance) := by
  refine .ite (fun _ => squares_pure hs rfl rfl) fun _ => ?_
  unfold Squares
  rw [exec_get_bind]
  by_cases h : amount ≤ s.totalIssuance
  · rw [checkedSub, if_pos h]
    exact .of_sub hs hs.finite (x := amount) rfl rfl
  · rw [checkedSub, if_neg h]
    exact .of_sub hs hs.finite (x := s.totalIssuance) rfl (Nat.sub_self _).symm

theorem squares_issue (hs : Sound s) :
    Squares (fun _ => 0) (·.amount) s (issue amount : Op sys NegativeImbalance) := by
  refine .ite (fun _ => squares_pure hs rfl rfl) fun _ => ?_
  have hfits := hs.fits
  unfold Squares
  rw [exec_get_bind]
  by_cases h : s.totalIssuance + amount < balanceBound
  · rw [checkedAdd, if_pos h]
    exact .of_add (x := amount) hs.finite rfl h rfl
  · rw [checkedAdd, if_neg h]
    refine .of_add (x := balanceBound - 1 - s.totalIssuance) hs.finite rfl (by omega) ?_
    show balanceBound - 1 = _
    omega

variable [DecidableEq AccountId] (hlenient : Lenient cfg sys) (hs : Sound s)
include hlenient hs

theorem squares_slash : Squares (fun _ => 0) (·.1.amount) s
    (slash cfg who value : Op sys (NegativeImbalance × Nat)) := by
  -- any attempt takes off the account what it returns
  have hattempt : ∀ attempt (r : NegativeImbalance × Nat) d,
      exec (slashAttempt cfg value attempt (s.account who)) s = (.ok (r, d), s) →
      d.holding + r.1.amount = (s.account who).holding + 0 := by
    rintro attempt ⟨n, left⟩ d hok
    obtain ⟨best, -, rfl, -, rfl, -⟩ := slashAttempt_eq_ok.mp hok
    simp only [AccountData.holding]
    omega
  refine .ite (fun _ => squares_pure hs rfl rfl) fun _ =>
    .get_bind (.ite (fun _ => squares_pure hs rfl rfl) fun _ => ?_)
  exact squares_recover hlenient hs (fun _ _ => reads_slashAttempt) (hattempt 0)
    (squares_recover hlenient hs (fun _ _ => reads_slashAttempt) (hattempt 1)
      (squares_pure hs rfl rfl))

theorem squares_slashReserved : Squares (fun _ => 0) (·.1.amount) s
    (slashReserved cfg who value : Op sys (NegativeImbalance × Nat)) := by
  have hattempt : ∀ attempt (r : NegativeImbalance × Nat) d,
      exec (slashReservedAttempt cfg value attempt (s.account who)) s = (.ok (r, d), s) →
      d.holding + r.1.amount = (s.account who).holding + 0 := by
    rintro attempt ⟨n, left⟩ d hok
    obtain ⟨best, -, rfl, -, rfl, -⟩ := slashReservedAttempt_eq_ok.mp hok
    simp only [AccountData.holding]
    omega
  refine .ite (fun _ => squares_pure hs rfl rfl) fun _ =>
    .get_bind (.ite (fun _ => squares_pure hs rfl rfl) fun _ => ?_)
  exact squares_recover hlenient hs (fun _ _ => reads_slashReservedAttempt) (hattempt 0)
    (squares_recover hlenient hs (fun _ _ => reads_slashReservedAttempt) (hattempt 1)
      (squares_pure hs rfl rfl))

theorem squares_depositIntoExisting : Squares (·.amount) (fun _ => 0) s
    (depositIntoExisting cfg who value : Op sys PositiveImbalance) := by
  refine .ite (fun _ => squares_pure hs rfl rfl) fun _ =>
    squares_mutation hlenient hs (fun _ _ => reads_depositExistingClosure) fun p d hok => ?_
  obtain ⟨-, -, rfl, rfl, -⟩ := depositExistingClosure_eq_ok.mp hok
  simp only [AccountData.holding]
  omega

theorem squares_depositCreating : Squares (·.amount) (fun _ => 0) s
    (depositCreating cfg who value : Op sys PositiveImbalance) := by
  refine .ite (fun _ => squares_pure hs rfl rfl) fun _ =>
    squares_recover hlenient hs (fun _ _ => reads_depositCreatingClosure) (fun p d hok => ?_)
      (squares_pure hs rfl rfl)
  obtain ⟨-, ⟨-, rfl, rfl⟩ | ⟨-, rfl, rfl⟩, -⟩ := depositCreatingClosure_eq_ok.mp hok
  · simp only [AccountData.holding]
    omega
  · rfl

theorem squares_withdraw {reasons : WithdrawReasons} {liveness : ExistenceRequirement} :
    Squares (fun _ => 0) (·.amount) s
      (withdraw cfg who value reasons liveness : Op sys NegativeImbalance) := by
  refine .ite (fun _ => squares_pure hs rfl rfl) fun _ =>
    squares_mutation hlenient hs (fun _ _ => reads_withdrawClosure) fun n d hok => ?_
  obtain ⟨hcovered, -, -, rfl, rfl, -⟩ := withdrawClosure_eq_ok.mp hok
  simp only [AccountData.holding]
  omega

theorem squares_makeFreeBalanceBe : Squares (fun r => (r.held.positive.map (·.amount)).sum)
    (fun r => (r.held.negative.map (·.amount)).sum) s
    (makeFreeBalanceBe cfg who value : Op sys SignedImbalance) := by
  refine squares_recover hlenient hs (fun _ _ => reads_makeFreeBalanceClosure) (fun r d hok => ?_)
    (squares_pure hs rfl rfl)
  obtain ⟨-, rfl, rfl, -⟩ := makeFreeBalanceClosure_eq_ok.mp hok
  split_ifs with hle
  · simp [SignedImbalance.held, AccountData.holding]
    omega
  · simp [SignedImbalance.held, AccountData.holding]
    omega

theorem squares_reserve :
    Squares (fun _ => 0) (fun _ => 0) s (reserve cfg who value : Op sys Unit) := by
  refine .ite (fun _ => squares_pure hs rfl rfl) fun _ => ?_
  have hmutation : Squares (fun _ => 0) (fun _ => 0) s
      (tryMutateAccount cfg who fun account _ => reserveClosure who value account) := by
    refine squares_mutation hlenient hs (fun _ _ => reads_reserveClosure) fun _ d hok => ?_
    obtain ⟨hcovered, -, -, rfl, -⟩ := reserveClosure_eq_ok.mp hok
    simp only [AccountData.holding]
    omega
  exact hmutation.bind fun _ u => ⟨(), _, rfl, rfl, rfl, rfl, rfl⟩

theorem squares_unreserve (hroom : Room s who value) :
    Squares (fun _ => 0) (fun _ => 0) s (unreserve cfg who value : Op sys Nat) := by
  refine .ite (fun _ => squares_pure hs rfl rfl) fun _ =>
    .get_bind (.ite (fun _ => squares_pure hs rfl rfl) fun _ => ?_)
  rcases exec_tryMutateAccount_lenient hlenient
      (f := fun account _ => unreserveClosure value account)
      (fun _ _ => reads_unreserveClosure) s with ⟨e, he⟩ | ⟨r, d, u, hok, hu, hexec⟩
  · cases e with
    | dispatch e =>
        exact .of_exec_eq (exec_recover_of_error (exec_bind_of_error he)) (squares_pure hs rfl rfl)
    | panic p => exact .of_error hs (exec_recover_of_panic (exec_bind_of_error he))
  · cases hok
    have heffect : Effect s 0 0 u := hu.effect hs (by
      unfold Room at hroom
      simp only [AccountData.holding, saturatingAdd]
      omega)
    exact .of_ok (exec_recover_of_ok ((exec_bind_of_ok hexec).trans rfl))
      (heffect.congr rfl rfl)

theorem squares_hold (hfits : (s.account who).reserved + amount < balanceBound) :
    Squares (fun _ => 0) (fun _ => 0) s (hold cfg who amount : Op sys Unit) := by
  refine .ite (fun _ => squares_pure hs rfl rfl) fun hamount => .get_bind ?_
  by_cases hcan : canReserve s who amount = true
  · rw [Squares, exec_ensure_bind_of_pos hcan]
    refine squares_mutation hlenient hs (fun _ _ => reads_holdClosure) fun _ d hok => ?_
    obtain ⟨free, reserved, hfree, hreserved, rfl, -⟩ := holdClosure_eq_ok.mp hok
    simp only [canReserve, decide_eq_true_eq, hamount, false_or] at hcan
    rw [minus_of_le hcan.1] at hfree
    rw [plus_of_lt hfits] at hreserved
    cases hfree
    cases hreserved
    simp only [AccountData.holding]
    omega
  · exact .of_error hs (exec_ensure_bind_of_neg hcan)

theorem squares_release {bestEffort : Bool} (hroom : Room s who amount) :
    Squares (fun _ => 0) (fun _ => 0) s (release cfg who amount bestEffort : Op sys Nat) := by
  refine .ite (fun _ => squares_pure hs rfl rfl) fun _ =>
    squares_mutation hlenient hs (fun _ _ => reads_releaseClosure) fun actual d hok => ?_
  unfold Room at hroom
  obtain ⟨hactual, -, rfl, -⟩ := releaseClosure_eq_ok.mp hok
  have hnew : saturatingAdd (s.account who).free (min amount (s.account who).reserved)
      = (s.account who).free + min amount (s.account who).reserved := by
    unfold saturatingAdd
    omega
  rw [hnew, minus_of_le (Nat.le_add_right _ _)] at hactual
  cases hactual
  simp only [AccountData.holding, hnew]
  omega

theorem squares_setFreeBalance (hsame : amount = (s.account who).free) :
    Squares (fun _ => 0) (fun _ => 0) s (setFreeBalance cfg who amount : Op sys Unit) := by
  refine squares_mutation hlenient hs (fun _ _ => reads_pure) fun _ d hok => ?_
  cases hok
  rw [hsame]

theorem squares_updateLocks {locks : List BalanceLock} :
    Squares (fun _ => 0) (fun _ => 0) s (updateLocks cfg who locks : Op sys Unit) := by
  have hmutation : Squares (fun _ => 0) (fun _ => 0) s
      (recover (mutateAccount cfg who fun account =>
        return ((), locks.foldl freeze { account with miscFrozen := 0, feeFrozen := 0 }))
        (return ()) : Op sys Unit) := by
    refine squares_recover hlenient hs (fun _ _ => reads_pure) (fun _ d hok => ?_)
      (squares_pure hs rfl rfl)
    cases hok
    obtain ⟨hfree, hreserved⟩ := foldl_freeze { s.account who with miscFrozen := 0, feeFrozen := 0 } locks
    simp only [AccountData.holding, hfree, hreserved]
  refine hmutation.bind fun _ u => ?_
  rw [exec_get_bind, exec_ite]
  split_ifs
  · exact ⟨(), _, rfl, sys.get_decConsumers _ _, rfl, rfl, rfl⟩
  · exact ⟨(), _, rfl, rfl, rfl, rfl, rfl⟩
  · exact ⟨(), _, rfl, rfl, rfl, rfl, rfl⟩
  · exact ⟨(), _, rfl, sys.get_incConsumers _ _, rfl, rfl, rfl⟩

theorem squares_mintInto :
    Squares (fun _ => 0) (fun _ => 0) s (mintInto cfg who amount : Op sys Unit) := by
  refine .ite (fun _ => squares_pure hs rfl rfl) fun hamount => ?_
  rcases exec_tryMutateAccount_lenient hlenient (f := fun account _ => mintClosure cfg amount account)
      (fun _ _ => reads_mintClosure) s with ⟨e, he⟩ | ⟨r, d, u, hok, hu, hexec⟩
  · exact .of_error hs (exec_bind_of_error he)
  · obtain ⟨hdeposit, ⟨free, hfree, rfl⟩, -⟩ := mintClosure_eq_ok.mp hok
    obtain ⟨hissued, htotal, hed⟩ := depositConsequence_intoResult.mp hdeposit hamount
    -- the account is larger than before, and there is no dust
    have hsum : (s.account who).free + amount + (s.account who).reserved < balanceBound := by
      unfold AccountData.total saturatingAdd at htotal
      omega
    rw [plus_of_lt (by omega)] at hfree
    cases hfree
    have hdust : dust cfg { s.account who with free := (s.account who).free + amount } = 0 := by
      refine dust_of_le ?_
      show cfg.existentialDeposit
        ≤ saturatingAdd ((s.account who).free + amount) (s.account who).reserved
      unfold AccountData.total saturatingAdd at *
      omega
    have hissuance := hu.totalIssuance
    obtain ⟨hfinite, hsupply⟩ := hu.supply hs.finite
    rw [hdust] at hissuance hsupply
    simp only [AccountData.holding] at hsupply
    have hraise : exec (raiseIssuance cfg amount) u = (.ok (), _) := exec_raiseIssuance (by omega)
    refine .of_ok ((exec_bind_of_ok hexec).trans hraise) (.of_add (x := amount) hfinite ?_ hissued ?_)
    · show u.supply + 0 = _
      omega
    · show u.totalIssuance + amount = _
      omega

/-- What is burnt is covered by the free balance, and by the issuance. -/
structure Burnable (cfg : Config) (s : Storage sys) (who : AccountId) (amount : Nat) : Prop where
  fits : (s.account who).holding < balanceBound
  covered : ∀ extra, (canWithdraw cfg s who amount).intoResult = .ok extra →
    amount + extra ≤ (s.account who).free ∧ amount + extra ≤ s.totalIssuance

theorem squares_burnFrom (hburn : Burnable cfg s who amount) :
    Squares (fun _ => 0) (fun _ => 0) s (burnFrom cfg who amount : Op sys Nat) := by
  refine .ite (fun _ => squares_pure hs rfl rfl) fun hamount => ?_
  have hfits := hs.fits
  rcases exec_tryMutateAccount_lenient hlenient
      (f := fun account _ => burnClosure cfg who amount account)
      (fun _ _ => reads_burnClosure) s with ⟨e, he⟩ | ⟨actual, d, u, hok, hu, hexec⟩
  · exact .of_error hs (exec_bind_of_error he)
  · obtain ⟨extra, free, hextra, hactual, hfree, rfl, -⟩ := burnClosure_eq_ok.mp hok
    obtain ⟨hfree', hissued⟩ := hburn.covered extra hextra
    rw [plus_of_lt (by omega)] at hactual
    cases hactual
    rw [minus_of_le hfree'] at hfree
    cases hfree
    -- the account has the existential deposit left, or nothing
    have hdust : dust cfg { s.account who with
        free := (s.account who).free - (amount + extra) } = 0 := by
      obtain ⟨-, -, -, -, hleft⟩ := (withdrawConsequence_intoResult hamount).mp hextra
      have hholding := hburn.fits
      unfold dust
      split_ifs with hlt
      · unfold AccountData.total saturatingAdd at *
        unfold AccountData.holding at hholding
        simp only at *
        omega
      · rfl
    have hissuance := hu.totalIssuance
    obtain ⟨hfinite, hsupply⟩ := hu.supply hs.finite
    rw [hdust] at hissuance hsupply
    simp only [AccountData.holding] at hsupply
    have hlower : exec (lowerIssuance cfg (amount + extra)) u = (.ok (), _) :=
      exec_lowerIssuance (by omega)
    refine .of_ok ((exec_bind_of_ok hexec).trans ((exec_bind_of_ok hlower).trans exec_pure))
      (.of_sub hs hfinite (x := amount + extra) ?_ ?_)
    · show u.supply + 0 + (amount + extra) = _
      omega
    · show u.totalIssuance - (amount + extra) = _
      omega

omit hlenient in
theorem squares_transfer {transactor dest : AccountId} {requirement : ExistenceRequirement} :
    Squares (fun _ => 0) (fun _ => 0) s
      (transfer cfg transactor dest value requirement : Op sys Unit) := by
  by_cases hnothing : value = 0 ∨ transactor = dest
  · exact .of_ok (exec_transfer_of_nothing hnothing) (.refl hs)
  · rcases exec_transfer_cases hnothing with ⟨-, e, he⟩ | ⟨h, a₁, a₂, h₁, h₂, hexec⟩
    · exact .of_error hs he
    · have hne : dest ≠ transactor := fun heq => hnothing (Or.inr heq.symm)
      obtain ⟨hfinite, hsupply⟩ := supply_set_set hs.finite hne h₁
        (h₂.trans (congrArg Except.ok transferred_accounts.symm))
      refine .of_ok hexec (.of_sub hs hfinite ?_ transferred_totalIssuance)
      have hcovered := h.covered
      simp only [AccountData.holding, debited, credited] at hsupply ⊢
      omega

/-- An account that pays to itself releases. -/
theorem squares_doTransferReserved {slashed beneficiary : AccountId} {bestEffort : Bool}
    {status : BalanceStatus} (hroom : slashed = beneficiary → Room s slashed value) :
    Squares (fun _ => 0) (fun _ => 0) s
      (doTransferReserved cfg slashed beneficiary value bestEffort status : Op sys Nat) := by
  by_cases hv : value = 0
  · refine .of_ok (a := 0) ?_ (.refl hs)
    unfold doTransferReserved
    rw [if_pos hv, exec_pure]
  · by_cases hself : slashed = beneficiary
    · cases status with
      | Free =>
          refine .of_exec_eq ?_ (squares_unreserve hlenient hs (hroom hself))
          unfold doTransferReserved
          rw [if_neg hv, if_pos hself]
      | Reserved =>
          refine .of_ok (a := value - reservedBalance s slashed) ?_ (.refl hs)
          unfold doTransferReserved
          rw [if_neg hv, if_pos hself]
          rfl
    · by_cases hpay : ∃ paid, Payable slashed beneficiary value bestEffort status s paid
      · obtain ⟨paid, hpay⟩ := hpay
        obtain ⟨a₁, h₁⟩ := hlenient s.accounts slashed (docked s slashed value)
        obtain ⟨a₂, h₂⟩ := hlenient a₁ beneficiary paid
        have haccounts : (repatriated cfg slashed beneficiary value status s paid a₁ a₂).accounts
            = a₂ := repatriated_accounts
        obtain ⟨hfinite, hsupply⟩ := supply_set_set hs.finite (Ne.symm hself) h₁
          (h₂.trans (congrArg Except.ok haccounts.symm))
        refine .of_ok (exec_doTransferReserved_of_ok hv hself hpay h₁ h₂)
          (.of_sub hs hfinite ?_ repatriated_totalIssuance)
        have hpaid := giveTo_holding hpay.2.2
        simp only [AccountData.holding, docked] at hsupply hpaid ⊢
        omega
      · obtain ⟨e, he⟩ := exec_doTransferReserved_of_not hv hself hpay
        exact .of_error hs he

/-! ### Setting a balance -/

omit hlenient [DecidableEq AccountId] in
/-- Dropping the imbalance between two balances, as far as it fits. -/
theorem exec_square (old new : Nat) : ∃ t, exec (square old new) s = (.ok (), t) ∧
    t.accounts = s.accounts ∧ (t.totalIssuance : Int) = clamp (s.totalIssuance + new - old) := by
  have hfits := hs.fits
  have hpos := balanceBound_pos
  unfold square
  split_ifs with hlt hgt
  · refine ⟨_, exec_modify, rfl, ?_⟩
    show ((saturatingAdd s.totalIssuance (new - old) : Nat) : Int) = _
    unfold clamp saturatingAdd
    omega
  · refine ⟨_, exec_modify, rfl, ?_⟩
    show ((s.totalIssuance - (old - new) : Nat) : Int) = _
    unfold clamp
    omega
  · refine ⟨s, exec_pure, rfl, ?_⟩
    unfold clamp
    omega

/-- The new balances, after an account below the existential deposit is wiped out. -/
def wipedOut (cfg : Config) (whole value : Nat) : Nat :=
  if whole < cfg.existentialDeposit then 0 else value

/-- Squaring the free balance, which comes first, fits into the issuance. -/
def SquaresFirst (cfg : Config) (s : Storage sys) (who : AccountId) (newFree newReserved : Nat) :
    Prop :=
  ∀ whole, plus cfg newFree newReserved = .ok whole →
    (s.account who).free ≤ s.totalIssuance + wipedOut cfg whole newFree ∧
    s.totalIssuance + wipedOut cfg whole newFree < (s.account who).free + balanceBound

omit hlenient hs [DecidableEq AccountId] in
/-- The new balances leave no dust. -/
theorem dust_wipedOut {whole newFree newReserved : Nat} (account : AccountData)
    (hwhole : plus cfg newFree newReserved = .ok whole) :
    dust cfg { account with
      free := wipedOut cfg whole newFree, reserved := wipedOut cfg whole newReserved } = 0 := by
  have hed := cfg.existentialDeposit_lt
  unfold dust
  split_ifs with hlt
  · change saturatingAdd (wipedOut cfg whole newFree) (wipedOut cfg whole newReserved) < _ at hlt
    show saturatingAdd (wipedOut cfg whole newFree) (wipedOut cfg whole newReserved) = 0
    unfold saturatingAdd wipedOut at *
    by_cases hwipe : whole < cfg.existentialDeposit
    · simp [hwipe]
    · -- a sum below the existential deposit does not overflow
      rw [if_neg hwipe, if_neg hwipe] at hlt
      rw [plus_of_lt (by omega)] at hwhole
      cases hwhole
      omega
  · rfl

theorem squares_setBalance {origin : Origin AccountId} {newFree newReserved : Nat}
    (hfirst : SquaresFirst cfg s who newFree newReserved) :
    Squares (fun _ => 0) (fun _ => 0) s
      (setBalance cfg origin who newFree newReserved : Op sys Unit) := by
  cases origin with
  | Signed w | None => exact .of_error hs (exec_lift_bind_of_error rfl)
  | Root =>
      unfold setBalance
      refine .of_exec_eq (exec_lift_bind_of_ok rfl) ?_
      cases hwhole : plus cfg newFree newReserved with
      | error e => exact .of_error hs (exec_lift_bind_of_error rfl)
      | ok whole =>
          refine .of_exec_eq (exec_lift_bind_of_ok rfl) ?_
          obtain ⟨hle, hlt⟩ := hfirst whole hwhole
          have hdust := dust_wipedOut (s.account who) hwhole
          -- the imbalances of the two balances, one after the other
          obtain ⟨t₁, h₁, ha₁, hi₁⟩ :=
            exec_square hs (s.account who).free (wipedOut cfg whole newFree)
          have hs₁ : Sound t₁ := by
            refine ⟨(finiteHolders_congr (congrArg sys.get ha₁)).mpr hs.finite, ?_⟩
            unfold clamp at hi₁
            omega
          obtain ⟨t₂, h₂, ha₂, hi₂⟩ :=
            exec_square hs₁ (s.account who).reserved (wipedOut cfg whole newReserved)
          have hclosure : exec (setBalanceClosure (wipedOut cfg whole newFree)
              (wipedOut cfg whole newReserved) (s.account who)) s = _ :=
            (exec_bind_of_ok h₁).trans ((exec_bind_of_ok h₂).trans exec_pure)
          obtain ⟨accounts, hset⟩ := hlenient t₂.accounts who { s.account who with
            free := wipedOut cfg whole newFree, reserved := wipedOut cfg whole newReserved }
          have hmutate : exec (mutateAccount cfg who fun account =>
              setBalanceClosure (wipedOut cfg whole newFree) (wipedOut cfg whole newReserved)
                account) s = _ := exec_tryMutateAccount_of_ok hclosure hset
          rw [ha₂, ha₁] at hset
          let u : Storage sys := { t₂ with accounts }
          obtain ⟨hfinite, hsupply⟩ := supply_set (t := u) hs.finite hset
          rw [hdust] at hsupply
          have heffect : Effect s 0 0 u := by
            refine ⟨hfinite, ?_⟩
            show (t₂.totalIssuance : Int) = _
            simp only [AccountData.holding] at hsupply
            unfold clamp at hi₁ hi₂ ⊢
            omega
          refine .of_ok ((exec_bind_of_ok hmutate).trans rfl) (heffect.congr ?_ ?_)
          · exact congrArg sys.get (Drop.accounts_drop _ _)
          · refine drop_cleaner_totalIssuance.trans ?_
            rw [hdust]
            rfl

end Operations

end HydraDX.PalletBalances
