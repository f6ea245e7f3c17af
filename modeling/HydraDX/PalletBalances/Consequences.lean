import HydraDX.PalletBalances.Supply

set_option autoImplicit false

/-! # What is announced is what happens

`can_deposit` and `can_withdraw` announce how issuing to an account or burning from it will end, and
`reducible_balance` how much of it can be withdrawn. Here they are compared with the calls, for any
existential deposit and any account store. Issuing ends as announced. So does burning, but for one
case: an account with reserved balance that would be left with less than the existential deposit is
emptied, and the reserved part is taken off the free balance. -/

namespace HydraDX.PalletBalances

open Balances (WithdrawReasons Reasons)
open Dispatch

variable {AccountId : Type} {sys : AccountStore AccountId} {cfg : Config} {who : AccountId}
  {amount : Nat} {s u : Storage sys}

/-- `u` is `s` with another free balance of one account, and another issuance. -/
structure FreeSet (cfg : Config) (who : AccountId) (free issued : Nat) (s u : Storage sys) : Prop where
  account_self : u.account who = settled cfg { s.account who with free }
  account_of_ne : ∀ w, w ≠ who → u.account w = s.account w
  issuance : u.totalIssuance = issued
  locks : u.locks = s.locks

/-- After a mutation of a free balance, and another issuance set. -/
theorem Mutated.freeSet {free issued issued' : Nat}
    (h : Mutated cfg who { s.account who with free } s u) (hissued : issued' = issued) :
    FreeSet cfg who free issued s { u with totalIssuance := issued' } :=
  ⟨h.account_self, fun _ hw => h.account_of_ne hw, hissued, h.locks⟩

/-! ## Issuing -/

/-- **Issuing ends as announced.** -/
theorem exec_mintInto (hamount : amount ≠ 0) :
    (∃ e, (canDeposit cfg s who amount).intoResult = .error e ∧
      exec (mintInto cfg who amount) s = (.error e, s)) ∨
    ((canDeposit cfg s who amount).intoResult = .ok () ∧
      ∃ u, exec (mintInto cfg who amount) s = (.ok (), u) ∧
        FreeSet cfg who ((s.account who).free + amount) (s.totalIssuance + amount) s u) := by
  unfold mintInto
  rw [if_neg hamount]
  cases hcan : (canDeposit cfg s who amount).intoResult with
  | error e =>
      have hclosure : exec (mintClosure cfg amount (s.account who)) s = (.error e, s) := by
        unfold mintClosure
        rw [exec_get_bind]
        exact exec_lift_bind_of_error hcan
      exact Or.inl ⟨e, rfl, exec_bind_of_error (exec_tryMutateAccount_of_error hclosure)⟩
  | ok _ =>
      right
      obtain ⟨hissued, htotal, hed⟩ := depositConsequence_intoResult.mp hcan hamount
      -- the sum is not saturated
      have hsum : (s.account who).free + amount + (s.account who).reserved < balanceBound := by
        unfold AccountData.total saturatingAdd at htotal
        omega
      have hclosure : exec (mintClosure cfg amount (s.account who)) s = (.ok ((), _), s) :=
        mintClosure_eq_ok.mpr ⟨hcan, ⟨_, plus_of_lt (by omega), rfl⟩, rfl⟩
      have hkept : cfg.existentialDeposit
          ≤ { s.account who with free := (s.account who).free + amount }.total := by
        show _ ≤ saturatingAdd ((s.account who).free + amount) (s.account who).reserved
        unfold AccountData.total saturatingAdd at *
        omega
      obtain ⟨accounts, hset⟩ : ∃ accounts, sys.set who (kept cfg _) s.accounts = .ok accounts :=
        exists_set_kept (Or.inl hkept)
      have hu : Mutated cfg who _ s _ := ⟨accounts, hset, rfl⟩
      have hissuance := hu.totalIssuance
      rw [dust_of_le hkept, Nat.sub_zero] at hissuance
      exact ⟨rfl, _, (exec_bind_of_ok (exec_tryMutateAccount_of_ok hclosure hset)).trans
        (exec_raiseIssuance (by omega)), hu.freeSet (by rw [hissuance])⟩

/-- Too little for a new account, and enough. -/
theorem exec_mintInto_two :
    (∃ e, exec (mintInto Dev.dear 1 5) (Dev.empty : Storage (System : AccountStore Nat))
      = (.error e, Dev.empty)) ∧
    ∃ u : Storage (System : AccountStore Nat), exec (mintInto Dev.dear 1 50) Dev.empty = (.ok (), u) ∧
      FreeSet Dev.dear 1 50 50 Dev.empty u := by
  have hfew : (canDeposit Dev.dear (Dev.empty : Storage (System : AccountStore Nat)) 1 5).intoResult
      ≠ .ok () := by decide +kernel
  have henough : ∀ e, (canDeposit Dev.dear (Dev.empty : Storage (System : AccountStore Nat)) 1
      50).intoResult ≠ .error e := fun e he => by cases he
  constructor
  · rcases exec_mintInto (show 5 ≠ 0 by decide) with ⟨e, -, h⟩ | ⟨hcan, -⟩
    · exact ⟨e, h⟩
    · exact absurd hcan hfew
  · rcases exec_mintInto (show 50 ≠ 0 by decide) with ⟨e, hcan, -⟩ | ⟨-, h⟩
    · exact absurd hcan (henough e)
    · exact h

/-! ## Burning -/

/-- **Burning ends as announced**, unless reserved balance would have to be burnt: then the free
balance underflows. -/
theorem exec_burnFrom (hamount : amount ≠ 0) (hfits : (s.account who).holding < balanceBound)
    (hissued : (s.account who).holding ≤ s.totalIssuance) :
    (∃ e, (canWithdraw cfg s who amount).intoResult = .error e ∧
      exec (burnFrom cfg who amount) s = (.error e, s)) ∨
    (∃ extra, (canWithdraw cfg s who amount).intoResult = .ok extra ∧
      (extra = 0 ∨ (s.account who).reserved = 0) ∧
      ∃ u, exec (burnFrom cfg who amount) s = (.ok (amount + extra), u) ∧
        FreeSet cfg who ((s.account who).free - (amount + extra))
          (s.totalIssuance - (amount + extra)) s u) ∨
    (∃ extra, (canWithdraw cfg s who amount).intoResult = .ok extra ∧
      extra ≠ 0 ∧ (s.account who).reserved ≠ 0 ∧
      (cfg.overflowChecks = true →
        exec (burnFrom cfg who amount) s = (.error (.panic .arithmetic), s))) := by
  unfold burnFrom
  rw [if_neg hamount]
  cases hcan : (canWithdraw cfg s who amount).intoResult with
  | error e =>
      have hclosure : exec (burnClosure cfg who amount (s.account who)) s = (.error e, s) := by
        unfold burnClosure
        rw [exec_get_bind]
        exact exec_lift_bind_of_error hcan
      exact Or.inl ⟨e, rfl, exec_bind_of_error (exec_tryMutateAccount_of_error hclosure)⟩
  | ok extra =>
      right
      obtain ⟨-, htotal, hfree, -, hleft⟩ := (withdrawConsequence_intoResult hamount).mp hcan
      have hexact : (s.account who).total = (s.account who).holding := by
        unfold AccountData.total saturatingAdd AccountData.holding at *
        omega
      rw [hexact] at htotal hleft
      unfold AccountData.holding at *
      have hsum : amount + extra < balanceBound := by omega
      by_cases hcovered : amount + extra ≤ (s.account who).free
      · left
        have hclosure : exec (burnClosure cfg who amount (s.account who)) s
            = (.ok (amount + extra, _), s) :=
          burnClosure_eq_ok.mpr ⟨extra, _, hcan, plus_of_lt hsum, minus_of_le hcovered, rfl, rfl⟩
        have hnew : { s.account who with
            free := (s.account who).free - (amount + extra) }.total
              = (s.account who).free - (amount + extra) + (s.account who).reserved := by
          show saturatingAdd ((s.account who).free - (amount + extra)) (s.account who).reserved = _
          unfold saturatingAdd
          omega
        have hdust : dust cfg { s.account who with
            free := (s.account who).free - (amount + extra) } = 0 := by
          unfold dust
          rw [hnew]
          split_ifs
          · omega
          · rfl
        obtain ⟨accounts, hset⟩ : ∃ accounts, sys.set who (kept cfg { s.account who with
            free := (s.account who).free - (amount + extra) }) s.accounts = .ok accounts := by
          refine exists_set_kept ?_
          rw [hnew]
          rcases hleft with ⟨hed, rfl⟩ | ⟨-, hdec, -⟩
          · exact Or.inl (by omega)
          · exact Or.inr hdec
        have hu : Mutated cfg who _ s _ := ⟨accounts, hset, rfl⟩
        have hissuance := hu.totalIssuance
        rw [hdust, Nat.sub_zero] at hissuance
        exact ⟨extra, rfl, by omega, _,
          (exec_bind_of_ok (exec_tryMutateAccount_of_ok hclosure hset)).trans
            ((exec_bind_of_ok (exec_lowerIssuance (by omega))).trans exec_pure),
          hu.freeSet (by rw [hissuance])⟩
      · right
        refine ⟨extra, rfl, by omega, by omega, fun hchecks => ?_⟩
        refine exec_bind_of_error (exec_tryMutateAccount_of_error ?_)
        have hminus : minus cfg (s.account who).free (amount + extra)
            = .error (.panic .arithmetic) := by
          unfold minus subBalance
          rw [if_neg hcovered, hchecks]
          rfl
        unfold burnClosure
        rw [exec_get_bind]
        refine (exec_lift_bind_of_ok hcan).trans ?_
        rw [exec_lift_bind_of_ok (plus_of_lt hsum), exec_lift_bind_of_error hminus]

/-- An account that is wiped out, and one whose reserved balance is counted as well. -/
theorem exec_burnFrom_two :
    (∃ u, exec (burnFrom Dev.dear 1 15) (Dev.alone 0 20 0) = (.ok 20, u) ∧
      FreeSet Dev.dear 1 0 0 (Dev.alone 0 20 0) u) ∧
    exec (burnFrom Dev.dear 1 17) (Dev.alone 0 20 5)
      = (.error (.panic .arithmetic), Dev.alone 0 20 5) := by
  have hwiped : (canWithdraw Dev.dear (Dev.alone 0 20 0) 1 15).intoResult = .ok 5 := rfl
  have hcounted : (canWithdraw Dev.dear (Dev.alone 0 20 5) 1 17).intoResult = .ok 8 := rfl
  constructor
  · rcases @exec_burnFrom Nat System Dev.dear 1 15 (Dev.alone 0 20 0) (by decide) (by decide)
      (by decide) with ⟨e, hcan, -⟩ | ⟨extra, hcan, -, h⟩ | ⟨extra, -, -, hreserved, -⟩
    · rw [hwiped] at hcan
      cases hcan
    · rw [hwiped] at hcan
      cases hcan
      exact h
    · exact absurd rfl hreserved
  · rcases @exec_burnFrom Nat System Dev.dear 1 17 (Dev.alone 0 20 5) (by decide) (by decide)
      (by decide) with ⟨e, hcan, -⟩ | ⟨extra, hcan, hnone, -⟩ | ⟨extra, -, -, -, h⟩
    · rw [hcounted] at hcan
      cases hcan
    · rw [hcounted] at hcan
      cases hcan
      exact absurd hnone (by decide)
    · exact h rfl

/-! ## How much can be withdrawn -/

/-- When a withdrawal is announced to leave the account alive. -/
theorem withdrawConsequence_eq_success (hamount : amount ≠ 0) {account : AccountData} :
    withdrawConsequence cfg s who amount account = .Success ↔
      amount ≤ s.totalIssuance ∧ amount ≤ account.total ∧ amount ≤ account.free ∧
        account.frozen .All ≤ account.free - amount ∧
        cfg.existentialDeposit ≤ account.total - amount := by
  unfold withdrawConsequence
  rw [if_neg hamount]
  simp only
  split_ifs <;> simp only [true_iff, false_iff, not_and]
  · omega
  · omega
  · omega
  · omega
  · omega
  · omega
  · omega

/-- **The reducible balance** is the largest amount that can be withdrawn, as far as it is issued:
with what is left to be wiped out, or with the account kept alive. -/
theorem reducibleBalance_iff (hamount : amount ≠ 0) (hissued : amount ≤ s.totalIssuance)
    (hfits : (s.account who).holding < balanceBound) :
    ((∃ extra, (canWithdraw cfg s who amount).intoResult = .ok extra) ↔
        amount ≤ reducibleBalance cfg s who false) ∧
      (canWithdraw cfg s who amount = .Success ↔ amount ≤ reducibleBalance cfg s who true) := by
  have htotal : (s.account who).total = (s.account who).free + (s.account who).reserved := by
    unfold AccountData.total saturatingAdd
    unfold AccountData.holding at hfits
    omega
  have hfrozen : (s.account who).frozen .All
      = max (s.account who).miscFrozen (s.account who).feeFrozen := rfl
  constructor
  · unfold canWithdraw reducibleBalance
    simp only [withdrawConsequence_intoResult hamount, htotal, hfrozen]
    constructor
    · rintro ⟨extra, -, -, hfree, hle, hleft⟩
      split_ifs with hdec
      · omega
      · -- the account cannot go
        rcases hleft with ⟨hed, -⟩ | ⟨-, hcan, -⟩
        · omega
        · exact absurd ⟨hcan, trivial⟩ hdec
    · intro hle
      by_cases hed : cfg.existentialDeposit
          ≤ (s.account who).free + (s.account who).reserved - amount
      · refine ⟨0, hissued, ?_, ?_, ?_, Or.inl ⟨hed, rfl⟩⟩
        all_goals split_ifs at hle <;> omega
      · split_ifs at hle with hdec
        · exact ⟨_, hissued, by omega, by omega, by omega, Or.inr ⟨by omega, hdec.1, rfl⟩⟩
        · omega
  · unfold canWithdraw reducibleBalance
    rw [withdrawConsequence_eq_success hamount, hfrozen, if_neg (by simp)]
    simp only [htotal]
    constructor
    · rintro ⟨-, -, hfree, hle, hed⟩
      omega
    · intro hle
      exact ⟨hissued, by omega, by omega, by omega, by omega⟩

/-- With twenty and an existential deposit of ten, more than ten can only go if all can. -/
theorem reducibleBalance_iff_ten :
    (canWithdraw Dev.dear (Dev.alone 1 20 0) 1 10 = .Success ∧
      canWithdraw Dev.dear (Dev.alone 1 20 0) 1 11 ≠ .Success) ∧
      ∃ extra, (canWithdraw Dev.dear (Dev.alone 0 20 0) 1 11).intoResult = .ok extra := by
  refine ⟨⟨?_, fun h => ?_⟩, ?_⟩
  · exact (reducibleBalance_iff (by decide) (by decide) (by decide)).2.mpr (by decide)
  · exact absurd ((reducibleBalance_iff (by decide) (by decide) (by decide)).2.mp h) (by decide)
  · exact (reducibleBalance_iff (by decide) (by decide) (by decide)).1.mpr (by decide)

end HydraDX.PalletBalances
