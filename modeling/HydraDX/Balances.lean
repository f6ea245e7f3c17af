import HydraDX.Environment

set_option autoImplicit false

/-! # The native currency

`pallets/balances/src/lib.rs`, the part that pays reserved balance out. The data of an
account are kept by `System` (`AccountStore = System`), which does not store data that are
all zero: such an account counts as new. The existential deposit of the runtime is zero, so
no account is removed for holding too little. -/

namespace HydraDX

inductive BalanceStatus where
  | Free
  | Reserved
  deriving DecidableEq, Repr

namespace Balances

variable {AccountId : Type} [DecidableEq AccountId] (native : AssetId)

/-- `is_new`: the data of the account are all zero. -/
def isNew (l : Ledger AssetId AccountId) (who : AccountId) : Bool :=
  l.free native who = 0 ∧ l.reserved native who = 0 ∧ l.miscFrozen native who = 0 ∧
    l.feeFrozen native who = 0

/-- Release reserved balance; returns what could not be released. -/
def unreserve (who : AccountId) (value : Nat) (l : Ledger AssetId AccountId) :
    Nat × Ledger AssetId AccountId :=
  if value = 0 then (0, l)
  else if l.free native who + l.reserved native who = 0 then (value, l)
  else (value - min (l.reserved native who) value, l.release native who value)

/-- Move reserved balance of `slashed` to `beneficiary`; returns what was moved. For an
account that pays to itself it returns what `unreserve` returns. -/
def doTransferReserved (slashed beneficiary : AccountId) (value : Nat) (bestEffort : Bool)
    (status : BalanceStatus) (l : Ledger AssetId AccountId) :
    Except CurrencyError (Nat × Ledger AssetId AccountId) :=
  if value = 0 then .ok (0, l)
  else if slashed = beneficiary then
    match status with
    | .Free => .ok (unreserve native slashed value l)
    | .Reserved => .ok (value - l.reserved native slashed, l)
  -- also where the beneficiary holds other assets
  else if isNew native l beneficiary then .error .DeadAccount
  else
    let actual := min (l.reserved native slashed) value
    if bestEffort = false ∧ actual ≠ value then .error .InsufficientBalance
    else
      match status with
      | .Free =>
          if l.free native beneficiary + actual < balanceBound then
            .ok (actual, l.repatriate native slashed beneficiary value)
          else .error .Overflow
      | .Reserved =>
          if l.reserved native beneficiary + actual < balanceBound then
            .ok (actual, { l with
              reserved := Ledger.put (Ledger.put l.reserved native beneficiary
                (l.reserved native beneficiary + actual)) native slashed
                (l.reserved native slashed - actual) })
          else .error .Overflow

def repatriateReserved (slashed beneficiary : AccountId) (value : Nat) (status : BalanceStatus)
    (l : Ledger AssetId AccountId) : Except CurrencyError (Nat × Ledger AssetId AccountId) :=
  match doTransferReserved native slashed beneficiary value true status l with
  | .error e => .error e
  | .ok (actual, l) => .ok (value - actual, l)

section Specs

variable {native} {l l' : Ledger AssetId AccountId} {slashed beneficiary : AccountId}
  {value rest : Nat}

/-- Releasing has the effect of the ledger operation, also where the account is skipped. -/
theorem unreserve_ledger (who : AccountId) (value : Nat) (l : Ledger AssetId AccountId) :
    (unreserve native who value l).2 = l.release native who value := by
  have hnothing : min (l.reserved native who) value = 0 → l = l.release native who value := by
    intro hmin
    simp only [Ledger.release, hmin, Nat.add_zero, Nat.sub_zero, Ledger.put_eq_self]
  unfold unreserve
  -- nothing asked for, nothing held, or the operation itself
  split_ifs with h₁ h₂
  · exact hnothing (by omega)
  · exact hnothing (by omega)
  · rfl

/-- Paying out to free balance has the effect of the ledger operation. -/
theorem repatriateReserved_ledger
    (h : repatriateReserved native slashed beneficiary value .Free l = .ok (rest, l')) :
    l' = l.repatriate native slashed beneficiary value := by
  unfold repatriateReserved doTransferReserved at h
  by_cases hv : value = 0
  · rw [if_pos hv] at h
    cases h
    simp only [Ledger.repatriate, hv, Nat.min_zero, Nat.add_zero, Nat.sub_zero,
      Ledger.put_eq_self]
  · rw [if_neg hv] at h
    by_cases hsb : slashed = beneficiary
    · -- paying to oneself is releasing
      rw [if_pos hsb] at h
      have hl' : (unreserve native slashed value l).2 = l' := (Prod.mk.inj (Except.ok.inj h)).2
      rw [← hl', unreserve_ledger, ← hsb, Ledger.release_eq_repatriate]
    · rw [if_neg hsb] at h
      by_cases hnew : isNew native l beneficiary = true
      · rw [if_pos hnew] at h
        cases h
      · rw [if_neg hnew] at h
        simp only [Bool.true_eq_false, false_and, if_false] at h
        by_cases hfit : l.free native beneficiary + min (l.reserved native slashed) value
            < balanceBound
        · rw [if_pos hfit] at h
          cases h
          rfl
        · rw [if_neg hfit] at h
          cases h

/-- **When paying out fails**: the beneficiary is a different account that counts as new, or
its balance would overflow. -/
theorem repatriateReserved_ok_iff :
    (∃ r, repatriateReserved native slashed beneficiary value .Free l = .ok r) ↔
      (value ≠ 0 → slashed ≠ beneficiary → isNew native l beneficiary = false ∧
        l.free native beneficiary + min (l.reserved native slashed) value < balanceBound) := by
  unfold repatriateReserved doTransferReserved
  by_cases hv : value = 0
  · simp [hv]
  · by_cases hsb : slashed = beneficiary
    · simp [hv, hsb]
    · by_cases hnew : isNew native l beneficiary = true
      · simp [hv, hsb, hnew]
      · by_cases hfit : l.free native beneficiary + min (l.reserved native slashed) value
            < balanceBound
        · simp [hv, hsb, hnew, hfit]
        · simp [hv, hsb, hnew, hfit]

end Specs

end Balances

/-- The currency of the runtime: the native asset pays reserved balance out as
`pallets/balances` does, all else is the plain token ledger. -/
def Currency.runtime {AccountId : Type} [DecidableEq AccountId] (native : AssetId) :
    Currency AccountId :=
  { Currency.tokens with
    repatriateReserved := fun asset source dest amount l =>
      if asset = native then Balances.repatriateReserved native source dest amount .Free l
      else Currency.tokens.repatriateReserved asset source dest amount l
    repatriateReserved_ok := fun {asset source dest amount l rest l'} h => by
      by_cases ha : asset = native
      · rw [if_pos ha] at h
        rw [ha]
        exact Balances.repatriateReserved_ledger h
      · rw [if_neg ha] at h
        exact Currency.tokens.repatriateReserved_ok h }

theorem Currency.runtime_native {AccountId : Type} [DecidableEq AccountId] (native : AssetId)
    (source dest : AccountId) (amount : Nat) (l : Ledger AssetId AccountId) :
    (Currency.runtime native).repatriateReserved native source dest amount l
      = Balances.repatriateReserved native source dest amount .Free l :=
  if_pos rfl

end HydraDX
