import HydraDX.Primitives
import HydraDX.Lib.Supply

set_option autoImplicit false

/-! # What the pallets are given from outside

The pallets are generic in their currency (`T::Currency`) and call the crate
`hydra_dx_math`. Neither is part of the repository, so both are parameters here, each a
record of functions together with the documented behaviour that the pallets rely on.

* `HydraDxMath` gives the values of the crate's functions when they succeed: quotients
  rounded down, plus one in `calculateOutGivenIn` and `calculateInGivenOut`, as pinned by
  `pallets/xyk/src/tests.rs`. When they fail is left open, up to a zero divisor.
* `Currency` gives the effect of a ledger call that succeeds, as an operation of
  `Lib/Ledger.lean`. When a call is refused (locks, overflow, a dead account, an existential
  deposit) is left open; a refused call changes nothing.

`HydraDxMath.exact` and `Currency.tokens` are instances: exact quotients, and the plain
token ledger that the mock runtimes of the pallets use. -/

namespace HydraDX

/-! ## `hydra_dx_math` -/

inductive MathError where
  | Overflow
  | InsufficientOutReserve
  | ZeroInReserve
  deriving DecidableEq, Repr

structure HydraDxMath where
  calculateSpotPrice : Nat → Nat → Nat → Except MathError Nat
  calculateOutGivenIn : Nat → Nat → Nat → Except MathError Nat
  calculateInGivenOut : Nat → Nat → Nat → Except MathError Nat
  calculateLiquidityIn : Nat → Nat → Nat → Except MathError Nat
  calculateLiquidityOut : Nat → Nat → Nat → Nat →
    Except MathError (Nat × Nat)
  spotPrice_ok : ∀ {inReserve outReserve amount r},
    calculateSpotPrice inReserve outReserve amount = .ok r →
      inReserve ≠ 0 ∧ r = amount * outReserve / inReserve
  outGivenIn_ok : ∀ {inReserve outReserve amount r},
    calculateOutGivenIn inReserve outReserve amount = .ok r →
      inReserve + amount ≠ 0 ∧ r = outReserve * amount / (inReserve + amount) + 1
  inGivenOut_ok : ∀ {outReserve inReserve amount r},
    calculateInGivenOut outReserve inReserve amount = .ok r →
      amount < outReserve ∧ r = inReserve * amount / (outReserve - amount) + 1
  liquidityIn_ok : ∀ {aReserve bReserve amount r},
    calculateLiquidityIn aReserve bReserve amount = .ok r →
      aReserve ≠ 0 ∧ r = amount * bReserve / aReserve
  liquidityOut_ok : ∀ {aReserve bReserve amount total r},
    calculateLiquidityOut aReserve bReserve amount total = .ok r →
      total ≠ 0 ∧ r = (aReserve * amount / total, bReserve * amount / total)

/-- A result that does not fit into `u128` is an overflow. -/
def fitBalance (r : Nat) : Except MathError Nat :=
  if r < balanceBound then .ok r else .error .Overflow

theorem fitBalance_eq_ok {r r' : Nat} : fitBalance r = .ok r' ↔ r < balanceBound ∧ r' = r := by
  unfold fitBalance
  by_cases h : r < balanceBound
  · simp [h, eq_comm]
  · simp [h]

/-- The functions of the crate that fail only where the exact value does not exist or does
not fit into a balance. -/
def HydraDxMath.exact : HydraDxMath where
  calculateSpotPrice inReserve outReserve amount := do
    ensure (inReserve ≠ 0) .ZeroInReserve
    fitBalance (amount * outReserve / inReserve)
  calculateOutGivenIn inReserve outReserve amount := do
    ensure (inReserve + amount ≠ 0) .ZeroInReserve
    fitBalance (outReserve * amount / (inReserve + amount) + 1)
  calculateInGivenOut outReserve inReserve amount := do
    ensure (amount ≤ outReserve) .InsufficientOutReserve
    ensure (amount ≠ outReserve) .ZeroInReserve
    fitBalance (inReserve * amount / (outReserve - amount) + 1)
  calculateLiquidityIn aReserve bReserve amount := do
    ensure (aReserve ≠ 0) .ZeroInReserve
    fitBalance (amount * bReserve / aReserve)
  calculateLiquidityOut aReserve bReserve amount total := do
    ensure (total ≠ 0) .ZeroInReserve
    let removeA ← fitBalance (aReserve * amount / total)
    let removeB ← fitBalance (bReserve * amount / total)
    return (removeA, removeB)
  spotPrice_ok h := by
    rw [Fallible.ensure_bind_eq_ok, fitBalance_eq_ok] at h
    exact ⟨h.1, h.2.2⟩
  outGivenIn_ok h := by
    rw [Fallible.ensure_bind_eq_ok, fitBalance_eq_ok] at h
    exact ⟨h.1, h.2.2⟩
  inGivenOut_ok h := by
    rw [Fallible.ensure_bind_eq_ok, Fallible.ensure_bind_eq_ok, fitBalance_eq_ok] at h
    exact ⟨Nat.lt_of_le_of_ne h.1 h.2.1, h.2.2.2⟩
  liquidityIn_ok h := by
    rw [Fallible.ensure_bind_eq_ok, fitBalance_eq_ok] at h
    exact ⟨h.1, h.2.2⟩
  liquidityOut_ok h := by
    rw [Fallible.ensure_bind_eq_ok] at h
    obtain ⟨ht, h⟩ := h
    simp only [Fallible.bind_eq_ok, fitBalance_eq_ok] at h
    obtain ⟨a, ⟨-, rfl⟩, b, ⟨-, rfl⟩, h⟩ := h
    cases h
    exact ⟨ht, rfl⟩

/-! ## The currency -/

inductive CurrencyError where
  | BalanceTooLow
  | BalanceOverflow
  | TotalIssuanceOverflow
  | LiquidityRestrictions
  | InsufficientBalance
  | Overflow
  | DeadAccount
  deriving DecidableEq, Repr

/-- `T::Currency`: a `MultiCurrency` with reservations. The free balance is read off the
ledger. Reserved balance is only ever paid out to the free balance of the beneficiary
(`BalanceStatus::Free`); the number that the call returns is not used by the pallets. -/
structure Currency (AccountId : Type) [DecidableEq AccountId] where
  transfer : AssetId → AccountId → AccountId → Nat → Ledger AssetId AccountId →
    Except CurrencyError (Ledger AssetId AccountId)
  deposit : AssetId → AccountId → Nat → Ledger AssetId AccountId →
    Except CurrencyError (Ledger AssetId AccountId)
  withdraw : AssetId → AccountId → Nat → Ledger AssetId AccountId →
    Except CurrencyError (Ledger AssetId AccountId)
  reserve : AssetId → AccountId → Nat → Ledger AssetId AccountId →
    Except CurrencyError (Ledger AssetId AccountId)
  unreserve : AssetId → AccountId → Nat → Ledger AssetId AccountId → Ledger AssetId AccountId
  repatriateReserved : AssetId → AccountId → AccountId → Nat → Ledger AssetId AccountId →
    Except CurrencyError (Nat × Ledger AssetId AccountId)
  transfer_ok : ∀ {asset source dest amount l l'},
    transfer asset source dest amount l = .ok l' →
      (source ≠ dest → amount ≤ l.free asset source) ∧ l' = l.move asset source dest amount
  deposit_ok : ∀ {asset who amount l l'},
    deposit asset who amount l = .ok l' → l' = l.mint asset who amount
  withdraw_ok : ∀ {asset who amount l l'},
    withdraw asset who amount l = .ok l' →
      amount ≤ l.free asset who ∧ l' = l.burn asset who amount
  reserve_ok : ∀ {asset who amount l l'},
    reserve asset who amount l = .ok l' →
      amount ≤ l.free asset who ∧ l' = l.hold asset who amount
  unreserve_eq : ∀ asset who amount l,
    unreserve asset who amount l = l.release asset who amount
  repatriateReserved_ok : ∀ {asset source dest amount l rest l'},
    repatriateReserved asset source dest amount l = .ok (rest, l') →
      l' = l.repatriate asset source dest amount

/-! ### Calls as ledger operations -/

section Steps

variable {AccountId : Type} [DecidableEq AccountId] {currency : Currency AccountId}
  {asset : AssetId} {who source dest : AccountId} {amount : Nat}
  {l l' : Ledger AssetId AccountId} {I D : AssetId → Prop}

theorem Currency.transfer_moves (h : currency.transfer asset source dest amount l = .ok l') :
    Ledger.Moves I D l l' := by
  obtain ⟨hle, rfl⟩ := currency.transfer_ok h
  exact (Ledger.Step.move asset source dest amount hle).moves

theorem Currency.withdraw_moves (hD : D asset)
    (h : currency.withdraw asset who amount l = .ok l') : Ledger.Moves I D l l' := by
  obtain ⟨hle, rfl⟩ := currency.withdraw_ok h
  exact (Ledger.Step.burn asset who amount hD hle).moves

theorem Currency.unreserve_moves :
    Ledger.Moves I D l (currency.unreserve asset who amount l) := by
  rw [currency.unreserve_eq]
  exact (Ledger.Step.release asset who amount).moves

end Steps

section Tokens

variable {AccountId : Type} [DecidableEq AccountId]

/-- The plain token ledger: no locks and no existential deposit, a call is refused exactly
when the free balance is too low or the receiving balance would overflow. -/
def Currency.tokens : Currency AccountId where
  transfer asset source dest amount l := do
    ensure (source ≠ dest → amount ≤ l.free asset source) .BalanceTooLow
    ensure (source ≠ dest → l.free asset dest + amount < balanceBound) .BalanceOverflow
    return l.move asset source dest amount
  deposit asset who amount l := do
    ensure (l.issuance asset + amount < balanceBound) .TotalIssuanceOverflow
    return l.mint asset who amount
  withdraw asset who amount l := do
    ensure (amount ≤ l.free asset who) .BalanceTooLow
    return l.burn asset who amount
  reserve asset who amount l := do
    ensure (amount ≤ l.free asset who) .BalanceTooLow
    return l.hold asset who amount
  unreserve asset who amount l := l.release asset who amount
  repatriateReserved asset source dest amount l :=
    .ok (amount - min (l.reserved asset source) amount, l.repatriate asset source dest amount)
  transfer_ok h := by
    simp only [Fallible.ensure_bind_eq_ok] at h
    obtain ⟨h1, -, h⟩ := h
    cases h
    exact ⟨h1, rfl⟩
  deposit_ok h := by
    simp only [Fallible.ensure_bind_eq_ok] at h
    obtain ⟨-, h⟩ := h
    cases h
    rfl
  withdraw_ok h := by
    simp only [Fallible.ensure_bind_eq_ok] at h
    obtain ⟨h1, h⟩ := h
    cases h
    exact ⟨h1, rfl⟩
  reserve_ok h := by
    simp only [Fallible.ensure_bind_eq_ok] at h
    obtain ⟨h1, h⟩ := h
    cases h
    exact ⟨h1, rfl⟩
  unreserve_eq _ _ _ _ := rfl
  repatriateReserved_ok h := by
    cases h
    rfl

end Tokens

end HydraDX
