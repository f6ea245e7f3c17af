import HydraDX.Balances
import HydraDX.Lib.Imbalance

set_option autoImplicit false

/-! # Withdrawals and imbalances of the native currency

`pallets/balances/src/lib.rs`, the part that pays fees. Withdrawing lowers a free balance and
returns a negative imbalance, depositing raises one and returns a positive imbalance; neither
touches the total issuance. It is adjusted when an imbalance is dropped. Until then imbalances
are offset, split and merged, so that a fee of which a part is refunded ends in one drop.

An imbalance is its amount. The existential deposit of the runtime is zero. -/

namespace HydraDX.Balances

/-! ## Reasons and locks -/

/-- `WithdrawReasons`, a set of flags. -/
structure WithdrawReasons where
  transactionPayment : Bool
  transfer : Bool
  reserve : Bool
  fee : Bool
  tip : Bool
  deriving DecidableEq, Repr

def WithdrawReasons.TRANSACTION_PAYMENT : WithdrawReasons := ⟨true, false, false, false, false⟩

def WithdrawReasons.TIP : WithdrawReasons := ⟨false, false, false, false, true⟩

def WithdrawReasons.union (r r' : WithdrawReasons) : WithdrawReasons where
  transactionPayment := r.transactionPayment || r'.transactionPayment
  transfer := r.transfer || r'.transfer
  reserve := r.reserve || r'.reserve
  fee := r.fee || r'.fee
  tip := r.tip || r'.tip

inductive Reasons where
  | Fee
  | Misc
  | All
  deriving DecidableEq, Repr

def Reasons.ofWithdrawReasons (r : WithdrawReasons) : Reasons :=
  if r = .TRANSACTION_PAYMENT then .Fee
  else if r.transactionPayment then .All
  else .Misc

inductive ExistenceRequirement where
  | KeepAlive
  | AllowDeath
  deriving DecidableEq, Repr

/-- The errors of a withdrawal or a deposit. -/
inductive Error where
  | LiquidityRestrictions
  | InsufficientBalance
  | KeepAlive
  | DeadAccount
  | Overflow
  deriving DecidableEq, Repr

/-- `ExistentialDeposit` of the runtime. -/
def existentialDeposit : Nat := 0

/-! ## Imbalances -/

/-- Funds that were destroyed without the issuance being lowered. -/
structure NegativeImbalance where
  amount : Nat
  deriving DecidableEq, Repr

/-- Funds that were created without the issuance being raised. -/
structure PositiveImbalance where
  amount : Nat
  deriving DecidableEq, Repr

/-- What two opposite imbalances leave. -/
inductive SameOrOther (α β : Type) where
  | none
  | same (a : α)
  | other (b : β)
  deriving DecidableEq, Repr

def PositiveImbalance.zero : PositiveImbalance := ⟨0⟩

def PositiveImbalance.peek (imbalance : PositiveImbalance) : Nat := imbalance.amount

namespace NegativeImbalance

def zero : NegativeImbalance := ⟨0⟩

def peek (imbalance : NegativeImbalance) : Nat := imbalance.amount

def split (imbalance : NegativeImbalance) (amount : Nat) : NegativeImbalance × NegativeImbalance :=
  let first := min imbalance.amount amount
  (⟨first⟩, ⟨imbalance.amount - first⟩)

/-- The sum of the two, with `saturating_add`. -/
def merge (imbalance other : NegativeImbalance) : NegativeImbalance :=
  ⟨min (imbalance.amount + other.amount) (balanceBound - 1)⟩

def offset (imbalance : NegativeImbalance) (other : PositiveImbalance) :
    SameOrOther NegativeImbalance PositiveImbalance :=
  if other.amount < imbalance.amount then .same ⟨imbalance.amount - other.amount⟩
  else if imbalance.amount < other.amount then .other ⟨other.amount - imbalance.amount⟩
  else .none

end NegativeImbalance

/-- `same`: nothing is left of two equal imbalances, which counts as zero. -/
def SameOrOther.toSame {β : Type} : SameOrOther NegativeImbalance β → Except β NegativeImbalance
  | .none => .ok .zero
  | .same imbalance => .ok imbalance
  | .other excess => .error excess

variable {AccountId : Type} [DecidableEq AccountId] (native : AssetId)

/-- `Drop`: square up the total issuance, with `saturating_sub`. -/
def NegativeImbalance.drop (imbalance : NegativeImbalance) (l : Ledger AssetId AccountId) :
    Ledger AssetId AccountId :=
  l.retire native imbalance.amount

/-- `Drop`: square up the total issuance, with `saturating_add`. -/
def PositiveImbalance.drop (imbalance : PositiveImbalance) (l : Ledger AssetId AccountId) :
    Ledger AssetId AccountId :=
  { l with
    issuance := Function.update l.issuance native
      (min (l.issuance native + imbalance.amount) (balanceBound - 1)) }

/-- `OnUnbalanced` of `()`: the imbalances are merged and dropped. -/
def onUnbalanceds (amounts : List NegativeImbalance) (l : Ledger AssetId AccountId) :
    Ledger AssetId AccountId :=
  (amounts.foldl (fun imbalance x => NegativeImbalance.merge x imbalance) .zero).drop native l

/-! ## Withdrawing and depositing -/

/-- What the free balance of the account may not fall below. -/
def frozen (l : Ledger AssetId AccountId) (who : AccountId) : Reasons → Nat
  | .All => max (l.miscFrozen native who) (l.feeFrozen native who)
  | .Misc => l.miscFrozen native who
  | .Fee => l.feeFrozen native who

def ensureCanWithdraw (who : AccountId) (amount : Nat) (reasons : WithdrawReasons)
    (newBalance : Nat) (l : Ledger AssetId AccountId) : Except Error Unit :=
  if amount = 0 then .ok ()
  else ensure (newBalance ≥ frozen native l who (.ofWithdrawReasons reasons))
    .LiquidityRestrictions

/-- Withdraw free balance. The two sums are compared with the existential deposit only, so that
it does not matter that they are sums of `u128`. -/
def withdraw (who : AccountId) (value : Nat) (reasons : WithdrawReasons)
    (liveness : ExistenceRequirement) (l : Ledger AssetId AccountId) :
    Except Error (NegativeImbalance × Ledger AssetId AccountId) :=
  if value = 0 then .ok (.zero, l)
  else do
    ensure (value ≤ l.free native who) .InsufficientBalance
    let newFree := l.free native who - value
    let wouldBeDead := newFree + l.reserved native who < existentialDeposit
    let wouldKill := wouldBeDead ∧
      l.free native who + l.reserved native who ≥ existentialDeposit
    ensure (liveness = .AllowDeath ∨ ¬ wouldKill) .KeepAlive
    ensureCanWithdraw native who value reasons newFree l
    return (⟨value⟩, l.take native who value)

/-- Deposit into an account that is there. -/
def depositIntoExisting (who : AccountId) (value : Nat) (l : Ledger AssetId AccountId) :
    Except Error (PositiveImbalance × Ledger AssetId AccountId) :=
  if value = 0 then .ok (.zero, l)
  else do
    ensure (isNew native l who = false) .DeadAccount
    ensure (l.free native who + value < balanceBound) .Overflow
    return (⟨value⟩, l.give native who value)

/-- Deposit into an account, which is created if need be. A deposit that would overflow the
balance is not made, and its imbalance is zero. -/
def depositCreating (who : AccountId) (value : Nat) (l : Ledger AssetId AccountId) :
    PositiveImbalance × Ledger AssetId AccountId :=
  if value = 0 then (.zero, l)
  else if ¬ (value ≥ existentialDeposit ∨ isNew native l who = false) then (.zero, l)
  else if l.free native who + value < balanceBound then (⟨value⟩, l.give native who value)
  else (.zero, l)

/-! ## What they do -/

section Specs

variable {native} {l l' : Ledger AssetId AccountId} {who : AccountId} {value : Nat}
  {reasons : WithdrawReasons} {liveness : ExistenceRequirement}

/-- A withdrawal that succeeds is covered, and its imbalance is what was taken. -/
theorem withdraw_ok {imbalance : NegativeImbalance}
    (h : withdraw native who value reasons liveness l = .ok (imbalance, l')) :
    value ≤ l.free native who ∧ imbalance = ⟨value⟩ ∧ l' = l.take native who value := by
  unfold withdraw at h
  by_cases hv : value = 0
  · rw [if_pos hv] at h
    cases h
    refine ⟨by omega, by rw [hv]; rfl, ?_⟩
    simp only [Ledger.take, hv, Nat.sub_zero, Ledger.put_eq_self]
  · rw [if_neg hv] at h
    obtain ⟨hcovered, h⟩ := Fallible.ensure_bind_eq_ok.mp h
    obtain ⟨-, h⟩ := Fallible.ensure_bind_eq_ok.mp h
    obtain ⟨_, -, h⟩ := Fallible.bind_eq_ok.mp h
    cases h
    exact ⟨hcovered, rfl, rfl⟩

/-- A deposit into an account with data that does not overflow. -/
theorem depositIntoExisting_of_fits (hnew : isNew native l who = false)
    (hfits : l.free native who + value < balanceBound) :
    depositIntoExisting native who value l = .ok (⟨value⟩, l.give native who value) := by
  unfold depositIntoExisting
  by_cases hv : value = 0
  · rw [if_pos hv]
    simp only [Ledger.give, hv, Nat.add_zero, Ledger.put_eq_self]
    rfl
  · rw [if_neg hv]
    simp [hnew, hfits, ensure, bind, Except.bind, pure, Except.pure]

/-- A deposit into an existing account is made in full, or it fails. -/
theorem depositIntoExisting_cases (native : AssetId) (who : AccountId) (value : Nat)
    (l : Ledger AssetId AccountId) :
    depositIntoExisting native who value l = .ok (⟨value⟩, l.give native who value) ∨
    ∃ e, depositIntoExisting native who value l = .error e := by
  by_cases hfits : isNew native l who = false ∧ l.free native who + value < balanceBound
  · exact Or.inl (depositIntoExisting_of_fits hfits.1 hfits.2)
  · unfold depositIntoExisting
    by_cases hv : value = 0
    · rw [if_pos hv, hv, Ledger.give_zero]
      exact Or.inl rfl
    · rw [if_neg hv]
      right
      by_cases hnew : isNew native l who = false
      · have hoverflow : ¬ l.free native who + value < balanceBound := fun h => hfits ⟨hnew, h⟩
        refine ⟨.Overflow, ?_⟩
        simp [hnew, hoverflow, ensure, bind, Except.bind]
      · refine ⟨.DeadAccount, ?_⟩
        simp [hnew, ensure, bind, Except.bind]

/-- A deposit is made in full, or not at all. -/
theorem depositCreating_cases (who : AccountId) (value : Nat) (l : Ledger AssetId AccountId) :
    (value ≠ 0 ∧ depositCreating native who value l = (⟨value⟩, l.give native who value)) ∨
    depositCreating native who value l = (.zero, l) := by
  unfold depositCreating
  have hed : value ≥ existentialDeposit ∨ isNew native l who = false := Or.inl (Nat.zero_le _)
  rw [if_neg (not_not.mpr hed)]
  split_ifs with hv hfits
  · exact Or.inr rfl
  · exact Or.inl ⟨hv, rfl⟩
  · exact Or.inr rfl

/-- A deposit whose imbalance is dropped issues what was deposited. -/
theorem give_drop (hfits : l.issuance native + value < balanceBound) :
    (⟨value⟩ : PositiveImbalance).drop native (l.give native who value)
      = l.mint native who value := by
  have hmin : min (l.issuance native + value) (balanceBound - 1) = l.issuance native + value := by
    omega
  show ({ l.give native who value with
    issuance := Function.update l.issuance native
      (min (l.issuance native + value) (balanceBound - 1)) } : Ledger AssetId AccountId) = _
  rw [hmin]
  rfl

omit [DecidableEq AccountId] in
/-- Dropping nothing does nothing. -/
theorem drop_zero (hfits : l.issuance native < balanceBound) :
    PositiveImbalance.zero.drop native l = l := by
  have hmin : min (l.issuance native + 0) (balanceBound - 1) = l.issuance native := by omega
  show ({ l with
    issuance := Function.update l.issuance native
      (min (l.issuance native + 0) (balanceBound - 1)) } : Ledger AssetId AccountId) = l
  rw [hmin, Function.update_eq_self]

/-- Nothing is deposited into an account without data. -/
theorem depositIntoExisting_of_isNew (hnew : isNew native l who = true) (hv : value ≠ 0) :
    depositIntoExisting native who value l = .error .DeadAccount := by
  unfold depositIntoExisting
  rw [if_neg hv]
  simp [hnew, ensure, bind, Except.bind]

omit [DecidableEq AccountId] in
/-- The parts of an imbalance are dropped like the whole. -/
theorem onUnbalanceds_split {imbalance : NegativeImbalance} (tip : Nat)
    (hfits : imbalance.amount < balanceBound) (l : Ledger AssetId AccountId) :
    onUnbalanceds native [(imbalance.split tip).1, (imbalance.split tip).2] l
      = l.retire native imbalance.amount := by
  have hparts : min imbalance.amount tip + (imbalance.amount - min imbalance.amount tip)
      = imbalance.amount := Nat.add_sub_cancel' (Nat.min_le_left _ _)
  have hmerged : ([(imbalance.split tip).1, (imbalance.split tip).2].foldl
      (fun imbalance x => NegativeImbalance.merge x imbalance) .zero).amount
        = imbalance.amount := by
    show min (imbalance.amount - min imbalance.amount tip
      + min (min imbalance.amount tip + 0) (balanceBound - 1)) (balanceBound - 1) = _
    omega
  show l.retire native _ = _
  rw [hmerged]

/-- A refund of at most what was paid leaves the rest of the payment. -/
theorem offset_toSame {paid refund : Nat} (h : refund ≤ paid) :
    ((⟨paid⟩ : NegativeImbalance).offset ⟨refund⟩).toSame = .ok ⟨paid - refund⟩ := by
  simp only [NegativeImbalance.offset]
  by_cases hlt : refund < paid
  · rw [if_pos hlt]
    rfl
  · have heq : refund = paid := by omega
    rw [if_neg hlt, if_neg (by omega), heq, Nat.sub_self]
    rfl

end Specs

end HydraDX.Balances
