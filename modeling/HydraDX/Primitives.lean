import HydraDX.Lib.Fallible

set_option autoImplicit false

/-! # The primitives shared by the pallets

Asset ids, balances, asset pairs, intentions, AMM transfers and fees, as in
`primitives/src/lib.rs`, `primitives/src/asset.rs` and `primitives/src/traits.rs`.

A balance is a `u128`. It is a `Nat` here, and every operation that can leave the range
of `u128` says so: the checked operations return `none`, and plain `+` and `-` go through
`addBalance` and `subBalance`, which panic or wrap as the build does. An `AssetId` is a
`u32`, whose little-endian bytes name pools and accounts. -/

namespace HydraDX

/-! ## Numbers -/

abbrev AssetId := UInt32

abbrev BlockNumber := UInt32

/-- One past the largest `u128`. -/
def balanceBound : Nat := 2 ^ 128

theorem balanceBound_pos : 0 < balanceBound := by decide

def CORE_ASSET_ID : AssetId := 0

def MAX_OUT_RATIO : Nat := 3

def MAX_IN_RATIO : Nat := 3

def MIN_TRADING_LIMIT : Nat := 1000

def checkedAdd (a b : Nat) : Option Nat :=
  if a + b < balanceBound then some (a + b) else none

def checkedSub (a b : Nat) : Option Nat :=
  if b ≤ a then some (a - b) else none

def checkedMul (a b : Nat) : Option Nat :=
  if a * b < balanceBound then some (a * b) else none

def checkedDiv (a b : Nat) : Option Nat :=
  if b = 0 then none else some (a / b)

/-- What stops a block: arithmetic that leaves its type, or an `expect` that fails. -/
inductive Panic where
  | arithmetic
  | expectFailed
  deriving DecidableEq, Repr

/-- `a + b` on `u128`. With overflow checks an overflow panics, without them it wraps. -/
def addBalance (overflowChecks : Bool) (a b : Nat) : Except Panic Nat :=
  if a + b < balanceBound then .ok (a + b)
  else if overflowChecks then .error .arithmetic
  else .ok ((a + b) % balanceBound)

/-- `a - b` on `u128`. With overflow checks an underflow panics, without them it wraps. -/
def subBalance (overflowChecks : Bool) (a b : Nat) : Except Panic Nat :=
  if b ≤ a then .ok (a - b)
  else if overflowChecks then .error .arithmetic
  else .ok (balanceBound + a - b)

theorem checkedSub_eq_some {a b r : Nat} : checkedSub a b = some r ↔ b ≤ a ∧ r = a - b := by
  unfold checkedSub
  split_ifs with h
  · simp [h, eq_comm]
  · simp [h]

theorem checkedAdd_eq_some {a b r : Nat} :
    checkedAdd a b = some r ↔ a + b < balanceBound ∧ r = a + b := by
  unfold checkedAdd
  split_ifs with h
  · simp [h, eq_comm]
  · simp [h]

theorem checkedMul_eq_some {a b r : Nat} :
    checkedMul a b = some r ↔ a * b < balanceBound ∧ r = a * b := by
  unfold checkedMul
  split_ifs with h
  · simp [h, eq_comm]
  · simp [h]

theorem checkedDiv_eq_some {a b r : Nat} : checkedDiv a b = some r ↔ b ≠ 0 ∧ r = a / b := by
  unfold checkedDiv
  split_ifs with h
  · simp [h]
  · simp [h, eq_comm]

theorem subBalance_of_le {checks : Bool} {a b : Nat} (h : b ≤ a) :
    subBalance checks a b = .ok (a - b) := by
  rw [subBalance, if_pos h]

theorem addBalance_of_lt {checks : Bool} {a b : Nat} (h : a + b < balanceBound) :
    addBalance checks a b = .ok (a + b) := by
  rw [addBalance, if_pos h]

/-- With overflow checks, a subtraction panics exactly when it would go below zero. -/
theorem subBalance_error_iff {a b : Nat} {e : Panic} :
    subBalance true a b = .error e ↔ a < b ∧ e = .arithmetic := by
  unfold subBalance
  by_cases h : b ≤ a
  · simp [h]
  · simp [h, Nat.lt_of_not_le h, eq_comm]

/-! ## Asset pairs -/

/-- The bytes of an asset id, the least significant first. -/
def toLeBytes (a : AssetId) : List UInt8 :=
  [a.toUInt8, (a >>> 8).toUInt8, (a >>> 16).toUInt8, (a >>> 24).toUInt8]

theorem toLeBytes_injective : Function.Injective toLeBytes := by
  intro a b h
  simp only [toLeBytes, List.cons.injEq, and_true] at h
  obtain ⟨h0, h1, h2, h3⟩ := h
  have e0 := congrArg UInt8.toNat h0
  have e1 := congrArg UInt8.toNat h1
  have e2 := congrArg UInt8.toNat h2
  have e3 := congrArg UInt8.toNat h3
  simp only [UInt32.toNat_toUInt8, UInt32.toNat_shiftRight, UInt32.reduceToNat, Nat.reduceMod,
    Nat.shiftRight_eq_div_pow, Nat.reducePow] at e0 e1 e2 e3
  have ha := a.toNat_lt
  have hb := b.toNat_lt
  apply UInt32.toNat_inj.mp
  omega

theorem toLeBytes_length (a : AssetId) : (toLeBytes a).length = 4 := rfl

structure AssetPair where
  assetIn : AssetId
  assetOut : AssetId
  deriving DecidableEq, Repr

/-- The pair with its assets the other way round. -/
def AssetPair.swap (pair : AssetPair) : AssetPair := ⟨pair.assetOut, pair.assetIn⟩

/-- The two assets, the smaller id first. Used in storage. -/
def AssetPair.orderedPair (pair : AssetPair) : AssetId × AssetId :=
  if pair.assetIn ≤ pair.assetOut then (pair.assetIn, pair.assetOut)
  else (pair.assetOut, pair.assetIn)

/-- The name of the share token: the ordered ids around the text `HDT`. -/
def AssetPair.name (pair : AssetPair) : List UInt8 :=
  toLeBytes pair.orderedPair.1 ++ [72, 68, 84] ++ toLeBytes pair.orderedPair.2

theorem AssetPair.orderedPair_swap (pair : AssetPair) : pair.swap.orderedPair = pair.orderedPair := by
  unfold AssetPair.orderedPair AssetPair.swap
  simp only
  split_ifs with h h' h'
  · rw [UInt32.le_antisymm h h']
  · rfl
  · rfl
  · exact absurd (UInt32.le_of_lt (UInt32.not_le.mp h)) h'

/-- The ordered pair determines the pair up to its order. -/
theorem AssetPair.orderedPair_injective {pair pair' : AssetPair}
    (h : pair.orderedPair = pair'.orderedPair) : pair = pair' ∨ pair = pair'.swap := by
  cases pair
  cases pair'
  unfold AssetPair.orderedPair AssetPair.swap at *
  simp only [AssetPair.mk.injEq] at *
  split_ifs at h
  all_goals
    simp only [Prod.mk.injEq] at h
    simp [h.1, h.2]

theorem AssetPair.name_swap (pair : AssetPair) : pair.swap.name = pair.name := by
  unfold AssetPair.name
  rw [AssetPair.orderedPair_swap]

/-- The name of the share token determines the pair up to its order. -/
theorem AssetPair.name_injective {pair pair' : AssetPair} (h : pair.name = pair'.name) :
    pair = pair' ∨ pair = pair'.swap := by
  apply AssetPair.orderedPair_injective
  unfold AssetPair.name at h
  obtain ⟨h₁, h₂⟩ := List.append_inj' h (by rw [toLeBytes_length, toLeBytes_length])
  exact Prod.ext (toLeBytes_injective (List.append_cancel_right h₁)) (toLeBytes_injective h₂)

/-! ## Intentions and transfers -/

inductive IntentionType where
  | SELL
  | BUY
  deriving DecidableEq, Repr

structure ExchangeIntention (AccountId IntentionID : Type) where
  who : AccountId
  assets : AssetPair
  amountIn : Nat
  amountOut : Nat
  tradeLimit : Nat
  discount : Bool
  sellOrBuy : IntentionType
  intentionId : IntentionID
  deriving DecidableEq

structure AMMTransfer (AccountId : Type) where
  origin : AccountId
  assets : AssetPair
  amount : Nat
  amountOut : Nat
  discount : Bool
  discountAmount : Nat

/-! ## Fees -/

structure Fee where
  numerator : UInt32
  denominator : UInt32
  deriving DecidableEq, Repr

/-- The default fee: 0.2%. -/
def Fee.default : Fee := ⟨2, 1000⟩

def withFee (x : Nat) (fee : Fee) : Option Nat := do
  let y ← checkedMul x (fee.denominator.toNat + fee.numerator.toNat)
  checkedDiv y fee.denominator.toNat

def withoutFee (x : Nat) (fee : Fee) : Option Nat := do
  let y ← checkedMul x fee.denominator.toNat
  checkedDiv y (fee.denominator.toNat + fee.numerator.toNat)

def justFee (x : Nat) (fee : Fee) : Option Nat := do
  let y ← checkedMul x fee.numerator.toNat
  checkedDiv y fee.denominator.toNat

/-- A product that fits, divided. -/
theorem checkedMul_checkedDiv_eq_some {x m q r : Nat} :
    (checkedMul x m >>= fun y => checkedDiv y q) = some r ↔
      x * m < balanceBound ∧ q ≠ 0 ∧ r = x * m / q := by
  rw [Option.bind_eq_bind, Option.bind_eq_some_iff]
  constructor
  · rintro ⟨y, hmul, hdiv⟩
    obtain ⟨hlt, rfl⟩ := checkedMul_eq_some.mp hmul
    exact ⟨hlt, checkedDiv_eq_some.mp hdiv⟩
  · rintro ⟨hlt, hdiv⟩
    exact ⟨_, checkedMul_eq_some.mpr ⟨hlt, rfl⟩, checkedDiv_eq_some.mpr hdiv⟩

theorem justFee_eq_some {x fee : Nat} {rate : Fee} :
    justFee x rate = some fee ↔ x * rate.numerator.toNat < balanceBound ∧
      rate.denominator.toNat ≠ 0 ∧ fee = x * rate.numerator.toNat / rate.denominator.toNat :=
  checkedMul_checkedDiv_eq_some

/-- The fee of a discounted trade: 0.07%. -/
def discountedFee (x : Nat) : Option Nat := justFee x ⟨7, 10000⟩

/-! ## Prices -/

/-- `FixedU128::checked_mul_int`: the product rounded down, `none` on overflow. A price is a
number of units of `10 ^ -18`. -/
def checkedMulInt (price n : Nat) : Option Nat :=
  if price * n / 10 ^ 18 < balanceBound then some (price * n / 10 ^ 18) else none

end HydraDX
