import HydraDX.Chain
import HydraDX.XYK.Reserves

set_option autoImplicit false

/-! # Pools are independent

Pools share assets, and a discounted trade looks at the pool of its asset and the native one.
Still a call writes to one pool only: the account of a pair is made from the pair, no caller is
such an account, and the discount is burned from the caller. -/

namespace HydraDX.XYK

variable {AccountId Hash : Type} [DecidableEq AccountId] {cfg : Config AccountId Hash}
  {s s' : State AccountId Hash} {account : AccountId}

/-- The state after a call: the calls are transactional, an error leaves the state as it was. -/
def Call.apply (cfg : Config AccountId Hash) (s : State AccountId Hash) (call : Call AccountId) :
    State AccountId Hash :=
  match call.dispatch cfg s with
  | .ok s' => s'
  | .error _ => s

/-- The calls of the pallet neither reserve nor release. -/
theorem Call.reserved_eq {call : Call AccountId} (h : call.dispatch cfg s = .ok s') :
    s'.ledger.reserved = s.ledger.reserved := by
  cases call with
  | createPool who a b amount price =>
      obtain ⟨_, _, _, hc⟩ := createPool_ok h
      rw [hc.state_eq]
      simp
  | addLiquidity who a b amount limit =>
      obtain ⟨_, _, hc⟩ := addLiquidity_ok h
      rw [hc.state_eq]
      simp
  | removeLiquidity who a b amount =>
      obtain ⟨_, _, hc⟩ := removeLiquidity_ok h
      rw [hc.ledger_eq]
      simp
  | sell who a b amount limit discount =>
      obtain ⟨_, t, -, rfl⟩ := sell_ok h
      simp [soldLedger]
  | buy who a b amount limit discount =>
      obtain ⟨_, _, t, -, rfl⟩ := buy_ok h
      simp [boughtLedger]

/-- The assets of other pools stay recorded as they are. -/
theorem Call.poolAssets_of_ne {call : Call AccountId} (h : call.dispatch cfg s = .ok s')
    (hpool : account ≠ getPairId cfg call.assets) :
    s'.poolAssets account = s.poolAssets account := by
  cases call with
  | createPool who a b amount price =>
      obtain ⟨_, _, _, hc⟩ := createPool_ok h
      rw [hc.state_eq]
      exact Function.update_of_ne hpool _ _
  | addLiquidity who a b amount limit =>
      obtain ⟨_, _, hc⟩ := addLiquidity_ok h
      rw [hc.state_eq]
  | removeLiquidity who a b amount =>
      obtain ⟨_, _, hc⟩ := removeLiquidity_ok h
      rw [hc.poolAssets_eq]
      split_ifs
      · exact Function.update_of_ne hpool _ _
      · rfl
  | sell who a b amount limit discount =>
      obtain ⟨_, _, -, rfl⟩ := sell_ok h
      rfl
  | buy who a b amount limit discount =>
      obtain ⟨_, _, _, -, rfl⟩ := buy_ok h
      rfl

/-- **A call leaves all other pools as they are**, whether it succeeds or not. -/
theorem pools_independent (cfg : Config AccountId Hash) (hinj : SeedsInjective cfg)
    (s : State AccountId Hash) (call : Call AccountId) (hwho : NotPoolAccount cfg call.who)
    (pair : AssetPair) (hne : pair ≠ call.assets) (hswap : pair ≠ call.assets.swap) :
    (∀ asset, (call.apply cfg s).ledger.free asset (getPairId cfg pair)
      = s.ledger.free asset (getPairId cfg pair)) ∧
    (∀ asset, (call.apply cfg s).ledger.reserved asset (getPairId cfg pair)
      = s.ledger.reserved asset (getPairId cfg pair)) ∧
    (call.apply cfg s).totalLiquidity (getPairId cfg pair)
      = s.totalLiquidity (getPairId cfg pair) ∧
    (call.apply cfg s).shareToken (getPairId cfg pair) = s.shareToken (getPairId cfg pair) ∧
    (call.apply cfg s).poolAssets (getPairId cfg pair) = s.poolAssets (getPairId cfg pair) := by
  have hpool : getPairId cfg pair ≠ getPairId cfg call.assets := fun he =>
    (hinj.eq_or_swap he).elim hne hswap
  unfold Call.apply
  cases h : call.dispatch cfg s with
  | error e => exact ⟨fun _ => rfl, fun _ => rfl, rfl, rfl, rfl⟩
  | ok s' =>
      have hu := Call.untouched h (hwho _ _).symm hpool
      refine ⟨hu.free, fun asset => ?_, hu.totalLiquidity, hu.shareToken,
        Call.poolAssets_of_ne h hpool⟩
      show s'.ledger.reserved asset _ = _
      rw [Call.reserved_eq h]

/-! ## Two pools that share an asset -/

open Fallible

/-- Pools of the assets `0` and `1` and of the assets `1` and `2`. -/
def twoPools : Except Exchange.Failure (State Dev.AccountId Dev.Hash) :=
  Dev.after
    (Dev.genesis [(0, [1], 1000000), (1, [1], 1000000), (2, [1], 1000000), (0, [2], 1000000),
      (1, [2], 1000000)])
    [.xyk (.createPool [1] 0 1 400000 (10 ^ 18)), .xyk (.createPool [1] 1 2 400000 (10 ^ 18))]

/-- A discounted sell in the second pool, with the discount worked out from the first one. -/
def discountedSell : Call Dev.AccountId := .sell [2] 1 2 100000 1 true

theorem pools_independent_discountedSell :
    Succeeds twoPools fun s =>
      Succeeds (discountedSell.dispatch Dev.cfg s) (fun s' =>
        s'.ledger.issuance 0 < s.ledger.issuance 0) ∧
      ∀ asset, (discountedSell.apply Dev.cfg s).ledger.free asset (getPairId Dev.cfg ⟨1, 0⟩)
        = s.ledger.free asset (getPairId Dev.cfg ⟨1, 0⟩) := by
  obtain ⟨s, hs, hcall⟩ : Succeeds twoPools fun s => Succeeds (discountedSell.dispatch Dev.cfg s)
      (fun s' => s'.ledger.issuance 0 < s.ledger.issuance 0) := by decide +kernel
  exact ⟨s, hs, hcall, (pools_independent Dev.cfg Dev.seedsInjective s discountedSell
    (Dev.notPoolAccount 2) ⟨1, 0⟩ (by decide) (by decide)).1⟩

end HydraDX.XYK
