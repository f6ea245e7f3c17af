import HydraDX.XYK.Reserves
import HydraDX.Chain
import HydraDX.Lib.Rounding

set_option autoImplicit false

/-! # Adding liquidity and the value of a share

A share should stand for the same part of both reserves before and after somebody adds
liquidity. `add_liquidity` mints as many shares as units of the asset with the smaller id are
paid in, whatever a share is worth at that time. This is fair to the other holders as long
as the reserve of that asset is covered by the shares (`SharesCover`). A sell of that asset
raises its reserve and no share is minted for it: from then on a share is worth more than
one unit, and whoever adds liquidity gets it for one. -/

namespace HydraDX.XYK

variable {AccountId Hash : Type} [DecidableEq AccountId] {cfg : Config AccountId Hash}
  {s s' s'' : State AccountId Hash} {who : AccountId} {assetA assetB c : AssetId}
  {amountA amountB shares : Nat}

/-- There are at least as many shares as units of the asset with the smaller id. -/
def SharesCover (cfg : Config AccountId Hash) (s : State AccountId Hash) (assets : AssetPair) :
    Prop :=
  reserveOf cfg s assets (if assets.assetIn < assets.assetOut then assets.assetIn
    else assets.assetOut) ≤ s.totalLiquidity (getPairId cfg assets)

/-! ## One asset of the pool -/

/-- What adding liquidity does with one of the two assets: `paid` is moved from the caller
to the pool, and the caller holds the new shares. -/
structure PaidIn (cfg : Config AccountId Hash) (who : AccountId) (assets : AssetPair)
    (c : AssetId) (paid shares : Nat) (s s' : State AccountId Hash) : Prop where
  balance : paid ≤ s.ledger.free c who
  reserve : reserveOf cfg s' assets c = reserveOf cfg s assets c + paid
  free_who : s'.ledger.free c who = s.ledger.free c who - paid
    + if c = shareTokenOf s (getPairId cfg assets) then shares else 0

theorem LiquidityAdded.shareTokenOf_eq
    (h : LiquidityAdded cfg who assetA assetB amountA amountB shares s s') (account : AccountId) :
    shareTokenOf s' account = shareTokenOf s account := by
  rw [h.state_eq]
  rfl

theorem LiquidityAdded.total_eq
    (h : LiquidityAdded cfg who assetA assetB amountA amountB shares s s') :
    s'.totalLiquidity (getPairId cfg ⟨assetA, assetB⟩)
      = s.totalLiquidity (getPairId cfg ⟨assetA, assetB⟩) + shares := by
  rw [h.state_eq]
  exact Function.update_self _ _ _

/-- Both assets are paid in. -/
theorem LiquidityAdded.paidIn
    (h : LiquidityAdded cfg who assetA assetB amountA amountB shares s s') (hne : assetA ≠ assetB)
    (hwho : who ≠ getPairId cfg ⟨assetA, assetB⟩) :
    PaidIn cfg who ⟨assetA, assetB⟩ assetA amountA shares s s' ∧
    PaidIn cfg who ⟨assetA, assetB⟩ assetB amountB shares s s' := by
  have hledger : s'.ledger = _ := congrArg State.ledger h.state_eq
  constructor
  · refine ⟨h.balanceA, ?_, ?_⟩
    · rw [reserveOf, hledger]
      exact (fund_reserves _ _ _ _ _ hne hwho).1
    · rw [hledger, Ledger.mint_free_self, Ledger.move_free_of_ne (Or.inl hne),
        Ledger.move_free_source hwho]
  · refine ⟨h.balanceB, ?_, ?_⟩
    · rw [reserveOf, hledger]
      exact (fund_reserves _ _ _ _ _ hne hwho).2
    · rw [hledger, Ledger.mint_free_self, Ledger.move_free_source hwho,
        Ledger.move_free_of_ne (Or.inl hne.symm)]

/-- Shares that cover the reserve are paid for, in both assets. -/
theorem LiquidityAdded.mul_le_paid
    (h : LiquidityAdded cfg who assetA assetB amountA amountB shares s s')
    (hcover : SharesCover cfg s ⟨assetA, assetB⟩) :
    reserveOf cfg s ⟨assetA, assetB⟩ assetA * shares
      ≤ (amountA + 1) * s.totalLiquidity (getPairId cfg ⟨assetA, assetB⟩) ∧
    reserveOf cfg s ⟨assetA, assetB⟩ assetB * shares
      ≤ (amountB + 1) * s.totalLiquidity (getPairId cfg ⟨assetA, assetB⟩) := by
  unfold SharesCover at hcover
  rw [h.shares_eq, h.amountB_eq]
  by_cases hlt : assetA < assetB
  · rw [if_pos hlt] at hcover ⊢
    exact ⟨Rounding.mul_le_paid hcover, Rounding.mul_le_paid_rounded h.reserve_ne hcover⟩
  · rw [if_neg hlt] at hcover ⊢
    exact ⟨Rounding.rounded_mul_le_paid hcover, Rounding.mul_le_paid hcover⟩

/-- Removing liquidity pays each asset out in proportion to the shares, which are burned. -/
theorem LiquidityRemoved.free_who
    (h : LiquidityRemoved cfg who assetA assetB shares amountA amountB s s')
    (hne : assetA ≠ assetB) (hwho : who ≠ getPairId cfg ⟨assetA, assetB⟩)
    (hc : c = assetA ∨ c = assetB) :
    s'.ledger.free c who = s.ledger.free c who
      + reserveOf cfg s ⟨assetA, assetB⟩ c * shares
          / s.totalLiquidity (getPairId cfg ⟨assetA, assetB⟩)
      - if c = shareTokenOf s (getPairId cfg ⟨assetA, assetB⟩) then shares else 0 := by
  rw [h.ledger_eq, Ledger.burn_free_self]
  rcases hc with rfl | rfl
  · rw [Ledger.move_free_of_ne (Or.inl hne), Ledger.move_free_dest hwho.symm, h.amountA_eq]
  · rw [Ledger.move_free_dest hwho.symm, Ledger.move_free_of_ne (Or.inl hne.symm), h.amountB_eq]

/-- The same for the assets named in the other order. -/
theorem removeLiquidity_free_who {assets assets' : AssetPair}
    (hassets : assets' = assets ∨ assets' = assets.swap) (hne : assets.assetIn ≠ assets.assetOut)
    (hwho : who ≠ getPairId cfg assets)
    (h : removeLiquidity cfg who assets'.assetIn assets'.assetOut shares s = .ok s')
    (hc : c = assets.assetIn ∨ c = assets.assetOut) :
    s'.ledger.free c who = s.ledger.free c who
      + reserveOf cfg s assets c * shares / s.totalLiquidity (getPairId cfg assets)
      - if c = shareTokenOf s (getPairId cfg assets) then shares else 0 := by
  obtain ⟨_, _, hr⟩ := removeLiquidity_ok h
  rcases hassets with rfl | rfl
  · exact hr.free_who hne hwho hc
  · have hswap := hr.free_who (c := c) hne.symm (by rwa [← getPairId_swap] at hwho) hc.symm
    unfold reserveOf at hswap ⊢
    rwa [← getPairId_swap assets]

/-- An asset that was paid in and is paid out again. -/
theorem PaidIn.round_trip {assets : AssetPair} {paid : Nat}
    (h : PaidIn cfg who assets c paid shares s s')
    (hfair : reserveOf cfg s assets c * shares
      ≤ (paid + 1) * s.totalLiquidity (getPairId cfg assets))
    (hout : s''.ledger.free c who = s'.ledger.free c who
      + reserveOf cfg s' assets c * shares / (s.totalLiquidity (getPairId cfg assets) + shares)
      - if c = shareTokenOf s (getPairId cfg assets) then shares else 0) :
    s''.ledger.free c who ≤ s.ledger.free c who + 1 := by
  have hpaid := Rounding.payout_le hfair
  rw [← h.reserve] at hpaid
  have hbalance := h.balance
  rw [hout, h.free_who]
  omega

/-! ## Reachable pools -/

/-- A pool in a reachable state has two different assets. -/
theorem NoSelfPool.of_runs (hinj : SeedsInjective cfg) {P : State AccountId Hash →
    Call AccountId → Prop} (h₀ : NoPools s) (run : Runs cfg P s s') : NoSelfPool cfg s' :=
  run.invariant (fun _ _ _ hs _ h => hs.call hinj h) h₀.noSelfPool

/-- **Adding liquidity does not dilute covered shares.** In every reachable state, whoever
adds liquidity to a pool whose shares cover the reserve of the asset with the smaller id
leaves every share at least the part of both reserves that it stood for, up to one unit; and
removing the minted shares again, the two assets named in either order, returns at most one
unit more of either asset than was paid in. -/
theorem addLiquidity_keeps_share_value (hinj : SeedsInjective cfg) {s₀ : State AccountId Hash}
    (h₀ : NoPools s₀) (run : Runs cfg (fun _ _ => True) s₀ s) (who : AccountId)
    (assets : AssetPair) (amount limit : Nat) (hwho : who ≠ getPairId cfg assets)
    (hcover : SharesCover cfg s assets)
    (h : addLiquidity cfg who assets.assetIn assets.assetOut amount limit s = .ok s') :
    (∀ c, c = assets.assetIn ∨ c = assets.assetOut →
      reserveOf cfg s assets c * s'.totalLiquidity (getPairId cfg assets)
        ≤ (reserveOf cfg s' assets c + 1) * s.totalLiquidity (getPairId cfg assets)) ∧
    ∀ (shares : Nat) (assets' : AssetPair) (s'' : State AccountId Hash),
      s'.totalLiquidity (getPairId cfg assets)
        = s.totalLiquidity (getPairId cfg assets) + shares →
      assets' = assets ∨ assets' = assets.swap →
      removeLiquidity cfg who assets'.assetIn assets'.assetOut shares s' = .ok s'' →
        ∀ c, c = assets.assetIn ∨ c = assets.assetOut →
          s''.ledger.free c who ≤ s.ledger.free c who + 1 := by
  obtain ⟨amountB, minted, ha⟩ := addLiquidity_ok h
  have hne : assets.assetIn ≠ assets.assetOut := (NoSelfPool.of_runs hinj h₀ run).ne ha.pool
  -- the asset that is named first and the other one are both paid in, up to a unit, in proportion
  have hpaid : ∀ c, c = assets.assetIn ∨ c = assets.assetOut → ∃ paid,
      PaidIn cfg who assets c paid minted s s' ∧
      reserveOf cfg s assets c * minted
        ≤ (paid + 1) * s.totalLiquidity (getPairId cfg assets) := by
    rintro c (rfl | rfl)
    · exact ⟨_, (ha.paidIn hne hwho).1, (ha.mul_le_paid hcover).1⟩
    · exact ⟨_, (ha.paidIn hne hwho).2, (ha.mul_le_paid hcover).2⟩
  constructor
  · intro c hc
    obtain ⟨paid, hin, hfair⟩ := hpaid c hc
    rw [ha.total_eq, hin.reserve]
    exact Rounding.share_value_le hfair
  · intro shares assets' s'' htotal hassets hr c hc
    obtain ⟨paid, hin, hfair⟩ := hpaid c hc
    obtain rfl : minted = shares := Nat.add_left_cancel (ha.total_eq.symm.trans htotal)
    have hout := removeLiquidity_free_who hassets hne hwho hr hc
    rw [htotal, ha.shareTokenOf_eq] at hout
    exact hin.round_trip hfair hout

/-! ## Shares that do not cover the reserve -/

open Fallible

/-- After a sell there are `1300` of asset `1` in the pool and `1000` shares. -/
def soldPool : Except Exchange.Failure (State Dev.AccountId Dev.Hash) :=
  Dev.after (Dev.genesis [(1, [1], 1000000), (2, [1], 1000000), (1, [2], 10000), (1, [3], 10000),
      (2, [3], 10000)])
    [.xyk (.createPool [1] 1 2 1000 (10 ^ 18)), .xyk (.sell [2] 1 2 300 1 false)]

/-- Account `[3]` gets `1300` shares for `1300` of asset `1`, where the first `1000` shares
stood for as much. Removing the shares at once, it has `169` more of asset `1`. -/
theorem addLiquidity_dilutes_shares :
    Succeeds soldPool fun s => Succeeds (addLiquidity Dev.cfg [3] 1 2 1300 10000 s) fun s' =>
      reserveOf Dev.cfg s ⟨1, 2⟩ 1 = 1300 ∧ reserveOf Dev.cfg s' ⟨1, 2⟩ 1 = 2600 ∧
      s.totalLiquidity (getPairId Dev.cfg ⟨1, 2⟩) = 1000 ∧
      s'.totalLiquidity (getPairId Dev.cfg ⟨1, 2⟩) = 2300 ∧
      ¬ 1300 * 2300 ≤ (2600 + 1) * 1000 ∧
      Succeeds (removeLiquidity Dev.cfg [3] 1 2 1300 s') fun s'' =>
        s.ledger.free 1 [3] = 10000 ∧ s''.ledger.free 1 [3] = 10169 := by
  decide +kernel

/-- A pool that was not traded yet: the shares are the reserve of asset `1`. -/
theorem addLiquidity_keeps_share_value_untraded :
    Succeeds (createPool Dev.cfg [1] 1 2 1000 (10 ^ 18)
      (Dev.genesis [(1, [1], 5000), (2, [1], 5000), (1, [3], 5000), (2, [3], 5000)])) fun s =>
      SharesCover Dev.cfg s ⟨1, 2⟩ ∧
      Succeeds (addLiquidity Dev.cfg [3] 1 2 700 5000 s) fun s' =>
        1000 * s'.totalLiquidity (getPairId Dev.cfg ⟨1, 2⟩)
          ≤ (reserveOf Dev.cfg s' ⟨1, 2⟩ 1 + 1) * s.totalLiquidity (getPairId Dev.cfg ⟨1, 2⟩) ∧
        Succeeds (removeLiquidity Dev.cfg [3] 2 1 700 s') fun s'' =>
          s''.ledger.free 1 [3] ≤ s.ledger.free 1 [3] + 1 := by
  have hok : Succeeds (createPool Dev.cfg [1] 1 2 1000 (10 ^ 18)
      (Dev.genesis [(1, [1], 5000), (2, [1], 5000), (1, [3], 5000), (2, [3], 5000)])) fun s =>
      (reserveOf Dev.cfg s ⟨1, 2⟩ 1 = 1000 ∧ reserveOf Dev.cfg s ⟨1, 2⟩ 1
        ≤ s.totalLiquidity (getPairId Dev.cfg ⟨1, 2⟩)) ∧
      Succeeds (addLiquidity Dev.cfg [3] 1 2 700 5000 s) fun s' =>
        s'.totalLiquidity (getPairId Dev.cfg ⟨1, 2⟩)
          = s.totalLiquidity (getPairId Dev.cfg ⟨1, 2⟩) + 700 ∧
        Succeeds (removeLiquidity Dev.cfg [3] 2 1 700 s') fun _ => True := by
    decide +kernel
  obtain ⟨s, hs, ⟨hreserve, hcover⟩, s', hs', htotal, s'', hs'', -⟩ := hok
  have key := addLiquidity_keeps_share_value Dev.seedsInjective (Dev.noPools _)
    (Runs.refl.step (a := .createPool [1] 1 2 1000 (10 ^ 18)) trivial hs) [3] ⟨1, 2⟩ 700 5000
    (by decide) hcover hs'
  refine ⟨s, hs, hcover, s', hs', ?_, s'', hs'', ?_⟩
  · rw [← hreserve]
    exact key.1 1 (Or.inl rfl)
  · exact key.2 700 ⟨2, 1⟩ s'' htotal (Or.inr rfl) hs'' 1 (Or.inl rfl)

end HydraDX.XYK
