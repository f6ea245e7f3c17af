import HydraDX.XYK.Reserves
import HydraDX.Chain

set_option autoImplicit false

/-! # Pools stay alive

A pool that exists should have shares and hold some of both assets, since everything else
that can be done with it divides by a reserve or by the number of shares. Every call keeps
it so, except for a `create_pool` whose second amount, the price times the first, is rounded
down to zero. -/

namespace HydraDX.XYK

variable {AccountId Hash : Type} [DecidableEq AccountId] {cfg : Config AccountId Hash}
  {s s' : State AccountId Hash} {who : AccountId} {assets : AssetPair}

/-- The pool of the pair has shares and holds both assets if it exists, and has no shares if
it does not. -/
structure PoolAlive (cfg : Config AccountId Hash) (s : State AccountId Hash)
    (assets : AssetPair) : Prop where
  shares : poolExists cfg s assets = true → 0 < s.totalLiquidity (getPairId cfg assets)
  reserveIn : poolExists cfg s assets = true → 0 < reserveOf cfg s assets assets.assetIn
  reserveOut : poolExists cfg s assets = true → 0 < reserveOf cfg s assets assets.assetOut
  noShares : poolExists cfg s assets = false → s.totalLiquidity (getPairId cfg assets) = 0

theorem PoolAlive.swap (h : PoolAlive cfg s assets) : PoolAlive cfg s assets.swap := by
  obtain ⟨hS, hi, ho, hn⟩ := h
  unfold poolExists reserveOf at *
  rw [← getPairId_swap] at hS hi ho hn
  exact ⟨hS, ho, hi, hn⟩

theorem NoPools.poolAlive (h : NoPools s) (assets : AssetPair) : PoolAlive cfg s assets := by
  have hnone : poolExists cfg s assets = false := by rw [poolExists, h.shareToken]; rfl
  refine ⟨fun he => ?_, fun he => ?_, fun he => ?_, fun _ => h.totalLiquidity _⟩
  all_goals
    rw [hnone] at he
    cases he

theorem PoolAlive.untouched (h : PoolAlive cfg s assets)
    (hs : Untouched (getPairId cfg assets) s s') : PoolAlive cfg s' assets := by
  obtain ⟨hS, hi, ho, hn⟩ := h
  unfold poolExists reserveOf at *
  rw [← hs.totalLiquidity, ← hs.shareToken] at hS hn
  rw [← hs.free, ← hs.shareToken] at hi ho
  exact ⟨hS, hi, ho, hn⟩

/-! ## The pool of a call -/

/-- A pool that exists and has everything. -/
theorem PoolAlive.of_pos (hS : 0 < s.totalLiquidity (getPairId cfg assets))
    (hi : 0 < reserveOf cfg s assets assets.assetIn)
    (ho : 0 < reserveOf cfg s assets assets.assetOut) (he : poolExists cfg s assets = true) :
    PoolAlive cfg s assets :=
  ⟨fun _ => hS, fun _ => hi, fun _ => ho, fun hn => by rw [he] at hn; cases hn⟩

/-- The second amount of a `create_pool` is not rounded down to zero. -/
def CreatesBothReserves : Call AccountId → Prop
  | .createPool _ _ _ amount initialPrice => 0 < initialPrice * amount / 10 ^ 18
  | _ => True

theorem createPool_alive {assetA assetB : AssetId} {amount price : Nat}
    (hprice : 0 < price * amount / 10 ^ 18) (hwho : who ≠ getPairId cfg ⟨assetA, assetB⟩)
    (h : createPool cfg who assetA assetB amount price s = .ok s') :
    PoolAlive cfg s' ⟨assetA, assetB⟩ := by
  obtain ⟨amountB, token, registry, hc⟩ := createPool_ok h
  have hA : 0 < amount := Nat.pos_of_ne_zero hc.amount_ne
  have hB : 0 < amountB := by
    have hB := hc.amountB_eq
    unfold checkedMulInt at hB
    split_ifs at hB
    cases hB
    exact hprice
  obtain ⟨hrA, hrB⟩ := fund_reserves s.ledger token amount amountB
    (if assetA < assetB then amount else amountB) hc.assets_ne hwho
  rw [hc.state_eq]
  refine PoolAlive.of_pos ?_ ?_ ?_ ?_
  · show 0 < Function.update s.totalLiquidity _ _ _
    rw [Function.update_self]
    split_ifs
    · exact hA
    · exact hB
  · exact Nat.lt_of_lt_of_eq (Nat.add_pos_right _ hA) hrA.symm
  · exact Nat.lt_of_lt_of_eq (Nat.add_pos_right _ hB) hrB.symm
  · show (Function.update s.shareToken _ _ _).isSome = true
    rw [Function.update_self]
    rfl

theorem addLiquidity_alive {assetA assetB : AssetId} {amount limit : Nat} (hne : assetA ≠ assetB)
    (hwho : who ≠ getPairId cfg ⟨assetA, assetB⟩) (hs : PoolAlive cfg s ⟨assetA, assetB⟩)
    (h : addLiquidity cfg who assetA assetB amount limit s = .ok s') :
    PoolAlive cfg s' ⟨assetA, assetB⟩ := by
  obtain ⟨amountB, shares, ha⟩ := addLiquidity_ok h
  obtain ⟨hrA, hrB⟩ := fund_reserves s.ledger (shareTokenOf s (getPairId cfg ⟨assetA, assetB⟩))
    amount amountB shares hne hwho
  rw [ha.state_eq]
  refine PoolAlive.of_pos ?_ ?_ ?_ ha.pool
  · show 0 < Function.update s.totalLiquidity _ _ _
    rw [Function.update_self]
    exact Nat.add_pos_right _ ha.shares_pos
  · exact Nat.lt_of_lt_of_eq (Nat.add_pos_left (hs.reserveIn ha.pool) _) hrA.symm
  · exact Nat.lt_of_lt_of_eq (Nat.add_pos_left (hs.reserveOut ha.pool) _) hrB.symm

/-- Less than all shares are worth less than a reserve. -/
theorem sub_payout_pos {reserve shares total : Nat} (hr : 0 < reserve) (h : shares < total) :
    0 < reserve - reserve * shares / total := by
  apply Nat.sub_pos_of_lt
  apply Nat.div_lt_of_lt_mul
  rw [Nat.mul_comm total]
  exact Nat.mul_lt_mul_of_pos_left h hr

theorem removeLiquidity_alive {assetA assetB : AssetId} {shares : Nat} (hne : assetA ≠ assetB)
    (hwho : who ≠ getPairId cfg ⟨assetA, assetB⟩) (hs : PoolAlive cfg s ⟨assetA, assetB⟩)
    (h : removeLiquidity cfg who assetA assetB shares s = .ok s') :
    PoolAlive cfg s' ⟨assetA, assetB⟩ := by
  obtain ⟨amountA, amountB, hr⟩ := removeLiquidity_ok h
  have htotal : s'.totalLiquidity (getPairId cfg ⟨assetA, assetB⟩)
      = s.totalLiquidity (getPairId cfg ⟨assetA, assetB⟩) - shares := by
    rw [hr.total_eq, Function.update_self]
  have htoken := congrFun hr.shareToken_eq (getPairId cfg ⟨assetA, assetB⟩)
  by_cases hleft : s.totalLiquidity (getPairId cfg ⟨assetA, assetB⟩) - shares = 0
  · -- the last shares are gone, and the pool with them
    have hnone : poolExists cfg s' ⟨assetA, assetB⟩ = false := by
      rw [if_pos hleft, Function.update_self] at htoken
      rw [poolExists, htoken]
      rfl
    refine ⟨fun he => ?_, fun he => ?_, fun he => ?_, fun _ => htotal.trans hleft⟩
    all_goals
      rw [hnone] at he
      cases he
  · have hlt : shares < s.totalLiquidity (getPairId cfg ⟨assetA, assetB⟩) := by omega
    obtain ⟨hrA, hrB⟩ := drain_reserves s.ledger
      (shareTokenOf s (getPairId cfg ⟨assetA, assetB⟩)) amountA amountB shares hne hwho
    rw [← hr.ledger_eq] at hrA hrB
    refine PoolAlive.of_pos (by omega) ?_ ?_ ?_
    · rw [hr.amountA_eq] at hrA
      exact Nat.lt_of_lt_of_eq (sub_payout_pos (hs.reserveIn hr.pool) hlt) hrA.symm
    · rw [hr.amountB_eq] at hrB
      exact Nat.lt_of_lt_of_eq (sub_payout_pos (hs.reserveOut hr.pool) hlt) hrB.symm
    · rw [if_neg hleft] at htoken
      rw [poolExists, htoken]
      exact hr.pool

theorem sell_alive {amount limit : Nat} {discount : Bool}
    (hne : assets.assetIn ≠ assets.assetOut) (hwho : who ≠ getPairId cfg assets)
    (hs : PoolAlive cfg s assets)
    (h : sell cfg who assets.assetIn assets.assetOut amount limit discount s = .ok s') :
    PoolAlive cfg s' assets := by
  obtain ⟨fee, t, hv, rfl⟩ := sell_ok h
  obtain ⟨hin, hout⟩ := hv.reserves hne hwho
  refine PoolAlive.of_pos (hs.shares hv.pool) ?_ ?_ hv.pool
  · exact Nat.lt_of_lt_of_eq (Nat.add_pos_left (hs.reserveIn hv.pool) _) hin.symm
  · exact Nat.lt_of_lt_of_eq (Nat.sub_pos_of_lt hv.amountOut_lt) hout.symm

theorem buy_alive {amount limit : Nat} {discount : Bool}
    (hne : assets.assetIn ≠ assets.assetOut) (hwho : who ≠ getPairId cfg assets)
    (hs : PoolAlive cfg s assets)
    (h : buy cfg who assets.assetOut assets.assetIn amount limit discount s = .ok s') :
    PoolAlive cfg s' assets := by
  obtain ⟨price, fee, t, hv, rfl⟩ := buy_ok h
  obtain ⟨hin, hout⟩ := hv.reserves hne hwho
  refine PoolAlive.of_pos (hs.shares hv.pool) ?_ ?_ hv.pool
  · exact Nat.lt_of_lt_of_eq (Nat.add_pos_left (hs.reserveIn hv.pool) _) hin.symm
  · exact Nat.lt_of_lt_of_eq (Nat.sub_pos_of_lt hv.amount_lt) hout.symm

theorem Call.poolAlive {call : Call AccountId} (hself : NoSelfPool cfg s)
    (hcreate : CreatesBothReserves call) (hwho : call.who ≠ getPairId cfg call.assets)
    (hs : PoolAlive cfg s call.assets) (h : call.dispatch cfg s = .ok s') :
    PoolAlive cfg s' call.assets := by
  cases call with
  | createPool who a b amount price => exact createPool_alive hcreate hwho h
  | addLiquidity who a b amount limit =>
      obtain ⟨_, _, ha⟩ := addLiquidity_ok h
      exact addLiquidity_alive (hself.ne ha.pool) hwho hs h
  | removeLiquidity who a b amount =>
      obtain ⟨_, _, hr⟩ := removeLiquidity_ok h
      exact removeLiquidity_alive (hself.ne hr.pool) hwho hs h
  | sell who a b amount limit discount =>
      obtain ⟨_, _, hv, -⟩ := sell_ok h
      exact sell_alive (hself.ne hv.pool) hwho hs h
  | buy who a b amount limit discount =>
      obtain ⟨_, _, _, hv, -⟩ := buy_ok h
      exact buy_alive (hself.ne hv.pool) hwho hs h

/-! ## Runs -/

/-- A call that keeps pools alive: no pool account makes it, and if it creates a pool then
with both reserves. -/
def KeepsAlive (cfg : Config AccountId Hash) (_ : State AccountId Hash)
    (call : Call AccountId) : Prop :=
  NotPoolAccount cfg call.who ∧ CreatesBothReserves call

theorem poolAlive_call (hinj : SeedsInjective cfg) {call : Call AccountId}
    (hself : NoSelfPool cfg s) (hcall : KeepsAlive cfg s call) (h : call.dispatch cfg s = .ok s')
    (hs : ∀ assets, PoolAlive cfg s assets) (assets : AssetPair) : PoolAlive cfg s' assets := by
  by_cases hpool : getPairId cfg assets = getPairId cfg call.assets
  · have hown := Call.poolAlive hself hcall.2 (hcall.1 _ _) (hs call.assets) h
    rcases hinj.eq_or_swap hpool with he | he
    · rw [he]
      exact hown
    · rw [he]
      exact hown.swap
  · exact (hs assets).untouched (Call.untouched h (hcall.1 _ _).symm hpool)

/-- **Pools stay alive.** In every run from a state without pools whose pools are all created
with a second amount that is not zero, and whose calls are not made by pool accounts, every
pool that exists has shares and holds some of both assets, and a pool that does not exist has
no shares. -/
theorem pools_alive (hinj : SeedsInjective cfg) (h₀ : NoPools s)
    (run : Runs cfg (KeepsAlive cfg) s s') (assets : AssetPair) :
    (poolExists cfg s' assets = true →
      0 < s'.totalLiquidity (getPairId cfg assets) ∧
      0 < reserveOf cfg s' assets assets.assetIn ∧
      0 < reserveOf cfg s' assets assets.assetOut) ∧
    (poolExists cfg s' assets = false → s'.totalLiquidity (getPairId cfg assets) = 0) := by
  have key : NoSelfPool cfg s' ∧ ∀ assets, PoolAlive cfg s' assets :=
    run.invariant (I := fun t => NoSelfPool cfg t ∧ ∀ assets, PoolAlive cfg t assets)
      (fun t call t' ht hcall h => ⟨ht.1.call hinj h, poolAlive_call hinj ht.1 hcall h ht.2⟩)
      ⟨h₀.noSelfPool, h₀.poolAlive⟩
  have hs := key.2 assets
  exact ⟨fun he => ⟨hs.shares he, hs.reserveIn he, hs.reserveOut he⟩, hs.noShares⟩

/-! ## A pool that is created dead -/

open Fallible

/-- The second amount, a tenth of a unit, is rounded down to zero. The pool exists, without
shares and without asset `1`: liquidity can be neither added nor removed, and the pool cannot
be created again. -/
theorem createPool_creates_dead_pool :
    Succeeds (createPool Dev.cfg [1] 2 1 1000 (10 ^ 14)
      (Dev.genesis [(1, [1], 5000), (2, [1], 5000)])) fun s =>
      poolExists Dev.cfg s ⟨2, 1⟩ = true ∧ s.totalLiquidity (getPairId Dev.cfg ⟨2, 1⟩) = 0 ∧
      reserveOf Dev.cfg s ⟨2, 1⟩ 2 = 1000 ∧ reserveOf Dev.cfg s ⟨2, 1⟩ 1 = 0 ∧
      addLiquidity Dev.cfg [1] 2 1 100 100 s = .error (.xyk .InvalidMintedLiquidity) ∧
      removeLiquidity Dev.cfg [1] 2 1 100 s = .error (.xyk .InsufficientAssetBalance) ∧
      createPool Dev.cfg [1] 2 1 1000 (10 ^ 18) s = .error (.xyk .TokenPoolAlreadyExists) := by
  decide +kernel

theorem pools_alive_lastShare :
    Succeeds (createPool Dev.cfg [1] 2 1 1000 (10 ^ 18)
      (Dev.genesis [(1, [1], 5000), (2, [1], 5000)])) fun s =>
      Succeeds (removeLiquidity Dev.cfg [1] 1 2 999 s) fun s' =>
        0 < s'.totalLiquidity (getPairId Dev.cfg ⟨2, 1⟩) ∧
        0 < reserveOf Dev.cfg s' ⟨2, 1⟩ 2 ∧ 0 < reserveOf Dev.cfg s' ⟨2, 1⟩ 1 := by
  have hok : Succeeds (createPool Dev.cfg [1] 2 1 1000 (10 ^ 18)
      (Dev.genesis [(1, [1], 5000), (2, [1], 5000)])) fun s =>
      Succeeds (removeLiquidity Dev.cfg [1] 1 2 999 s) fun s' =>
        poolExists Dev.cfg s' ⟨2, 1⟩ = true := by
    decide +kernel
  obtain ⟨s, hs, s', hs', he⟩ := hok
  have hwho := Dev.notPoolAccount 1
  refine ⟨s, hs, s', hs', ?_⟩
  refine (pools_alive (s := Dev.genesis [(1, [1], 5000), (2, [1], 5000)]) Dev.seedsInjective
    (Dev.noPools _) ?_ ⟨2, 1⟩).1 he
  exact (Runs.refl.step (a := .createPool [1] 2 1 1000 (10 ^ 18)) ⟨hwho, show 0 < _ by decide⟩
    hs).step (a := .removeLiquidity [1] 1 2 999) ⟨hwho, trivial⟩ hs'

end HydraDX.XYK
