import HydraDX.Lib.Rounding
import HydraDX.XYK.Shares

set_option autoImplicit false

/-! # Removing liquidity is fair and complete

Whoever removes liquidity is paid a part of each reserve, rounded down: the shares that stay are
worth no less than before, and no more than one unit is withheld. The order in which the two
assets are named does not matter. With the last shares both reserves are paid out and the pool
is forgotten, but not its name: a pool that is created later for the pair has the same share
token, of which nothing is left. -/

namespace HydraDX.XYK

variable {AccountId Hash : Type} [DecidableEq AccountId] {cfg : Config AccountId Hash}
  {s s' t u : State AccountId Hash} {who : AccountId} {assetA assetB : AssetId} {shares : Nat}

/-- Whether a transfer is refused depends on what the ledger says about its asset. -/
def LocalTransfers (currency : Currency AccountId) : Prop :=
  ∀ (asset : AssetId) (source dest : AccountId) (amount : Nat) (l l' : Ledger AssetId AccountId),
    l'.free asset = l.free asset → l'.reserved asset = l.reserved asset →
    l'.miscFrozen asset = l.miscFrozen asset → l'.feeFrozen asset = l.feeFrozen asset →
    l'.issuance asset = l.issuance asset →
    (∃ k, currency.transfer asset source dest amount l = .ok k) →
      ∃ k, currency.transfer asset source dest amount l' = .ok k

/-- `calculate_liquidity_out` treats the two reserves alike. -/
def SymmetricLiquidityOut (math : HydraDxMath) : Prop :=
  ∀ aReserve bReserve amount total r, math.calculateLiquidityOut aReserve bReserve amount total
      = .ok r → ∃ r', math.calculateLiquidityOut bReserve aReserve amount total = .ok r'

/-! ## The reserves -/

/-- The reserves after liquidity was removed by somebody else than the pool. -/
theorem LiquidityRemoved.reserves {amountA amountB : Nat} (hne : assetA ≠ assetB)
    (hwho : who ≠ getPairId cfg ⟨assetA, assetB⟩)
    (h : LiquidityRemoved cfg who assetA assetB shares amountA amountB s s') {asset : AssetId}
    (hasset : asset = assetA ∨ asset = assetB) :
    reserveOf cfg s' ⟨assetA, assetB⟩ asset = reserveOf cfg s ⟨assetA, assetB⟩ asset
      - reserveOf cfg s ⟨assetA, assetB⟩ asset * shares
        / s.totalLiquidity (getPairId cfg ⟨assetA, assetB⟩) := by
  obtain ⟨hA, hB⟩ := drain_reserves s.ledger (shareTokenOf s (getPairId cfg ⟨assetA, assetB⟩))
    amountA amountB shares hne hwho
  rw [← h.ledger_eq] at hA hB
  rcases hasset with rfl | rfl
  · rw [← h.amountA_eq]
    exact hA
  · rw [← h.amountB_eq]
    exact hB

/-! ## The other order -/

/-- The two transfers can be made in the other order. -/
theorem transfers_swap (hlocal : LocalTransfers cfg.currency) (hne : assetA ≠ assetB)
    {source dest : AccountId} {x y : Nat} {l l₁ l₂ : Ledger AssetId AccountId}
    (h₁ : cfg.currency.transfer assetA source dest x l = .ok l₁)
    (h₂ : cfg.currency.transfer assetB source dest y l₁ = .ok l₂) :
    ∃ k, cfg.currency.transfer assetB source dest y l = .ok k ∧
      cfg.currency.transfer assetA source dest x k = .ok l₂ := by
  obtain ⟨-, rfl⟩ := cfg.currency.transfer_ok h₁
  obtain ⟨-, rfl⟩ := cfg.currency.transfer_ok h₂
  have hfree : ∀ {c c' : AssetId} {z : Nat} {l : Ledger AssetId AccountId}, c ≠ c' →
      (l.move c source dest z).free c' = l.free c' := fun hcc =>
    funext fun w => Ledger.move_free_of_ne (Or.inl hcc.symm)
  obtain ⟨k, hk⟩ := hlocal assetB source dest y _ l (hfree hne).symm (by simp) (by simp) (by simp)
    (by simp) ⟨_, h₂⟩
  obtain ⟨-, rfl⟩ := cfg.currency.transfer_ok hk
  obtain ⟨k', hk'⟩ := hlocal assetA source dest x l (l.move assetB source dest y) (hfree hne.symm)
    (by simp) (by simp) (by simp) (by simp) ⟨_, h₁⟩
  refine ⟨_, hk, ?_⟩
  rw [hk', (cfg.currency.transfer_ok hk').2, Ledger.move_comm hne.symm]

/-- A call that succeeds also succeeds with the assets the other way round. -/
theorem removeLiquidity_swap_ok (hlocal : LocalTransfers cfg.currency)
    (hmath : SymmetricLiquidityOut cfg.math) (hne : assetA ≠ assetB)
    (h : removeLiquidity cfg who assetA assetB shares s = .ok s') :
    ∃ s'', removeLiquidity cfg who assetB assetA shares s = .ok s'' := by
  have hswap : getPairId cfg ⟨assetB, assetA⟩ = getPairId cfg ⟨assetA, assetB⟩ :=
    getPairId_swap ⟨assetA, assetB⟩
  unfold removeLiquidity poolExists reserveOf at h ⊢
  simp only [↓Fallible.ensure_bind_eq_ok, Fallible.bind_eq_ok, okOr_eq_ok, mapErr_eq_ok,
    ofCurrency_eq_ok, hswap] at h ⊢
  obtain ⟨hzero, hpool, hle, hbal, hne0, out, hout, hA, hB, left, hleft, l₁, h₁, l₂, h₂, l₃, h₃,
    -⟩ := h
  obtain ⟨out', hout'⟩ := hmath _ _ _ _ _ hout
  obtain ⟨-, rfl⟩ := cfg.math.liquidityOut_ok hout
  obtain ⟨-, rfl⟩ := cfg.math.liquidityOut_ok hout'
  obtain ⟨k, hk, hk'⟩ := transfers_swap hlocal hne h₁ h₂
  exact ⟨_, hzero, hpool, hle, hbal, hne0, _, hout', hB, hA, left, hleft, k, hk, l₂, hk', l₃, h₃,
    rfl⟩

/-- The two calls lead to the same state, up to the events. -/
theorem removeLiquidity_swap_eq (hne : assetA ≠ assetB)
    (h : removeLiquidity cfg who assetA assetB shares s = .ok s')
    (h' : removeLiquidity cfg who assetB assetA shares s = .ok t) :
    t = { s' with events := t.events } := by
  obtain ⟨amountA, amountB, h⟩ := removeLiquidity_ok h
  obtain ⟨amountB', amountA', h'⟩ := removeLiquidity_ok h'
  have hswap : getPairId cfg ⟨assetB, assetA⟩ = getPairId cfg ⟨assetA, assetB⟩ :=
    getPairId_swap ⟨assetA, assetB⟩
  have hA : amountA' = amountA := by
    rw [h'.amountB_eq, h.amountA_eq, reserveOf, reserveOf, hswap]
  have hB : amountB' = amountB := by
    rw [h'.amountA_eq, h.amountB_eq, reserveOf, reserveOf, hswap]
  -- the two payments are made in the other order
  have hledger : t.ledger = s'.ledger := by
    rw [h'.ledger_eq, h.ledger_eq, hA, hB, hswap, Ledger.move_comm hne.symm]
  have htotal : t.totalLiquidity = s'.totalLiquidity := by rw [h'.total_eq, h.total_eq, hswap]
  have htoken : t.shareToken = s'.shareToken := by rw [h'.shareToken_eq, h.shareToken_eq, hswap]
  have hassets : t.poolAssets = s'.poolAssets := by rw [h'.poolAssets_eq, h.poolAssets_eq, hswap]
  have hregistry : t.registry = s'.registry := by rw [h'.registry_eq, h.registry_eq]
  have hcount : t.intentionCount = s'.intentionCount := by
    rw [h'.intentionCount_eq, h.intentionCount_eq]
  have hintentions : t.intentions = s'.intentions := by rw [h'.intentions_eq, h.intentions_eq]
  have hblock : t.blockNumber = s'.blockNumber := by rw [h'.blockNumber_eq, h.blockNumber_eq]
  obtain ⟨tledger, tregistry, ttoken, ttotal, tassets, tcount, tintentions, tblock, tevents⟩ := t
  subst hledger htotal htoken hassets hregistry hcount hintentions hblock
  rfl

/-! ## Names stay registered -/

/-- The id of a name does not change in the course of the chain. -/
theorem assetIds_action {action : Action AccountId} (h : action.dispatch cfg s = .ok s')
    {name : List UInt8} {id : AssetId} (hid : s.registry.assetIds name = some id) :
    s'.registry.assetIds name = some id := by
  rcases Action.cases h with hq | ⟨_, _, _, _, _, hc⟩ | ⟨_, _, _, _, _, hc⟩ | ⟨_, _, _, _, hc⟩
  · rw [hq.registry]
    exact hid
  · obtain ⟨_, token, registry, hc⟩ := createPool_ok hc
    have hregistry : s'.registry = registry := by rw [hc.state_eq]
    rw [hregistry]
    -- a new id is given to a name without one
    rcases AssetRegistry.getOrCreateAsset_cases hc.registered with ⟨-, rfl⟩ | ⟨hnone, -, -, rfl⟩
    · exact hid
    · rw [← hid]
      refine Function.update_of_ne ?_ _ _
      rintro rfl
      rw [hid] at hnone
      cases hnone
  · obtain ⟨_, _, hc⟩ := addLiquidity_ok hc
    rw [hc.state_eq]
    exact hid
  · obtain ⟨_, _, hc⟩ := removeLiquidity_ok hc
    rw [hc.registry_eq]
    exact hid

/-- A pool that is created for a pair whose name is registered. -/
theorem createPool_named (hinj : SeedsInjective cfg) (ht : Accounted cfg t) {amount price : Nat}
    {token : AssetId} (hname : t.registry.assetIds (AssetPair.name ⟨assetA, assetB⟩) = some token)
    (h : createPool cfg who assetA assetB amount price t = .ok u) :
    u.shareToken (getPairId cfg ⟨assetA, assetB⟩) = some token ∧
    u.ledger.issuance token = u.totalLiquidity (getPairId cfg ⟨assetA, assetB⟩) := by
  have hu := ht.createPool hinj h
  obtain ⟨_, token', registry, hc⟩ := createPool_ok h
  have htoken' : token' = token := by
    rcases AssetRegistry.getOrCreateAsset_cases hc.registered with ⟨hid, -⟩ | ⟨hnone, -⟩
    · exact Option.some.inj (hid.symm.trans hname)
    · rw [hname] at hnone
      cases hnone
  have htoken : u.shareToken (getPairId cfg ⟨assetA, assetB⟩) = some token := by
    rw [hc.state_eq, ← htoken']
    exact Function.update_self _ _ _
  exact ⟨htoken, ((hu.pool ⟨assetA, assetB⟩).total htoken).symm⟩

/-- **Removing liquidity is fair and complete.** For a pool of two assets and a caller that is
not the pool itself, each reserve loses its part, rounded down, and both are paid out if all shares
are given back. Whoever calls, the assets can be named in either order; and if all shares are given
back the pool is forgotten, and any pool created for the pair later has its share token, with as
many shares as are issued. -/
theorem removal_fair_and_complete (cfg : Config AccountId Hash) (hinj : SeedsInjective cfg)
    (hlocal : LocalTransfers cfg.currency) (hmath : SymmetricLiquidityOut cfg.math)
    (s s' : State AccountId Hash) (who : AccountId) (assetA assetB : AssetId) (shares : Nat)
    (hne : assetA ≠ assetB) (h : removeLiquidity cfg who assetA assetB shares s = .ok s') :
    (who ≠ getPairId cfg ⟨assetA, assetB⟩ → ∀ asset, asset = assetA ∨ asset = assetB →
      reserveOf cfg s ⟨assetA, assetB⟩ asset
          * (s.totalLiquidity (getPairId cfg ⟨assetA, assetB⟩) - shares)
        ≤ reserveOf cfg s' ⟨assetA, assetB⟩ asset
          * s.totalLiquidity (getPairId cfg ⟨assetA, assetB⟩) ∧
      reserveOf cfg s' ⟨assetA, assetB⟩ asset
          * s.totalLiquidity (getPairId cfg ⟨assetA, assetB⟩)
        < reserveOf cfg s ⟨assetA, assetB⟩ asset
          * (s.totalLiquidity (getPairId cfg ⟨assetA, assetB⟩) - shares)
          + s.totalLiquidity (getPairId cfg ⟨assetA, assetB⟩)) ∧
    (∃ s'', removeLiquidity cfg who assetB assetA shares s = .ok s'' ∧
      s'' = { s' with events := s''.events }) ∧
    (shares = s.totalLiquidity (getPairId cfg ⟨assetA, assetB⟩) →
      (who ≠ getPairId cfg ⟨assetA, assetB⟩ →
        reserveOf cfg s' ⟨assetA, assetB⟩ assetA = 0 ∧
        reserveOf cfg s' ⟨assetA, assetB⟩ assetB = 0) ∧
      s'.shareToken (getPairId cfg ⟨assetA, assetB⟩) = none ∧
      s'.poolAssets (getPairId cfg ⟨assetA, assetB⟩) = none ∧
      (Accounted cfg s → ∀ token, s.shareToken (getPairId cfg ⟨assetA, assetB⟩) = some token →
        ∀ t u creator amount price, ChainRuns cfg s' t →
          createPool cfg creator assetA assetB amount price t = .ok u ∨
          createPool cfg creator assetB assetA amount price t = .ok u →
            u.shareToken (getPairId cfg ⟨assetA, assetB⟩) = some token ∧
            u.ledger.issuance token = u.totalLiquidity (getPairId cfg ⟨assetA, assetB⟩))) := by
  obtain ⟨amountA, amountB, hr⟩ := removeLiquidity_ok h
  have hzero : s.totalLiquidity (getPairId cfg ⟨assetA, assetB⟩) ≠ 0 := by
    have := hr.shares_ne
    have := hr.shares_le
    omega
  refine ⟨fun hwho asset hasset => ?_, ?_, fun hall => ⟨fun hwho => ⟨?_, ?_⟩, ?_, ?_, ?_⟩⟩
  · rw [hr.reserves hne hwho hasset]
    exact Rounding.rest_bounds hr.shares_le hzero
  · obtain ⟨s'', hs''⟩ := removeLiquidity_swap_ok hlocal hmath hne h
    exact ⟨s'', hs'', removeLiquidity_swap_eq hne h hs''⟩
  · rw [hr.reserves hne hwho (Or.inl rfl), hall, Nat.mul_div_cancel _ (Nat.pos_of_ne_zero hzero),
      Nat.sub_self]
  · rw [hr.reserves hne hwho (Or.inr rfl), hall, Nat.mul_div_cancel _ (Nat.pos_of_ne_zero hzero),
      Nat.sub_self]
  · rw [hr.shareToken_eq, if_pos (by omega), Function.update_self]
  · rw [hr.poolAssets_eq, if_pos (by omega), Function.update_self]
  · intro hs token htoken t u creator amount price run hcreate
    -- the name of the pair keeps its id, and the accounts stay in order
    have hname : s'.registry.assetIds (AssetPair.name ⟨assetA, assetB⟩) = some token := by
      rw [hr.registry_eq]
      exact (hs.pool ⟨assetA, assetB⟩).named htoken
    obtain ⟨ht, hnamed⟩ : Accounted cfg t ∧
        t.registry.assetIds (AssetPair.name ⟨assetA, assetB⟩) = some token :=
      run.invariant (I := fun t => Accounted cfg t ∧
          t.registry.assetIds (AssetPair.name ⟨assetA, assetB⟩) = some token)
        (fun _ _ _ ht _ ha => ⟨ht.1.action hinj ha, assetIds_action ha ht.2⟩)
        ⟨hs.removeLiquidity hinj h, hname⟩
    rcases hcreate with hc | hc
    · exact createPool_named hinj ht hnamed hc
    · -- the name of a pair does not depend on the order of its assets
      have hswap : getPairId cfg ⟨assetB, assetA⟩ = getPairId cfg ⟨assetA, assetB⟩ :=
        getPairId_swap ⟨assetA, assetB⟩
      rw [← hswap]
      refine createPool_named hinj ht ?_ hc
      rw [← hnamed]
      exact congrArg _ (AssetPair.name_swap ⟨assetA, assetB⟩)

/-! ## A pool that is drained -/

open Fallible

theorem tokens_local : LocalTransfers (Currency.tokens : Currency AccountId) := by
  rintro asset source dest amount l l' hfree - - - - ⟨k, hk⟩
  refine ⟨l'.move asset source dest amount, ?_⟩
  simp only [Currency.tokens, ensure_bind_eq_ok] at hk ⊢
  rw [hfree]
  exact ⟨hk.1, hk.2.1, rfl⟩

theorem exact_symmetric : SymmetricLiquidityOut HydraDxMath.exact := by
  intro aReserve bReserve amount total r h
  refine ⟨(bReserve * amount / total, aReserve * amount / total), ?_⟩
  simp only [HydraDxMath.exact, bind_eq_ok, fitBalance_eq_ok] at h ⊢
  obtain ⟨_, ht, _, ⟨ha, -⟩, _, ⟨hb, -⟩, -⟩ := h
  exact ⟨(), ht, _, ⟨hb, rfl⟩, _, ⟨ha, rfl⟩, rfl⟩

/-- A pool of the assets `1` and `2`. -/
def onePool : Except Exchange.Failure (State Dev.AccountId Dev.Hash) :=
  [Action.extrinsic (.xyk (.createPool [1] 1 2 500000 (10 ^ 18)))].foldlM (Action.dispatch Dev.cfg)
    twoHolders

/-- The pool's own account is given 500 of the shares and removes them: it pays both assets to
itself, and the reserves stay as they are. -/
theorem pool_account_removes_nothing :
    Succeeds onePool fun s =>
      Succeeds ([.transfer 10 [1] (getPairId Dev.cfg ⟨1, 2⟩) 500].foldlM
        (Extrinsic.dispatch Dev.cfg) s) fun t =>
      t.totalLiquidity (getPairId Dev.cfg ⟨1, 2⟩) = 500000 ∧ t.ledger.issuance 10 = 500000 ∧
      Succeeds (removeLiquidity Dev.cfg (getPairId Dev.cfg ⟨1, 2⟩) 1 2 500 t) fun t' =>
        reserveOf Dev.cfg t' ⟨1, 2⟩ 1 = 500000 ∧
        ¬ reserveOf Dev.cfg t' ⟨1, 2⟩ 1 * 500000
          < reserveOf Dev.cfg t ⟨1, 2⟩ 1 * (500000 - 500) + 500000 := by
  decide +kernel

theorem removal_complete_onePool :
    Succeeds onePool fun s => Succeeds (removeLiquidity Dev.cfg [1] 1 2 500000 s) fun s' =>
      reserveOf Dev.cfg s' ⟨1, 2⟩ 1 = 0 ∧ reserveOf Dev.cfg s' ⟨1, 2⟩ 2 = 0 ∧
      ∃ u, createPool Dev.cfg [1] 2 1 400000 (10 ^ 18) s' = .ok u ∧
        u.shareToken (getPairId Dev.cfg ⟨1, 2⟩) = some 10 ∧
        u.ledger.issuance 10 = u.totalLiquidity (getPairId Dev.cfg ⟨1, 2⟩) := by
  obtain ⟨s, hs, htotal, htoken, s', hs', u, hu, -⟩ : Succeeds onePool fun s =>
      500000 = s.totalLiquidity (getPairId Dev.cfg ⟨1, 2⟩) ∧
      s.shareToken (getPairId Dev.cfg ⟨1, 2⟩) = some 10 ∧
      Succeeds (removeLiquidity Dev.cfg [1] 1 2 500000 s) fun s' =>
        Succeeds (createPool Dev.cfg [1] 2 1 400000 (10 ^ 18) s') fun _ => True := by
    decide +kernel
  have hrun : ChainRuns Dev.cfg twoHolders s := Runs.of_foldlM (fun _ _ => trivial) hs
  have haccounted : Accounted Dev.cfg s :=
    hrun.invariant (fun _ _ _ ht _ ha => ht.action Dev.seedsInjective ha)
      (fresh_twoHolders.accounted (by decide))
  obtain ⟨-, -, hall⟩ := removal_fair_and_complete Dev.cfg Dev.seedsInjective tokens_local
    exact_symmetric s s' [1] 1 2 500000 (by decide) hs'
  obtain ⟨hpaid, -, -, hlater⟩ := hall htotal
  obtain ⟨hA, hB⟩ := hpaid (Dev.notPoolAccount 1 _ _)
  exact ⟨s, hs, s', hs', hA, hB, u, hu, hlater haccounted 10 htoken s' u [1] 400000 (10 ^ 18) .refl
    (Or.inr hu)⟩

end HydraDX.XYK
