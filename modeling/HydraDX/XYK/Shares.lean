import HydraDX.Actions
import HydraDX.Registry
import HydraDX.XYK.Reserves

set_option autoImplicit false

/-! # The accounting of shares

Five storage items describe the pool of a pair: its share token, its assets, its number of
shares, the registry entry for its name and the issuance of the share token. `PoolAccounted`
says how they belong together. It is kept by every action on the chain, whoever makes it,
because the share token of a pool is issued and destroyed by the calls about this pool only:
different pairs have different names, the registry gives different ids to different names,
and trades destroy nothing but the native asset, which has its id from before. -/

namespace HydraDX.XYK

variable {AccountId Hash : Type} [DecidableEq AccountId] {cfg : Config AccountId Hash}
  {s s' : State AccountId Hash} {who : AccountId} {assets : AssetPair} {assetA assetB : AssetId}

/-- The entries of one pair belong together. -/
structure PoolAccounted (cfg : Config AccountId Hash) (s : State AccountId Hash)
    (assets : AssetPair) : Prop where
  stored : ∀ {token}, s.shareToken (getPairId cfg assets) = some token →
    s.poolAssets (getPairId cfg assets) = some (assets.assetIn, assets.assetOut) ∨
    s.poolAssets (getPairId cfg assets) = some (assets.assetOut, assets.assetIn)
  named : ∀ {token}, s.shareToken (getPairId cfg assets) = some token →
    s.registry.assetIds assets.name = some token
  total : ∀ {token}, s.shareToken (getPairId cfg assets) = some token →
    s.totalLiquidity (getPairId cfg assets) = s.ledger.issuance token
  noAssets : s.shareToken (getPairId cfg assets) = none →
    s.poolAssets (getPairId cfg assets) = none
  unissued : ∀ {id}, s.shareToken (getPairId cfg assets) = none →
    s.registry.assetIds assets.name = some id → s.ledger.issuance id = 0
  notNative : s.registry.assetIds assets.name ≠ some cfg.nativeAssetId

/-- The invariant of the chain. -/
structure Accounted (cfg : Config AccountId Hash) (s : State AccountId Hash) : Prop where
  registry : s.registry.ConsistentOn (Set.range AssetPair.name)
  native : cfg.nativeAssetId < s.registry.nextAssetId
  unissued : ∀ {id}, s.registry.nextAssetId ≤ id → s.ledger.issuance id = 0
  pool : ∀ assets, PoolAccounted cfg s assets

theorem PoolAccounted.swap (h : PoolAccounted cfg s assets) : PoolAccounted cfg s assets.swap := by
  obtain ⟨ha, hn, ht, hna, hu, hnn⟩ := h
  rw [← getPairId_swap] at ha hn ht hna hu
  rw [← AssetPair.name_swap] at hn hu hnn
  exact ⟨fun h => (ha h).symm, hn, ht, hna, hu, hnn⟩

/-- A pair whose entries are not changed, in a ledger that issues and destroys none of its
share token. -/
theorem PoolAccounted.frame (h : PoolAccounted cfg s assets)
    (hname : s'.registry.assetIds assets.name = s.registry.assetIds assets.name)
    (htoken : s'.shareToken (getPairId cfg assets) = s.shareToken (getPairId cfg assets))
    (hassets : s'.poolAssets (getPairId cfg assets) = s.poolAssets (getPairId cfg assets))
    (htotal : s'.totalLiquidity (getPairId cfg assets) = s.totalLiquidity (getPairId cfg assets))
    (hissuance : ∀ {id}, s.registry.assetIds assets.name = some id →
      s'.ledger.issuance id = s.ledger.issuance id) :
    PoolAccounted cfg s' assets := by
  refine ⟨?_, ?_, ?_, ?_, ?_, ?_⟩
  · rw [htoken, hassets]
    exact h.stored
  · rw [htoken, hname]
    exact h.named
  · intro token ht
    rw [htoken] at ht
    rw [htotal, hissuance (h.named ht)]
    exact h.total ht
  · rw [htoken, hassets]
    exact h.noAssets
  · intro id hnone hid
    rw [htoken] at hnone
    rw [hname] at hid
    rw [hissuance hid]
    exact h.unissued hnone hid
  · rw [hname]
    exact h.notNative

/-! ## Quiet actions -/

theorem Accounted.quiet (h : Accounted cfg s) (hq : Quiet cfg s s') : Accounted cfg s' := by
  have hissuance : ∀ {id}, id ≠ cfg.nativeAssetId →
      s'.ledger.issuance id = s.ledger.issuance id :=
    fun hid => hq.moves.issuance (fun hI => hI) hid
  refine ⟨?_, ?_, fun {id} hid => ?_, fun assets => ?_⟩
  · rw [hq.registry]
    exact h.registry
  · rw [hq.registry]
    exact h.native
  · rw [hq.registry] at hid
    rw [hissuance]
    · exact h.unissued hid
    · rintro rfl
      exact UInt32.not_lt.mpr hid h.native
  · refine (h.pool assets).frame ?_ ?_ ?_ ?_ fun {id} hid => hissuance ?_
    · rw [hq.registry]
    · rw [hq.shareToken]
    · rw [hq.poolAssets]
    · rw [hq.totalLiquidity]
    · rintro rfl
      exact (h.pool assets).notNative hid

/-! ## Calls that manage a pool -/

/-- What a call about the pool of `assets` with the share token `token` may change: the
entries of this pair and the issuance of this token. -/
structure Manages (cfg : Config AccountId Hash) (assets : AssetPair) (token : AssetId)
    (s s' : State AccountId Hash) : Prop where
  registry : s'.registry.ConsistentOn (Set.range AssetPair.name)
  next_le : s.registry.nextAssetId ≤ s'.registry.nextAssetId
  named : s'.registry.assetIds assets.name = some token
  names : ∀ {name}, name ≠ assets.name → s'.registry.assetIds name = s.registry.assetIds name
  issuance : ∀ {id}, id ≠ token → s'.ledger.issuance id = s.ledger.issuance id
  shareToken : ∀ {account}, account ≠ getPairId cfg assets →
    s'.shareToken account = s.shareToken account
  poolAssets : ∀ {account}, account ≠ getPairId cfg assets →
    s'.poolAssets account = s.poolAssets account
  totalLiquidity : ∀ {account}, account ≠ getPairId cfg assets →
    s'.totalLiquidity account = s.totalLiquidity account

/-- Only the pair of the call needs a look. -/
theorem Accounted.manages (hinj : SeedsInjective cfg) (h : Accounted cfg s)
    (assets : AssetPair) (token : AssetId) (hm : Manages cfg assets token s s')
    (hown : PoolAccounted cfg s' assets) : Accounted cfg s' := by
  refine ⟨hm.registry, UInt32.lt_of_lt_of_le h.native hm.next_le, fun {id} hid => ?_,
    fun other => ?_⟩
  · rw [hm.issuance]
    · exact h.unissued (UInt32.le_trans hm.next_le hid)
    · rintro rfl
      exact UInt32.not_lt.mpr hid (hm.registry.below ⟨assets, rfl⟩ hm.named)
  · by_cases haccount : getPairId cfg other = getPairId cfg assets
    · rcases hinj.eq_or_swap haccount with rfl | rfl
      · exact hown
      · exact hown.swap
    · have hname : other.name ≠ assets.name := by
        intro he
        rcases AssetPair.name_injective he with rfl | rfl
        · exact haccount rfl
        · exact haccount (getPairId_swap assets)
      refine (h.pool other).frame (hm.names hname) (hm.shareToken haccount)
        (hm.poolAssets haccount) (hm.totalLiquidity haccount) fun {id} hid => hm.issuance ?_
      -- another name has another id
      rintro rfl
      rw [← hm.names hname] at hid
      exact hname (hm.registry.injective ⟨other, rfl⟩ ⟨assets, rfl⟩ hid hm.named)

/-- A pool that stays, with another number of shares. -/
theorem PoolAccounted.resize (h : PoolAccounted cfg s assets) {token : AssetId}
    (hsome : s.shareToken (getPairId cfg assets) = some token)
    (hregistry : s'.registry = s.registry) (hshareToken : s'.shareToken = s.shareToken)
    (hpoolAssets : s'.poolAssets = s.poolAssets)
    (htotal : s'.totalLiquidity (getPairId cfg assets) = s'.ledger.issuance token) :
    PoolAccounted cfg s' assets := by
  refine ⟨?_, ?_, fun {t} ht => ?_, ?_, fun {id} hn => ?_, ?_⟩
  · rw [hshareToken, hpoolAssets]
    exact h.stored
  · rw [hshareToken, hregistry]
    exact h.named
  · rw [hshareToken] at ht
    obtain rfl : token = t := Option.some.inj (hsome.symm.trans ht)
    exact htotal
  · rw [hshareToken, hpoolAssets]
    exact h.noAssets
  · rw [hshareToken, hsome] at hn
    cases hn
  · rw [hregistry]
    exact h.notNative

/-- The token of a new pool is issued anew, also if the pair had a pool before, and it is not the
native asset. -/
theorem Accounted.newToken (h : Accounted cfg s) {token : AssetId} {registry : AssetRegistry}
    (hnone : s.shareToken (getPairId cfg assets) = none)
    (hregistered : s.registry.getOrCreateAsset assets.name = .ok (token, registry)) :
    s.ledger.issuance token = 0 ∧ token ≠ cfg.nativeAssetId := by
  rcases AssetRegistry.getOrCreateAsset_cases hregistered with ⟨hid, -⟩ | ⟨-, rfl, -, -⟩
  · refine ⟨(h.pool assets).unissued hnone hid, ?_⟩
    rintro rfl
    exact (h.pool assets).notNative hid
  · refine ⟨h.unissued (UInt32.le_refl _), fun he => ?_⟩
    have hlt := h.native
    rw [← he] at hlt
    exact UInt32.lt_irrefl _ hlt

theorem Accounted.createPool (hinj : SeedsInjective cfg) (h : Accounted cfg s) {amount price : Nat}
    (hc : createPool cfg who assetA assetB amount price s = .ok s') : Accounted cfg s' := by
  obtain ⟨amountB, token, registry, hc⟩ := createPool_ok hc
  have hnone : s.shareToken (getPairId cfg ⟨assetA, assetB⟩) = none := by
    have := hc.fresh
    rwa [poolExists, Option.isSome_eq_false_iff, Option.isNone_iff_eq_none] at this
  have hissuance : ∀ id, s'.ledger.issuance id
      = if id = token then s.ledger.issuance token + if assetA < assetB then amount else amountB
        else s.ledger.issuance id := by
    intro id
    rw [hc.state_eq]
    simp only [Ledger.mint_issuance, Ledger.move_issuance]
  obtain ⟨hzero, hnative⟩ := h.newToken hnone hc.registered
  have hnamed := AssetRegistry.getOrCreateAsset_self hc.registered
  have hregistry : s'.registry = registry := by rw [hc.state_eq]
  refine h.manages hinj ⟨assetA, assetB⟩ token ?_ ?_
  · refine ⟨?_, ?_, ?_, ?_, fun hid => ?_, fun hne => ?_, fun hne => ?_, fun hne => ?_⟩
    · rw [hregistry]
      exact h.registry.getOrCreateAsset hc.registered
    · rw [hregistry]
      exact AssetRegistry.getOrCreateAsset_next_le hc.registered
    · rw [hregistry]
      exact hnamed
    · rw [hregistry]
      exact AssetRegistry.getOrCreateAsset_of_ne hc.registered
    · rw [hissuance, if_neg hid]
    · rw [hc.state_eq]
      exact Function.update_of_ne hne _ _
    · rw [hc.state_eq]
      exact Function.update_of_ne hne _ _
    · rw [hc.state_eq]
      exact Function.update_of_ne hne _ _
  · have htoken : s'.shareToken (getPairId cfg ⟨assetA, assetB⟩) = some token := by
      rw [hc.state_eq]
      exact Function.update_self _ _ _
    refine ⟨fun _ => Or.inl ?_, fun {t} ht => ?_, fun {t} ht => ?_, fun hn => ?_, fun hn => ?_, ?_⟩
    · rw [hc.state_eq]
      exact Function.update_self _ _ _
    · rw [hregistry, hnamed, ← htoken, ht]
    · obtain rfl : token = t := Option.some.inj (htoken.symm.trans ht)
      rw [hissuance, if_pos rfl, hzero, Nat.zero_add, hc.state_eq]
      exact Function.update_self _ _ _
    · rw [htoken] at hn
      cases hn
    · rw [htoken] at hn
      cases hn
    · rw [hregistry, hnamed]
      exact fun he => hnative (Option.some.inj he)

theorem exists_shareToken (hpool : poolExists cfg s assets = true) :
    ∃ token, s.shareToken (getPairId cfg assets) = some token ∧
      shareTokenOf s (getPairId cfg assets) = token := by
  obtain ⟨token, htoken⟩ := Option.isSome_iff_exists.mp hpool
  exact ⟨token, htoken, by rw [shareTokenOf, htoken, Option.getD_some]⟩

theorem Accounted.addLiquidity (hinj : SeedsInjective cfg) (h : Accounted cfg s)
    {amount limit : Nat} (ha : addLiquidity cfg who assetA assetB amount limit s = .ok s') :
    Accounted cfg s' := by
  obtain ⟨amountB, shares, ha⟩ := addLiquidity_ok ha
  obtain ⟨token, htoken, hof⟩ := exists_shareToken ha.pool
  have hown := h.pool ⟨assetA, assetB⟩
  have hissuance : ∀ id, s'.ledger.issuance id
      = if id = token then s.ledger.issuance token + shares else s.ledger.issuance id := by
    intro id
    rw [ha.state_eq, hof]
    simp only [Ledger.mint_issuance, Ledger.move_issuance]
  have hregistry : s'.registry = s.registry := by rw [ha.state_eq]
  have hshareToken : s'.shareToken = s.shareToken := by rw [ha.state_eq]
  have hpoolAssets : s'.poolAssets = s.poolAssets := by rw [ha.state_eq]
  -- only the total and the share token of this pair change
  refine h.manages hinj ⟨assetA, assetB⟩ token ?_ ?_
  · refine ⟨?_, ?_, ?_, fun _ => ?_, fun hid => ?_, fun _ => ?_, fun _ => ?_, fun hne => ?_⟩
    · rw [hregistry]
      exact h.registry
    · rw [hregistry]
      exact UInt32.le_refl _
    · rw [hregistry]
      exact hown.named htoken
    · rw [hregistry]
    · rw [hissuance, if_neg hid]
    · rw [hshareToken]
    · rw [hpoolAssets]
    · rw [ha.state_eq]
      exact Function.update_of_ne hne _ _
  · refine hown.resize htoken hregistry hshareToken hpoolAssets ?_
    rw [hissuance, if_pos rfl, ← hown.total htoken, ha.state_eq]
    exact Function.update_self _ _ _

theorem Accounted.removeLiquidity (hinj : SeedsInjective cfg) (h : Accounted cfg s) {shares : Nat}
    (hr : removeLiquidity cfg who assetA assetB shares s = .ok s') : Accounted cfg s' := by
  obtain ⟨amountA, amountB, hr⟩ := removeLiquidity_ok hr
  obtain ⟨token, htoken, hof⟩ := exists_shareToken hr.pool
  have hown := h.pool ⟨assetA, assetB⟩
  have hissuance : ∀ id, s'.ledger.issuance id
      = if id = token then s.ledger.issuance token - shares else s.ledger.issuance id := by
    intro id
    rw [hr.ledger_eq, hof]
    simp only [Ledger.burn_issuance, Ledger.move_issuance]
  have htotal : s'.totalLiquidity (getPairId cfg ⟨assetA, assetB⟩)
      = s.ledger.issuance token - shares := by
    rw [hr.total_eq, Function.update_self, hown.total htoken]
  refine h.manages hinj ⟨assetA, assetB⟩ token ?_ ?_
  · refine ⟨?_, ?_, ?_, fun _ => ?_, fun hid => ?_, fun hne => ?_, fun hne => ?_, fun hne => ?_⟩
    · rw [hr.registry_eq]
      exact h.registry
    · rw [hr.registry_eq]
      exact UInt32.le_refl _
    · rw [hr.registry_eq]
      exact hown.named htoken
    · rw [hr.registry_eq]
    · rw [hissuance, if_neg hid]
    · rw [hr.shareToken_eq]
      split_ifs
      · exact Function.update_of_ne hne _ _
      · rfl
    · rw [hr.poolAssets_eq]
      split_ifs
      · exact Function.update_of_ne hne _ _
      · rfl
    · rw [hr.total_eq]
      exact Function.update_of_ne hne _ _
  · by_cases hleft : s.totalLiquidity (getPairId cfg ⟨assetA, assetB⟩) - shares = 0
    · -- the pool is destroyed: nothing is left of the token, the registry keeps its name
      have hnone : s'.shareToken (getPairId cfg ⟨assetA, assetB⟩) = none := by
        rw [hr.shareToken_eq, if_pos hleft, Function.update_self]
      have hsome : ∀ {t}, s'.shareToken (getPairId cfg ⟨assetA, assetB⟩) = some t → False := by
        intro t ht
        rw [hnone] at ht
        cases ht
      refine ⟨fun ht => (hsome ht).elim, fun ht => (hsome ht).elim, fun ht => (hsome ht).elim,
        fun _ => ?_, fun {id} _ hid => ?_, ?_⟩
      · rw [hr.poolAssets_eq, if_pos hleft, Function.update_self]
      · rw [hr.registry_eq, hown.named htoken] at hid
        cases hid
        rw [hissuance, if_pos rfl, ← hown.total htoken]
        exact hleft
      · rw [hr.registry_eq]
        exact hown.notNative
    · have hshareToken : s'.shareToken = s.shareToken := by rw [hr.shareToken_eq, if_neg hleft]
      have hpoolAssets : s'.poolAssets = s.poolAssets := by rw [hr.poolAssets_eq, if_neg hleft]
      refine hown.resize htoken hr.registry_eq hshareToken hpoolAssets ?_
      rw [htotal, hissuance, if_pos rfl]

/-- **Every action keeps the accounts.** -/
theorem Accounted.action (hinj : SeedsInjective cfg) (h : Accounted cfg s)
    {action : Action AccountId} (ha : action.dispatch cfg s = .ok s') : Accounted cfg s' := by
  rcases Action.cases ha with hq | ⟨_, _, _, _, _, hc⟩ | ⟨_, _, _, _, _, hc⟩ | ⟨_, _, _, _, hc⟩
  · exact h.quiet hq
  · exact h.createPool hinj hc
  · exact h.addLiquidity hinj hc
  · exact h.removeLiquidity hinj hc

/-! ## A chain without tokens

If the first id is also the id of the native asset, then nothing is issued at all, and no
pool can ever be created. -/

/-- There are no pools and no tokens. -/
structure Barren (s : State AccountId Hash) : Prop where
  shareToken : ∀ account, s.shareToken account = none
  poolAssets : ∀ account, s.poolAssets account = none
  backed : s.ledger.Backed
  issuance : ∀ id, s.ledger.issuance id = 0

omit [DecidableEq AccountId] in
theorem Barren.free_eq_zero (h : Barren s) (asset : AssetId) (w : AccountId) :
    s.ledger.free asset w = 0 := by
  have hle := h.backed asset {w}
  rw [Finset.sum_singleton, h.issuance, Ledger.total] at hle
  omega

theorem Barren.no_pool (h : Barren s) (hpool : poolExists cfg s assets = true) : False := by
  rw [poolExists, h.shareToken] at hpool
  cases hpool

theorem Barren.quiet (h : Barren s) (hq : Quiet cfg s s') : Barren s' := by
  refine ⟨?_, ?_, hq.moves.backed h.backed, fun id => ?_⟩
  · rw [hq.shareToken]
    exact h.shareToken
  · rw [hq.poolAssets]
    exact h.poolAssets
  · have hle := hq.moves.issuance_le (c := id) (fun hI => hI)
    rw [h.issuance] at hle
    exact Nat.le_zero.mp hle

theorem Barren.action (h : Barren s) {action : Action AccountId}
    (ha : action.dispatch cfg s = .ok s') : Barren s' := by
  rcases Action.cases ha with hq | ⟨_, _, _, _, _, hc⟩ | ⟨_, _, _, _, _, hc⟩ | ⟨_, _, _, _, hc⟩
  · exact h.quiet hq
  · obtain ⟨_, _, _, hc⟩ := createPool_ok hc
    have hle := hc.balance
    rw [h.free_eq_zero] at hle
    exact absurd (Nat.le_zero.mp hle) hc.amount_ne
  · obtain ⟨_, _, hc⟩ := addLiquidity_ok hc
    exact (h.no_pool hc.pool).elim
  · obtain ⟨_, _, hc⟩ := removeLiquidity_ok hc
    exact (h.no_pool hc.pool).elim

/-! ## Runs of the chain -/

/-- A first state: no pools, nothing issued of the ids still to be handed out, and a
registry without the name of any pair. What other names it has does not matter. -/
structure Fresh (s : State AccountId Hash) : Prop where
  noPools : NoPools s
  backed : s.ledger.Backed
  unissued : ∀ {id}, s.registry.nextAssetId ≤ id → s.ledger.issuance id = 0
  names : ∀ assets : AssetPair, s.registry.assetIds assets.name = none

theorem Fresh.accounted (h : Fresh s) (hnative : cfg.nativeAssetId < s.registry.nextAssetId) :
    Accounted cfg s := by
  have hnamed : ∀ {name id}, name ∈ Set.range AssetPair.name →
      s.registry.assetIds name = some id → False := by
    rintro _ id ⟨assets, rfl⟩ hid
    rw [h.names] at hid
    cases hid
  refine ⟨⟨fun hn _ hid _ => (hnamed hn hid).elim, fun hn hid => (hnamed hn hid).elim⟩, hnative,
    h.unissued, fun assets => ?_⟩
  have hsome : ∀ {t}, s.shareToken (getPairId cfg assets) = some t → False := by
    intro t ht
    rw [h.noPools.shareToken] at ht
    cases ht
  refine ⟨fun ht => (hsome ht).elim, fun ht => (hsome ht).elim, fun ht => (hsome ht).elim,
    fun _ => h.noPools.poolAssets _, fun _ hid => (hnamed ⟨assets, rfl⟩ hid).elim,
    fun hid => hnamed ⟨assets, rfl⟩ hid⟩

/-- A first state is accounted for, or has no tokens at all. -/
theorem Fresh.accounted_or_barren (hnative : cfg.nativeAssetId = CORE_ASSET_ID) (h : Fresh s) :
    Accounted cfg s ∨ Barren s := by
  by_cases hlt : cfg.nativeAssetId < s.registry.nextAssetId
  · exact Or.inl (h.accounted hlt)
  · -- every id is still to be handed out
    refine Or.inr ⟨h.noPools.shareToken, h.noPools.poolAssets, h.backed, fun id => ?_⟩
    refine h.unissued (UInt32.le_trans (UInt32.not_lt.mp hlt) ?_)
    rw [hnative, UInt32.le_iff_toNat_le]
    exact Nat.zero_le _

theorem accounted_or_barren_action (hinj : SeedsInjective cfg) (h : Accounted cfg s ∨ Barren s)
    {action : Action AccountId} (ha : action.dispatch cfg s = .ok s') :
    Accounted cfg s' ∨ Barren s' := by
  rcases h with h | h
  · exact Or.inl (h.action hinj ha)
  · exact Or.inr (h.action ha)

/-- **The share accounting of pools.** In every state that a run of the chain reaches from a
first state, whoever makes the calls: a pair has a share token exactly when it has an entry
of pool assets, which then are the two assets of the pair; the share token is the registry's
id for the name of the pair, and there are as many shares as were issued of it; and pools
with the same share token are the same pool. -/
theorem shares_accounted (hinj : SeedsInjective cfg) (hnative : cfg.nativeAssetId = CORE_ASSET_ID)
    {s₀ s : State AccountId Hash} (h₀ : Fresh s₀) (run : ChainRuns cfg s₀ s) :
    (∀ assets : AssetPair,
      ((s.shareToken (getPairId cfg assets)).isSome ↔
        (s.poolAssets (getPairId cfg assets)).isSome) ∧
      ∀ token, s.shareToken (getPairId cfg assets) = some token →
        (s.poolAssets (getPairId cfg assets) = some (assets.assetIn, assets.assetOut) ∨
          s.poolAssets (getPairId cfg assets) = some (assets.assetOut, assets.assetIn)) ∧
        s.registry.assetIds assets.name = some token ∧
        s.totalLiquidity (getPairId cfg assets) = s.ledger.issuance token) ∧
    ∀ (assets assets' : AssetPair) (token : AssetId),
      s.shareToken (getPairId cfg assets) = some token →
      s.shareToken (getPairId cfg assets') = some token →
        assets = assets' ∨ assets = assets'.swap := by
  have key : Accounted cfg s ∨ Barren s :=
    run.invariant (I := fun t => Accounted cfg t ∨ Barren t)
      (fun _ _ _ ht _ ha => accounted_or_barren_action hinj ht ha)
      (h₀.accounted_or_barren hnative)
  -- either every pool is accounted for, or there never can be one
  rcases key with h | h
  · refine ⟨fun assets => ⟨?_, fun token ht => ?_⟩, fun assets assets' token ht ht' => ?_⟩
    · cases ht : s.shareToken (getPairId cfg assets) with
      | none => simp [(h.pool assets).noAssets ht]
      | some token =>
          rcases (h.pool assets).stored ht with hp | hp
          · rw [hp]
            exact iff_of_true rfl rfl
          · rw [hp]
            exact iff_of_true rfl rfl
    · exact ⟨(h.pool assets).stored ht, (h.pool assets).named ht, (h.pool assets).total ht⟩
    · apply AssetPair.name_injective
      exact h.registry.injective ⟨assets, rfl⟩ ⟨assets', rfl⟩ ((h.pool assets).named ht)
        ((h.pool assets').named ht')
  · refine ⟨fun assets => ⟨?_, fun token ht => ?_⟩, fun assets assets' token ht ht' => ?_⟩
    · simp [h.shareToken, h.poolAssets]
    · rw [h.shareToken] at ht
      cases ht
    · rw [h.shareToken] at ht
      cases ht

/-! ## A pool that is destroyed and created again -/

open Fallible

/-- The first states of the development chain, where no share token is endowed. -/
theorem fresh_genesis {endowments : List (AssetId × Dev.AccountId × Nat)}
    (h : ∀ e ∈ endowments, e.1 < 10) : Fresh (Dev.genesis endowments) := by
  refine ⟨Dev.noPools _, Dev.backed _, fun {id} hid => ?_, fun _ => rfl⟩
  show ((endowments.filter (fun e => e.1 = id)).map (fun e => e.2.2)).sum = 0
  have hnone : endowments.filter (fun e => e.1 = id) = [] := by
    refine List.filter_eq_nil_iff.mpr fun e he heq => ?_
    rw [← of_decide_eq_true heq] at hid
    exact UInt32.not_lt.mpr hid (h e he)
  rw [hnone]
  rfl

/-- Account `[1]` holds assets `1` and `2`, account `[2]` asset `1`. -/
def twoHolders : State Dev.AccountId Dev.Hash :=
  Dev.genesis [(1, [1], 1000000), (2, [1], 1000000), (1, [2], 10000)]

/-- A pool is created, destroyed and created with the assets the other way round; a sell is
registered and resolved. -/
def recreated : Except Exchange.Failure (State Dev.AccountId Dev.Hash) :=
  [.extrinsic (.xyk (.createPool [1] 1 2 500000 (10 ^ 18))),
    .extrinsic (.xyk (.removeLiquidity [1] 1 2 500000)),
    .extrinsic (.xyk (.createPool [1] 2 1 400000 (10 ^ 18))),
    .extrinsic (.sell [2] 1 2 5000 1 true), .finalize, .nextBlock].foldlM
      (Action.dispatch Dev.cfg) twoHolders

theorem fresh_twoHolders : Fresh twoHolders :=
  fresh_genesis (by decide)

theorem shares_accounted_recreated :
    Succeeds recreated fun s =>
      s.shareToken (getPairId Dev.cfg ⟨1, 2⟩) = some 10 ∧
      s.poolAssets (getPairId Dev.cfg ⟨1, 2⟩) = some (2, 1) ∧
      s.totalLiquidity (getPairId Dev.cfg ⟨1, 2⟩) = s.ledger.issuance 10 := by
  have hok : Succeeds recreated fun s => s.shareToken (getPairId Dev.cfg ⟨1, 2⟩) = some 10 ∧
      s.poolAssets (getPairId Dev.cfg ⟨1, 2⟩) = some (2, 1) := by
    decide +kernel
  obtain ⟨s, hs, htoken, hassets⟩ := hok
  have key := shares_accounted Dev.seedsInjective rfl fresh_twoHolders
    (Runs.of_foldlM (fun _ _ => trivial) hs)
  exact ⟨s, hs, htoken, hassets, ((key.1 ⟨1, 2⟩).2 10 htoken).2.2⟩

end HydraDX.XYK
