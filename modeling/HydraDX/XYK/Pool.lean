import HydraDX.XYK.Trade

set_option autoImplicit false

/-! # The XYK pallet: creating, funding and draining pools

The calls `create_pool`, `add_liquidity` and `remove_liquidity` of
`pallets/xyk/src/lib.rs`. They are transactional: an error anywhere leaves the storage as
it was. -/

namespace HydraDX.XYK

variable {AccountId Hash : Type} [DecidableEq AccountId] (cfg : Config AccountId Hash)

/-- The share token of a pool account; `0` where there is none (`ValueQuery`). -/
def shareTokenOf (s : State AccountId Hash) (pairAccount : AccountId) : AssetId :=
  (s.shareToken pairAccount).getD 0

/-! ## The calls -/

/-- Create a pool: `amount` of the first asset and `initialPrice * amount` of the second. The
shares are counted in the asset with the smaller id. -/
def createPool (who : AccountId) (assetA assetB : AssetId) (amount : Nat)
    (initialPrice : Nat) (s : State AccountId Hash) :
    Except DispatchError (State AccountId Hash) := do
  ensure (amount ≠ 0) (.xyk .CannotCreatePoolWithZeroLiquidity)
  ensure (initialPrice ≠ 0) (.xyk .CannotCreatePoolWithZeroInitialPrice)
  ensure (assetA ≠ assetB) (.xyk .CannotCreatePoolWithSameAssets)
  let assetPair : AssetPair := { assetIn := assetA, assetOut := assetB }
  ensure (poolExists cfg s assetPair = false) (.xyk .TokenPoolAlreadyExists)
  -- rounded down, possibly to zero: only the two factors are checked
  let assetBAmount ← okOr (checkedMulInt initialPrice amount) .CreatePoolAssetAmountInvalid
  let sharesAdded := if assetA < assetB then amount else assetBAmount
  ensure (s.ledger.free assetA who ≥ amount) (.xyk .InsufficientAssetBalance)
  ensure (s.ledger.free assetB who ≥ assetBAmount) (.xyk .InsufficientAssetBalance)
  let pairAccount := getPairId cfg assetPair
  let (shareToken, registry) ← s.registry.getOrCreateAsset assetPair.name
  let l ← ofCurrency (cfg.currency.transfer assetA who pairAccount amount s.ledger)
  let l ← ofCurrency (cfg.currency.transfer assetB who pairAccount assetBAmount l)
  let l ← ofCurrency (cfg.currency.deposit shareToken who sharesAdded l)
  return { s with
      registry
      ledger := l
      shareToken := Function.update s.shareToken pairAccount (some shareToken)
      poolAssets := Function.update s.poolAssets pairAccount (some (assetA, assetB))
      totalLiquidity := Function.update s.totalLiquidity pairAccount sharesAdded
      events := s.events ++ [.PoolCreated who assetA assetB sharesAdded] }

/-- Add liquidity: `amountA` of the first asset and as much of the second as the reserves
ask for. The shares are counted in the asset with the smaller id. -/
def addLiquidity (who : AccountId) (assetA assetB : AssetId) (amountA amountBMaxLimit : Nat)
    (s : State AccountId Hash) : Except DispatchError (State AccountId Hash) := do
  let assetPair : AssetPair := { assetIn := assetA, assetOut := assetB }
  ensure (poolExists cfg s assetPair = true) (.xyk .TokenPoolNotFound)
  ensure (amountA ≠ 0) (.xyk .CannotAddZeroLiquidity)
  ensure (amountBMaxLimit ≠ 0) (.xyk .CannotAddZeroLiquidity)
  ensure (s.ledger.free assetA who ≥ amountA) (.xyk .InsufficientAssetBalance)
  ensure (s.ledger.free assetB who ≥ amountBMaxLimit) (.xyk .InsufficientAssetBalance)
  let pairAccount := getPairId cfg assetPair
  let shareToken := shareTokenOf s pairAccount
  let assetAReserve := reserveOf cfg s assetPair assetA
  let assetBReserve := reserveOf cfg s assetPair assetB
  let totalLiquidity := s.totalLiquidity pairAccount
  let amountBRequired ←
    mapErr (cfg.math.calculateLiquidityIn assetAReserve assetBReserve amountA)
      .AddAssetAmountInvalid
  -- one share for one unit, whatever a share is worth by now
  let sharesAdded := if assetA < assetB then amountA else amountBRequired
  ensure (amountBRequired ≤ amountBMaxLimit) (.xyk .AssetBalanceLimitExceeded)
  ensure (sharesAdded > 0) (.xyk .InvalidMintedLiquidity)
  let liquidityAmount ← okOr (checkedAdd totalLiquidity sharesAdded) .InvalidLiquidityAmount
  ensure (s.ledger.free assetB who ≥ amountBRequired) (.xyk .InsufficientAssetBalance)
  let l ← ofCurrency (cfg.currency.transfer assetA who pairAccount amountA s.ledger)
  let l ← ofCurrency (cfg.currency.transfer assetB who pairAccount amountBRequired l)
  let l ← ofCurrency (cfg.currency.deposit shareToken who sharesAdded l)
  return { s with
      ledger := l
      totalLiquidity := Function.update s.totalLiquidity pairAccount liquidityAmount
      events := s.events ++ [.LiquidityAdded who assetA assetB amountA amountBRequired] }

/-- Forget a pool that has no shares left. -/
def destroyPool (who : AccountId) (assetA assetB : AssetId) (pairAccount : AccountId)
    (s : State AccountId Hash) : State AccountId Hash :=
  { s with
    shareToken := Function.update s.shareToken pairAccount none
    poolAssets := Function.update s.poolAssets pairAccount none
    events := s.events ++ [.PoolDestroyed who assetA assetB] }

/-- Remove liquidity: burn `liquidityAmount` shares for that part of both reserves. A pool
without shares is destroyed. -/
def removeLiquidity (who : AccountId) (assetA assetB : AssetId) (liquidityAmount : Nat)
    (s : State AccountId Hash) : Except DispatchError (State AccountId Hash) := do
  let assetPair : AssetPair := { assetIn := assetA, assetOut := assetB }
  ensure (liquidityAmount ≠ 0) (.xyk .CannotRemoveLiquidityWithZero)
  ensure (poolExists cfg s assetPair = true) (.xyk .TokenPoolNotFound)
  let pairAccount := getPairId cfg assetPair
  let shareToken := shareTokenOf s pairAccount
  let totalShares := s.totalLiquidity pairAccount
  ensure (totalShares ≥ liquidityAmount) (.xyk .InsufficientAssetBalance)
  ensure (s.ledger.free shareToken who ≥ liquidityAmount) (.xyk .InsufficientAssetBalance)
  ensure (totalShares ≠ 0) (.xyk .CannotRemoveLiquidityWithZero)
  let assetAReserve := reserveOf cfg s assetPair assetA
  let assetBReserve := reserveOf cfg s assetPair assetB
  let (removeAmountA, removeAmountB) ←
    mapErr (cfg.math.calculateLiquidityOut assetAReserve assetBReserve liquidityAmount totalShares)
      .RemoveAssetAmountInvalid
  ensure (s.ledger.free assetA pairAccount ≥ removeAmountA) (.xyk .InsufficientPoolAssetBalance)
  ensure (s.ledger.free assetB pairAccount ≥ removeAmountB) (.xyk .InsufficientPoolAssetBalance)
  let liquidityLeft ← okOr (checkedSub totalShares liquidityAmount) .InvalidLiquidityAmount
  let l ← ofCurrency (cfg.currency.transfer assetA pairAccount who removeAmountA s.ledger)
  let l ← ofCurrency (cfg.currency.transfer assetB pairAccount who removeAmountB l)
  let l ← ofCurrency (cfg.currency.withdraw shareToken who liquidityAmount l)
  -- an entry for the number of shares stays, also when it is zero
  let s' : State AccountId Hash := { s with
      ledger := l
      totalLiquidity := Function.update s.totalLiquidity pairAccount liquidityLeft
      events := s.events ++ [.LiquidityRemoved who assetA assetB liquidityAmount] }
  return (if liquidityLeft = 0 then destroyPool who assetA assetB pairAccount s' else s')

/-! ## What a call that succeeds has checked and done -/

section Specs

variable {cfg} {s s' : State AccountId Hash} {who : AccountId} {assetA assetB : AssetId}
  {amount limit price : Nat}

/-- A pool that was created: `amountB` is the amount of the second asset, `shareToken` the
registry's id for the pair. -/
structure PoolCreated (cfg : Config AccountId Hash) (who : AccountId) (assetA assetB : AssetId)
    (amount price amountB : Nat) (shareToken : AssetId)
    (registry : AssetRegistry) (s s' : State AccountId Hash) : Prop where
  amount_ne : amount ≠ 0
  assets_ne : assetA ≠ assetB
  fresh : poolExists cfg s ⟨assetA, assetB⟩ = false
  amountB_eq : checkedMulInt price amount = some amountB
  balance : amount ≤ s.ledger.free assetA who
  registered :
    s.registry.getOrCreateAsset (AssetPair.name ⟨assetA, assetB⟩) = .ok (shareToken, registry)
  state_eq : s' =
    { s with
      registry
      ledger := ((s.ledger.move assetA who (getPairId cfg ⟨assetA, assetB⟩) amount).move assetB
        who (getPairId cfg ⟨assetA, assetB⟩) amountB).mint shareToken who
          (if assetA < assetB then amount else amountB)
      shareToken :=
        Function.update s.shareToken (getPairId cfg ⟨assetA, assetB⟩) (some shareToken)
      poolAssets :=
        Function.update s.poolAssets (getPairId cfg ⟨assetA, assetB⟩) (some (assetA, assetB))
      totalLiquidity := Function.update s.totalLiquidity (getPairId cfg ⟨assetA, assetB⟩)
        (if assetA < assetB then amount else amountB)
      events := s.events ++
        [.PoolCreated who assetA assetB (if assetA < assetB then amount else amountB)] }

theorem createPool_ok (h : createPool cfg who assetA assetB amount price s = .ok s') :
    ∃ amountB shareToken registry,
      PoolCreated cfg who assetA assetB amount price amountB shareToken registry s s' := by
  unfold createPool at h
  simp only [↓Fallible.ensure_bind_eq_ok, Fallible.bind_eq_ok, okOr_eq_ok, ofCurrency_eq_ok] at h
  obtain ⟨hamount, -, hne, hfresh, amountB, hB, hbal, -, ⟨token, registry⟩, hreg, l₁, h₁, l₂, h₂,
    l₃, h₃, h⟩ := h
  cases h
  refine ⟨amountB, token, registry, hamount, hne, hfresh, hB, hbal, hreg, ?_⟩
  rw [cfg.currency.deposit_ok h₃, (cfg.currency.transfer_ok h₂).2, (cfg.currency.transfer_ok h₁).2]

/-- Liquidity that was added: `amountB` is what the reserves ask for of the second asset. -/
structure LiquidityAdded (cfg : Config AccountId Hash) (who : AccountId) (assetA assetB : AssetId)
    (amountA amountB shares : Nat) (s s' : State AccountId Hash) : Prop where
  pool : poolExists cfg s ⟨assetA, assetB⟩ = true
  amountA_ne : amountA ≠ 0
  balanceA : amountA ≤ s.ledger.free assetA who
  balanceB : amountB ≤ s.ledger.free assetB who
  reserve_ne : reserveOf cfg s ⟨assetA, assetB⟩ assetA ≠ 0
  amountB_eq : amountB = amountA * reserveOf cfg s ⟨assetA, assetB⟩ assetB
    / reserveOf cfg s ⟨assetA, assetB⟩ assetA
  shares_eq : shares = if assetA < assetB then amountA else amountB
  shares_pos : 0 < shares
  state_eq : s' =
    { s with
      ledger := ((s.ledger.move assetA who (getPairId cfg ⟨assetA, assetB⟩) amountA).move assetB
        who (getPairId cfg ⟨assetA, assetB⟩) amountB).mint
          (shareTokenOf s (getPairId cfg ⟨assetA, assetB⟩)) who shares
      totalLiquidity := Function.update s.totalLiquidity (getPairId cfg ⟨assetA, assetB⟩)
        (s.totalLiquidity (getPairId cfg ⟨assetA, assetB⟩) + shares)
      events := s.events ++ [.LiquidityAdded who assetA assetB amountA amountB] }

theorem addLiquidity_ok (h : addLiquidity cfg who assetA assetB amount limit s = .ok s') :
    ∃ amountB shares, LiquidityAdded cfg who assetA assetB amount amountB shares s s' := by
  unfold addLiquidity at h
  simp only [↓Fallible.ensure_bind_eq_ok, Fallible.bind_eq_ok, okOr_eq_ok, mapErr_eq_ok,
    ofCurrency_eq_ok, checkedAdd_eq_some] at h
  obtain ⟨hpool, hne, -, hbalA, -, amountB, hB, -, hpos, _, ⟨-, rfl⟩, hbalB, l₁, h₁, l₂, h₂, l₃,
    h₃, h⟩ := h
  obtain ⟨hres, rfl⟩ := cfg.math.liquidityIn_ok hB
  cases h
  refine ⟨_, _, hpool, hne, hbalA, hbalB, hres, rfl, rfl, hpos, ?_⟩
  rw [cfg.currency.deposit_ok h₃, (cfg.currency.transfer_ok h₂).2, (cfg.currency.transfer_ok h₁).2]

/-- Liquidity that was removed, `amountA` and `amountB` of the two assets for `shares`. -/
structure LiquidityRemoved (cfg : Config AccountId Hash) (who : AccountId)
    (assetA assetB : AssetId) (shares amountA amountB : Nat)
    (s s' : State AccountId Hash) : Prop where
  shares_ne : shares ≠ 0
  pool : poolExists cfg s ⟨assetA, assetB⟩ = true
  shares_le : shares ≤ s.totalLiquidity (getPairId cfg ⟨assetA, assetB⟩)
  balance : shares ≤ s.ledger.free (shareTokenOf s (getPairId cfg ⟨assetA, assetB⟩)) who
  amountA_eq : amountA = reserveOf cfg s ⟨assetA, assetB⟩ assetA * shares
    / s.totalLiquidity (getPairId cfg ⟨assetA, assetB⟩)
  amountB_eq : amountB = reserveOf cfg s ⟨assetA, assetB⟩ assetB * shares
    / s.totalLiquidity (getPairId cfg ⟨assetA, assetB⟩)
  ledger_eq : s'.ledger =
    ((s.ledger.move assetA (getPairId cfg ⟨assetA, assetB⟩) who amountA).move assetB
      (getPairId cfg ⟨assetA, assetB⟩) who amountB).burn
        (shareTokenOf s (getPairId cfg ⟨assetA, assetB⟩)) who shares
  burnable : shares ≤ ((s.ledger.move assetA (getPairId cfg ⟨assetA, assetB⟩) who amountA).move
      assetB (getPairId cfg ⟨assetA, assetB⟩) who amountB).free
        (shareTokenOf s (getPairId cfg ⟨assetA, assetB⟩)) who
  total_eq : s'.totalLiquidity = Function.update s.totalLiquidity
    (getPairId cfg ⟨assetA, assetB⟩) (s.totalLiquidity (getPairId cfg ⟨assetA, assetB⟩) - shares)
  shareToken_eq : s'.shareToken =
    if s.totalLiquidity (getPairId cfg ⟨assetA, assetB⟩) - shares = 0 then
      Function.update s.shareToken (getPairId cfg ⟨assetA, assetB⟩) none
    else s.shareToken
  poolAssets_eq : s'.poolAssets =
    if s.totalLiquidity (getPairId cfg ⟨assetA, assetB⟩) - shares = 0 then
      Function.update s.poolAssets (getPairId cfg ⟨assetA, assetB⟩) none
    else s.poolAssets
  registry_eq : s'.registry = s.registry
  intentions_eq : s'.intentions = s.intentions
  intentionCount_eq : s'.intentionCount = s.intentionCount
  blockNumber_eq : s'.blockNumber = s.blockNumber
  events_eq : s'.events = s.events ++ .LiquidityRemoved who assetA assetB shares ::
    if s.totalLiquidity (getPairId cfg ⟨assetA, assetB⟩) - shares = 0 then
      [.PoolDestroyed who assetA assetB] else []

theorem removeLiquidity_ok (h : removeLiquidity cfg who assetA assetB amount s = .ok s') :
    ∃ amountA amountB, LiquidityRemoved cfg who assetA assetB amount amountA amountB s s' := by
  unfold removeLiquidity at h
  simp only [↓Fallible.ensure_bind_eq_ok, Fallible.bind_eq_ok, okOr_eq_ok, mapErr_eq_ok,
    ofCurrency_eq_ok, checkedSub_eq_some] at h
  obtain ⟨hne, hpool, hle, hbal, -, ⟨amountA, amountB⟩, hout, -, -, left, ⟨-, rfl⟩, l₁, h₁, l₂, h₂,
    l₃, h₃, h⟩ := h
  obtain ⟨-, hout⟩ := cfg.math.liquidityOut_ok hout
  obtain ⟨rfl, rfl⟩ := Prod.ext_iff.mp hout
  obtain ⟨hburn, rfl⟩ := cfg.currency.withdraw_ok h₃
  obtain ⟨-, rfl⟩ := cfg.currency.transfer_ok h₂
  obtain ⟨-, rfl⟩ := cfg.currency.transfer_ok h₁
  refine ⟨_, _, hne, hpool, hle, hbal, rfl, rfl, ?_, hburn, ?_, ?_, ?_, ?_, ?_, ?_, ?_, ?_⟩
  all_goals
    cases h
    split_ifs <;> simp [destroyPool]

end Specs

end HydraDX.XYK
