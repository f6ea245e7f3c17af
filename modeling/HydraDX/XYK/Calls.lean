import HydraDX.XYK.Pool

set_option autoImplicit false

/-! # Runs of the XYK pallet

The five calls of the pallet as data, and the runs they make up. Pool accounts are hashes, so
nobody has a key for them, though the pallet takes a call signed by one (`sudo_as`) as any
other; `NotPoolAccount` says that an account is not of that kind. The account of a pair
determines the pair as long as the hash does not collide on the byte strings it is given
(`SeedsInjective`). -/

namespace HydraDX.XYK

variable {AccountId Hash : Type} [DecidableEq AccountId] (cfg : Config AccountId Hash)

inductive Call (AccountId : Type) where
  | createPool (who : AccountId) (assetA assetB : AssetId) (amount initialPrice : Nat)
  | addLiquidity (who : AccountId) (assetA assetB : AssetId) (amountA amountBMaxLimit : Nat)
  | removeLiquidity (who : AccountId) (assetA assetB : AssetId) (liquidityAmount : Nat)
  | sell (who : AccountId) (assetIn assetOut : AssetId) (amount minBought : Nat) (discount : Bool)
  | buy (who : AccountId) (assetOut assetIn : AssetId) (amount maxLimit : Nat) (discount : Bool)

namespace Call

def who : Call AccountId → AccountId
  | createPool who .. => who
  | addLiquidity who .. => who
  | removeLiquidity who .. => who
  | sell who .. => who
  | buy who .. => who

def dispatch (s : State AccountId Hash) : Call AccountId →
    Except DispatchError (State AccountId Hash)
  | createPool who assetA assetB amount initialPrice =>
      XYK.createPool cfg who assetA assetB amount initialPrice s
  | addLiquidity who assetA assetB amountA amountBMaxLimit =>
      XYK.addLiquidity cfg who assetA assetB amountA amountBMaxLimit s
  | removeLiquidity who assetA assetB liquidityAmount =>
      XYK.removeLiquidity cfg who assetA assetB liquidityAmount s
  | sell who assetIn assetOut amount minBought discount =>
      XYK.sell cfg who assetIn assetOut amount minBought discount s
  | buy who assetOut assetIn amount maxLimit discount =>
      XYK.buy cfg who assetOut assetIn amount maxLimit discount s

end Call

/-- The runs of the pallet whose calls all meet `P`. -/
abbrev Runs (P : State AccountId Hash → Call AccountId → Prop) :
    State AccountId Hash → State AccountId Hash → Prop :=
  Fallible.Runs (Call.dispatch cfg) P

/-! ## Pool accounts -/

/-- The account is not the account of any pair. -/
def NotPoolAccount (who : AccountId) : Prop := ∀ assetA assetB, who ≠ fromAssets cfg assetA assetB

/-- The hash does not collide on the byte strings that pool accounts are made from. -/
def SeedsInjective : Prop :=
  ∀ assetA assetB assetC assetD,
    cfg.hashAccount (poolSeed assetA assetB) = cfg.hashAccount (poolSeed assetC assetD) →
      poolSeed assetA assetB = poolSeed assetC assetD

/-- No pool exists, and no shares are counted. -/
structure NoPools (s : State AccountId Hash) : Prop where
  shareToken : ∀ account, s.shareToken account = none
  poolAssets : ∀ account, s.poolAssets account = none
  totalLiquidity : ∀ account, s.totalLiquidity account = 0

theorem poolSeed_comm (assetA assetB : AssetId) :
    poolSeed assetA assetB = poolSeed assetB assetA := by
  unfold poolSeed
  by_cases hAB : assetA < assetB
  · rw [if_pos hAB, if_neg (UInt32.lt_asymm hAB)]
  · by_cases hBA : assetB < assetA
    · rw [if_neg hAB, if_pos hBA]
    · rw [UInt32.le_antisymm (UInt32.not_lt.mp hBA) (UInt32.not_lt.mp hAB)]

theorem fromAssets_comm (assetA assetB : AssetId) :
    fromAssets cfg assetA assetB = fromAssets cfg assetB assetA := by
  unfold fromAssets
  rw [poolSeed_comm]

/-- The seed of a pair determines the two assets up to their order. -/
theorem poolSeed_injective {assetA assetB assetC assetD : AssetId}
    (h : poolSeed assetA assetB = poolSeed assetC assetD) :
    (assetA = assetC ∧ assetB = assetD) ∨ (assetA = assetD ∧ assetB = assetC) := by
  have key : ∀ {a b c d : AssetId}, toLeBytes a ++ toLeBytes b = toLeBytes c ++ toLeBytes d →
      a = c ∧ b = d := by
    intro a b c d h
    obtain ⟨h₁, h₂⟩ := List.append_inj h (by rw [toLeBytes_length, toLeBytes_length])
    exact ⟨toLeBytes_injective h₁, toLeBytes_injective h₂⟩
  unfold poolSeed at h
  have h' := List.append_cancel_left h
  split_ifs at h' with hAB hCD hCD
  · exact Or.inl (key h')
  · exact Or.inr (key h')
  · obtain ⟨hB, hA⟩ := key h'
    exact Or.inr ⟨hA, hB⟩
  · obtain ⟨hB, hA⟩ := key h'
    exact Or.inl ⟨hA, hB⟩

variable {cfg} {s s' : State AccountId Hash}

theorem SeedsInjective.pair (hinj : SeedsInjective cfg) {assetA assetB assetC assetD : AssetId}
    (h : fromAssets cfg assetA assetB = fromAssets cfg assetC assetD) :
    (assetA = assetC ∧ assetB = assetD) ∨ (assetA = assetD ∧ assetB = assetC) :=
  poolSeed_injective (hinj _ _ _ _ h)

theorem getPairId_swap (assets : AssetPair) : getPairId cfg assets.swap = getPairId cfg assets :=
  fromAssets_comm cfg _ _

/-- A pair with the same account is the same pair, in this order or the other. -/
theorem SeedsInjective.eq_or_swap (hinj : SeedsInjective cfg) {assets assets' : AssetPair}
    (h : getPairId cfg assets' = getPairId cfg assets) :
    assets' = assets ∨ assets' = assets.swap := by
  cases assets with
  | mk assetIn assetOut =>
      cases assets' with
      | mk assetIn' assetOut' =>
          rcases hinj.pair h with ⟨hi, ho⟩ | ⟨hi, ho⟩
          · left
            rw [AssetPair.mk.injEq]
            exact ⟨hi, ho⟩
          · right
            rw [AssetPair.swap, AssetPair.mk.injEq]
            exact ⟨hi, ho⟩

/-! ## What the calls leave alone -/

/-- The event is one of the pallet. -/
def isPoolEvent : Event AccountId Hash → Bool
  | .LiquidityAdded .. => true
  | .LiquidityRemoved .. => true
  | .PoolCreated .. => true
  | .PoolDestroyed .. => true
  | .SellExecuted .. => true
  | .BuyExecuted .. => true
  | _ => false

/-- The storage of the exchange pallet is as before, and only pool events are added. -/
structure ExchangeUntouched (s s' : State AccountId Hash) : Prop where
  intentions : s'.intentions = s.intentions
  intentionCount : s'.intentionCount = s.intentionCount
  blockNumber : s'.blockNumber = s.blockNumber
  events : ∃ new, s'.events = s.events ++ new ∧ ∀ e ∈ new, isPoolEvent e = true

theorem Call.exchangeUntouched {call : Call AccountId}
    (h : call.dispatch cfg s = .ok s') : ExchangeUntouched s s' := by
  cases call with
  | createPool who a b amount price =>
      obtain ⟨_, _, _, hc⟩ := createPool_ok h
      rw [hc.state_eq]
      exact ⟨rfl, rfl, rfl, _, rfl, by simp [isPoolEvent]⟩
  | addLiquidity who a b amount limit =>
      obtain ⟨_, _, hc⟩ := addLiquidity_ok h
      rw [hc.state_eq]
      exact ⟨rfl, rfl, rfl, _, rfl, by simp [isPoolEvent]⟩
  | removeLiquidity who a b amount =>
      obtain ⟨_, _, hc⟩ := removeLiquidity_ok h
      refine ⟨hc.intentions_eq, hc.intentionCount_eq, hc.blockNumber_eq, _, hc.events_eq, ?_⟩
      split_ifs <;> simp [isPoolEvent]
  | sell who a b amount limit discount =>
      obtain ⟨_, _, -, rfl⟩ := sell_ok h
      exact ⟨rfl, rfl, rfl, _, rfl, by simp [isPoolEvent]⟩
  | buy who a b amount limit discount =>
      obtain ⟨_, _, _, -, rfl⟩ := buy_ok h
      exact ⟨rfl, rfl, rfl, _, rfl, by simp [isPoolEvent]⟩

/-- No pool has the same asset on both sides. -/
def NoSelfPool (cfg : Config AccountId Hash) (s : State AccountId Hash) : Prop :=
  ∀ asset, s.shareToken (fromAssets cfg asset asset) = none

theorem NoPools.noSelfPool (h : NoPools s) : NoSelfPool cfg s :=
  fun _ => h.shareToken _

theorem NoSelfPool.ne (h : NoSelfPool cfg s) {assets : AssetPair}
    (hpool : poolExists cfg s assets = true) : assets.assetIn ≠ assets.assetOut := by
  intro he
  rw [poolExists, getPairId, he, h assets.assetOut] at hpool
  cases hpool

/-- Pools of two different assets is all that the calls create. -/
theorem NoSelfPool.call (hinj : SeedsInjective cfg) (hs : NoSelfPool cfg s)
    {call : Call AccountId} (h : call.dispatch cfg s = .ok s') : NoSelfPool cfg s' := by
  intro asset
  cases call with
  | createPool who a b amount price =>
      obtain ⟨_, _, _, hc⟩ := createPool_ok h
      rw [hc.state_eq]
      show Function.update s.shareToken _ _ _ = none
      rw [Function.update_of_ne, hs asset]
      intro he
      rcases hinj.pair he with ⟨ha, hb⟩ | ⟨ha, hb⟩
      · exact hc.assets_ne (ha.symm.trans hb)
      · exact hc.assets_ne (hb.symm.trans ha)
  | addLiquidity who a b amount limit =>
      obtain ⟨_, _, hc⟩ := addLiquidity_ok h
      rw [hc.state_eq]
      exact hs asset
  | removeLiquidity who a b amount =>
      obtain ⟨_, _, hc⟩ := removeLiquidity_ok h
      rw [hc.shareToken_eq]
      split_ifs
      · rw [Function.update_apply]
        split_ifs
        · rfl
        · exact hs asset
      · exact hs asset
  | sell who a b amount limit discount =>
      obtain ⟨_, _, -, rfl⟩ := sell_ok h
      exact hs asset
  | buy who a b amount limit discount =>
      obtain ⟨_, _, _, -, rfl⟩ := buy_ok h
      exact hs asset

end HydraDX.XYK
