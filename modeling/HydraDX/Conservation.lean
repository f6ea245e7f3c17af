import HydraDX.Actions

set_option autoImplicit false

/-! # No token is created or lost

The supply of an asset is what all accounts together hold of it, free and reserved. A run of
the chain has a history of `Effect`s: shares that were issued by creating or funding a pool,
shares that were redeemed by draining it, and AMM trades that were executed, by a call or while
a block was finalized. The supply of every asset changes by these and nothing else: by the
shares, and by the native fee that a discounted trade burns. -/

namespace HydraDX

variable {AccountId Hash : Type} [DecidableEq AccountId] {cfg : Config AccountId Hash}
  {s s' s'' : State AccountId Hash} {who : AccountId} {assetA assetB : AssetId}

namespace XYK

/-! ## The calls as ledger operations -/

/-- Creating a pool moves balances and issues the shares. -/
theorem createPool_ledger {amount price : Nat}
    (h : createPool cfg who assetA assetB amount price s = .ok s') :
    ∃ l, Ledger.Moves (fun _ => False) (fun _ => False) s.ledger l ∧
      s'.ledger = l.mint (shareTokenOf s' (getPairId cfg ⟨assetA, assetB⟩)) who
        (s'.totalLiquidity (getPairId cfg ⟨assetA, assetB⟩)) := by
  unfold createPool at h
  simp only [↓Fallible.ensure_bind_eq_ok, Fallible.bind_eq_ok, okOr_eq_ok, ofCurrency_eq_ok] at h
  obtain ⟨-, -, -, -, amountB, -, -, -, ⟨token, registry⟩, -, l₁, h₁, l₂, h₂, l₃, h₃, h⟩ := h
  cases h
  refine ⟨l₂, (Currency.transfer_moves h₁).trans (Currency.transfer_moves h₂), ?_⟩
  simp only [shareTokenOf, Function.update_self, Option.getD_some]
  exact cfg.currency.deposit_ok h₃

/-- Adding liquidity moves balances and issues as many shares as are counted. -/
theorem addLiquidity_ledger {amount limit : Nat}
    (h : addLiquidity cfg who assetA assetB amount limit s = .ok s') :
    ∃ l, Ledger.Moves (fun _ => False) (fun _ => False) s.ledger l ∧
      s'.ledger = l.mint (shareTokenOf s (getPairId cfg ⟨assetA, assetB⟩)) who
        (s'.totalLiquidity (getPairId cfg ⟨assetA, assetB⟩)
          - s.totalLiquidity (getPairId cfg ⟨assetA, assetB⟩)) := by
  unfold addLiquidity at h
  simp only [↓Fallible.ensure_bind_eq_ok, Fallible.bind_eq_ok, okOr_eq_ok, mapErr_eq_ok,
    ofCurrency_eq_ok, checkedAdd_eq_some] at h
  obtain ⟨-, -, -, -, -, amountB, -, -, -, _, ⟨-, rfl⟩, -, l₁, h₁, l₂, h₂, l₃, h₃, h⟩ := h
  cases h
  refine ⟨l₂, (Currency.transfer_moves h₁).trans (Currency.transfer_moves h₂), ?_⟩
  simp only [Function.update_self, Nat.add_sub_cancel_left]
  exact cfg.currency.deposit_ok h₃

/-- Removing liquidity moves balances and burns the shares. -/
theorem removeLiquidity_ledger {shares : Nat}
    (h : removeLiquidity cfg who assetA assetB shares s = .ok s') :
    ∃ l, Ledger.Moves (fun _ => False) (fun _ => False) s.ledger l ∧
      shares ≤ l.free (shareTokenOf s (getPairId cfg ⟨assetA, assetB⟩)) who ∧
      s'.ledger = l.burn (shareTokenOf s (getPairId cfg ⟨assetA, assetB⟩)) who shares := by
  unfold removeLiquidity at h
  simp only [↓Fallible.ensure_bind_eq_ok, Fallible.bind_eq_ok, okOr_eq_ok, mapErr_eq_ok,
    ofCurrency_eq_ok] at h
  obtain ⟨-, -, -, -, -, _, -, -, -, _, -, l₁, h₁, l₂, h₂, l₃, h₃, h⟩ := h
  obtain ⟨hle, rfl⟩ := cfg.currency.withdraw_ok h₃
  refine ⟨l₂, (Currency.transfer_moves h₁).trans (Currency.transfer_moves h₂), hle, ?_⟩
  cases h
  split_ifs <;> rfl

/-- What a trade burns of the native asset. -/
def discountBurned (t : AMMTransfer AccountId) : Nat :=
  if t.discount = true ∧ t.discountAmount > 0 then t.discountAmount else 0

end XYK

namespace Exchange

variable {trade : IntentionType × AMMTransfer AccountId}
  {trades : List (IntentionType × AMMTransfer AccountId)}

/-- An AMM trade burns its discount, then moves balances. -/
theorem executeTrade_ledger (h : executeTrade cfg trade s = .ok s') :
    ∃ l, XYK.withdrawDiscount cfg trade.2 s.ledger = .ok l ∧
      Ledger.Moves (fun _ => False) (fun _ => False) l s'.ledger := by
  unfold executeTrade XYK.executeSell XYK.executeBuy at h
  cases htype : trade.1 with
  | SELL =>
      rw [htype] at h
      simp only [Fallible.bind_eq_ok, XYK.ofCurrency_eq_ok] at h
      obtain ⟨l₁, h₁, l₂, h₂, l₃, h₃, h⟩ := h
      cases h
      exact ⟨l₁, h₁, (Currency.transfer_moves h₂).trans (Currency.transfer_moves h₃)⟩
  | BUY =>
      rw [htype] at h
      simp only [Fallible.bind_eq_ok, XYK.ofCurrency_eq_ok] at h
      obtain ⟨l₁, h₁, l₂, h₂, l₃, h₃, h⟩ := h
      cases h
      exact ⟨l₁, h₁, (Currency.transfer_moves h₂).trans (Currency.transfer_moves h₃)⟩

theorem withdrawDiscount_supply {t : AMMTransfer AccountId} {l l' : Ledger AssetId AccountId}
    (h : XYK.withdrawDiscount cfg t l = .ok l') (hl : l.FiniteHolders) :
    l'.FiniteHolders ∧ ∀ c, l'.supply c +
      (if c = cfg.nativeAssetId then XYK.discountBurned t else 0) = l.supply c := by
  unfold XYK.withdrawDiscount at h
  unfold XYK.discountBurned
  by_cases hd : t.discount = true ∧ t.discountAmount > 0
  · rw [if_pos hd] at h
    obtain ⟨hle, rfl⟩ := cfg.currency.withdraw_ok (XYK.ofCurrency_eq_ok.mp h)
    rw [if_pos hd]
    exact ⟨hl.burn, Ledger.supply_burn_add hl hle⟩
  · rw [if_neg hd] at h
    cases h
    rw [if_neg hd]
    exact ⟨hl, fun c => by rw [ite_self, Nat.add_zero]⟩

theorem executeTrade_supply (h : executeTrade cfg trade s = .ok s')
    (hs : s.ledger.FiniteHolders) :
    s'.ledger.FiniteHolders ∧ ∀ c, s'.ledger.supply c +
      (if c = cfg.nativeAssetId then XYK.discountBurned trade.2 else 0) = s.ledger.supply c := by
  obtain ⟨l, hburn, hmoves⟩ := executeTrade_ledger h
  obtain ⟨hl, hsupply⟩ := withdrawDiscount_supply hburn hs
  obtain ⟨hs', hsupply'⟩ := hmoves.supply hl
  exact ⟨hs', fun c => by rw [hsupply', hsupply]⟩

end Exchange

/-- Every action consists of ledger operations. -/
theorem Action.moves {action : Action AccountId} (h : action.dispatch cfg s = .ok s') :
    Ledger.Moves (fun _ => True) (fun _ => True) s.ledger s'.ledger := by
  have hmono : ∀ {l : Ledger AssetId AccountId},
      Ledger.Moves (fun _ => False) (fun _ => False) s.ledger l →
        Ledger.Moves (fun _ => True) (fun _ => True) s.ledger l :=
    fun hmoves => hmoves.mono (fun _ h => h.elim) (fun _ h => h.elim)
  rcases Action.cases h with hq | ⟨_, _, _, _, _, hc⟩ | ⟨_, _, _, _, _, hc⟩ | ⟨_, _, _, _, hc⟩
  · exact hq.moves.mono (fun _ h => h.elim) (fun _ _ => trivial)
  · obtain ⟨l, hmoves, hl⟩ := XYK.createPool_ledger hc
    rw [hl]
    exact (hmono hmoves).trans (Ledger.Step.mint _ _ _ trivial).moves
  · obtain ⟨l, hmoves, hl⟩ := XYK.addLiquidity_ledger hc
    rw [hl]
    exact (hmono hmoves).trans (Ledger.Step.mint _ _ _ trivial).moves
  · obtain ⟨l, hmoves, hle, hl⟩ := XYK.removeLiquidity_ledger hc
    rw [hl]
    exact (hmono hmoves).trans (Ledger.Step.burn _ _ _ trivial hle).moves

/-! ## Effects -/

/-- What changes the supply of an asset. -/
inductive Effect (AccountId : Type) where
  | issued (token : AssetId) (shares : Nat)
  | redeemed (token : AssetId) (shares : Nat)
  | traded (trade : IntentionType × AMMTransfer AccountId)

namespace Effect

/-- How much is created of the asset. -/
def created (c : AssetId) : Effect AccountId → Nat
  | issued token shares => if c = token then shares else 0
  | _ => 0

/-- How much is destroyed of the asset: redeemed shares, and the discount of a trade if it is
the native asset. -/
def destroyed (cfg : Config AccountId Hash) (c : AssetId) : Effect AccountId → Nat
  | issued _ _ => 0
  | redeemed token shares => if c = token then shares else 0
  | traded trade => if c = cfg.nativeAssetId then XYK.discountBurned trade.2 else 0

end Effect

/-- The effects of an action that leads from `s` to `s'`. Creating a pool issues all of its
shares, adding liquidity those by which their number grows. -/
def Action.Effects (cfg : Config AccountId Hash) (s : State AccountId Hash)
    (effects : List (Effect AccountId)) (s' : State AccountId Hash) : Action AccountId → Prop
  | extrinsic (.xyk (.createPool _ assetA assetB _ _)) =>
      effects = [.issued (XYK.shareTokenOf s' (XYK.getPairId cfg ⟨assetA, assetB⟩))
        (s'.totalLiquidity (XYK.getPairId cfg ⟨assetA, assetB⟩))]
  | extrinsic (.xyk (.addLiquidity _ assetA assetB _ _)) =>
      effects = [.issued (XYK.shareTokenOf s (XYK.getPairId cfg ⟨assetA, assetB⟩))
        (s'.totalLiquidity (XYK.getPairId cfg ⟨assetA, assetB⟩)
          - s.totalLiquidity (XYK.getPairId cfg ⟨assetA, assetB⟩))]
  | extrinsic (.xyk (.removeLiquidity _ assetA assetB liquidityAmount)) =>
      effects = [.redeemed (XYK.shareTokenOf s (XYK.getPairId cfg ⟨assetA, assetB⟩))
        liquidityAmount]
  | extrinsic (.xyk (.sell who assetIn assetOut amount minBought discount)) =>
      ∃ transfer, XYK.validateSell cfg s who ⟨assetIn, assetOut⟩ amount minBought discount
        = .ok transfer ∧ effects = [.traded (.SELL, transfer)]
  | extrinsic (.xyk (.buy who assetOut assetIn amount maxLimit discount)) =>
      ∃ transfer, XYK.validateBuy cfg s who ⟨assetIn, assetOut⟩ amount maxLimit discount
        = .ok transfer ∧ effects = [.traded (.BUY, transfer)]
  | extrinsic (.sell ..) => effects = []
  | extrinsic (.buy ..) => effects = []
  | extrinsic (.transfer ..) => effects = []
  | finalize => ∃ trades, Exchange.Settles cfg s trades s' ∧ effects = trades.map .traded
  | nextBlock => effects = []

/-- The runs of the chain, with the effects of their actions. -/
inductive History (cfg : Config AccountId Hash) (s : State AccountId Hash) :
    List (Effect AccountId) → State AccountId Hash → Prop where
  | refl : History cfg s [] s
  | step {effects effects' : List (Effect AccountId)} {t u : State AccountId Hash}
      {action : Action AccountId} (run : History cfg s effects t)
      (call : action.dispatch cfg t = .ok u) (did : action.Effects cfg t effects' u) :
      History cfg s (effects ++ effects') u

/-! ## What the effects do to the supply -/

section Supply

variable {effects effects' : List (Effect AccountId)} {l l' l'' : Ledger AssetId AccountId}

/-- The supply changes by what the effects create and destroy. -/
structure Balanced (cfg : Config AccountId Hash) (effects : List (Effect AccountId))
    (l l' : Ledger AssetId AccountId) : Prop where
  finite : l'.FiniteHolders
  supply : ∀ c, l'.supply c + (effects.map (Effect.destroyed cfg c)).sum
    = l.supply c + (effects.map (Effect.created c)).sum

theorem Balanced.nil (h : l.FiniteHolders) : Balanced cfg [] l l := ⟨h, fun _ => rfl⟩

theorem Balanced.append (h : Balanced cfg effects l l') (h' : Balanced cfg effects' l' l'') :
    Balanced cfg (effects ++ effects') l l'' := by
  refine ⟨h'.finite, fun c => ?_⟩
  have hc := h.supply c
  have hc' := h'.supply c
  rw [List.map_append, List.sum_append, List.map_append, List.sum_append]
  omega

/-- Balances that only move. -/
theorem Balanced.moves (hl : l.FiniteHolders)
    (h : Ledger.Moves (fun _ => False) (fun _ => False) l l') : Balanced cfg [] l l' := by
  obtain ⟨hfinite, hsupply⟩ := h.supply hl
  exact ⟨hfinite, fun c => by rw [hsupply]; rfl⟩

theorem Balanced.issued (hl : l.FiniteHolders) (token : AssetId) (shares : Nat) :
    Balanced cfg [.issued token shares] l (l.mint token who shares) := by
  refine ⟨hl.mint, fun c => ?_⟩
  rw [Ledger.supply_mint hl, List.map_singleton, List.sum_singleton, List.map_singleton,
    List.sum_singleton]
  rfl

theorem Balanced.redeemed (hl : l.FiniteHolders) {token : AssetId} {shares : Nat}
    (hle : shares ≤ l.free token who) :
    Balanced cfg [.redeemed token shares] l (l.burn token who shares) := by
  refine ⟨hl.burn, fun c => ?_⟩
  rw [← Ledger.supply_burn_add hl hle c, List.map_singleton, List.sum_singleton,
    List.map_singleton, List.sum_singleton]
  rfl

theorem Balanced.traded {trade : IntentionType × AMMTransfer AccountId}
    (hs : s.ledger.FiniteHolders) (h : Exchange.executeTrade cfg trade s = .ok s') :
    Balanced cfg [.traded trade] s.ledger s'.ledger := by
  obtain ⟨hfinite, hsupply⟩ := Exchange.executeTrade_supply h hs
  refine ⟨hfinite, fun c => ?_⟩
  rw [← hsupply c, List.map_singleton, List.sum_singleton, List.map_singleton, List.sum_singleton]
  rfl

/-- The trades of a block. -/
theorem Balanced.settles {trades : List (IntentionType × AMMTransfer AccountId)}
    (hs : s.ledger.FiniteHolders) (h : Exchange.Settles cfg s trades s') :
    Balanced cfg (trades.map .traded) s.ledger s'.ledger := by
  induction h with
  | refl => exact .nil hs
  | other _ step ih =>
      have hboth := ih.append (.moves ih.finite step.moves)
      rwa [List.append_nil] at hboth
  | trade _ trade call ih =>
      rw [List.map_append]
      exact ih.append (.traded ih.finite call)

/-- Every action has effects. -/
theorem Action.exists_effects {action : Action AccountId} (h : action.dispatch cfg s = .ok s') :
    ∃ effects, action.Effects cfg s effects s' := by
  cases action with
  | extrinsic e =>
      cases e with
      | xyk call =>
          have hcall := (Extrinsic.xyk_ok cfg).mp h
          cases call with
          | createPool who a b amount price => exact ⟨_, rfl⟩
          | addLiquidity who a b amount limit => exact ⟨_, rfl⟩
          | removeLiquidity who a b shares => exact ⟨_, rfl⟩
          | sell who a b amount limit discount =>
              obtain ⟨t, ht, -⟩ := Fallible.bind_eq_ok.mp hcall
              exact ⟨_, t, ht, rfl⟩
          | buy who a b amount limit discount =>
              obtain ⟨t, ht, -⟩ := Fallible.bind_eq_ok.mp hcall
              exact ⟨_, t, ht, rfl⟩
      | sell who a b amount limit discount => exact ⟨_, rfl⟩
      | buy who a b amount limit discount => exact ⟨_, rfl⟩
      | transfer asset source dest amount => exact ⟨_, rfl⟩
  | finalize =>
      obtain ⟨trades, htrades⟩ := Exchange.onFinalize_settles ((Action.finalize_ok cfg).mp h)
      exact ⟨_, trades, htrades, rfl⟩
  | nextBlock => exact ⟨_, rfl⟩

/-- The supply changes by the effects of an action. -/
theorem Action.Effects.balanced {action : Action AccountId} (hs : s.ledger.FiniteHolders)
    (h : action.dispatch cfg s = .ok s') (heffects : action.Effects cfg s effects s') :
    Balanced cfg effects s.ledger s'.ledger := by
  cases action with
  | extrinsic e =>
      cases e with
      | xyk call =>
          have hcall := (Extrinsic.xyk_ok cfg).mp h
          cases call with
          | createPool who a b amount price =>
              -- the two assets change hands, then the shares are issued
              obtain ⟨l, hmoves, hl⟩ := XYK.createPool_ledger hcall
              obtain rfl : effects = [_] := heffects
              have hbal : Balanced cfg [] s.ledger l := .moves hs hmoves
              rw [hl]
              exact hbal.append (.issued hbal.finite _ _)
          | addLiquidity who a b amount limit =>
              obtain ⟨l, hmoves, hl⟩ := XYK.addLiquidity_ledger hcall
              obtain rfl : effects = [_] := heffects
              have hbal : Balanced cfg [] s.ledger l := .moves hs hmoves
              rw [hl]
              exact hbal.append (.issued hbal.finite _ _)
          | removeLiquidity who a b shares =>
              -- the two assets are paid out, then the shares are destroyed
              obtain ⟨l, hmoves, hle, hl⟩ := XYK.removeLiquidity_ledger hcall
              obtain rfl : effects = [_] := heffects
              have hbal : Balanced cfg [] s.ledger l := .moves hs hmoves
              rw [hl]
              exact hbal.append (.redeemed hbal.finite hle)
          | sell who a b amount limit discount =>
              obtain ⟨t, ht, rfl⟩ := heffects
              -- the trade that is executed is the one that was validated
              obtain ⟨t', ht', hx⟩ := Fallible.bind_eq_ok.mp hcall
              obtain rfl : t' = t := Except.ok.inj (ht'.symm.trans ht)
              exact .traded hs hx
          | buy who a b amount limit discount =>
              obtain ⟨t, ht, rfl⟩ := heffects
              obtain ⟨t', ht', hx⟩ := Fallible.bind_eq_ok.mp hcall
              obtain rfl : t' = t := Except.ok.inj (ht'.symm.trans ht)
              exact .traded hs hx
      | sell who a b amount limit discount =>
          -- registering touches no balance
          obtain ⟨_, -, -, -, hr⟩ := Exchange.sell_ok h
          obtain ⟨_, _, -, -, rfl⟩ := Exchange.registerIntention_ok hr
          obtain rfl : effects = [] := heffects
          exact .nil hs
      | buy who a b amount limit discount =>
          obtain ⟨_, -, -, -, hr⟩ := Exchange.buy_ok h
          obtain ⟨_, _, -, -, rfl⟩ := Exchange.registerIntention_ok hr
          obtain rfl : effects = [] := heffects
          exact .nil hs
      | transfer asset source dest amount =>
          obtain ⟨l, ht, rfl⟩ := (Extrinsic.transfer_ok cfg).mp h
          obtain rfl : effects = [] := heffects
          exact .moves hs (Currency.transfer_moves ht)
  | finalize =>
      obtain ⟨trades, htrades, rfl⟩ := heffects
      exact .settles hs htrades
  | nextBlock =>
      cases h
      obtain rfl : effects = [] := heffects
      exact .nil hs

theorem History.balanced (hs : s.ledger.FiniteHolders) (h : History cfg s effects s') :
    Balanced cfg effects s.ledger s'.ledger := by
  induction h with
  | refl => exact .nil hs
  | step _ call did ih => exact ih.append (did.balanced ih.finite call)

theorem ChainRuns.history (run : ChainRuns cfg s s') : ∃ effects, History cfg s effects s' := by
  induction run with
  | refl => exact ⟨[], .refl⟩
  | step _ _ call ih =>
      obtain ⟨effects, hrun⟩ := ih
      obtain ⟨effects', hdid⟩ := Action.exists_effects call
      exact ⟨_, .step hrun call hdid⟩

end Supply

/-- **No token is created or lost.** Every run of the chain has a history of effects, and over
every such history the supply of each asset changes by the shares issued and redeemed of it
and, if it is the native asset, by the discounts burned in executed trades; the supply of an
asset that is not native and of which no shares were issued or redeemed is the same. -/
theorem supply_changes_by_effects (cfg : Config AccountId Hash) (s₀ s : State AccountId Hash)
    (hfinite : s₀.ledger.FiniteHolders) (run : ChainRuns cfg s₀ s) :
    (∃ effects, History cfg s₀ effects s) ∧
    ∀ effects, History cfg s₀ effects s →
      (∀ c, s.ledger.supply c + (effects.map (Effect.destroyed cfg c)).sum
        = s₀.ledger.supply c + (effects.map (Effect.created c)).sum) ∧
      ∀ c, c ≠ cfg.nativeAssetId →
        (∀ token shares, .issued token shares ∈ effects ∨ .redeemed token shares ∈ effects →
          token ≠ c) →
        s.ledger.supply c = s₀.ledger.supply c := by
  refine ⟨ChainRuns.history run, fun effects h => ?_⟩
  have hbal := h.balanced hfinite
  refine ⟨hbal.supply, fun c hnative hother => ?_⟩
  -- no effect of the history is about `c`, on either side
  have hdestroyed : (effects.map (Effect.destroyed cfg c)).sum = 0 := by
    refine List.sum_eq_zero fun x hx => ?_
    obtain ⟨e, he, rfl⟩ := List.mem_map.mp hx
    cases e with
    | issued token shares => rfl
    | redeemed token shares => exact if_neg (hother token shares (Or.inr he)).symm
    | traded trade => exact if_neg hnative
  have hcreated : (effects.map (Effect.created c)).sum = 0 := by
    refine List.sum_eq_zero fun x hx => ?_
    obtain ⟨e, he, rfl⟩ := List.mem_map.mp hx
    cases e with
    | issued token shares => exact if_neg (hother token shares (Or.inl he)).symm
    | redeemed token shares => rfl
    | traded trade => rfl
  have hc := hbal.supply c
  rwa [hdestroyed, hcreated] at hc

/-! ## A block with discounted trades -/

open Fallible

/-- Only accounts with an endowment hold something. -/
theorem Dev.finiteHolders (endowments : List (AssetId × Dev.AccountId × Nat)) :
    (Dev.genesis endowments).ledger.FiniteHolders := by
  intro c
  refine Set.Finite.subset (endowments.map (fun e => e.2.1)).toFinset.finite_toSet fun w hw => ?_
  rw [Finset.mem_coe, List.mem_toFinset]
  by_contra hnot
  refine hw ?_
  show Dev.endowed endowments _ + 0 = 0
  rw [Nat.add_zero, Dev.endowed, List.filter_eq_nil_iff.mpr, List.map_nil, List.sum_nil]
  intro e he hew
  exact hnot (List.mem_map.mpr ⟨e, he, (of_decide_eq_true hew).2⟩)

def discountedHolders : State Dev.AccountId Dev.Hash :=
  Dev.genesis [(0, [1], 1000000), (1, [1], 1000000), (0, [2], 1000000), (1, [2], 1000000),
    (0, [3], 1000000), (1, [3], 1000000)]

/-- Pools are created and funded, a discounted sell is executed by the pool, two intentions are
registered and resolved, and part of the liquidity is removed. -/
def discountedBlock : Except Exchange.Failure (State Dev.AccountId Dev.Hash) :=
  [.extrinsic (.xyk (.createPool [1] 0 1 400000 (10 ^ 18))),
    .extrinsic (.xyk (.addLiquidity [1] 0 1 100000 200000)),
    .extrinsic (.xyk (.sell [2] 1 0 10000 1 true)), .extrinsic (.sell [2] 1 0 50000 1 true),
    .extrinsic (.buy [3] 1 0 20000 50000 true), .finalize, .nextBlock,
    .extrinsic (.xyk (.removeLiquidity [1] 1 0 100000))].foldlM
      (Action.dispatch Dev.cfg) discountedHolders

theorem supply_changes_by_effects_discountedBlock :
    Succeeds discountedBlock fun s =>
      s.ledger.issuance 0 < discountedHolders.ledger.issuance 0 ∧
      ∃ effects, History Dev.cfg discountedHolders effects s ∧
        ∀ c, s.ledger.supply c + (effects.map (Effect.destroyed Dev.cfg c)).sum
          = discountedHolders.ledger.supply c + (effects.map (Effect.created c)).sum := by
  obtain ⟨s, hs, hburned⟩ : Succeeds discountedBlock fun s =>
      s.ledger.issuance 0 < discountedHolders.ledger.issuance 0 := by decide +kernel
  obtain ⟨⟨effects, h⟩, hall⟩ := supply_changes_by_effects Dev.cfg discountedHolders s
    (Dev.finiteHolders _) (Runs.of_foldlM (fun _ _ => trivial) hs)
  exact ⟨s, hs, hburned, effects, h, (hall effects h).1⟩

end HydraDX
