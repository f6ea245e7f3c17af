import HydraDX.Chain
import HydraDX.Exchange.LedgerMoves
import HydraDX.Exchange.Registration

set_option autoImplicit false

/-! # What an action does to the pools

Three calls manage pools: `create_pool`, `add_liquidity` and `remove_liquidity`. Everything
else that can happen on the chain is `Quiet`: trades, intentions and the end of a block leave
the storage of the pools and the registry as they are, and the ledger changes by trades. -/

namespace HydraDX

variable {AccountId Hash : Type} [DecidableEq AccountId] {cfg : Config AccountId Hash}
  {s s' s'' : State AccountId Hash}

/-- The pools are as before, and the ledger differs by the operations of trades. -/
structure Quiet (cfg : Config AccountId Hash) (s s' : State AccountId Hash) : Prop where
  registry : s'.registry = s.registry
  shareToken : s'.shareToken = s.shareToken
  poolAssets : s'.poolAssets = s.poolAssets
  totalLiquidity : s'.totalLiquidity = s.totalLiquidity
  moves : TradeMoves cfg s s'

theorem Quiet.of_storage (h : State.SameStorage s s') (hm : TradeMoves cfg s s') :
    Quiet cfg s s' := by
  refine ⟨?_, ?_, ?_, ?_, hm⟩
  all_goals rw [h]

theorem XYK.sell_quiet {who : AccountId} {assetIn assetOut : AssetId} {amount limit : Nat}
    {discount : Bool} (h : XYK.sell cfg who assetIn assetOut amount limit discount s = .ok s') :
    Quiet cfg s s' := by
  obtain ⟨t, -, hx⟩ := Fallible.bind_eq_ok.mp h
  have hm := XYK.executeSell_moves hx
  rw [XYK.executeSell_ok hx] at hm ⊢
  exact .of_storage rfl hm

theorem XYK.buy_quiet {who : AccountId} {assetOut assetIn : AssetId} {amount limit : Nat}
    {discount : Bool} (h : XYK.buy cfg who assetOut assetIn amount limit discount s = .ok s') :
    Quiet cfg s s' := by
  obtain ⟨t, -, hx⟩ := Fallible.bind_eq_ok.mp h
  have hm := XYK.executeBuy_moves hx
  rw [XYK.executeBuy_ok hx] at hm ⊢
  exact .of_storage rfl hm

namespace Exchange

theorem registerIntention_quiet {who : AccountId} {intentionType : IntentionType}
    {assets : AssetPair} {amountIn amountOut limit : Nat} {discount : Bool}
    (h : registerIntention cfg who intentionType assets amountIn amountOut limit discount s
      = .ok s') : Quiet cfg s s' := by
  obtain ⟨total, event, -, -, rfl⟩ := registerIntention_ok h
  exact ⟨rfl, rfl, rfl, rfl, .refl _⟩

theorem onFinalize_quiet (h : onFinalize cfg s = .ok s') : Quiet cfg s s' := by
  obtain ⟨trades, hsettles⟩ := onFinalize_settles h
  have hm := hsettles.moves
  obtain ⟨s₁, hloop, h⟩ := Fallible.bind_eq_ok.mp h
  cases h
  have hs₁ : State.SameStorage s s₁ :=
    Fallible.foldlM_rel (f := finalizePair cfg) (R := State.SameStorage) (fun s => .refl s)
      (fun _ _ _ => .trans) (fun _ _ _ hk => finalizePair_storage hk) hloop
  have hq : Quiet cfg s s₁ := .of_storage hs₁ hm
  exact ⟨hq.registry, hq.shareToken, hq.poolAssets, hq.totalLiquidity, hq.moves⟩

end Exchange

theorem Extrinsic.transfer_quiet {asset : AssetId} {source dest : AccountId} {amount : Nat}
    (h : (Extrinsic.transfer asset source dest amount).dispatch cfg s = .ok s') :
    Quiet cfg s s' := by
  obtain ⟨l, ht, rfl⟩ := (Extrinsic.transfer_ok cfg).mp h
  exact ⟨rfl, rfl, rfl, rfl, Currency.transfer_moves ht⟩

/-- **What can happen.** An action that succeeds is quiet or manages a pool. -/
theorem Action.cases {action : Action AccountId} (h : action.dispatch cfg s = .ok s') :
    Quiet cfg s s' ∨
    (∃ who a b amount price, XYK.createPool cfg who a b amount price s = .ok s') ∨
    (∃ who a b amount limit, XYK.addLiquidity cfg who a b amount limit s = .ok s') ∨
    (∃ who a b shares, XYK.removeLiquidity cfg who a b shares s = .ok s') := by
  cases action with
  | extrinsic e =>
      cases e with
      | xyk call =>
          have hcall := (Extrinsic.xyk_ok cfg).mp h
          cases call with
          | createPool who a b amount price => exact Or.inr (Or.inl ⟨_, _, _, _, _, hcall⟩)
          | addLiquidity who a b amount limit =>
              exact Or.inr (Or.inr (Or.inl ⟨_, _, _, _, _, hcall⟩))
          | removeLiquidity who a b shares => exact Or.inr (Or.inr (Or.inr ⟨_, _, _, _, hcall⟩))
          | sell who a b amount limit discount => exact Or.inl (XYK.sell_quiet hcall)
          | buy who a b amount limit discount => exact Or.inl (XYK.buy_quiet hcall)
      | sell who a b amount limit discount =>
          obtain ⟨_, -, -, -, hr⟩ := Exchange.sell_ok h
          exact Or.inl (Exchange.registerIntention_quiet hr)
      | buy who a b amount limit discount =>
          obtain ⟨_, -, -, -, hr⟩ := Exchange.buy_ok h
          exact Or.inl (Exchange.registerIntention_quiet hr)
      | transfer asset source dest amount => exact Or.inl (Extrinsic.transfer_quiet h)
  | finalize => exact Or.inl (Exchange.onFinalize_quiet ((Action.finalize_ok cfg).mp h))
  | nextBlock =>
      left
      cases h
      exact ⟨rfl, rfl, rfl, rfl, .refl _⟩

end HydraDX
