import HydraDX.XYK.Calls

set_option autoImplicit false

/-! # What a call does to the reserves of a pool

A call of the pallet concerns the pool of one pair. It leaves every other pool account alone
(`Call.untouched`), and the lemmas after it give the two reserves of its own pool, for a
caller other than the pool account and a pool of two different assets. -/

namespace HydraDX.XYK

variable {AccountId Hash : Type} [DecidableEq AccountId] {cfg : Config AccountId Hash}
  {s s' : State AccountId Hash} {who account : AccountId}

/-- The pair whose pool the call is about. -/
def Call.assets : Call AccountId → AssetPair
  | createPool _ assetA assetB _ _ => ⟨assetA, assetB⟩
  | addLiquidity _ assetA assetB _ _ => ⟨assetA, assetB⟩
  | removeLiquidity _ assetA assetB _ => ⟨assetA, assetB⟩
  | sell _ assetIn assetOut _ _ _ => ⟨assetIn, assetOut⟩
  | buy _ assetOut assetIn _ _ _ => ⟨assetIn, assetOut⟩

/-! ## Other pools -/

/-- The pool of the account is as before: its free balances and its entries in the storage. -/
structure Untouched (account : AccountId) (s s' : State AccountId Hash) : Prop where
  free : ∀ asset, s'.ledger.free asset account = s.ledger.free asset account
  shareToken : s'.shareToken account = s.shareToken account
  totalLiquidity : s'.totalLiquidity account = s.totalLiquidity account

/-- Two payments to or from other accounts. -/
theorem move_move_free_of_ne {l : Ledger AssetId AccountId} {c c' : AssetId}
    {source dest source' dest' : AccountId} {x y : Nat} (hs : account ≠ source)
    (hd : account ≠ dest) (hs' : account ≠ source') (hd' : account ≠ dest') (asset : AssetId) :
    ((l.move c source dest x).move c' source' dest' y).free asset account
      = l.free asset account := by
  rw [Ledger.move_free_of_ne (Or.inr ⟨hs', hd'⟩), Ledger.move_free_of_ne (Or.inr ⟨hs, hd⟩)]

/-- A call leaves alone every account that is neither its caller nor the account of its
pool. -/
theorem Call.untouched {call : Call AccountId} (h : call.dispatch cfg s = .ok s')
    (hwho : account ≠ call.who) (hpool : account ≠ getPairId cfg call.assets) :
    Untouched account s s' := by
  cases call with
  | createPool who a b amount price =>
      obtain ⟨_, _, _, hc⟩ := createPool_ok h
      rw [hc.state_eq]
      refine ⟨fun asset => ?_, Function.update_of_ne hpool _ _, Function.update_of_ne hpool _ _⟩
      exact (Ledger.mint_free_of_ne (Or.inr hwho)).trans
        (move_move_free_of_ne hwho hpool hwho hpool asset)
  | addLiquidity who a b amount limit =>
      obtain ⟨_, _, hc⟩ := addLiquidity_ok h
      rw [hc.state_eq]
      refine ⟨fun asset => ?_, rfl, Function.update_of_ne hpool _ _⟩
      exact (Ledger.mint_free_of_ne (Or.inr hwho)).trans
        (move_move_free_of_ne hwho hpool hwho hpool asset)
  | removeLiquidity who a b amount =>
      obtain ⟨_, _, hc⟩ := removeLiquidity_ok h
      refine ⟨fun asset => ?_, ?_, ?_⟩
      · rw [hc.ledger_eq]
        exact (Ledger.burn_free_of_ne (Or.inr hwho)).trans
          (move_move_free_of_ne hpool hwho hpool hwho asset)
      · rw [hc.shareToken_eq]
        split_ifs
        · exact Function.update_of_ne hpool _ _
        · rfl
      · rw [hc.total_eq]
        exact Function.update_of_ne hpool _ _
  | sell who a b amount limit discount =>
      obtain ⟨_, t, hv, rfl⟩ := sell_ok h
      rw [hv.transfer_eq]
      refine ⟨fun asset => ?_, rfl, rfl⟩
      exact (move_move_free_of_ne hwho hpool hpool hwho asset).trans
        (burnDiscount_free_of_ne (Or.inr hwho))
  | buy who a b amount limit discount =>
      obtain ⟨_, _, t, hv, rfl⟩ := buy_ok h
      rw [hv.transfer_eq]
      refine ⟨fun asset => ?_, rfl, rfl⟩
      exact (move_move_free_of_ne hpool hwho hwho hpool asset).trans
        (burnDiscount_free_of_ne (Or.inr hwho))

/-! ## The pool of the call -/

section Own

variable {assets : AssetPair} {assetA assetB : AssetId} {t : AMMTransfer AccountId}
  {amount limit price fee : Nat} {discount : Bool}

/-- Paying both assets in, for newly minted shares. -/
theorem fund_reserves (l : Ledger AssetId AccountId) (token : AssetId)
    (amountA amountB shares : Nat) (hne : assetA ≠ assetB) (hwho : who ≠ account) :
    (((l.move assetA who account amountA).move assetB who account amountB).mint token who
        shares).free assetA account = l.free assetA account + amountA ∧
    (((l.move assetA who account amountA).move assetB who account amountB).mint token who
        shares).free assetB account = l.free assetB account + amountB := by
  rw [Ledger.mint_free_of_ne (Or.inr hwho.symm), Ledger.mint_free_of_ne (Or.inr hwho.symm)]
  constructor
  · rw [Ledger.move_free_of_ne (Or.inl hne), Ledger.move_free_dest hwho]
  · rw [Ledger.move_free_dest hwho, Ledger.move_free_of_ne (Or.inl hne.symm)]

/-- Paying both assets out, for shares that are burned. -/
theorem drain_reserves (l : Ledger AssetId AccountId) (token : AssetId)
    (amountA amountB shares : Nat) (hne : assetA ≠ assetB) (hwho : who ≠ account) :
    (((l.move assetA account who amountA).move assetB account who amountB).burn token who
        shares).free assetA account = l.free assetA account - amountA ∧
    (((l.move assetA account who amountA).move assetB account who amountB).burn token who
        shares).free assetB account = l.free assetB account - amountB := by
  rw [Ledger.burn_free_of_ne (Or.inr hwho.symm), Ledger.burn_free_of_ne (Or.inr hwho.symm)]
  constructor
  · rw [Ledger.move_free_of_ne (Or.inl hne), Ledger.move_free_source hwho.symm]
  · rw [Ledger.move_free_source hwho.symm, Ledger.move_free_of_ne (Or.inl hne.symm)]

/-- What a trade destroys of the asset `c` as a discounted fee. -/
def burned (cfg : Config AccountId Hash) (t : AMMTransfer AccountId) (c : AssetId) : Nat :=
  if c = cfg.nativeAssetId then t.discountAmount else 0

theorem burnDiscount_free {l : Ledger AssetId AccountId}
    (hd : t.discount = false → t.discountAmount = 0) (c : AssetId) :
    (burnDiscount cfg t l).free c t.origin = l.free c t.origin - burned cfg t c := by
  unfold burnDiscount burned
  by_cases hb : t.discount = true ∧ t.discountAmount > 0
  · rw [if_pos hb, Ledger.burn_free_self]
  · rw [if_neg hb]
    have hzero : t.discountAmount = 0 := by
      by_cases hdisc : t.discount = true
      · by_contra hne
        exact hb ⟨hdisc, Nat.pos_of_ne_zero hne⟩
      · exact hd (by simpa using hdisc)
    rw [hzero, ite_self, Nat.sub_zero]

/-- A trade of the pool account with itself exchanges nothing. -/
theorem soldLedger_self {l : Ledger AssetId AccountId}
    (hwho : t.origin = getPairId cfg t.assets) :
    soldLedger cfg t l = burnDiscount cfg t l := by
  unfold soldLedger
  rw [← hwho, Ledger.move_self, Ledger.move_self]

theorem boughtLedger_self {l : Ledger AssetId AccountId}
    (hwho : t.origin = getPairId cfg t.assets) :
    boughtLedger cfg t l = burnDiscount cfg t l := by
  unfold boughtLedger
  rw [← hwho, Ledger.move_self, Ledger.move_self]

/-- A sell by another account pays the sold amount in and the bought amount out. -/
theorem soldLedger_reserves {l : Ledger AssetId AccountId}
    (hne : t.assets.assetIn ≠ t.assets.assetOut) (hwho : t.origin ≠ getPairId cfg t.assets) :
    (soldLedger cfg t l).free t.assets.assetIn (getPairId cfg t.assets)
        = l.free t.assets.assetIn (getPairId cfg t.assets) + t.amount ∧
    (soldLedger cfg t l).free t.assets.assetOut (getPairId cfg t.assets)
        = l.free t.assets.assetOut (getPairId cfg t.assets) - t.amountOut := by
  unfold soldLedger
  constructor
  · rw [Ledger.move_free_of_ne (Or.inl hne), Ledger.move_free_dest hwho,
      burnDiscount_free_of_ne (Or.inr hwho.symm)]
  · rw [Ledger.move_free_source hwho.symm, Ledger.move_free_of_ne (Or.inl hne.symm),
      burnDiscount_free_of_ne (Or.inr hwho.symm)]

/-- A buy by another account pays the price with fee in and the bought amount out. -/
theorem boughtLedger_reserves {l : Ledger AssetId AccountId}
    (hne : t.assets.assetIn ≠ t.assets.assetOut) (hwho : t.origin ≠ getPairId cfg t.assets) :
    (boughtLedger cfg t l).free t.assets.assetIn (getPairId cfg t.assets)
        = l.free t.assets.assetIn (getPairId cfg t.assets) + t.amountOut ∧
    (boughtLedger cfg t l).free t.assets.assetOut (getPairId cfg t.assets)
        = l.free t.assets.assetOut (getPairId cfg t.assets) - t.amount := by
  unfold boughtLedger
  constructor
  · rw [Ledger.move_free_dest hwho, Ledger.move_free_of_ne (Or.inl hne),
      burnDiscount_free_of_ne (Or.inr hwho.symm)]
  · rw [Ledger.move_free_of_ne (Or.inl hne.symm), Ledger.move_free_source hwho.symm,
      burnDiscount_free_of_ne (Or.inr hwho.symm)]

theorem SellValid.reserves (hv : SellValid cfg s who assets amount limit discount fee t)
    (hne : assets.assetIn ≠ assets.assetOut) (hwho : who ≠ getPairId cfg assets) :
    (soldLedger cfg t s.ledger).free assets.assetIn (getPairId cfg assets)
        = reserveOf cfg s assets assets.assetIn + amount ∧
    (soldLedger cfg t s.ledger).free assets.assetOut (getPairId cfg assets)
        = reserveOf cfg s assets assets.assetOut - t.amountOut := by
  obtain ⟨rfl, rfl, rfl, rfl⟩ := transfer_arguments hv.transfer_eq
  exact soldLedger_reserves hne hwho

theorem BuyValid.reserves (hv : BuyValid cfg s who assets amount limit discount price fee t)
    (hne : assets.assetIn ≠ assets.assetOut) (hwho : who ≠ getPairId cfg assets) :
    (boughtLedger cfg t s.ledger).free assets.assetIn (getPairId cfg assets)
        = reserveOf cfg s assets assets.assetIn + (price + fee) ∧
    (boughtLedger cfg t s.ledger).free assets.assetOut (getPairId cfg assets)
        = reserveOf cfg s assets assets.assetOut - amount := by
  obtain ⟨rfl, rfl, rfl, rfl⟩ := transfer_arguments hv.transfer_eq
  rw [← hv.amountOut_eq]
  exact boughtLedger_reserves hne hwho

end Own

end HydraDX.XYK
