import HydraDX.Conservation
import HydraDX.Lib.Rounding
import HydraDX.XYK.Shares

set_option autoImplicit false

/-! # Liquidity providers can leave

`removeLiquidity` has many exits. None of them is reachable for a holder of shares, in any
state that the chain and transfers between accounts lead to: as many shares are counted as were
issued, nobody holds more than was issued, a part of a reserve is not more than the reserve, and
what is paid out fits into a balance because the issuance does. What is left is what the
currency and the arithmetic are asked for, which `Unrestricted` and `ExactLiquidityOut` state. -/

namespace HydraDX.XYK

variable {AccountId Hash : Type} [DecidableEq AccountId] {cfg : Config AccountId Hash}
  {s s' : State AccountId Hash} {who : AccountId} {assetA assetB : AssetId}

/-- The currency has no locks and no existential deposit: a transfer goes through if the balance
covers it and the result fits, and so does a withdrawal. -/
structure Unrestricted (currency : Currency AccountId) : Prop where
  transfer : ∀ asset source dest amount l,
    (source ≠ dest → amount ≤ l.free asset source ∧ l.free asset dest + amount < balanceBound) →
      ∃ l', currency.transfer asset source dest amount l = .ok l'
  withdraw : ∀ asset who amount l, amount ≤ l.free asset who →
    ∃ l', currency.withdraw asset who amount l = .ok l'

/-- `calculate_liquidity_out` has no intermediate overflow. -/
def ExactLiquidityOut (math : HydraDxMath) : Prop :=
  ∀ aReserve bReserve amount total, total ≠ 0 → aReserve * amount / total < balanceBound →
    bReserve * amount / total < balanceBound →
      ∃ r, math.calculateLiquidityOut aReserve bReserve amount total = .ok r

/-! ## Runs with transfers -/

/-- What can happen on the chain, and transfers of any asset between any accounts. -/
inductive Move (AccountId : Type) where
  | chain (action : Action AccountId)
  | transfer (asset : AssetId) (source dest : AccountId) (amount : Nat)

def Move.dispatch (cfg : Config AccountId Hash) (s : State AccountId Hash) :
    Move AccountId → Except Exchange.Failure (State AccountId Hash)
  | chain action => action.dispatch cfg s
  | transfer asset source dest amount =>
      match cfg.currency.transfer asset source dest amount s.ledger with
      | .ok l => .ok (s.setLedger l)
      | .error error => .error (.dispatch (.currency error))

theorem Move.transfer_quiet {asset : AssetId} {source dest : AccountId} {amount : Nat}
    (h : (Move.transfer asset source dest amount).dispatch cfg s = .ok s') : Quiet cfg s s' := by
  rw [Move.dispatch] at h
  cases ht : cfg.currency.transfer asset source dest amount s.ledger with
  | error e => rw [ht] at h; cases h
  | ok l =>
      rw [ht] at h
      cases h
      exact ⟨rfl, rfl, rfl, rfl, Currency.transfer_moves ht⟩

/-- A move is quiet or manages a pool. -/
theorem Move.cases {move : Move AccountId} (h : move.dispatch cfg s = .ok s') :
    Quiet cfg s s' ∨
    ∃ call : Call AccountId, call.dispatch cfg s = .ok s' ∧
      ((∃ who a b amount price, call = .createPool who a b amount price) ∨
       (∃ who a b amount limit, call = .addLiquidity who a b amount limit) ∨
       (∃ who a b shares, call = .removeLiquidity who a b shares)) := by
  cases move with
  | chain action =>
      rcases Action.cases h with hq | ⟨who, a, b, amount, price, hc⟩ |
        ⟨who, a, b, amount, limit, hc⟩ | ⟨who, a, b, shares, hc⟩
      · exact Or.inl hq
      · exact Or.inr ⟨.createPool who a b amount price, hc, Or.inl ⟨_, _, _, _, _, rfl⟩⟩
      · exact Or.inr ⟨.addLiquidity who a b amount limit, hc, Or.inr (Or.inl ⟨_, _, _, _, _, rfl⟩)⟩
      · exact Or.inr ⟨.removeLiquidity who a b shares, hc, Or.inr (Or.inr ⟨_, _, _, _, rfl⟩)⟩
  | transfer asset source dest amount => exact Or.inl (Move.transfer_quiet h)

/-! ## The invariant -/

/-- Shares are accounted for, all balances are issued, the issuance of every asset is a
balance, and pools have two different assets. -/
structure Solvent (cfg : Config AccountId Hash) (s : State AccountId Hash) : Prop where
  accounts : Accounted cfg s ∨ Barren s
  backed : s.ledger.Backed
  fits : ∀ c, s.ledger.issuance c < balanceBound
  noSelfPool : NoSelfPool cfg s

theorem checkedMulInt_lt {price n r : Nat} (h : checkedMulInt price n = some r) :
    r < balanceBound := by
  unfold checkedMulInt at h
  split_ifs at h with hlt
  cases h
  exact hlt

omit [DecidableEq AccountId] in
theorem free_le_issuance {l : Ledger AssetId AccountId} (hl : l.Backed) (c : AssetId)
    (w : AccountId) : l.free c w ≤ l.issuance c := by
  have h := hl c {w}
  rw [Finset.sum_singleton, Ledger.total] at h
  omega

/-- The shares of a new pool fit into a balance. -/
theorem createPool_total_lt {amount price : Nat} (hs : Solvent cfg s)
    (h : createPool cfg who assetA assetB amount price s = .ok s') :
    s'.totalLiquidity (getPairId cfg ⟨assetA, assetB⟩) < balanceBound := by
  obtain ⟨amountB, token, registry, hc⟩ := createPool_ok h
  rw [hc.state_eq]
  simp only [Function.update_self]
  split_ifs
  · exact lt_of_le_of_lt (hc.balance.trans (free_le_issuance hs.backed _ _)) (hs.fits _)
  · exact checkedMulInt_lt hc.amountB_eq

/-- The shares of a pool fit after adding some: the addition is checked. -/
theorem addLiquidity_total_lt {amount limit : Nat}
    (h : addLiquidity cfg who assetA assetB amount limit s = .ok s') :
    s'.totalLiquidity (getPairId cfg ⟨assetA, assetB⟩) < balanceBound := by
  unfold addLiquidity at h
  simp only [↓Fallible.ensure_bind_eq_ok, Fallible.bind_eq_ok, okOr_eq_ok, mapErr_eq_ok,
    ofCurrency_eq_ok, checkedAdd_eq_some] at h
  obtain ⟨-, -, -, -, -, amountB, -, -, -, _, ⟨hlt, rfl⟩, -, l₁, -, l₂, -, l₃, -, h⟩ := h
  cases h
  simp only [Function.update_self]
  exact hlt

/-- Shares that were issued are counted, so the issuance fits if their number does. -/
theorem fits_of_issued {l : Ledger AssetId AccountId} {shares : Nat} {account : AccountId}
    (hfits : ∀ c, s.ledger.issuance c < balanceBound)
    (hmoves : Ledger.Moves (fun _ => False) (fun _ => False) s.ledger l)
    (hledger : s'.ledger = l.mint (shareTokenOf s' account) who shares)
    (htotal : s'.ledger.issuance (shareTokenOf s' account) = s'.totalLiquidity account)
    (hlt : s'.totalLiquidity account < balanceBound) (c : AssetId) :
    s'.ledger.issuance c < balanceBound := by
  by_cases hc : c = shareTokenOf s' account
  · rw [hc, htotal]
    exact hlt
  · rw [hledger, Ledger.mint_issuance, if_neg hc, hmoves.issuance (fun h => h) (fun h => h)]
    exact hfits c

/-- Where there is a pool, its shares are those issued. -/
theorem Solvent.issuance_eq (h : Accounted cfg s ∨ Barren s) {assets : AssetPair}
    (hpool : poolExists cfg s assets = true) :
    s.ledger.issuance (shareTokenOf s (getPairId cfg assets))
      = s.totalLiquidity (getPairId cfg assets) := by
  obtain ⟨token, htoken, hof⟩ := exists_shareToken hpool
  rcases h with h | h
  · rw [hof]
    exact ((h.pool assets).total htoken).symm
  · exact (h.no_pool hpool).elim

/-- **Every move keeps the invariant.** -/
theorem Solvent.move (hinj : SeedsInjective cfg) (hs : Solvent cfg s) {move : Move AccountId}
    (h : move.dispatch cfg s = .ok s') : Solvent cfg s' := by
  rcases Move.cases h with hq | ⟨call, hcall, hkind⟩
  · refine ⟨?_, hq.moves.backed hs.backed, fun c => ?_, fun asset => ?_⟩
    · exact hs.accounts.imp (fun h => h.quiet hq) (fun h => h.quiet hq)
    · exact lt_of_le_of_lt (hq.moves.issuance_le (fun hI => hI)) (hs.fits c)
    · rw [hq.shareToken]
      exact hs.noSelfPool asset
  · have hdispatch : (Action.extrinsic (.xyk call)).dispatch cfg s = .ok s' :=
      (Extrinsic.xyk_ok cfg).mpr hcall
    have haccounts := accounted_or_barren_action hinj hs.accounts hdispatch
    have hself := hs.noSelfPool.call hinj hcall
    rcases hkind with ⟨who, a, b, amount, price, rfl⟩ | ⟨who, a, b, amount, limit, rfl⟩ |
      ⟨who, a, b, shares, rfl⟩
    · -- as many shares are issued as the pool records, and that is a balance
      obtain ⟨l, hmoves, hledger⟩ := createPool_ledger hcall
      obtain ⟨_, _, _, hc⟩ := createPool_ok hcall
      have hpool : poolExists cfg s' ⟨a, b⟩ = true := by
        rw [poolExists, hc.state_eq]
        simp only [Function.update_self, Option.isSome_some]
      refine ⟨haccounts, ?_, fits_of_issued hs.fits hmoves hledger
        (Solvent.issuance_eq haccounts hpool) (createPool_total_lt hs hcall), hself⟩
      rw [hledger]
      exact (hmoves.backed hs.backed).mint
    · obtain ⟨l, hmoves, hledger⟩ := addLiquidity_ledger hcall
      obtain ⟨_, _, hc⟩ := addLiquidity_ok hcall
      have htoken : s'.shareToken = s.shareToken := by rw [hc.state_eq]
      have hof : ∀ account, shareTokenOf s' account = shareTokenOf s account := fun account => by
        rw [shareTokenOf, htoken, shareTokenOf]
      have hpool : poolExists cfg s' ⟨a, b⟩ = true := by
        rw [poolExists, htoken]
        exact hc.pool
      rw [← hof] at hledger
      refine ⟨haccounts, ?_, fits_of_issued hs.fits hmoves hledger
        (Solvent.issuance_eq haccounts hpool) (addLiquidity_total_lt hcall), hself⟩
      rw [hledger]
      exact (hmoves.backed hs.backed).mint
    · -- shares are destroyed, and nothing else
      obtain ⟨l, hmoves, hle, hledger⟩ := removeLiquidity_ledger hcall
      refine ⟨haccounts, ?_, fun c => ?_, hself⟩
      · rw [hledger]
        exact (hmoves.backed hs.backed).burn hle
      · rw [hledger, Ledger.burn_issuance, hmoves.issuance (fun h => h) (fun h => h),
          hmoves.issuance (fun h => h) (fun h => h)]
        split_ifs with hc
        · exact lt_of_le_of_lt (Nat.sub_le _ _) (hs.fits _)
        · exact hs.fits c

/-! ## Removing liquidity -/

/-- What an account is paid by another one fits, where both are backed by the issuance. -/
theorem receive_fits {l : Ledger AssetId AccountId} (hl : l.Backed)
    (hfits : ∀ c, l.issuance c < balanceBound) {c : AssetId} {source dest : AccountId} {x : Nat}
    (hne : source ≠ dest) (hx : x ≤ l.free c source) : l.free c dest + x < balanceBound := by
  have hpair := hl.pair_le c hne
  have hlt := hfits c
  simp only [Ledger.total] at hpair
  omega

/-- A payment to an account does not lower what it holds. -/
theorem le_move_free_dest (l : Ledger AssetId AccountId) (c c' : AssetId) (source dest : AccountId)
    (x : Nat) : l.free c' dest ≤ (l.move c source dest x).free c' dest := by
  by_cases hsd : source = dest
  · rw [hsd, Ledger.move_self]
  · by_cases hc : c' = c
    · rw [hc, Ledger.move_free_dest hsd]
      exact Nat.le_add_right _ _
    · rw [Ledger.move_free_of_ne (Or.inl hc)]

/-- **A holder of shares can redeem them**, where the invariant holds. -/
theorem Solvent.removeLiquidity_ok (hcurrency : Unrestricted cfg.currency)
    (hmath : ExactLiquidityOut cfg.math) (hs : Solvent cfg s) {shares : Nat}
    (hpool : poolExists cfg s ⟨assetA, assetB⟩ = true) (hpos : 0 < shares)
    (hle : shares ≤ s.ledger.free (shareTokenOf s (getPairId cfg ⟨assetA, assetB⟩)) who) :
    ∃ s', removeLiquidity cfg who assetA assetB shares s = .ok s' := by
  have hne : assetA ≠ assetB := hs.noSelfPool.ne hpool
  -- nobody holds more shares than are counted
  have htotal : shares ≤ s.totalLiquidity (getPairId cfg ⟨assetA, assetB⟩) := by
    rw [← Solvent.issuance_eq hs.accounts hpool]
    exact hle.trans (free_le_issuance hs.backed _ _)
  have hzero : s.totalLiquidity (getPairId cfg ⟨assetA, assetB⟩) ≠ 0 := by omega
  have hpart : ∀ asset, reserveOf cfg s ⟨assetA, assetB⟩ asset * shares
      / s.totalLiquidity (getPairId cfg ⟨assetA, assetB⟩)
        ≤ s.ledger.free asset (getPairId cfg ⟨assetA, assetB⟩) := fun asset =>
    Rounding.part_le htotal
  have hlt : ∀ asset, reserveOf cfg s ⟨assetA, assetB⟩ asset * shares
      / s.totalLiquidity (getPairId cfg ⟨assetA, assetB⟩) < balanceBound := fun asset =>
    lt_of_le_of_lt ((hpart asset).trans (free_le_issuance hs.backed _ _)) (hs.fits asset)
  obtain ⟨r, hr⟩ := hmath _ _ _ _ hzero (hlt assetA) (hlt assetB)
  obtain ⟨-, rfl⟩ := cfg.math.liquidityOut_ok hr
  -- the three operations on the ledger
  obtain ⟨l₁, h₁⟩ := hcurrency.transfer assetA (getPairId cfg ⟨assetA, assetB⟩) who _ s.ledger
    fun hsd => ⟨hpart assetA, receive_fits hs.backed hs.fits hsd (hpart assetA)⟩
  have hmoves₁ := Currency.transfer_moves (I := fun _ => False) (D := fun _ => False) h₁
  have hfits₁ : ∀ c, l₁.issuance c < balanceBound := fun c => by
    rw [hmoves₁.issuance (fun h => h) (fun h => h)]
    exact hs.fits c
  have hfree₁ : l₁.free assetB (getPairId cfg ⟨assetA, assetB⟩)
      = s.ledger.free assetB (getPairId cfg ⟨assetA, assetB⟩) := by
    rw [(cfg.currency.transfer_ok h₁).2, Ledger.move_free_of_ne (Or.inl hne.symm)]
  have hpart₁ := hpart assetB
  rw [← hfree₁] at hpart₁
  obtain ⟨l₂, h₂⟩ := hcurrency.transfer assetB (getPairId cfg ⟨assetA, assetB⟩) who _ l₁
    fun hsd => ⟨hpart₁, receive_fits (hmoves₁.backed hs.backed) hfits₁ hsd hpart₁⟩
  have hburn : shares ≤ l₂.free (shareTokenOf s (getPairId cfg ⟨assetA, assetB⟩)) who := by
    refine hle.trans ?_
    rw [(cfg.currency.transfer_ok h₂).2, (cfg.currency.transfer_ok h₁).2]
    exact (le_move_free_dest _ _ _ _ _ _).trans (le_move_free_dest _ _ _ _ _ _)
  obtain ⟨l₃, h₃⟩ := hcurrency.withdraw _ who shares l₂ hburn
  unfold removeLiquidity
  simp only [↓Fallible.ensure_bind_eq_ok, Fallible.bind_eq_ok, okOr_eq_ok, mapErr_eq_ok,
    ofCurrency_eq_ok, checkedSub_eq_some]
  exact ⟨_, by omega, hpool, htotal, hle, hzero, _, hr, hpart assetA, hpart assetB, _,
    ⟨htotal, rfl⟩, l₁, h₁, l₂, h₂, l₃, h₃, rfl⟩

/-- **Liquidity providers can always leave.** In every state that the calls of the two pallets,
the ends of blocks and transfers of tokens lead to from a first state, whoever holds shares of a
pool can redeem any number of them, with the two assets of the pool in either order. -/
theorem providers_can_leave (cfg : Config AccountId Hash) (hinj : SeedsInjective cfg)
    (hnative : cfg.nativeAssetId = CORE_ASSET_ID) (hcurrency : Unrestricted cfg.currency)
    (hmath : ExactLiquidityOut cfg.math) (s₀ s : State AccountId Hash) (h₀ : Fresh s₀)
    (hfits : ∀ c, s₀.ledger.issuance c < balanceBound)
    (run : Fallible.Runs (Move.dispatch cfg) (fun _ _ => True) s₀ s) (assetA assetB : AssetId)
    (hpool : poolExists cfg s ⟨assetA, assetB⟩ = true) (who : AccountId) (shares : Nat)
    (hpos : 0 < shares)
    (hle : shares ≤ s.ledger.free (shareTokenOf s (getPairId cfg ⟨assetA, assetB⟩)) who) :
    (∃ s', removeLiquidity cfg who assetA assetB shares s = .ok s') ∧
    ∃ s', removeLiquidity cfg who assetB assetA shares s = .ok s' := by
  have hs : Solvent cfg s :=
    run.invariant (fun _ _ _ ht _ h => ht.move hinj h)
      ⟨h₀.accounted_or_barren hnative, h₀.backed, hfits, h₀.noPools.noSelfPool⟩
  have hswap : getPairId cfg ⟨assetB, assetA⟩ = getPairId cfg ⟨assetA, assetB⟩ :=
    getPairId_swap ⟨assetA, assetB⟩
  refine ⟨hs.removeLiquidity_ok hcurrency hmath hpool hpos hle,
    hs.removeLiquidity_ok hcurrency hmath ?_ hpos ?_⟩
  · rw [poolExists, hswap]
    exact hpool
  · rw [hswap]
    exact hle

/-! ## Shares that changed hands -/

open Fallible

theorem tokens_unrestricted : Unrestricted (Currency.tokens : Currency AccountId) where
  transfer asset source dest amount l h := by
    refine ⟨l.move asset source dest amount, ?_⟩
    simp only [Currency.tokens, ensure_bind_eq_ok]
    exact ⟨fun hne => (h hne).1, fun hne => (h hne).2, rfl⟩
  withdraw asset who amount l h := by
    refine ⟨l.burn asset who amount, ?_⟩
    simp only [Currency.tokens, ensure_bind_eq_ok]
    exact ⟨h, rfl⟩

theorem exact_liquidityOut : ExactLiquidityOut HydraDxMath.exact := by
  intro aReserve bReserve amount total ht ha hb
  refine ⟨(aReserve * amount / total, bReserve * amount / total), ?_⟩
  simp only [HydraDxMath.exact, bind_eq_ok, fitBalance_eq_ok]
  exact ⟨(), ensure_eq_ok.mpr ht, _, ⟨ha, rfl⟩, _, ⟨hb, rfl⟩, rfl⟩

theorem genesis_fits {endowments : List (AssetId × Dev.AccountId × Nat)}
    (h : (endowments.map fun e => e.2.2).sum < balanceBound) (c : AssetId) :
    (Dev.genesis endowments).ledger.issuance c < balanceBound := by
  show ((endowments.filter _).map _).sum < balanceBound
  refine lt_of_le_of_lt ?_ h
  exact ((List.filter_sublist).map _).sum_le_sum fun _ _ => Nat.zero_le _

/-- The invariant holds on the development chain after any calls. -/
theorem solvent_after {endowments : List (AssetId × Dev.AccountId × Nat)}
    {calls : List (Extrinsic Dev.AccountId)} {s : State Dev.AccountId Dev.Hash}
    (hassets : ∀ e ∈ endowments, e.1 < 10)
    (hsum : (endowments.map fun e => e.2.2).sum < balanceBound)
    (h : Dev.after (Dev.genesis endowments) calls = .ok s) : Solvent Dev.cfg s := by
  have hfresh := fresh_genesis hassets
  have hfirst : Solvent Dev.cfg (Dev.genesis endowments) :=
    ⟨hfresh.accounted_or_barren rfl, hfresh.backed, genesis_fits hsum, hfresh.noPools.noSelfPool⟩
  have hrun : Fallible.Runs (Extrinsic.dispatch Dev.cfg) (fun _ _ => True)
      (Dev.genesis endowments) s := Runs.of_foldlM (fun _ _ => trivial) h
  refine hrun.invariant (fun t call t' ht _ hstep => ?_) hfirst
  have hmove : (Move.chain (.extrinsic call)).dispatch Dev.cfg t = .ok t' := hstep
  exact ht.move Dev.seedsInjective hmove

/-- A pool is created, and some of its shares are given to `[2]`. -/
def sharesGiven : Except Exchange.Failure (State Dev.AccountId Dev.Hash) :=
  [Move.chain (.extrinsic (.xyk (.createPool [1] 1 2 500000 (10 ^ 18)))),
    .transfer 10 [1] [2] 1000].foldlM (Move.dispatch Dev.cfg) twoHolders

theorem providers_can_leave_sharesGiven :
    Succeeds sharesGiven fun s =>
      (∃ s', removeLiquidity Dev.cfg [2] 1 2 1000 s = .ok s') ∧
      ∃ s', removeLiquidity Dev.cfg [2] 2 1 1000 s = .ok s' := by
  obtain ⟨s, hs, hpool, hle⟩ : Succeeds sharesGiven fun s =>
      poolExists Dev.cfg s ⟨1, 2⟩ = true ∧
      1000 ≤ s.ledger.free (shareTokenOf s (getPairId Dev.cfg ⟨1, 2⟩)) [2] := by decide +kernel
  exact ⟨s, hs, providers_can_leave Dev.cfg Dev.seedsInjective rfl tokens_unrestricted
    exact_liquidityOut twoHolders s fresh_twoHolders (genesis_fits (by decide))
    (Runs.of_foldlM (fun _ _ => trivial) hs) 1 2 hpool [2] 1000 (by decide) hle⟩

end HydraDX.XYK
