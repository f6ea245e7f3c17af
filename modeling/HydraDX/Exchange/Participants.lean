import HydraDX.Exchange.Log
import HydraDX.Exchange.Registration

set_option autoImplicit false

/-! # Finalizing touches only participants

Direct trades take accounts and assets from two intentions, AMM trades from one. `Reaches` lists
the balances that an intention gives access to; a call that finalizing makes changes no balance
outside of what the intentions it is about reach, and so does the block. -/

namespace HydraDX.Exchange

variable {AccountId Hash : Type} [DecidableEq AccountId] {cfg : Config AccountId Hash}
  {s s' : State AccountId Hash} {T : AssetId → AccountId → Prop}
  {pairAccount : AccountId} {i j copy copy' matched : Intention AccountId Hash}

/-- The balances that resolving the intention can change: its account has the two assets, and
the native one for the discount; the account of the pair has the two assets. -/
def Reaches (cfg : Config AccountId Hash) (i : Intention AccountId Hash) (asset : AssetId)
    (w : AccountId) : Prop :=
  (w = i.who ∧ (asset = i.assets.assetIn ∨ asset = i.assets.assetOut ∨
    (i.discount = true ∧ asset = cfg.nativeAssetId))) ∨
  (w = XYK.getPairId cfg i.assets ∧ (asset = i.assets.assetIn ∨ asset = i.assets.assetOut))

/-- `T` has all that the intention reaches. -/
def Covers (cfg : Config AccountId Hash) (T : AssetId → AccountId → Prop)
    (i : Intention AccountId Hash) : Prop :=
  ∀ asset w, Reaches cfg i asset w → T asset w

theorem Covers.assetIn (h : Covers cfg T i) : T i.assets.assetIn i.who :=
  h _ _ (Or.inl ⟨rfl, Or.inl rfl⟩)

theorem Covers.assetOut (h : Covers cfg T i) : T i.assets.assetOut i.who :=
  h _ _ (Or.inl ⟨rfl, Or.inr (Or.inl rfl)⟩)

theorem Covers.native (h : Covers cfg T i) (hd : i.discount = true) : T cfg.nativeAssetId i.who :=
  h _ _ (Or.inl ⟨rfl, Or.inr (Or.inr ⟨hd, rfl⟩)⟩)

theorem Covers.poolIn (h : Covers cfg T i) : T i.assets.assetIn (XYK.getPairId cfg i.assets) :=
  h _ _ (Or.inr ⟨rfl, Or.inl rfl⟩)

theorem Covers.poolOut (h : Covers cfg T i) : T i.assets.assetOut (XYK.getPairId cfg i.assets) :=
  h _ _ (Or.inr ⟨rfl, Or.inr rfl⟩)

theorem Covers.of_copy (h : Covers cfg T i) (hcopy : CopyOf i copy) : Covers cfg T copy := by
  intro asset w hw
  rw [Reaches, hcopy.who, hcopy.assets, hcopy.discount] at hw
  exact h asset w hw

/-! ## AMM trades -/

/-- The trade is made for the account of the intention, with its assets and its discount. -/
structure TradesFor (i : Intention AccountId Hash) (t : AMMTransfer AccountId) : Prop where
  origin : t.origin = i.who
  assets : t.assets = i.assets
  discount : t.discount = i.discount

theorem validateSell_transfer {who : AccountId} {assets : AssetPair} {amount limit : Nat}
    {discount : Bool} {t : AMMTransfer AccountId}
    (h : XYK.validateSell cfg s who assets amount limit discount = .ok t) :
    t.origin = who ∧ t.assets = assets ∧ t.discount = discount := by
  obtain ⟨fee, hv⟩ := XYK.validateSell_ok h
  rw [hv.transfer_eq]
  exact ⟨rfl, rfl, rfl⟩

theorem validateBuy_transfer {who : AccountId} {assets : AssetPair} {amount limit : Nat}
    {discount : Bool} {t : AMMTransfer AccountId}
    (h : XYK.validateBuy cfg s who assets amount limit discount = .ok t) :
    t.origin = who ∧ t.assets = assets ∧ t.discount = discount := by
  obtain ⟨price, fee, hv⟩ := XYK.validateBuy_ok h
  rw [hv.transfer_eq]
  exact ⟨rfl, rfl, rfl⟩

theorem validateRest_tradesFor {restIn restOut restLimit : Nat} {t : AMMTransfer AccountId}
    (h : validateRest cfg matched restIn restOut restLimit s = .ok t) : TradesFor matched t := by
  unfold validateRest at h
  cases hb : matched.sellOrBuy with
  | SELL =>
      rw [hb] at h
      obtain ⟨h₁, h₂, h₃⟩ := validateSell_transfer h
      exact ⟨h₁, h₂, h₃⟩
  | BUY =>
      rw [hb] at h
      obtain ⟨h₁, h₂, h₃⟩ := validateBuy_transfer h
      exact ⟨h₁, h₂, h₃⟩

theorem validateIntention_tradesFor {t : AMMTransfer AccountId}
    (h : validateIntention cfg i s = .ok t) : TradesFor i t :=
  validateRest_tradesFor (validateIntention_eq i s ▸ h)

theorem burnDiscount_sameOutside {t : AMMTransfer AccountId} (ht : TradesFor i t)
    (hi : Covers cfg T i) (l : Ledger AssetId AccountId) :
    Ledger.SameOutside T l (XYK.burnDiscount cfg t l) := by
  unfold XYK.burnDiscount
  split_ifs with hd
  · refine .burn l _ ?_
    rw [ht.origin]
    exact hi.native (ht.discount.symm.trans hd.1)
  · exact .refl l

theorem tradedLedger_sameOutside {t : AMMTransfer AccountId} (ht : TradesFor i t)
    (hi : Covers cfg T i) (intentionType : IntentionType) (l : Ledger AssetId AccountId) :
    Ledger.SameOutside T l (tradedLedger cfg intentionType t l) := by
  have hburn := burnDiscount_sameOutside ht hi l
  cases intentionType with
  | SELL =>
      unfold tradedLedger XYK.soldLedger
      rw [ht.origin, ht.assets]
      exact (hburn.trans (.move _ _ hi.assetIn hi.poolIn)).trans (.move _ _ hi.poolOut hi.assetOut)
  | BUY =>
      unfold tradedLedger XYK.boughtLedger
      rw [ht.origin, ht.assets]
      exact (hburn.trans (.move _ _ hi.poolOut hi.assetOut)).trans (.move _ _ hi.assetIn hi.poolIn)

theorem resolveSingleIntention_sameOutside (hi : Covers cfg T i) (s : State AccountId Hash) :
    Ledger.SameOutside T s.ledger (resolveSingleIntention cfg i s).ledger := by
  rcases resolveSingleIntention_cases cfg i s with ⟨error, h⟩ | ⟨t, hv, h⟩
  · rw [h]
    exact .refl _
  · rw [h]
    exact tradedLedger_sameOutside (validateIntention_tradesFor hv) hi _ _

/-! ## Direct trades -/

/-- The transfer is between balances of `T`. -/
def Inside (T : AssetId → AccountId → Prop) (t : Transfer AccountId) : Prop :=
  T t.asset t.source ∧ T t.asset t.dest

namespace DirectTradeData

variable {dt dt' : DirectTradeData AccountId Hash} {feeA feeB : FeePayment AccountId} {ok : Bool}

theorem reserveIfCan_sameOutside {asset : AssetId} {who : AccountId} {amount : Nat}
    (hT : T asset who) (h : reserveIfCan cfg asset who amount s = some s') :
    Ledger.SameOutside T s.ledger s'.ledger := by
  obtain ⟨-, rfl⟩ := reserveIfCan_eq_some h
  exact .hold _ _ hT

/-- Preparing a trade whose four transfers are inside. -/
theorem prepare_sameOutside (hdt : dt.transfers = [])
    (hT : ∀ feeA feeB, ∀ t ∈ dt.preparedTransfers pairAccount feeA feeB, Inside T t)
    (h : dt.prepare cfg pairAccount s = (ok, dt', s')) :
    Ledger.SameOutside T s.ledger s'.ledger ∧ ∀ t ∈ dt'.transfers, Inside T t := by
  have hinside : ∀ t, dt.IsTransfer pairAccount t → Inside T t := by
    rintro t ⟨feeA, feeB, ht⟩
    exact hT feeA feeB t ht
  obtain ⟨hsame, hts⟩ := prepare_rel (R := fun s s' => Ledger.SameOutside T s.ledger s'.ledger)
    (fun s => .refl s.ledger) (fun _ _ _ => .trans) (fun _ _ s => .refl s.ledger)
    (fun t ht s s' hr => reserveIfCan_sameOutside (hinside t ht).1 hr) hdt h
  exact ⟨hsame, fun t ht => hinside t (hts t ht)⟩

theorem execute_sameOutside (hts : ∀ t ∈ dt.transfers, Inside T t)
    (h : dt.execute cfg s = .ok s') : Ledger.SameOutside T s.ledger s'.ledger := by
  refine (Fallible.foldlM_induction (f := executeTransfer cfg dt)
    (s := dt.sendDirectTradeResolveEvent s)
    (I := fun u ts => (∀ t ∈ ts, Inside T t) ∧ Ledger.SameOutside T s.ledger u.ledger)
    (fun u t ts u' hu hstep => ?_) ⟨hts, .refl _⟩ h).2
  obtain ⟨hin, hsame⟩ := hu
  have ht := hin t List.mem_cons_self
  refine ⟨fun t' ht' => hin t' (List.mem_cons_of_mem t ht'), hsame.trans ?_⟩
  rw [(executeTransfer_ok hstep).1]
  exact .repatriate _ _ ht.1 ht.2

theorem revert_sameOutside (hts : ∀ t ∈ dt.transfers, Inside T t) (s : State AccountId Hash) :
    Ledger.SameOutside T s.ledger (dt.revert cfg s).ledger := by
  unfold revert
  revert hts
  generalize dt.transfers = ts
  intro hts
  induction ts generalizing s with
  | nil => exact .refl _
  | cons t ts ih =>
      rw [List.foldl_cons]
      refine Ledger.SameOutside.trans ?_ (ih _ fun t' ht' => hts t' (List.mem_cons_of_mem t ht'))
      rw [State.setLedger_ledger, cfg.currency.unreserve_eq]
      exact .release _ _ (hts t List.mem_cons_self).1

omit [DecidableEq AccountId] in
/-- A side pays its fee in one of its two assets. -/
theorem feePayments_assets (dt : DirectTradeData AccountId Hash) (feeA feeB : Nat) :
    ((dt.feePayments feeA feeB).1.who = dt.intentionA.who ∧
      ((dt.feePayments feeA feeB).1.asset = dt.intentionA.assets.assetIn ∨
        (dt.feePayments feeA feeB).1.asset = dt.intentionA.assets.assetOut)) ∧
    ((dt.feePayments feeA feeB).2.who = dt.intentionB.who ∧
      ((dt.feePayments feeA feeB).2.asset = dt.intentionB.assets.assetIn ∨
        (dt.feePayments feeA feeB).2.asset = dt.intentionB.assets.assetOut)) := by
  cases hA : dt.intentionA.sellOrBuy with
  | SELL =>
      cases hB : dt.intentionB.sellOrBuy with
      | SELL => simp [feePayments, hA, hB]
      | BUY => simp [feePayments, hA, hB]
  | BUY =>
      cases hB : dt.intentionB.sellOrBuy with
      | SELL => simp [feePayments, hA, hB]
      | BUY => simp [feePayments, hA, hB]

end DirectTradeData

theorem Covers.feeTransfer (hi : Covers cfg T i) {fee : FeePayment AccountId}
    (hwho : fee.who = i.who)
    (hasset : fee.asset = i.assets.assetIn ∨ fee.asset = i.assets.assetOut) :
    Inside T (DirectTradeData.feeTransfer (XYK.getPairId cfg i.assets) fee) := by
  unfold DirectTradeData.feeTransfer Inside
  rw [hwho]
  rcases hasset with h | h
  · rw [h]
    exact ⟨hi.assetIn, hi.poolIn⟩
  · rw [h]
    exact ⟨hi.assetOut, hi.poolOut⟩

/-- The transfers between two intentions of opposite directions are inside what both reach. -/
theorem preparedTransfers_inside {a b : Intention AccountId Hash} (ha : Covers cfg T a)
    (hb : Covers cfg T b) (hassets : b.assets = ⟨a.assets.assetOut, a.assets.assetIn⟩)
    (fromA fromB feeA feeB : Nat) :
    ∀ t ∈ (directTrade a b fromA fromB).preparedTransfers (XYK.getPairId cfg a.assets) feeA feeB,
      Inside T t := by
  have hin : T a.assets.assetIn b.who := by
    have h := hb.assetOut
    rwa [hassets] at h
  have hout : T a.assets.assetOut b.who := by
    have h := hb.assetIn
    rwa [hassets] at h
  intro t ht
  simp only [DirectTradeData.preparedTransfers, List.mem_cons, List.not_mem_nil, or_false] at ht
  rcases ht with rfl | rfl | rfl | rfl
  · exact ⟨ha.assetIn, hin⟩
  · exact ⟨hout, ha.assetOut⟩
  · obtain ⟨⟨hwho, hasset⟩, -⟩ :=
      DirectTradeData.feePayments_assets (directTrade a b fromA fromB) feeA feeB
    exact ha.feeTransfer hwho hasset
  · obtain ⟨-, hwho, hasset⟩ :=
      DirectTradeData.feePayments_assets (directTrade a b fromA fromB) feeA feeB
    -- the pool account is that of both directions
    have hpool : XYK.getPairId cfg a.assets = XYK.getPairId cfg b.assets := by
      rw [hassets]
      exact (XYK.getPairId_swap a.assets).symm
    rw [hpool]
    exact hb.feeTransfer hwho hasset

/-! ## The calls of a block -/

theorem resolveMatched_sameOutside (hi : Covers cfg T i) (hm : Covers cfg T matched)
    (hassets : matched.assets = ⟨i.assets.assetOut, i.assets.assetIn⟩) (hcopy : CopyOf i copy)
    (h : resolveMatched cfg (XYK.getPairId cfg i.assets) i (s, copy) matched = .ok (s', copy')) :
    Ledger.SameOutside T s.ledger s'.ledger ∧ CopyOf i copy' := by
  -- what is reserved, and paid out or released, is between the two accounts and the pool
  have hinside : ∀ fromA fromB feeA feeB,
      ∀ t ∈ (directTrade copy matched fromA fromB).preparedTransfers (XYK.getPairId cfg i.assets)
        feeA feeB, Inside T t := by
    rw [← hcopy.assets]
    exact preparedTransfers_inside (hi.of_copy hcopy) hm (by rw [hcopy.assets, hassets])
  cases resolveMatched_ok h with
  | refused failed error hnone => exact ⟨.refl _, hcopy⟩
  | unreserved scenario fromA fromB dt s₁ hprep hp =>
      obtain ⟨hs₁, hts⟩ := DirectTradeData.prepare_sameOutside rfl (hinside fromA fromB) hp
      exact ⟨hs₁.trans (DirectTradeData.revert_sameOutside hts s₁), hcopy⟩
  | ammFailed scenario fromA fromB dt s₁ error hprep hp hamm =>
      obtain ⟨hs₁, hts⟩ := DirectTradeData.prepare_sameOutside rfl (hinside fromA fromB) hp
      exact ⟨hs₁.trans (DirectTradeData.revert_sameOutside hts
        (sendIntentionErrorEvent matched error s₁)), hcopy⟩
  | executed scenario fromA fromB dt s₁ s₂ _ _ hprep hp hamm hex hnext =>
      obtain ⟨hs₁, hts⟩ := DirectTradeData.prepare_sameOutside rfl (hinside fromA fromB) hp
      refine ⟨(hs₁.trans ?_).trans (DirectTradeData.execute_sameOutside hts hex), hcopy.next hnext⟩
      cases hprep with
      | complete _ _ => cases hamm; exact .refl _
      | exactMatch _ _ _ => cases hamm; exact .refl _
      | split t limitLeft _ _ hvalid _ _ =>
          rw [executeAmmTransfer_ok hamm]
          exact tradedLedger_sameOutside (validateRest_tradesFor hvalid) hm _ _

theorem resolveMatchedIntentions_sameOutside {bvec : List (Intention AccountId Hash)}
    (hi : Covers cfg T i) (hm : ∀ m ∈ bvec, Covers cfg T m)
    (hassets : ∀ m ∈ bvec, m.assets = ⟨i.assets.assetOut, i.assets.assetIn⟩)
    (h : resolveMatchedIntentions cfg (XYK.getPairId cfg i.assets) i bvec s = .ok s') :
    Ledger.SameOutside T s.ledger s'.ledger := by
  obtain ⟨⟨s₁, copy⟩, hloop, h⟩ := Fallible.bind_eq_ok.mp h
  obtain ⟨-, hs₁, hcopy⟩ := Fallible.foldlM_induction
    (I := fun sc ms =>
      (∀ m ∈ ms, Covers cfg T m ∧ m.assets = ⟨i.assets.assetOut, i.assets.assetIn⟩) ∧
      Ledger.SameOutside T s.ledger sc.1.ledger ∧ CopyOf i sc.2)
    (fun sc m ms sc' hI hstep => by
      obtain ⟨hms, hsame, hcopy⟩ := hI
      obtain ⟨hmT, hmA⟩ := hms m List.mem_cons_self
      obtain ⟨hsame', hcopy'⟩ := resolveMatched_sameOutside hi hmT hmA hcopy hstep
      exact ⟨fun m' hm' => hms m' (List.mem_cons_of_mem m hm'), hsame.trans hsame', hcopy'⟩)
    ⟨fun m hmem => ⟨hm m hmem, hassets m hmem⟩, .refl _, CopyOf.refl i⟩ hloop
  cases h
  split_ifs
  · exact hs₁.trans (resolveSingleIntention_sameOutside (hi.of_copy hcopy) s₁)
  · exact hs₁

/-- A call of the block stays inside what the intentions of the block reach. -/
theorem Work.run_sameOutside {t t' : State AccountId Hash} {w : Work AccountId Hash}
    (hown : ∀ key, ∀ i ∈ s.intentions key, i.assets = ⟨key.1, key.2⟩)
    (hT : ∀ key, ∀ i ∈ s.intentions key, Covers cfg T i) (hw : w.InBlock cfg s)
    (h : w.run cfg t = .ok t') : Ledger.SameOutside T t.ledger t'.ledger := by
  obtain ⟨key, -, hwithin⟩ := hw
  cases w with
  | verify i ok =>
      cases h
      unfold verifyIntention
      cases validateIntention cfg i t with
      | error error => exact .refl _
      | ok transfer => exact .refl _
  | matched account i bvec =>
      obtain ⟨rfl, hi, hbvec⟩ := hwithin
      have hassets := hown _ i hi
      -- finalizing takes the account of the ordered pair
      have hpool : XYK.getPairId cfg ⟨key.1, key.2⟩ = XYK.getPairId cfg i.assets := by
        rw [hassets]
        exact XYK.getPairId_swap ⟨key.2, key.1⟩
      rw [Work.run, hpool] at h
      refine resolveMatchedIntentions_sameOutside (hT _ i hi) (fun m hm => hT _ m (hbvec m hm))
        (fun m hm => ?_) h
      rw [hown _ m (hbvec m hm), hassets]
  | single i =>
      cases h
      exact resolveSingleIntention_sameOutside (hT _ i hwithin) t

/-- A block is finalized inside what its intentions reach. -/
theorem onFinalize_sameOutside (hown : ∀ key, ∀ i ∈ s.intentions key, i.assets = ⟨key.1, key.2⟩)
    (hT : ∀ key, ∀ i ∈ s.intentions key, Covers cfg T i) (h : onFinalize cfg s = .ok s') :
    Ledger.SameOutside T s.ledger s'.ledger := by
  obtain ⟨t, log, hlog, rfl⟩ := onFinalize_iff_log.mp h
  have hspec := finalizeLog_logs hlog
  refine (Fallible.foldlM_induction (f := Work.run cfg)
    (I := fun u works => (∀ w ∈ works, w.InBlock cfg s) ∧ Ledger.SameOutside T s.ledger u.ledger)
    (fun u w works u' hI hstep => ?_) ⟨hspec.kind, .refl _⟩ hspec.run).2
  obtain ⟨hkind, hsame⟩ := hI
  exact ⟨fun w' hw' => hkind w' (List.mem_cons_of_mem w hw'),
    hsame.trans (Work.run_sameOutside hown hT (hkind w List.mem_cons_self) hstep)⟩

/-- **Finalizing touches only participants.** An account without an intention in the block that
is not the account of a pair with one keeps all its balances. An account with intentions keeps its
balances of all assets but those of its intentions, the native one if one of them has a discount,
and the two assets of a pair whose account it is. The pools of the XYK pallet stay registered as
they are. -/
theorem finalize_touches_participants (cfg : Config AccountId Hash)
    (s₀ s s' : State AccountId Hash) (hstart : BlockStart s₀)
    (hrun : BlockRuns cfg (fun _ _ => True) s₀ s) (h : onFinalize cfg s = .ok s') :
    (∀ w, (∀ key, ∀ i ∈ s.intentions key, i.who ≠ w ∧ XYK.getPairId cfg i.assets ≠ w) →
      ∀ asset, s'.ledger.free asset w = s.ledger.free asset w ∧
        s'.ledger.reserved asset w = s.ledger.reserved asset w) ∧
    (∀ w asset, (∀ key, ∀ i ∈ s.intentions key,
        (i.who = w ∨ XYK.getPairId cfg i.assets = w →
          asset ≠ i.assets.assetIn ∧ asset ≠ i.assets.assetOut) ∧
        (i.who = w → asset = cfg.nativeAssetId → i.discount = false)) →
      s'.ledger.free asset w = s.ledger.free asset w ∧
        s'.ledger.reserved asset w = s.ledger.reserved asset w) ∧
    s'.shareToken = s.shareToken ∧ s'.poolAssets = s.poolAssets ∧
      s'.totalLiquidity = s.totalLiquidity := by
  have hsame := onFinalize_sameOutside (T := fun asset w => ∃ key, ∃ i ∈ s.intentions key,
      Reaches cfg i asset w) (own_of_blockRuns hstart hrun)
    (fun key i hi asset w hw => ⟨key, i, hi, hw⟩) h
  refine ⟨fun w hw asset => hsame asset w ?_, fun w asset hasset => hsame asset w ?_, ?_⟩
  · -- no intention reaches a balance of the account
    rintro ⟨key, i, hi, ⟨rfl, -⟩ | ⟨rfl, -⟩⟩
    · exact (hw key i hi).1 rfl
    · exact (hw key i hi).2 rfl
  · -- its own intentions, and those of the pair, are about other assets
    rintro ⟨key, i, hi, hreach⟩
    obtain ⟨hother, hnative⟩ := hasset key i hi
    rcases hreach with ⟨rfl, he | he | ⟨hd, he⟩⟩ | ⟨rfl, he | he⟩
    · exact (hother (Or.inl rfl)).1 he
    · exact (hother (Or.inl rfl)).2 he
    · rw [hnative rfl he] at hd
      cases hd
    · exact (hother (Or.inr rfl)).1 he
    · exact (hother (Or.inr rfl)).2 he
  · obtain ⟨t, hloop, h⟩ := Fallible.bind_eq_ok.mp h
    have hstorage : State.SameStorage s t := Fallible.foldlM_rel (f := finalizePair cfg)
      State.SameStorage.refl (fun _ _ _ => State.SameStorage.trans)
      (fun _ _ _ hp => finalizePair_storage hp) hloop
    cases h
    rw [hstorage]
    exact ⟨rfl, rfl, rfl⟩

/-! ## A pool account that trades -/

open Fallible

/-- The account of the pool of `1` and `2` sells asset `1` for asset `3`; `[2]` sells asset `1`
for asset `2`. -/
def tradingPoolCalls : List (Extrinsic Dev.AccountId) :=
  [.xyk (.createPool [1] 1 2 400000 (10 ^ 18)), .xyk (.createPool [1] 1 3 400000 (10 ^ 18)),
   .sell (XYK.getPairId Dev.cfg ⟨1, 2⟩) 1 3 2000 1 false, .sell [2] 1 2 2000 1 false]

def tradingPool : Except Failure (State Dev.AccountId Dev.Hash) :=
  Dev.after (Dev.genesis [(1, [1], 1000000), (2, [1], 1000000), (3, [1], 1000000),
    (1, [2], 10000)]) tradingPoolCalls

/-- Its one intention is about the assets `1` and `3`, and it pays asset `2` to `[2]`. -/
theorem pool_account_pays_other_asset :
    Succeeds tradingPool fun s => Succeeds (onFinalize Dev.cfg s) fun s' =>
      (∃ i ∈ s.intentions (1, 3), i.who = XYK.getPairId Dev.cfg ⟨1, 2⟩) ∧
      (∀ key, ∀ i ∈ s.intentions key, i.who = XYK.getPairId Dev.cfg ⟨1, 2⟩ →
        i.assets = ⟨1, 3⟩ ∧ i.discount = false) ∧
      s'.ledger.free 2 (XYK.getPairId Dev.cfg ⟨1, 2⟩)
        < s.ledger.free 2 (XYK.getPairId Dev.cfg ⟨1, 2⟩) := by
  have hok : Succeeds tradingPool fun s =>
      (Succeeds (onFinalize Dev.cfg s) fun s' =>
        (∃ i ∈ s.intentions (1, 3), i.who = XYK.getPairId Dev.cfg ⟨1, 2⟩) ∧
        s'.ledger.free 2 (XYK.getPairId Dev.cfg ⟨1, 2⟩)
          < s.ledger.free 2 (XYK.getPairId Dev.cfg ⟨1, 2⟩)) ∧
      (tradingPoolCalls.filterMap registersAt).all fun key => (s.intentions key).all fun i =>
        i.who = XYK.getPairId Dev.cfg ⟨1, 2⟩ → i.assets = ⟨1, 3⟩ ∧ i.discount = false := by
    decide +kernel
  obtain ⟨s, hs, ⟨s', hs', hsells, hless⟩, hall⟩ := hok
  refine ⟨s, hs, s', hs', hsells, fun key i hi => ?_, hless⟩
  by_cases hkey : key ∈ tradingPoolCalls.filterMap registersAt
  · exact of_decide_eq_true (List.all_eq_true.mp (List.all_eq_true.mp hall key hkey) i hi)
  · rw [intentions_eq_nil (Dev.blockStart _) hs hkey] at hi
    cases hi

/-! ## A block with a discount -/

/-- `[2]` sells asset `1` for asset `2`, with a discount; `[3]` sells some of asset `2` for
asset `1`, without one. Both hold the native asset `0`. -/
def opposedSellsCalls : List (Extrinsic Dev.AccountId) :=
  [.xyk (.createPool [1] 1 2 400000 (10 ^ 18)), .xyk (.createPool [1] 0 1 400000 (10 ^ 18)),
   .xyk (.createPool [1] 0 2 400000 (10 ^ 18)), .sell [2] 1 2 10000 9000 true,
   .sell [3] 2 1 2000 1 false]

def opposedSells : Except Failure (State Dev.AccountId Dev.Hash) :=
  Dev.after
    (Dev.genesis [(0, [1], 1000000), (1, [1], 1000000), (2, [1], 1000000), (0, [2], 10000),
      (1, [2], 20000), (2, [2], 100), (0, [3], 10000), (1, [3], 100), (2, [3], 10000),
      (1, [4], 10000)])
    opposedSellsCalls

theorem finalize_touches_participants_opposedSells :
    Succeeds opposedSells fun s => Succeeds (onFinalize Dev.cfg s) fun s' =>
      s'.ledger.free 0 [2] < s.ledger.free 0 [2] ∧ s'.ledger.free 1 [3] ≠ s.ledger.free 1 [3] ∧
      (∀ asset, s'.ledger.free asset [4] = s.ledger.free asset [4]) ∧
      s'.ledger.free 0 [3] = s.ledger.free 0 [3] := by
  obtain ⟨s, hs, ⟨s', hs', hnative, hother⟩, hall⟩ : Succeeds opposedSells fun s =>
      (Succeeds (onFinalize Dev.cfg s) fun s' => s'.ledger.free 0 [2] < s.ledger.free 0 [2] ∧
        s'.ledger.free 1 [3] ≠ s.ledger.free 1 [3]) ∧
      (opposedSellsCalls.filterMap registersAt).all fun key => (s.intentions key).all fun i =>
        i.who ≠ [4] ∧ (i.who = [3] → i.assets = ⟨2, 1⟩ ∧ i.discount = false) := by
    decide +kernel
  have hi : ∀ key, ∀ i ∈ s.intentions key,
      i.who ≠ [4] ∧ (i.who = [3] → i.assets = ⟨2, 1⟩ ∧ i.discount = false) := by
    intro key i hi
    by_cases hkey : key ∈ opposedSellsCalls.filterMap registersAt
    · exact of_decide_eq_true (List.all_eq_true.mp (List.all_eq_true.mp hall key hkey) i hi)
    · rw [intentions_eq_nil (Dev.blockStart _) hs hkey] at hi
      cases hi
  obtain ⟨hquiet, hown, -⟩ := finalize_touches_participants Dev.cfg _ s s' (Dev.blockStart _)
    (Runs.of_foldlM (fun _ _ => trivial) hs) hs'
  refine ⟨s, hs, s', hs', hnative, hother, fun asset => ?_, ?_⟩
  · exact (hquiet [4] (fun key i hmem => ⟨(hi key i hmem).1, (Dev.notPoolAccount 4 _ _).symm⟩)
      asset).1
  · refine (hown [3] 0 fun key i hmem => ⟨?_, fun hwho _ => ((hi key i hmem).2 hwho).2⟩).1
    rintro (hwho | hpool)
    · rw [((hi key i hmem).2 hwho).1]
      decide
    · exact absurd hpool.symm (Dev.notPoolAccount 3 _ _)

end HydraDX.Exchange
