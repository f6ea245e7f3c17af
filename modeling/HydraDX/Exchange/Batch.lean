import HydraDX.Exchange.LedgerMoves
import HydraDX.Exchange.Order
import HydraDX.Lib.Histories

set_option autoImplicit false

/-! # A block without counterparties

Intentions that find no counterparty go to the AMM as they are. So a block in which every pair of
assets has intentions in one direction only is settled like a batch: the calls of the XYK pallet
that the intentions stand for, made one after the other, the largest of a pair first
(`onFinalize_eq_batch`). -/

namespace HydraDX.Exchange

open Histories

variable {AccountId Hash : Type} [DecidableEq AccountId] (cfg : Config AccountId Hash)

/-- The call of the XYK pallet that an intention stands for. -/
def poolCall (i : Intention AccountId Hash) : XYK.Call AccountId :=
  match i.sellOrBuy with
  | .SELL => .sell i.who i.assets.assetIn i.assets.assetOut i.amountIn i.tradeLimit i.discount
  | .BUY => .buy i.who i.assets.assetOut i.assets.assetIn i.amountOut i.tradeLimit i.discount

/-- The intentions of a pair, in the order in which they are processed where only one of the two
groups has any. -/
def queueOf (s : State AccountId Hash) (key : AssetId × AssetId) :
    List (Intention AccountId Hash) :=
  if (s.intentionCount.lookup key).getD 0 = 0 then []
  else sortByAmountIn (s.intentions (key.2, key.1)) ++ sortByAmountIn (s.intentions key)

/-- The calls that the intentions of a block stand for. -/
def batch (s : State AccountId Hash) : List (XYK.Call AccountId) :=
  ((cfg.iterOrder s.intentionCount.keys).flatMap (queueOf s)).map poolCall

/-- The calls made one after the other. One that fails changes nothing. -/
def runBatch (s : State AccountId Hash) (calls : List (XYK.Call AccountId)) :
    State AccountId Hash :=
  run (attempt (XYK.Call.dispatch cfg)) s calls

/-- Every pair of assets has intentions in one direction only. -/
def OneSided (s : State AccountId Hash) : Prop :=
  ∀ key ∈ s.intentionCount.keys, s.intentions (key.2, key.1) = [] ∨ s.intentions key = []

instance [DecidableEq Hash] (s : State AccountId Hash) : Decidable (OneSided s) :=
  List.decidableBAll
    (fun key : AssetId × AssetId => s.intentions (key.2, key.1) = [] ∨ s.intentions key = []) _

variable {cfg} {u s t s' : State AccountId Hash} {i : Intention AccountId Hash}
  {pairAccount : AccountId}

/-! ## One intention -/

omit [DecidableEq AccountId] in
/-- An event more on one side. -/
theorem Beside.depositEvent_left (h : Beside u u s t) (e : Event AccountId Hash) :
    Beside u u (s.depositEvent e) t :=
  ⟨h.left.trans rfl, h.right, h.ledger⟩

/-- The call of an intention validates it and executes the trade. -/
theorem dispatch_poolCall (i : Intention AccountId Hash) (t : State AccountId Hash) :
    XYK.Call.dispatch cfg t (poolCall i)
      = validateIntention cfg i t >>= fun transfer => executeTrade cfg (i.sellOrBuy, transfer) t := by
  unfold validateIntention poolCall
  cases i.sellOrBuy with
  | SELL => rfl
  | BUY => rfl

theorem validateIntention_congr (h : Beside u u s t) (i : Intention AccountId Hash) :
    validateIntention cfg i t = validateIntention cfg i s := by
  have htoken : t.shareToken = s.shareToken := by rw [h.left, h.right]
  unfold validateIntention
  rw [validateSell_congr h.ledger htoken, validateBuy_congr h.ledger htoken]

theorem executeTrade_beside (h : Beside u u s t) (intentionType : IntentionType)
    (transfer : AMMTransfer AccountId) :
    Fallible.Matches (Beside u u) (executeTrade cfg (intentionType, transfer) s)
      (executeTrade cfg (intentionType, transfer) t) := by
  cases intentionType with
  | SELL => exact executeSell_beside h transfer
  | BUY => exact executeBuy_beside h transfer

/-- **An intention resolved by itself** does to the ledger what its call does. -/
theorem resolveSingleIntention_beside_call (h : Beside u u s t) (i : Intention AccountId Hash) :
    Beside u u (resolveSingleIntention cfg i s)
      (attempt (XYK.Call.dispatch cfg) t (poolCall i)) := by
  have hcall : XYK.Call.dispatch cfg t (poolCall i) = _ := dispatch_poolCall i t
  rw [validateIntention_congr h] at hcall
  unfold resolveSingleIntention
  cases hv : validateIntention cfg i s with
  | error e =>
      rw [hv] at hcall
      rw [attempt_of_error hcall]
      exact h.depositEvent_left _
  | ok transfer =>
      rw [hv] at hcall
      -- the intention reports the trade, the call does not
      have hreport : executeAmmTransfer cfg i.sellOrBuy i.intentionId transfer s
          = executeTrade cfg (i.sellOrBuy, transfer) s >>= fun s => pure (s.depositEvent
              (.IntentionResolvedAMMTrade transfer.origin i.sellOrBuy i.intentionId transfer.amount
                transfer.amountOut)) := by
        cases i.sellOrBuy with
        | SELL => rfl
        | BUY => rfl
      simp only [hreport]
      rcases (executeTrade_beside h i.sellOrBuy transfer).cases with
        ⟨e, hs, ht⟩ | ⟨s₁, t₁, hs, ht, h'⟩
      · rw [attempt_of_error (hcall.trans ht), hs]
        exact h.depositEvent_left _
      · rw [attempt_of_ok (hcall.trans ht), hs]
        exact h'.depositEvent_left _

/-! ## One pair -/

/-- Several intentions, one after the other. -/
theorem foldl_resolveSingleIntention (h : Beside u u s t) (l : List (Intention AccountId Hash)) :
    Beside u u (l.foldl (fun s i => resolveSingleIntention cfg i s) s)
      (runBatch cfg t (l.map poolCall)) := by
  induction l generalizing s t with
  | nil => exact h
  | cons i l ih => exact ih (resolveSingleIntention_beside_call h i)

/-- A main intention that cannot be matched. One that is not valid would not be resolved. -/
theorem processMain_alone (h : Beside u u s t) (hpos : 0 < i.amountIn) :
    ∃ s', processMain cfg pairAccount (s, []) i = .ok (s', []) ∧
      Beside u u s' (attempt (XYK.Call.dispatch cfg) t (poolCall i)) := by
  unfold processMain verifyIntention
  cases hv : validateIntention cfg i s with
  | error e =>
      have hcall : XYK.Call.dispatch cfg t (poolCall i) = _ := dispatch_poolCall i t
      rw [validateIntention_congr h, hv] at hcall
      refine ⟨_, rfl, ?_⟩
      rw [attempt_of_error hcall]
      exact h.depositEvent_left _
  | ok transfer =>
      refine ⟨_, rfl, ?_⟩
      rw [if_pos hpos]
      exact resolveSingleIntention_beside_call h i

theorem foldlM_processMain_alone (h : Beside u u s t) (l : List (Intention AccountId Hash))
    (hpos : ∀ i ∈ l, 0 < i.amountIn) :
    ∃ s', l.foldlM (processMain cfg pairAccount) (s, []) = .ok (s', []) ∧
      Beside u u s' (runBatch cfg t (l.map poolCall)) := by
  induction l generalizing s t with
  | nil => exact ⟨s, rfl, h⟩
  | cons i l ih =>
      obtain ⟨s₁, hmain, h₁⟩ := processMain_alone h (hpos i List.mem_cons_self)
      obtain ⟨s', hrest, h'⟩ := ih h₁ fun j hj => hpos j (List.mem_cons_of_mem i hj)
      exact ⟨s', Fallible.foldlM_cons_eq_ok.mpr ⟨_, hmain, hrest⟩, h'⟩

/-- **A pair** with intentions in one direction. -/
theorem finalizePair_batch (h : Beside u u s t) {key : AssetId × AssetId}
    (hone : u.intentions (key.2, key.1) = [] ∨ u.intentions key = [])
    (hpos : ∀ key, ∀ i ∈ u.intentions key, 0 < i.amountIn) :
    ∃ s', finalizePair cfg s key = .ok s' ∧
      Beside u u s' (runBatch cfg t ((queueOf u key).map poolCall)) := by
  have hcount : s.intentionCount = u.intentionCount := by rw [h.left]
  have hintentions : s.intentions = u.intentions := by rw [h.left]
  unfold finalizePair queueOf
  rw [hcount, hintentions]
  split_ifs with hzero
  · exact ⟨s, rfl, h⟩
  · unfold processExchangeIntentions
    rcases hone with hnil | hnil
    · -- no main intention: the others are what is left of the stack
      rw [hnil]
      exact ⟨_, rfl, foldl_resolveSingleIntention h _⟩
    · rw [hnil]
      obtain ⟨s', hmains, h'⟩ := foldlM_processMain_alone h
        (sortByAmountIn (u.intentions (key.2, key.1)))
        fun i hi => hpos _ i ((sortByAmountIn_perm _).mem_iff.mp hi)
      refine ⟨s', ?_, ?_⟩
      · exact Fallible.bind_eq_ok.mpr ⟨_, hmains, rfl⟩
      · have hsort : sortByAmountIn ([] : List (Intention AccountId Hash)) = [] := rfl
        rw [hsort, List.append_nil]
        exact h'

/-! ## The block -/

theorem foldlM_finalizePair_batch (h : Beside u u s t) {keys : List (AssetId × AssetId)}
    (hone : ∀ key ∈ keys, u.intentions (key.2, key.1) = [] ∨ u.intentions key = [])
    (hpos : ∀ key, ∀ i ∈ u.intentions key, 0 < i.amountIn) :
    ∃ s', keys.foldlM (finalizePair cfg) s = .ok s' ∧
      Beside u u s' (runBatch cfg t ((keys.flatMap (queueOf u)).map poolCall)) := by
  induction keys generalizing s t with
  | nil => exact ⟨s, rfl, h⟩
  | cons key keys ih =>
      obtain ⟨s₁, hpair, h₁⟩ := finalizePair_batch h (hone key List.mem_cons_self) hpos
      obtain ⟨s', hrest, h'⟩ := ih h₁ fun k hk => hone k (List.mem_cons_of_mem key hk)
      refine ⟨s', Fallible.foldlM_cons_eq_ok.mpr ⟨_, hpair, hrest⟩, ?_⟩
      rw [List.flatMap_cons, List.map_append, runBatch, run, List.foldl_append]
      exact h'

/-- The intentions of a block offer something. -/
theorem amountIn_pos {s₀ : State AccountId Hash} (hstart : BlockStart s₀)
    {P : State AccountId Hash → Extrinsic AccountId → Prop} (hrun : BlockRuns cfg P s₀ s) :
    ∀ key, ∀ i ∈ s.intentions key, 0 < i.amountIn := by
  have hregister : ∀ {t t' : State AccountId Hash} {who intentionType assets amountIn amountOut
      limit discount}, (∀ key, ∀ i ∈ t.intentions key, 0 < i.amountIn) → 0 < amountIn →
      registerIntention cfg who intentionType assets amountIn amountOut limit discount t = .ok t' →
      ∀ key, ∀ i ∈ t'.intentions key, 0 < i.amountIn := by
    intro t t' who intentionType assets amountIn amountOut limit discount ht hpos hr key i hi
    obtain ⟨_, _, -, -, rfl⟩ := registerIntention_ok hr
    rcases mem_registered.mp hi with hi | ⟨-, rfl⟩
    · exact ht key i hi
    · exact hpos
  refine hrun.invariant (I := fun t => ∀ key, ∀ i ∈ t.intentions key, 0 < i.amountIn)
    (fun t e t' ht _ h => ?_) fun key i hi => ?_
  · cases e with
    | xyk call =>
        rw [(XYK.Call.exchangeUntouched ((Extrinsic.xyk_ok cfg).mp h)).intentions]
        exact ht
    | sell who a b amount minBought discount =>
        obtain ⟨_, hin, -, -, hr⟩ := sell_ok h
        exact hregister ht hin hr
    | buy who b a amount maxSold discount =>
        obtain ⟨_, hin, -, -, hr⟩ := buy_ok h
        exact hregister ht hin hr
    | transfer asset source dest amount =>
        obtain ⟨l, -, rfl⟩ := (Extrinsic.transfer_ok cfg).mp h
        exact ht
  · rw [hstart.intentions] at hi
    cases hi

/-- **A block without counterparties is a batch of calls.** Finalizing a block in which every pair
has intentions in one direction only does not panic, and leaves the ledger as the calls of the XYK
pallet do that the intentions stand for, made one after the other; the pools are those of before. -/
theorem onFinalize_eq_batch {s₀ : State AccountId Hash} (hstart : BlockStart s₀)
    (hrun : BlockRuns cfg (fun _ _ => True) s₀ s) (hone : OneSided s) :
    ∃ s', onFinalize cfg s = .ok s' ∧ s'.ledger = (runBatch cfg s (batch cfg s)).ledger ∧
      s'.shareToken = s.shareToken ∧ s'.poolAssets = s.poolAssets ∧
      s'.totalLiquidity = s.totalLiquidity := by
  have hself : Beside s s s s := ⟨.refl s, .refl s, rfl⟩
  have hkeys : ∀ key ∈ cfg.iterOrder s.intentionCount.keys,
      s.intentions (key.2, key.1) = [] ∨ s.intentions key = [] := fun key hkey =>
    hone key ((cfg.iterOrder_perm _).mem_iff.mp hkey)
  obtain ⟨s', hkeys, h⟩ := foldlM_finalizePair_batch hself hkeys (amountIn_pos hstart hrun)
  refine ⟨_, Fallible.bind_eq_ok.mpr ⟨s', hkeys, rfl⟩, h.ledger.symm, ?_, ?_, ?_⟩
  · show s'.shareToken = _
    rw [h.left]
  · show s'.poolAssets = _
    rw [h.left]
  · show s'.totalLiquidity = _
    rw [h.left]

/-! ### Two pairs with intentions in one direction -/

open Fallible

/-- Two pools, and a block in which asset `1` is given for asset `0` and asset `0` for asset `2`;
one of the limits cannot be met. -/
def oneSidedBlock : Except Failure (State Dev.AccountId Dev.Hash) :=
  Dev.after (Dev.genesis [(0, [1], 4000000), (1, [1], 2000000), (2, [1], 2000000),
      (1, [2], 50000), (0, [3], 50000)])
    [.xyk (.createPool [1] 0 1 1000000 (10 ^ 18)), .xyk (.createPool [1] 0 2 1000000 (10 ^ 18)),
      .sell [2] 1 0 3000 1 false, .buy [2] 0 1 9000 20000 false, .sell [2] 1 0 2000 2000 false,
      .sell [3] 0 2 5000 1 false]

theorem onFinalize_eq_batch_oneSidedBlock :
    Succeeds oneSidedBlock fun s =>
      (batch Dev.cfg s).length = 4 ∧ Succeeds (onFinalize Dev.cfg s) fun s' =>
        s'.ledger = (runBatch Dev.cfg s (batch Dev.cfg s)).ledger ∧
        s'.ledger.free 0 [2] = 11932 := by
  obtain ⟨s, hs, hone, hlength, hfree⟩ : Succeeds oneSidedBlock fun s =>
      OneSided s ∧ (batch Dev.cfg s).length = 4 ∧
      (runBatch Dev.cfg s (batch Dev.cfg s)).ledger.free 0 [2] = 11932 := by
    decide +kernel
  have hrun := Runs.of_foldlM (fun _ _ => trivial) hs
  obtain ⟨s', hs', hledger, -⟩ := onFinalize_eq_batch (Dev.blockStart _) hrun hone
  exact ⟨s, hs, hlength, s', hs', hledger, by rw [hledger]; exact hfree⟩

end HydraDX.Exchange
