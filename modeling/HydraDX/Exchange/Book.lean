import HydraDX.Exchange.Registration
import HydraDX.Lib.Parallel

set_option autoImplicit false

/-! # The book of a block

The abstract view of what `sell` and `buy` register: for every directed pair a multiset of
intentions without ids, and a counter for every ordered pair. Entries are added to the book in
any order with the same result (`Book.add_comm`).

Whether a call of the pallet is accepted, and the entry it makes, depends on the ledger and the
pools only (`Call.offer`), and registering does not change these. So a sequence of calls writes
the book of their offers (`submit_matches`), and the order of the calls is not seen in it. -/

namespace HydraDX.Exchange

variable {AccountId Hash : Type}

/-- The intention without its id. -/
def anonymous (i : Intention AccountId Hash) : Intention AccountId Unit where
  who := i.who
  assets := i.assets
  amountIn := i.amountIn
  amountOut := i.amountOut
  tradeLimit := i.tradeLimit
  discount := i.discount
  sellOrBuy := i.sellOrBuy
  intentionId := ()

/-! ## The book -/

@[ext] structure Book (AccountId : Type) where
  count : AssetId × AssetId → Option UInt32
  groups : AssetId × AssetId → Multiset (Intention AccountId Unit)

/-- Enter an intention under its pair and count it under the ordered pair. -/
def Book.add (overflowChecks : Bool) (b : Book AccountId) (o : Intention AccountId Unit) :
    Except Failure (Book AccountId) := do
  let total ← incCount overflowChecks ((b.count o.assets.orderedPair).getD 0)
  return {
    count := Function.update b.count o.assets.orderedPair (some total)
    groups := fun key =>
      if key = (o.assets.assetIn, o.assets.assetOut) then o ::ₘ b.groups key else b.groups key }

theorem incCount_error {checks : Bool} {c : UInt32} {e : Failure}
    (h : incCount checks c = .error e) : e = .panic .arithmetic := by
  unfold incCount at h
  split_ifs at h
  cases h
  rfl

/-- The order of two entries does not matter. -/
theorem Book.add_comm (checks : Bool) (b : Book AccountId) (o o' : Intention AccountId Unit) :
    (b.add checks o >>= fun b => b.add checks o')
      = (b.add checks o' >>= fun b => b.add checks o) := by
  have hgroups : ∀ key,
      (if key = (o'.assets.assetIn, o'.assets.assetOut) then
        o' ::ₘ (if key = (o.assets.assetIn, o.assets.assetOut) then o ::ₘ b.groups key
          else b.groups key)
      else if key = (o.assets.assetIn, o.assets.assetOut) then o ::ₘ b.groups key
        else b.groups key)
      = if key = (o.assets.assetIn, o.assets.assetOut) then
        o ::ₘ (if key = (o'.assets.assetIn, o'.assets.assetOut) then o' ::ₘ b.groups key
          else b.groups key)
      else if key = (o'.assets.assetIn, o'.assets.assetOut) then o' ::ₘ b.groups key
        else b.groups key := by
    intro key
    split_ifs
    · exact Multiset.cons_swap _ _ _
    · rfl
    · rfl
    · rfl
  simp only [add, bind_assoc, pure_bind, hgroups]
  by_cases hpair : o.assets.orderedPair = o'.assets.orderedPair
  · -- The same counter is raised twice.
    simp only [hpair, Function.update_self, Option.getD_some, Function.update_idem]
  · rw [← Ne] at hpair
    simp only [Function.update_of_ne hpair, Function.update_of_ne hpair.symm,
      Function.update_comm hpair]
    cases h : incCount checks ((b.count o.assets.orderedPair).getD 0) with
    | error e =>
        cases h' : incCount checks ((b.count o'.assets.orderedPair).getD 0) with
        | error e' => rw [incCount_error h, incCount_error h']; rfl
        | ok total' => rfl
    | ok total =>
        cases h' : incCount checks ((b.count o'.assets.orderedPair).getD 0) with
        | error e' => rfl
        | ok total' => rfl

/-- An entry fails only where the counter overflows. -/
theorem Book.add_error {checks : Bool} {b : Book AccountId} {o : Intention AccountId Unit}
    {e : Failure} (h : b.add checks o = .error e) : e = .panic .arithmetic := by
  rcases Fallible.bind_eq_error.mp h with h | ⟨total, -, h⟩
  · exact incCount_error h
  · cases h

/-! ## Calls -/

section Calls

variable [DecidableEq AccountId] (cfg : Config AccountId Hash)

/-- A call of the exchange pallet. -/
inductive Call (AccountId : Type) where
  | sell (who : AccountId) (assetSell assetBuy : AssetId) (amountSell minBought : Nat)
      (discount : Bool)
  | buy (who : AccountId) (assetBuy assetSell : AssetId) (amountBuy maxSold : Nat)
      (discount : Bool)

def Call.dispatch (s : State AccountId Hash) :
    Call AccountId → Except Failure (State AccountId Hash)
  | sell who assetSell assetBuy amountSell minBought discount =>
      Exchange.sell cfg who assetSell assetBuy amountSell minBought discount s
  | buy who assetBuy assetSell amountBuy maxSold discount =>
      Exchange.buy cfg who assetBuy assetSell amountBuy maxSold discount s

/-- Put a call into the block: an error leaves the state as it is, a panic ends the block. -/
def Call.submit (s : State AccountId Hash) (call : Call AccountId) :
    Except Failure (State AccountId Hash) :=
  match call.dispatch cfg s with
  | .ok s' => .ok s'
  | .error (.dispatch _) => .ok s
  | .error (.panic panic) => .error (.panic panic)

/-- What the call registers: its checks, and the intention without an id. -/
def Call.offer (s : State AccountId Hash) :
    Call AccountId → Except DispatchError (Intention AccountId Unit)
  | sell who assetSell assetBuy amountSell minBought discount => do
      ensure (amountSell ≥ MIN_TRADING_LIMIT) (.exchange .MinimumTradeLimitNotReached)
      let assets : AssetPair := { assetIn := assetSell, assetOut := assetBuy }
      ensure (XYK.poolExists cfg s assets = true) (.exchange .TokenPoolNotFound)
      ensure (s.ledger.free assetSell who ≥ amountSell) (.exchange .InsufficientAssetBalance)
      let amountBuy := XYK.getSpotPriceUnchecked cfg s assetSell assetBuy amountSell
      ensure (amountBuy ≠ 0) (.exchange .ZeroSpotPrice)
      return { who, assets, amountIn := amountSell, amountOut := amountBuy, discount,
               sellOrBuy := .SELL, intentionId := (), tradeLimit := minBought }
  | buy who assetBuy assetSell amountBuy maxSold discount => do
      ensure (amountBuy ≥ MIN_TRADING_LIMIT) (.exchange .MinimumTradeLimitNotReached)
      let assets : AssetPair := { assetIn := assetSell, assetOut := assetBuy }
      ensure (XYK.poolExists cfg s assets = true) (.exchange .TokenPoolNotFound)
      let amountSell := XYK.getSpotPriceUnchecked cfg s assetBuy assetSell amountBuy
      ensure (amountSell ≠ 0) (.exchange .ZeroSpotPrice)
      ensure (s.ledger.free assetSell who ≥ amountSell) (.exchange .InsufficientAssetBalance)
      return { who, assets, amountIn := amountSell, amountOut := amountBuy, discount,
               sellOrBuy := .BUY, intentionId := (), tradeLimit := maxSold }

/-- Enter what the call offers, if it offers something. -/
def Call.enter (s : State AccountId Hash) (b : Book AccountId) (call : Call AccountId) :
    Except Failure (Book AccountId) :=
  match call.offer cfg s with
  | .error _ => .ok b
  | .ok o => b.add cfg.overflowChecks o

/-- The book of a state. -/
def book (s : State AccountId Hash) : Book AccountId where
  count := fun key => s.intentionCount.lookup key
  groups := fun key => ((s.intentions key).map anonymous : List (Intention AccountId Unit))

variable {cfg} {s t : State AccountId Hash} {call : Call AccountId}

/-- A call registers what it offers. -/
theorem Call.dispatch_eq (call : Call AccountId) (s : State AccountId Hash) :
    call.dispatch cfg s = match call.offer cfg s with
      | .error e => .error (.dispatch e)
      | .ok o => registerIntention cfg o.who o.sellOrBuy o.assets o.amountIn o.amountOut
          o.tradeLimit o.discount s := by
  cases call with
  | sell who a b amount minBought discount =>
      simp only [dispatch, offer, Exchange.sell, ensure]
      split_ifs <;> rfl
  | buy who b a amount maxSold discount =>
      simp only [dispatch, offer, Exchange.buy, ensure]
      split_ifs <;> rfl

/-- Offers depend on the ledger and the pools only. -/
theorem Call.offer_congr (call : Call AccountId) (hledger : t.ledger = s.ledger)
    (htoken : t.shareToken = s.shareToken) : call.offer cfg t = call.offer cfg s := by
  obtain ⟨⟩ := s
  obtain ⟨⟩ := t
  simp only at hledger htoken
  subst hledger htoken
  rfl

/-- The book `b` is written, over the ledger and the pools of `s`. -/
structure Writes (s t : State AccountId Hash) (b : Book AccountId) : Prop where
  book_eq : book t = b
  ledger : t.ledger = s.ledger
  shareToken : t.shareToken = s.shareToken

variable (cfg) in
theorem registerIntention_matches {b : Book AccountId} (h : Writes s t b)
    (o : Intention AccountId Unit) :
    Fallible.Matches (Writes s)
      (registerIntention cfg o.who o.sellOrBuy o.assets o.amountIn o.amountOut o.tradeLimit
        o.discount t) (b.add cfg.overflowChecks o) := by
  obtain ⟨rfl, hledger, htoken⟩ := h
  unfold registerIntention Book.add
  refine Fallible.Matches.refl.bind ?_
  rintro total _ rfl
  refine ⟨Book.ext (funext fun key => ?_) (funext fun key => ?_), hledger, htoken⟩
  · show (t.intentionCount.insert o.assets.orderedPair total).lookup key
      = Function.update (book t).count o.assets.orderedPair (some total) key
    by_cases hk : key = o.assets.orderedPair
    · rw [hk, AList.lookup_insert, Function.update_self]
    · rw [AList.lookup_insert_ne hk, Function.update_of_ne hk]
      rfl
  · show (((Function.update t.intentions (o.assets.assetIn, o.assets.assetOut) _ key).map
      anonymous : List (Intention AccountId Unit)) : Multiset (Intention AccountId Unit))
        = if key = _ then o ::ₘ (book t).groups key else (book t).groups key
    rw [Function.update_apply]
    split_ifs with hk
    · -- The new intention is the last of the list.
      rw [List.map_append, ← Multiset.coe_add, add_comm, hk]
      rfl
    · rfl

/-- A call that is put into the block writes its entry. -/
theorem Call.submit_matches {b : Book AccountId} (h : Writes s t b) :
    Fallible.Matches (Writes s) (call.submit cfg t) (call.enter cfg s b) := by
  unfold submit enter
  rw [dispatch_eq, call.offer_congr h.ledger h.shareToken]
  cases call.offer cfg s with
  | error e => exact h
  | ok o =>
      simp only
      rcases (registerIntention_matches cfg h o).cases with ⟨e, ht, hadd⟩ | ⟨t', b', ht, hadd, h'⟩
      · -- the counter of the pair is full
        obtain rfl := Book.add_error hadd
        rw [ht, hadd]
        rfl
      · rw [ht, hadd]
        exact h'

variable (cfg) in
/-- The order in which calls are entered does not matter. -/
theorem Call.enter_comm (s : State AccountId Hash) (b : Book AccountId)
    (call call' : Call AccountId) :
    (call.enter cfg s b >>= fun b => call'.enter cfg s b)
      = (call'.enter cfg s b >>= fun b => call.enter cfg s b) := by
  unfold enter
  cases call.offer cfg s with
  | error e =>
      cases call'.offer cfg s with
      | error e' => rfl
      | ok o' => exact (bind_pure _).symm
  | ok o =>
      cases call'.offer cfg s with
      | error e' => exact bind_pure _
      | ok o' => exact b.add_comm cfg.overflowChecks o o'

/-- **The calls of a block write the same book in any order**, and leave the ledger and the pools
as they are. -/
theorem submit_perm {s₀ : State AccountId Hash} {calls calls' : List (Call AccountId)}
    (hperm : calls.Perm calls') (h : calls.foldlM (Call.submit cfg) s₀ = .ok s) :
    ∃ s', calls'.foldlM (Call.submit cfg) s₀ = .ok s' ∧ book s' = book s ∧
      s'.ledger = s.ledger ∧ s'.shareToken = s.shareToken := by
  have hstart : Writes s₀ s₀ (book s₀) := ⟨rfl, rfl, rfl⟩
  have hmatch : ∀ calls : List (Call AccountId), Fallible.Matches (Writes s₀)
      (calls.foldlM (Call.submit cfg) s₀) (calls.foldlM (Call.enter cfg s₀) (book s₀)) :=
    fun calls => Fallible.Matches.foldlM (S := Eq)
      (fun t b _ _ hw he => he ▸ Call.submit_matches hw) (List.forall₂_eq_eq_eq ▸ rfl) hstart
  obtain ⟨b, hb, hw⟩ := (hmatch calls).of_ok h
  rw [Fallible.foldlM_perm (Call.enter_comm cfg s₀) hperm] at hb
  obtain ⟨s', hs', hw'⟩ := (hmatch calls').of_ok_right hb
  exact ⟨s', hs', hw'.book_eq.trans hw.book_eq.symm, hw'.ledger.trans hw.ledger.symm,
    hw'.shareToken.trans hw.shareToken.symm⟩

/-! ### Where calls register -/

/-- The pair of assets under which the call registers an intention. -/
def Call.pair : Call AccountId → AssetId × AssetId
  | sell _ assetSell assetBuy .. => (assetSell, assetBuy)
  | buy _ assetBuy assetSell .. => (assetSell, assetBuy)

theorem Call.submit_intentions {s' : State AccountId Hash} (h : call.submit cfg s = .ok s')
    {key : AssetId × AssetId} (hkey : key ≠ call.pair) : s'.intentions key = s.intentions key := by
  unfold submit at h
  cases hd : call.dispatch cfg s with
  | error e =>
      rw [hd] at h
      cases e with
      | dispatch error => cases h; rfl
      | panic panic => cases h
  | ok t =>
      rw [hd] at h
      cases h
      cases call with
      | sell who a b amount minBought discount =>
          obtain ⟨_, -, -, -, hr⟩ := sell_ok hd
          obtain ⟨total, event, -, -, rfl⟩ := registerIntention_ok hr
          exact Function.update_of_ne hkey _ _
      | buy who b a amount maxSold discount =>
          obtain ⟨_, -, -, -, hr⟩ := buy_ok hd
          obtain ⟨total, event, -, -, rfl⟩ := registerIntention_ok hr
          exact Function.update_of_ne hkey _ _

theorem submits_intentions {s₀ : State AccountId Hash} {calls : List (Call AccountId)}
    (h : calls.foldlM (Call.submit cfg) s₀ = .ok s) {key : AssetId × AssetId}
    (hkey : key ∉ calls.map Call.pair) : s.intentions key = s₀.intentions key := by
  refine (Fallible.foldlM_induction (f := Call.submit cfg)
    (I := fun t calls => key ∉ calls.map Call.pair ∧ t.intentions key = s₀.intentions key)
    (fun t call calls t' ht hstep => ?_) ⟨hkey, rfl⟩ h).2
  obtain ⟨hnot, heq⟩ := ht
  rw [List.map_cons, List.mem_cons, not_or] at hnot
  exact ⟨hnot.2, (Call.submit_intentions hstep hnot.1).trans heq⟩

end Calls

end HydraDX.Exchange
