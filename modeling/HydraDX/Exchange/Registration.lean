import HydraDX.Exchange.Settlement
import HydraDX.Chain

set_option autoImplicit false

/-! # Intentions of a block

What the calls of a block establish about the intentions they register, up to the moment the
block is finalized. An id is the hash of a counter, the account, the block number and the
pair; the counter of the pair is raised with every intention, so ids do not repeat as long
as the hash does not collide and the counter does not wrap. -/

namespace HydraDX.Exchange

open Tally

variable {AccountId Hash : Type} [DecidableEq AccountId]

/-- The key under which the intentions of a pair are counted. -/
def countKey (key : AssetId × AssetId) : AssetId × AssetId :=
  AssetPair.orderedPair ⟨key.1, key.2⟩

/-- How many intentions of a pair are registered. -/
def countOf (s : State AccountId Hash) (key : AssetId × AssetId) : UInt32 :=
  (s.intentionCount.lookup (countKey key)).getD 0

/-- The counter of the pair of a call does not wrap: the build checks for overflow, or there
are less than `2 ^ 32` intentions. -/
def CountFits (cfg : Config AccountId Hash) (s : State AccountId Hash) :
    Extrinsic AccountId → Prop
  | .xyk _ | .transfer .. => True
  | .sell _ assetSell assetBuy .. =>
      cfg.overflowChecks = true ∨ (countOf s (assetSell, assetBuy)).toNat + 1 < 2 ^ 32
  | .buy _ assetBuy assetSell .. =>
      cfg.overflowChecks = true ∨ (countOf s (assetSell, assetBuy)).toNat + 1 < 2 ^ 32

/-- What the id of an intention is the hash of: the counter, the account, the block number, and
the ordered pair. -/
abbrev IdTuple (AccountId : Type) := UInt32 × AccountId × BlockNumber × AssetId × AssetId

/-- The tuple that is hashed for the intention of a call. -/
def hashedTuple (s : State AccountId Hash) : Extrinsic AccountId → Option (IdTuple AccountId)
  | .xyk _ | .transfer .. => none
  | .sell who assetSell assetBuy .. =>
      some (countOf s (assetSell, assetBuy), who, s.blockNumber, countKey (assetSell, assetBuy))
  | .buy who assetBuy assetSell .. =>
      some (countOf s (assetSell, assetBuy), who, s.blockNumber, countKey (assetSell, assetBuy))

/-- The tuple is that of an intention registered under the key: its hash is the id, and the counter
has been passed. -/
structure HashedFor (cfg : Config AccountId Hash) (s : State AccountId Hash)
    (key : AssetId × AssetId) (i : Intention AccountId Hash) (t : IdTuple AccountId) : Prop where
  tuple_eq : t.2 = (i.who, s.blockNumber, countKey key)
  count_lt : t.1.toNat < (countOf s key).toNat
  id_eq : i.intentionId = cfg.hashIntention t

/-- The intention of the call can be told apart from those registered before it in the block: the
counter does not wrap, and the hash does not collide on its tuple and theirs. -/
structure Identifies (cfg : Config AccountId Hash) (s : State AccountId Hash)
    (e : Extrinsic AccountId) : Prop where
  fits : CountFits cfg s e
  no_collision : ∀ t, hashedTuple s e = some t → ∀ key, ∀ i ∈ s.intentions key, ∀ t',
    HashedFor cfg s key i t' → cfg.hashIntention t = cfg.hashIntention t' → t = t'

/-- The state of a block in which intentions are being registered. -/
structure Registering [DecidableEq Hash] (cfg : Config AccountId Hash)
    (s : State AccountId Hash) : Prop where
  registered : Registered s
  counted : ∀ key, ∀ i ∈ s.intentions key, ∃ t, HashedFor cfg s key i t
  amounts : ∀ key, ∀ i ∈ s.intentions key, 0 < i.amountIn ∧ 0 < i.amountOut
  noSelfPool : XYK.NoSelfPool cfg s
  quiet : ∀ id, tally flow id s.events = 0

section Keys

theorem countKey_lt (key : AssetId × AssetId) (h : key.1 ≠ key.2) :
    (countKey key).1 < (countKey key).2 := by
  unfold countKey AssetPair.orderedPair
  by_cases hle : key.1 ≤ key.2
  · rw [if_pos hle]
    exact UInt32.lt_of_le_of_ne hle h
  · rw [if_neg hle]
    exact UInt32.not_le.mp hle

end Keys

section Register

variable {cfg : Config AccountId Hash} {s s' : State AccountId Hash} {who : AccountId}
  {intentionType : IntentionType} {assets : AssetPair} {amountIn amountOut limit : Nat}
  {discount : Bool}

/-- The state after an intention is registered. -/
theorem registerIntention_ok
    (h : registerIntention cfg who intentionType assets amountIn amountOut limit discount s
      = .ok s') :
    ∃ total event,
      incCount cfg.overflowChecks (countOf s (assets.assetIn, assets.assetOut)) = .ok total ∧
      (∃ who a b amount type id, event = .IntentionRegistered who a b amount type id) ∧
      s' = { s with
        intentions := Function.update s.intentions (assets.assetIn, assets.assetOut)
          (s.intentions (assets.assetIn, assets.assetOut) ++
            [{ who, assets, amountIn, amountOut, discount, sellOrBuy := intentionType,
               intentionId := generateIntentionId cfg who
                 (countOf s (assets.assetIn, assets.assetOut)) assets s,
               tradeLimit := limit }])
        intentionCount := s.intentionCount.insert assets.orderedPair total
        events := s.events ++ [event] } := by
  obtain ⟨total, htotal, h⟩ := Fallible.bind_eq_ok.mp h
  refine ⟨total, _, htotal, ?_, (Except.ok.inj h).symm⟩
  cases intentionType with
  | SELL => exact ⟨_, _, _, _, _, _, rfl⟩
  | BUY => exact ⟨_, _, _, _, _, _, rfl⟩

theorem sell_ok {assetSell assetBuy : AssetId} {amountSell minBought : Nat}
    (h : sell cfg who assetSell assetBuy amountSell minBought discount s = .ok s') :
    ∃ amountBuy, 0 < amountSell ∧ 0 < amountBuy ∧
      XYK.poolExists cfg s ⟨assetSell, assetBuy⟩ = true ∧
      registerIntention cfg who .SELL ⟨assetSell, assetBuy⟩ amountSell amountBuy minBought discount
        s = .ok s' := by
  unfold sell at h
  simp only [↓Fallible.ensure_bind_eq_ok] at h
  obtain ⟨hmin, hpool, -, hne, h⟩ := h
  refine ⟨_, ?_, Nat.pos_of_ne_zero hne, hpool, h⟩
  rw [MIN_TRADING_LIMIT] at hmin
  omega

theorem buy_ok {assetBuy assetSell : AssetId} {amountBuy maxSold : Nat}
    (h : buy cfg who assetBuy assetSell amountBuy maxSold discount s = .ok s') :
    ∃ amountSell, 0 < amountSell ∧ 0 < amountBuy ∧
      XYK.poolExists cfg s ⟨assetSell, assetBuy⟩ = true ∧
      registerIntention cfg who .BUY ⟨assetSell, assetBuy⟩ amountSell amountBuy maxSold discount s
        = .ok s' := by
  unfold buy at h
  simp only [↓Fallible.ensure_bind_eq_ok] at h
  obtain ⟨hmin, hpool, hne, -, h⟩ := h
  refine ⟨_, Nat.pos_of_ne_zero hne, ?_, hpool, h⟩
  rw [MIN_TRADING_LIMIT] at hmin
  omega

/-- The counter of the pair after one more is registered. -/
theorem incCount_toNat {checks : Bool} {c total : UInt32} (h : incCount checks c = .ok total) :
    total.toNat = (c.toNat + 1) % 2 ^ 32 ∧ (checks = true → c.toNat + 1 < 2 ^ 32) := by
  unfold incCount at h
  split_ifs at h with hc
  cases h
  refine ⟨by rw [UInt32.toNat_add, UInt32.toNat_one], fun hchecks => ?_⟩
  rcases hc with hc | hc
  · exact hc
  · rw [hchecks] at hc
    cases hc

theorem incCount_ok {checks : Bool} {c total : UInt32}
    (hfit : checks = true ∨ c.toNat + 1 < 2 ^ 32) (h : incCount checks c = .ok total) :
    total.toNat = c.toNat + 1 := by
  obtain ⟨htotal, hchecked⟩ := incCount_toNat h
  have hlt : c.toNat + 1 < 2 ^ 32 := hfit.elim hchecked id
  rw [htotal, Nat.mod_eq_of_lt hlt]

variable [DecidableEq Hash]

/-- The counter makes the new id different from all others, unless the hash collides. -/
theorem Registering.fresh (hs : Registering cfg s) {e : Extrinsic AccountId}
    (hid : Identifies cfg s e) {who : AccountId} {assets : AssetPair}
    (htuple : hashedTuple s e = some (countOf s (assets.assetIn, assets.assetOut), who,
      s.blockNumber, countKey (assets.assetIn, assets.assetOut))) :
    ∀ key, ∀ j ∈ s.intentions key, j.intentionId ≠ generateIntentionId cfg who
      (countOf s (assets.assetIn, assets.assetOut)) assets s := by
  intro key j hj he
  obtain ⟨t, ht⟩ := hs.counted key j hj
  rw [ht.id_eq] at he
  have heq := hid.no_collision _ htuple key j hj t ht he.symm
  have htail : t.2 = (who, s.blockNumber, countKey (assets.assetIn, assets.assetOut)) := by
    rw [← heq]
  rw [ht.tuple_eq] at htail
  have hkey : countKey key = countKey (assets.assetIn, assets.assetOut) :=
    congrArg (fun p => p.2.2) htail
  have hlt := ht.count_lt
  rw [← heq, countOf, countOf, hkey] at hlt
  exact Nat.lt_irrefl _ hlt

omit [DecidableEq AccountId] [DecidableEq Hash] in
/-- The intentions after one more is registered. -/
theorem mem_registered {f : AssetId × AssetId → List (Intention AccountId Hash)}
    {key key' : AssetId × AssetId} {i new : Intention AccountId Hash} :
    i ∈ Function.update f key (f key ++ [new]) key' ↔ i ∈ f key' ∨ (key' = key ∧ i = new) := by
  rw [Function.update_apply]
  split_ifs with hk
  · subst hk
    simp
  · simp [hk]

omit [DecidableEq AccountId] [DecidableEq Hash] in
/-- Registering an intention with a new id under a pair of two assets. -/
theorem Registered.register (hs : Registered s) (key : AssetId × AssetId)
    {new : Intention AccountId Hash} {total : UInt32} {events : List (Event AccountId Hash)}
    (hfresh : ∀ key', ∀ j ∈ s.intentions key', j.intentionId ≠ new.intentionId)
    (hne : key.1 ≠ key.2) :
    Registered { s with
      intentions := Function.update s.intentions key (s.intentions key ++ [new])
      intentionCount := s.intentionCount.insert (countKey key) total
      events := events } := by
  refine ⟨fun key' => ?_, fun key₁ key₂ hkk i hi j hj => ?_, fun key' hkey => ?_⟩
  · simp only [Function.update_apply]
    split_ifs with hk
    · rw [List.map_append, List.nodup_append]
      refine ⟨hs.ids_nodup _, by simp, fun a ha b hb => ?_⟩
      obtain ⟨j, hj, rfl⟩ := List.mem_map.mp ha
      rw [List.mem_singleton.mp hb]
      exact hfresh _ j hj
    · exact hs.ids_nodup key'
  · rcases mem_registered.mp hi with hold | ⟨rfl, rfl⟩
    · rcases mem_registered.mp hj with hold' | ⟨-, rfl⟩
      · exact hs.ids_ne key₁ key₂ hkk i hold j hold'
      · exact hfresh key₁ i hold
    · rcases mem_registered.mp hj with hold' | ⟨rfl, -⟩
      · exact (hfresh key₂ j hold').symm
      · exact absurd rfl hkk
  · -- the one key that may be new is an ordered pair of two assets
    rcases (AList.mem_insert _).mp (AList.mem_keys.mpr hkey) with rfl | hkey
    · exact countKey_lt key hne
    · exact hs.ordered key' (AList.mem_keys.mp hkey)

theorem Registering.register (hs : Registering cfg s) {e : Extrinsic AccountId}
    (hid : Identifies cfg s e)
    (htuple : hashedTuple s e = some (countOf s (assets.assetIn, assets.assetOut), who,
      s.blockNumber, countKey (assets.assetIn, assets.assetOut)))
    (hpool : XYK.poolExists cfg s assets = true) (hin : 0 < amountIn) (hout : 0 < amountOut)
    (hfit : cfg.overflowChecks = true ∨
      (countOf s (assets.assetIn, assets.assetOut)).toNat + 1 < 2 ^ 32)
    (h : registerIntention cfg who intentionType assets amountIn amountOut limit discount s
      = .ok s') : Registering cfg s' := by
  obtain ⟨total, event, htotal, hevent, rfl⟩ := registerIntention_ok h
  have hcount := incCount_ok hfit htotal
  -- The counter of the pair is raised, the others stay.
  have hmono : ∀ key, (countOf s key).toNat ≤
      (((s.intentionCount.insert assets.orderedPair total).lookup (countKey key)).getD 0).toNat := by
    intro key
    by_cases hk : countKey key = assets.orderedPair
    · rw [hk, AList.lookup_insert, Option.getD_some, hcount, countOf, hk]
      exact Nat.le_succ _
    · rw [AList.lookup_insert_ne hk]
      exact Nat.le_refl _
  refine ⟨?_, fun key i hi => ?_, fun key i hi => ?_, hs.noSelfPool, fun id => ?_⟩
  · exact hs.registered.register (assets.assetIn, assets.assetOut) (hs.fresh hid htuple)
      (hs.noSelfPool.ne hpool)
  · rcases mem_registered.mp hi with hi | ⟨rfl, rfl⟩
    · obtain ⟨t, ht⟩ := hs.counted key i hi
      exact ⟨t, ht.tuple_eq, Nat.lt_of_lt_of_le ht.count_lt (hmono key), ht.id_eq⟩
    · refine ⟨(countOf s (assets.assetIn, assets.assetOut), who, s.blockNumber,
        countKey (assets.assetIn, assets.assetOut)), rfl, ?_, rfl⟩
      show _ < (((s.intentionCount.insert assets.orderedPair total).lookup
        assets.orderedPair).getD 0).toNat
      rw [AList.lookup_insert, Option.getD_some, hcount]
      exact Nat.lt_succ_self _
  · rcases mem_registered.mp hi with hi | ⟨-, rfl⟩
    · exact hs.amounts key i hi
    · exact ⟨hin, hout⟩
  · show tally flow id (s.events ++ [event]) = 0
    obtain ⟨_, _, _, _, _, _, rfl⟩ := hevent
    rw [tally_append, hs.quiet id, tally_cons]
    rfl

/-- A call of the XYK pallet between registrations. -/
theorem Registering.xyk (hinj : XYK.SeedsInjective cfg) (hs : Registering cfg s)
    {call : XYK.Call AccountId} (h : call.dispatch cfg s = .ok s') : Registering cfg s' := by
  have hu := XYK.Call.exchangeUntouched h
  obtain ⟨new, hnew, hpool⟩ := hu.events
  have hcount : ∀ key, countOf s' key = countOf s key := fun key => by
    rw [countOf, hu.intentionCount, countOf]
  refine ⟨⟨?_, ?_, ?_⟩, ?_, ?_, hs.noSelfPool.call hinj h, fun id => ?_⟩
  · rw [hu.intentions]; exact hs.registered.ids_nodup
  · rw [hu.intentions]; exact hs.registered.ids_ne
  · rw [hu.intentionCount]; exact hs.registered.ordered
  · intro key i hi
    rw [hu.intentions] at hi
    obtain ⟨t, ht⟩ := hs.counted key i hi
    exact ⟨t, by rw [hu.blockNumber]; exact ht.tuple_eq, by rw [hcount]; exact ht.count_lt, ht.id_eq⟩
  · rw [hu.intentions]; exact hs.amounts
  · have hzero : tally flow id new = 0 := by
      refine tally_eq_zero fun e he => ?_
      have := hpool e he
      cases e <;> first | rfl | cases this
    rw [hnew, tally_append, hs.quiet id, hzero, add_zero]

/-- A transfer between registrations. -/
theorem Registering.transfer (hs : Registering cfg s) {asset : AssetId} {source dest : AccountId}
    {amount : Nat} (h : (Extrinsic.transfer asset source dest amount).dispatch cfg s = .ok s') :
    Registering cfg s' := by
  obtain ⟨l, -, rfl⟩ := (Extrinsic.transfer_ok cfg).mp h
  refine ⟨⟨hs.registered.ids_nodup, hs.registered.ids_ne, hs.registered.ordered⟩, fun key i hi => ?_,
    hs.amounts, hs.noSelfPool, hs.quiet⟩
  obtain ⟨t, ht⟩ := hs.counted key i hi
  exact ⟨t, ht.tuple_eq, ht.count_lt, ht.id_eq⟩

/-- **The calls of a block establish what finalizing relies on.** -/
theorem registering_of_blockRuns (hseeds : XYK.SeedsInjective cfg) {s₀ : State AccountId Hash}
    (hstart : BlockStart s₀) (hself : XYK.NoSelfPool cfg s₀)
    (hrun : BlockRuns cfg (Identifies cfg) s₀ s) : Registering cfg s := by
  refine hrun.invariant (fun t e t' ht hid h => ?_) ?_
  · cases e with
    | xyk call => exact ht.xyk hseeds ((Extrinsic.xyk_ok cfg).mp h)
    | sell who a b amount minBought discount =>
        obtain ⟨_, hin, hout, hpool, hr⟩ := sell_ok h
        exact ht.register hid rfl hpool hin hout hid.fits hr
    | buy who b a amount maxSold discount =>
        obtain ⟨_, hin, hout, hpool, hr⟩ := buy_ok h
        exact ht.register hid rfl hpool hin hout hid.fits hr
    | transfer asset source dest amount => exact ht.transfer h
  · refine ⟨⟨?_, ?_, ?_⟩, ?_, ?_, hself, ?_⟩
    · intro key; rw [hstart.intentions]; exact List.nodup_nil
    · intro key key' _ i hi; rw [hstart.intentions] at hi; cases hi
    · intro key hkey; rw [hstart.intentionCount] at hkey; cases hkey
    · intro key i hi; rw [hstart.intentions] at hi; cases hi
    · intro key i hi; rw [hstart.intentions] at hi; cases hi
    · intro id; rw [hstart.events]; rfl

end Register

/-! ## Where intentions are stored and counted -/

section Stored

variable {cfg : Config AccountId Hash} {s s' s₀ : State AccountId Hash}

/-- The pair of assets under which the call registers an intention. -/
def registersAt : Extrinsic AccountId → Option (AssetId × AssetId)
  | .xyk _ | .transfer .. => none
  | .sell _ assetSell assetBuy .. => some (assetSell, assetBuy)
  | .buy _ assetBuy assetSell .. => some (assetSell, assetBuy)

/-- A call registers at most one intention, under its own pair. -/
theorem dispatch_intentions {e : Extrinsic AccountId} (h : e.dispatch cfg s = .ok s') :
    s'.intentions = s.intentions ∨
    ∃ key new, registersAt e = some key ∧ new.assets = ⟨key.1, key.2⟩ ∧
      s'.intentions = Function.update s.intentions key (s.intentions key ++ [new]) := by
  cases e with
  | xyk call => exact Or.inl (XYK.Call.exchangeUntouched ((Extrinsic.xyk_ok cfg).mp h)).intentions
  | sell who a b amount minBought discount =>
      obtain ⟨_, -, -, -, hr⟩ := sell_ok h
      obtain ⟨total, event, -, -, rfl⟩ := registerIntention_ok hr
      exact Or.inr ⟨(a, b), _, rfl, rfl, rfl⟩
  | buy who b a amount maxSold discount =>
      obtain ⟨_, -, -, -, hr⟩ := buy_ok h
      obtain ⟨total, event, -, -, rfl⟩ := registerIntention_ok hr
      exact Or.inr ⟨(a, b), _, rfl, rfl, rfl⟩
  | transfer asset source dest amount =>
      obtain ⟨l, -, rfl⟩ := (Extrinsic.transfer_ok cfg).mp h
      exact Or.inl rfl

/-- Intentions are stored under their own pair. -/
theorem own_of_blockRuns (hstart : BlockStart s₀)
    {P : State AccountId Hash → Extrinsic AccountId → Prop} (hrun : BlockRuns cfg P s₀ s) :
    ∀ key, ∀ i ∈ s.intentions key, i.assets = ⟨key.1, key.2⟩ := by
  refine hrun.invariant (I := fun t => ∀ key, ∀ i ∈ t.intentions key, i.assets = ⟨key.1, key.2⟩)
    (fun t e t' ht _ h key i hi => ?_) fun key i hi => ?_
  · rcases dispatch_intentions h with heq | ⟨key₀, new, -, hnew, heq⟩
    · exact ht key i (heq ▸ hi)
    · rw [heq] at hi
      rcases mem_registered.mp hi with hi | ⟨rfl, rfl⟩
      · exact ht key i hi
      · exact hnew
  · rw [hstart.intentions] at hi
    cases hi

/-- The calls of a block register under their own pairs only. -/
theorem intentions_eq_nil (hstart : BlockStart s₀) {calls : List (Extrinsic AccountId)}
    (h : calls.foldlM (Extrinsic.dispatch cfg) s₀ = .ok s) {key : AssetId × AssetId}
    (hkey : key ∉ calls.filterMap registersAt) : s.intentions key = [] := by
  refine (Fallible.foldlM_induction (f := Extrinsic.dispatch cfg)
    (I := fun t calls => key ∉ calls.filterMap registersAt ∧ t.intentions key = [])
    (fun t e calls t' ht hstep => ?_) ⟨hkey, hstart.intentions key⟩ h).2
  obtain ⟨hnot, hnil⟩ := ht
  have hne : registersAt e ≠ some key := fun he =>
    hnot (List.mem_filterMap.mpr ⟨e, List.mem_cons_self, he⟩)
  refine ⟨fun hmem => ?_, ?_⟩
  · obtain ⟨e', he', hk⟩ := List.mem_filterMap.mp hmem
    exact hnot (List.mem_filterMap.mpr ⟨e', List.mem_cons_of_mem e he', hk⟩)
  · rcases dispatch_intentions hstep with heq | ⟨key₀, new, hk, -, heq⟩
    · rw [heq, hnil]
    · have hkk : key ≠ key₀ := fun he => hne (by rw [he]; exact hk)
      rw [heq, Function.update_of_ne hkk, hnil]

end Stored

/-- How many intentions of a pair are stored, in both directions. -/
def pairLength (s : State AccountId Hash) (key : AssetId × AssetId) : Nat :=
  (s.intentions key).length + (s.intentions (key.2, key.1)).length

/-- Intentions are stored under their own pair and counted, on 32 bits, under the ordered
pair. -/
structure Collected (cfg : Config AccountId Hash) (s : State AccountId Hash) : Prop where
  own : ∀ key, ∀ i ∈ s.intentions key, i.assets = ⟨key.1, key.2⟩
  count : ∀ key, key.1 ≠ key.2 → (countOf s key).toNat = pairLength s key % 2 ^ 32
  checked : cfg.overflowChecks = true → ∀ key, key.1 ≠ key.2 → pairLength s key < 2 ^ 32
  ordered : ∀ key ∈ s.intentionCount.keys, key.1 < key.2
  noSelfPool : XYK.NoSelfPool cfg s

section Collected

variable {cfg : Config AccountId Hash} {s s' : State AccountId Hash} {who : AccountId}
  {intentionType : IntentionType} {assets : AssetPair} {amountIn amountOut limit : Nat}
  {discount : Bool}

theorem countKey_eq_iff {key key' : AssetId × AssetId} :
    countKey key = countKey key' ↔ key = key' ∨ key = (key'.2, key'.1) := by
  constructor
  · intro h
    rcases AssetPair.orderedPair_injective h with h | h
    · left
      exact Prod.ext (congrArg AssetPair.assetIn h) (congrArg AssetPair.assetOut h)
    · right
      exact Prod.ext (congrArg AssetPair.assetIn h) (congrArg AssetPair.assetOut h)
  · rintro (rfl | rfl)
    · rfl
    · exact AssetPair.orderedPair_swap ⟨key'.1, key'.2⟩

omit [DecidableEq AccountId] in
/-- How many are stored after one more is. -/
theorem length_update (f : AssetId × AssetId → List (Intention AccountId Hash))
    (key₀ key : AssetId × AssetId) (new : Intention AccountId Hash) :
    (Function.update f key₀ (f key₀ ++ [new]) key).length
      = (f key).length + if key = key₀ then 1 else 0 := by
  rw [Function.update_apply]
  split_ifs with hk
  · rw [hk, List.length_append, List.length_singleton]
  · rfl

omit [DecidableEq AccountId] in
/-- A pair has one more exactly when it is the pair of the new intention, in either order. -/
theorem length_update_pair (f : AssetId × AssetId → List (Intention AccountId Hash))
    (key₀ : AssetId × AssetId) {key : AssetId × AssetId} (hkey : key.1 ≠ key.2)
    (new : Intention AccountId Hash) :
    (Function.update f key₀ (f key₀ ++ [new]) key).length
        + (Function.update f key₀ (f key₀ ++ [new]) (key.2, key.1)).length
      = (f key).length + (f (key.2, key.1)).length
        + if countKey key = countKey key₀ then 1 else 0 := by
  rw [length_update, length_update]
  have hswap : (key.2, key.1) = key₀ ↔ key = (key₀.2, key₀.1) := by
    constructor
    · rintro rfl
      rfl
    · intro h
      rw [h]
  have hcount : countKey key = countKey key₀ ↔ key = key₀ ∨ (key.2, key.1) = key₀ := by
    rw [hswap]
    exact countKey_eq_iff
  -- the new intention is in one of the two directions, if any: they are not the same
  by_cases h₁ : key = key₀
  · have h₂ : (key.2, key.1) ≠ key₀ := by
      rw [← h₁]
      exact fun he => hkey (congrArg Prod.snd he)
    rw [if_pos h₁, if_neg h₂, if_pos (hcount.mpr (Or.inl h₁))]
    omega
  · by_cases h₂ : (key.2, key.1) = key₀
    · rw [if_neg h₁, if_pos h₂, if_pos (hcount.mpr (Or.inr h₂))]
      omega
    · rw [if_neg h₁, if_neg h₂, if_neg fun he => (hcount.mp he).elim h₁ h₂]
      omega

theorem Collected.register (hs : Collected cfg s) (hpool : XYK.poolExists cfg s assets = true)
    (h : registerIntention cfg who intentionType assets amountIn amountOut limit discount s
      = .ok s') : Collected cfg s' := by
  have hne : assets.assetIn ≠ assets.assetOut := hs.noSelfPool.ne hpool
  obtain ⟨total, event, htotal, -, rfl⟩ := registerIntention_ok h
  obtain ⟨hmod, hchecked⟩ := incCount_toNat htotal
  have hcount₀ := hs.count (assets.assetIn, assets.assetOut) hne
  refine ⟨fun key i hi => ?_, fun key hkey => ?_, fun hchecks key hkey => ?_, fun key hkey => ?_,
    hs.noSelfPool⟩
  · rcases mem_registered.mp hi with hi | ⟨rfl, rfl⟩
    · exact hs.own key i hi
    · rfl
  · refine Eq.trans ?_ (congrArg (· % 2 ^ 32)
      (length_update_pair s.intentions (assets.assetIn, assets.assetOut) hkey _).symm)
    show (((s.intentionCount.insert (countKey (assets.assetIn, assets.assetOut)) total).lookup
      (countKey key)).getD 0).toNat = (pairLength s key + _) % 2 ^ 32
    -- both directions of the pair share its counter
    by_cases hk : countKey key = countKey (assets.assetIn, assets.assetOut)
    · have hsame : pairLength s (assets.assetIn, assets.assetOut) % 2 ^ 32
          = pairLength s key % 2 ^ 32 := by
        rw [← hcount₀, ← hs.count key hkey, countOf, countOf, hk]
      rw [hk, if_pos rfl, AList.lookup_insert, Option.getD_some, hmod, hcount₀, hsame]
      omega
    · rw [AList.lookup_insert_ne hk, if_neg hk, Nat.add_zero]
      exact hs.count key hkey
  · refine lt_of_eq_of_lt (length_update_pair s.intentions (assets.assetIn, assets.assetOut) hkey _)
      ?_
    show pairLength s key + _ < _
    have hlt := hs.checked hchecks key hkey
    split_ifs with hk
    · have hcount := hs.count key hkey
      rw [countOf, hk] at hcount
      have hlt' := hchecked hchecks
      rw [countOf, hcount, Nat.mod_eq_of_lt hlt] at hlt'
      exact hlt'
    · exact hlt
  · rcases (AList.mem_insert _).mp (AList.mem_keys.mpr hkey) with rfl | hkey
    · exact countKey_lt (assets.assetIn, assets.assetOut) hne
    · exact hs.ordered key (AList.mem_keys.mp hkey)

theorem Collected.xyk (hinj : XYK.SeedsInjective cfg) (hs : Collected cfg s)
    {call : XYK.Call AccountId} (h : call.dispatch cfg s = .ok s') : Collected cfg s' := by
  have hu := XYK.Call.exchangeUntouched h
  have hcount : ∀ key, countOf s' key = countOf s key := fun key => by
    rw [countOf, hu.intentionCount, countOf]
  have hlength : ∀ key, pairLength s' key = pairLength s key := fun key => by
    rw [pairLength, hu.intentions, pairLength]
  refine ⟨?_, fun key hkey => ?_, fun hchecks key hkey => ?_, ?_, hs.noSelfPool.call hinj h⟩
  · rw [hu.intentions]; exact hs.own
  · rw [hcount, hlength]; exact hs.count key hkey
  · rw [hlength]; exact hs.checked hchecks key hkey
  · rw [hu.intentionCount]; exact hs.ordered

/-- **The calls of a block collect intentions.** -/
theorem collected_of_blockRuns (hseeds : XYK.SeedsInjective cfg) {s₀ : State AccountId Hash}
    (hstart : BlockStart s₀) (hself : XYK.NoSelfPool cfg s₀)
    {P : State AccountId Hash → Extrinsic AccountId → Prop} (hrun : BlockRuns cfg P s₀ s) :
    Collected cfg s := by
  refine hrun.invariant (fun t e t' ht _ h => ?_) ?_
  · cases e with
    | xyk call => exact ht.xyk hseeds ((Extrinsic.xyk_ok cfg).mp h)
    | sell who a b amount minBought discount =>
        obtain ⟨_, -, -, hpool, hr⟩ := sell_ok h
        exact ht.register hpool hr
    | buy who b a amount maxSold discount =>
        obtain ⟨_, -, -, hpool, hr⟩ := buy_ok h
        exact ht.register hpool hr
    | transfer asset source dest amount =>
        obtain ⟨l, -, rfl⟩ := (Extrinsic.transfer_ok cfg).mp h
        exact ⟨ht.own, ht.count, ht.checked, ht.ordered, ht.noSelfPool⟩
  · have hlength : ∀ key, pairLength s₀ key = 0 := fun key => by
      rw [pairLength, hstart.intentions, hstart.intentions]
      rfl
    refine ⟨?_, fun key _ => ?_, fun _ key _ => ?_, ?_, hself⟩
    · intro key i hi; rw [hstart.intentions] at hi; cases hi
    · rw [hlength, countOf, hstart.intentionCount]; rfl
    · rw [hlength]; decide
    · intro key hkey; rw [hstart.intentionCount] at hkey; cases hkey

end Collected

end HydraDX.Exchange

namespace HydraDX.Dev

/-- The development chain checks for overflow. -/
theorem countFits {s : State AccountId Hash} (e : Extrinsic AccountId) :
    Exchange.CountFits cfg s e := by
  cases e with
  | xyk call => trivial
  | sell => exact Or.inl rfl
  | buy => exact Or.inl rfl
  | transfer => trivial

/-- Its ids are the tuples themselves. -/
theorem identifies {s : State AccountId Hash} (e : Extrinsic AccountId) :
    Exchange.Identifies cfg s e :=
  ⟨countFits e, fun _ _ _ _ _ _ _ h => h⟩

end HydraDX.Dev
