import HydraDX.Exchange.Registration

set_option autoImplicit false

/-! # Intention ids over the life of the chain

The id of an intention is the hash of a tuple: the counter of its pair, the account, the block
number and the two assets, the smaller id first. Each component has an encoding of a fixed
length, so the hashed bytes determine the tuple. The tuples do not repeat: within a block the
counter of the pair is raised with every intention, in both directions, and a failing call leaves
it as it is; it starts anew only in a block with another number. -/

namespace HydraDX.Exchange

open Fallible

variable {AccountId Hash : Type}

/-! ## The hashed bytes -/

namespace IdTuple

def count (t : IdTuple AccountId) : UInt32 := t.1

def block (t : IdTuple AccountId) : BlockNumber := t.2.2.1

def pair (t : IdTuple AccountId) : AssetId × AssetId := t.2.2.2

/-- The encoding of the tuple: the encodings of its components one after the other. -/
def encode (encodeAccount : AccountId → List UInt8) (t : IdTuple AccountId) : List UInt8 :=
  toLeBytes t.1 ++ (encodeAccount t.2.1 ++ (toLeBytes t.2.2.1 ++
    (toLeBytes t.2.2.2.1 ++ toLeBytes t.2.2.2.2)))

end IdTuple

/-- Accounts are encoded by byte strings of one length, different ones by different strings. -/
structure FixedLength (encodeAccount : AccountId → List UInt8) : Prop where
  injective : Function.Injective encodeAccount
  length : ∃ n, ∀ a, (encodeAccount a).length = n

/-- The bytes determine the tuple: the components are cut off one by one. -/
theorem IdTuple.encode_injective {encodeAccount : AccountId → List UInt8}
    (h : FixedLength encodeAccount) : Function.Injective (IdTuple.encode encodeAccount) := by
  rintro ⟨c, who, b, x, y⟩ ⟨c', who', b', x', y'⟩ heq
  obtain ⟨n, hn⟩ := h.length
  simp only [IdTuple.encode] at heq
  obtain ⟨hc, heq⟩ := List.append_inj heq (by rw [toLeBytes_length, toLeBytes_length])
  obtain ⟨hwho, heq⟩ := List.append_inj heq (by rw [hn, hn])
  obtain ⟨hb, heq⟩ := List.append_inj heq (by rw [toLeBytes_length, toLeBytes_length])
  obtain ⟨hx, hy⟩ := List.append_inj heq (by rw [toLeBytes_length, toLeBytes_length])
  rw [toLeBytes_injective hc, h.injective hwho, toLeBytes_injective hb, toLeBytes_injective hx,
    toLeBytes_injective hy]

/-! ## Blocks -/

variable [DecidableEq AccountId] (cfg : Config AccountId Hash)

omit [DecidableEq AccountId] in
/-- The intentions that a call has added to those of its pair, each with the tuple that was hashed
for it. -/
def registrations (s s' : State AccountId Hash) (e : Extrinsic AccountId) :
    List (IdTuple AccountId × Intention AccountId Hash) :=
  match hashedTuple s e, registersAt e with
  | some t, some key => ((s'.intentions key).drop (s.intentions key).length).map fun i => (t, i)
  | _, _ => []

/-- A call of a block, and the log of the registrations. A call that fails changes nothing, a
panic ends the block. -/
def submitLogged (p : State AccountId Hash × List (IdTuple AccountId × Intention AccountId Hash))
    (e : Extrinsic AccountId) :
    Except Panic (State AccountId Hash × List (IdTuple AccountId × Intention AccountId Hash)) :=
  match e.dispatch cfg p.1 with
  | .ok s' => .ok (s', p.2 ++ registrations p.1 s' e)
  | .error (.dispatch _) => .ok p
  | .error (.panic panic) => .error panic

/-- A block: its number and its calls, after which it is finalized. -/
def runBlock (p : State AccountId Hash × List (IdTuple AccountId × Intention AccountId Hash))
    (block : BlockNumber × List (Extrinsic AccountId)) :
    Except Panic (State AccountId Hash × List (IdTuple AccountId × Intention AccountId Hash)) := do
  let p ← block.2.foldlM (submitLogged cfg)
    ({ p.1 with blockNumber := block.1, events := [] }, p.2)
  let s ← onFinalize cfg p.1
  return (s, p.2)

variable {cfg} {s s' : State AccountId Hash} {e : Extrinsic AccountId}
  {p p' : State AccountId Hash × List (IdTuple AccountId × Intention AccountId Hash)}

omit [DecidableEq AccountId] in
/-- The counter of an ordered pair. -/
theorem countOf_countKey (s : State AccountId Hash) (key : AssetId × AssetId) :
    (s.intentionCount.lookup (countKey key)).getD 0 = countOf s key := rfl

/-- The call registers one intention under `key`, with the counter of the pair, and raises it. -/
structure RegistersOne (cfg : Config AccountId Hash) (s s' : State AccountId Hash)
    (e : Extrinsic AccountId) (key : AssetId × AssetId) (who : AccountId)
    (i : Intention AccountId Hash) (total : UInt32) : Prop where
  registrations_eq : registrations s s' e
    = [((countOf s key, who, s.blockNumber, countKey key), i)]
  id_eq : i.intentionId = cfg.hashIntention (countOf s key, who, s.blockNumber, countKey key)
  total_eq : incCount cfg.overflowChecks (countOf s key) = .ok total
  count_eq : s'.intentionCount = s.intentionCount.insert (countKey key) total

theorem RegistersOne.of_register (key : AssetId × AssetId) {who : AccountId}
    {intentionType : IntentionType} {amountIn amountOut limit : Nat} {discount : Bool}
    (hkey : registersAt e = some key)
    (htuple : hashedTuple s e = some (countOf s key, who, s.blockNumber, countKey key))
    (h : registerIntention cfg who intentionType ⟨key.1, key.2⟩ amountIn amountOut limit discount s
      = .ok s') :
    s'.blockNumber = s.blockNumber ∧ ∃ i total, RegistersOne cfg s s' e key who i total := by
  obtain ⟨total, event, htotal, -, rfl⟩ := registerIntention_ok h
  refine ⟨rfl, ⟨who, ⟨key.1, key.2⟩, amountIn, amountOut, limit, discount, intentionType,
    cfg.hashIntention (countOf s key, who, s.blockNumber, countKey key)⟩, total, ?_, rfl, htotal,
    rfl⟩
  simp only [registrations, htuple, hkey, Function.update_self, List.drop_left,
    List.map_singleton]
  rfl

/-- What a call that succeeds registers, and what it does to the counters. -/
theorem dispatch_registrations (h : e.dispatch cfg s = .ok s') :
    s'.blockNumber = s.blockNumber ∧
    ((registrations s s' e = [] ∧ s'.intentionCount = s.intentionCount) ∨
      ∃ key who i total, RegistersOne cfg s s' e key who i total) := by
  cases e with
  | xyk call =>
      have hu := XYK.Call.exchangeUntouched ((Extrinsic.xyk_ok cfg).mp h)
      exact ⟨hu.blockNumber, Or.inl ⟨rfl, hu.intentionCount⟩⟩
  | sell who a b amount minBought discount =>
      obtain ⟨_, -, -, -, hr⟩ := sell_ok h
      obtain ⟨hblock, i, total, hone⟩ := RegistersOne.of_register
        (a, b) (e := .sell who a b amount minBought discount) rfl rfl hr
      exact ⟨hblock, Or.inr ⟨(a, b), who, i, total, hone⟩⟩
  | buy who b a amount maxSold discount =>
      obtain ⟨_, -, -, -, hr⟩ := buy_ok h
      obtain ⟨hblock, i, total, hone⟩ := RegistersOne.of_register
        (a, b) (e := .buy who b a amount maxSold discount) rfl rfl hr
      exact ⟨hblock, Or.inr ⟨(a, b), who, i, total, hone⟩⟩
  | transfer asset source dest amount =>
      obtain ⟨l, -, rfl⟩ := (Extrinsic.transfer_ok cfg).mp h
      exact ⟨rfl, Or.inl ⟨rfl, rfl⟩⟩

/-! ## The counters within a block -/

/-- What holds of the log within a block of the given number, with `left` calls to come: tuples do
not repeat and are those of the ids; those of the block have counters below the current ones; and
the counters do not wrap. -/
structure Numbered (cfg : Config AccountId Hash) (left : Nat)
    (p : State AccountId Hash × List (IdTuple AccountId × Intention AccountId Hash)) : Prop where
  nodup : (p.2.map Prod.fst).Nodup
  ids : ∀ r ∈ p.2, r.2.intentionId = cfg.hashIntention r.1
  below : ∀ r ∈ p.2, r.1.block < p.1.blockNumber ∨ (r.1.block = p.1.blockNumber ∧
    r.1.count.toNat < ((p.1.intentionCount.lookup r.1.pair).getD 0).toNat)
  fits : cfg.overflowChecks = true ∨
    ∀ key, ((p.1.intentionCount.lookup key).getD 0).toNat + left < 2 ^ 32

/-- The counter of a pair after one more intention. -/
theorem lookup_insert_count {count : AList fun _ : AssetId × AssetId => UInt32}
    {key key' : AssetId × AssetId} {total : UInt32}
    (htotal : total.toNat = ((count.lookup key).getD 0).toNat + 1) :
    (((count.insert key total).lookup key').getD 0).toNat
      = ((count.lookup key').getD 0).toNat + if key' = key then 1 else 0 := by
  by_cases hk : key' = key
  · rw [hk, AList.lookup_insert, Option.getD_some, htotal, if_pos rfl]
  · rw [AList.lookup_insert_ne hk, if_neg hk, Nat.add_zero]

/-- A call that registers nothing leaves the counters. -/
theorem Numbered.skip {left : Nat} (hp : Numbered cfg (left + 1) p)
    (hblock : s'.blockNumber = p.1.blockNumber)
    (hcount : s'.intentionCount = p.1.intentionCount) : Numbered cfg left (s', p.2) := by
  refine ⟨hp.nodup, hp.ids, ?_, ?_⟩
  · rw [hblock, hcount]
    exact hp.below
  · rw [hcount]
    refine hp.fits.imp_right fun hfits key => ?_
    have hkey := hfits key
    omega

/-- The counters after a call that registers an intention: that of its pair is raised above the
one in the new tuple. -/
theorem Numbered.count_raised {left : Nat} {key : AssetId × AssetId} {who : AccountId}
    {i : Intention AccountId Hash} {total : UInt32} (hp : Numbered cfg (left + 1) p)
    (hone : RegistersOne cfg p.1 s' e key who i total) (key' : AssetId × AssetId) :
    ((s'.intentionCount.lookup key').getD 0).toNat
      = ((p.1.intentionCount.lookup key').getD 0).toNat
        + if key' = countKey key then 1 else 0 := by
  have hsucc : total.toNat = (countOf p.1 key).toNat + 1 := by
    refine incCount_ok (hp.fits.imp_right fun hfits => ?_) hone.total_eq
    have hkey := hfits (countKey key)
    rw [countOf_countKey] at hkey
    omega
  rw [hone.count_eq]
  exact lookup_insert_count hsucc

/-- A tuple with the counter of its pair is not in the log. -/
theorem Numbered.not_mem {left : Nat} {key : AssetId × AssetId} {who : AccountId}
    (hp : Numbered cfg left p) :
    (countOf p.1 key, who, p.1.blockNumber, countKey key) ∉ p.2.map Prod.fst := by
  intro hmem
  obtain ⟨r, hr, heq⟩ := List.mem_map.mp hmem
  rcases hp.below r hr with hlt | ⟨-, hlt⟩
  · rw [heq] at hlt
    exact UInt32.lt_irrefl _ hlt
  · rw [heq] at hlt
    exact Nat.lt_irrefl _ hlt

/-- A call that registers an intention. -/
theorem Numbered.register {left : Nat} {key : AssetId × AssetId} {who : AccountId}
    {i : Intention AccountId Hash} {total : UInt32} (hp : Numbered cfg (left + 1) p)
    (hblock : s'.blockNumber = p.1.blockNumber)
    (hone : RegistersOne cfg p.1 s' e key who i total) :
    Numbered cfg left (s', p.2 ++ registrations p.1 s' e) := by
  have hraised := hp.count_raised hone
  rw [hone.registrations_eq]
  refine ⟨?_, ?_, ?_, ?_⟩
  · rw [List.map_append, List.map_singleton]
    exact hp.nodup.append (List.nodup_singleton _) (by simpa using hp.not_mem)
  · intro r hr
    rcases List.mem_append.mp hr with hr | hr
    · exact hp.ids r hr
    · rw [List.mem_singleton.mp hr]
      exact hone.id_eq
  · intro r hr
    rw [hblock, hraised]
    rcases List.mem_append.mp hr with hr | hr
    · rcases hp.below r hr with hlt | ⟨heq, hlt⟩
      · exact Or.inl hlt
      · exact Or.inr ⟨heq, Nat.lt_of_lt_of_le hlt (Nat.le_add_right _ _)⟩
    · rw [List.mem_singleton.mp hr]
      refine Or.inr ⟨rfl, ?_⟩
      show (countOf p.1 key).toNat < ((p.1.intentionCount.lookup (countKey key)).getD 0).toNat
        + if countKey key = countKey key then 1 else 0
      rw [if_pos rfl]
      exact Nat.lt_succ_self _
  · refine hp.fits.imp_right fun hfits key' => ?_
    have hkey := hfits key'
    rw [hraised]
    split_ifs <;> omega

/-- One call. -/
theorem Numbered.submit {left : Nat} (hp : Numbered cfg (left + 1) p)
    (h : submitLogged cfg p e = .ok p') :
    Numbered cfg left p' ∧ p'.1.blockNumber = p.1.blockNumber := by
  unfold submitLogged at h
  cases hd : e.dispatch cfg p.1 with
  | error failure =>
      rw [hd] at h
      cases failure with
      | dispatch error =>
          cases h
          exact ⟨hp.skip rfl rfl, rfl⟩
      | panic panic => cases h
  | ok s' =>
      rw [hd] at h
      cases h
      obtain ⟨hblock, ⟨hnone, hcount⟩ | ⟨key, who, i, total, hone⟩⟩ := dispatch_registrations hd
      · rw [hnone, List.append_nil]
        exact ⟨hp.skip hblock hcount, hblock⟩
      · exact ⟨hp.register hblock hone, hblock⟩

/-- The calls of a block. -/
theorem Numbered.submits {calls : List (Extrinsic AccountId)} (hp : Numbered cfg calls.length p)
    (h : calls.foldlM (submitLogged cfg) p = .ok p') :
    Numbered cfg 0 p' ∧ p'.1.blockNumber = p.1.blockNumber := by
  have hall := foldlM_induction
    (I := fun q calls => Numbered cfg calls.length q ∧ q.1.blockNumber = p.1.blockNumber)
    (fun q e calls q' hq hstep => ?_) ⟨hp, rfl⟩ h
  · exact hall
  · obtain ⟨hnext, hblock⟩ := hq.1.submit hstep
    exact ⟨hnext, hblock.trans hq.2⟩

/-! ## All blocks -/

/-- What holds of the log between blocks, with `blocks` to come. -/
structure Unrepeated (cfg : Config AccountId Hash)
    (blocks : List (BlockNumber × List (Extrinsic AccountId)))
    (p : State AccountId Hash × List (IdTuple AccountId × Intention AccountId Hash)) : Prop where
  counts : p.1.intentionCount = ∅
  nodup : (p.2.map Prod.fst).Nodup
  ids : ∀ r ∈ p.2, r.2.intentionId = cfg.hashIntention r.1
  earlier : ∀ r ∈ p.2, ∀ block ∈ blocks, r.1.block < block.1
  increasing : (blocks.map Prod.fst).Pairwise (· < ·)
  fits : cfg.overflowChecks = true ∨ ∀ block ∈ blocks, block.2.length < 2 ^ 32

/-- One block. -/
theorem Unrepeated.runBlock {block : BlockNumber × List (Extrinsic AccountId)}
    {blocks : List (BlockNumber × List (Extrinsic AccountId))}
    (hp : Unrepeated cfg (block :: blocks) p) (h : Exchange.runBlock cfg p block = .ok p') :
    Unrepeated cfg blocks p' := by
  obtain ⟨q, hcalls, h⟩ := bind_eq_ok.mp h
  obtain ⟨s, hfinalize, h⟩ := bind_eq_ok.mp h
  cases h
  have hstart : Numbered cfg block.2.length
      ({ p.1 with blockNumber := block.1, events := [] }, p.2) := by
    refine ⟨hp.nodup, hp.ids, fun r hr => Or.inl (hp.earlier r hr block List.mem_cons_self), ?_⟩
    refine hp.fits.imp_right fun hfits key => ?_
    show ((p.1.intentionCount.lookup key).getD 0).toNat + block.2.length < 2 ^ 32
    rw [hp.counts]
    have hlength := hfits block List.mem_cons_self
    show 0 + block.2.length < 2 ^ 32
    omega
  obtain ⟨hend, hblock⟩ := hstart.submits hcalls
  have hblock : q.1.blockNumber = block.1 := hblock
  obtain ⟨hnumber, hincreasing⟩ := List.pairwise_cons.mp hp.increasing
  refine ⟨?_, hend.nodup, hend.ids, fun r hr block' hblock' => ?_, hincreasing, ?_⟩
  · obtain ⟨t, -, ht⟩ := bind_eq_ok.mp hfinalize
    cases ht
    rfl
  · -- what was registered up to here is not of a later block
    have hlt : block.1 < block'.1 := hnumber block'.1 (List.mem_map_of_mem hblock')
    have hle := hend.below r hr
    rw [hblock] at hle
    rcases hle with hle | ⟨heq, -⟩
    · exact UInt32.lt_trans hle hlt
    · rw [heq]
      exact hlt
  · exact hp.fits.imp_right fun hfits block' hblock' =>
      hfits block' (List.mem_cons_of_mem block hblock')

/-- **Intention ids are unique over the life of the chain.** For every run of blocks with
increasing numbers and any calls, successful or not, the bytes that are hashed for the registered
intentions are pairwise different, and so are the ids if the hash does not collide on them. -/
theorem intention_ids_unique (cfg : Config AccountId Hash) (encodeAccount : AccountId → List UInt8)
    (hencode : FixedLength encodeAccount) (s₀ : State AccountId Hash)
    (hstart : s₀.intentionCount = ∅) (blocks : List (BlockNumber × List (Extrinsic AccountId)))
    (hincreasing : (blocks.map Prod.fst).Pairwise (· < ·))
    (hfits : cfg.overflowChecks = true ∨ ∀ block ∈ blocks, block.2.length < 2 ^ 32)
    (s : State AccountId Hash) (log : List (IdTuple AccountId × Intention AccountId Hash))
    (h : blocks.foldlM (runBlock cfg) (s₀, []) = .ok (s, log)) :
    (log.map fun r => IdTuple.encode encodeAccount r.1).Nodup ∧
    (∀ r ∈ log, r.2.intentionId = cfg.hashIntention r.1) ∧
    ((∀ r ∈ log, ∀ r' ∈ log, cfg.hashIntention r.1 = cfg.hashIntention r'.1 →
        IdTuple.encode encodeAccount r.1 = IdTuple.encode encodeAccount r'.1) →
      (log.map fun r => r.2.intentionId).Nodup) := by
  have hfirst : Unrepeated cfg blocks (s₀, []) :=
    ⟨hstart, List.nodup_nil, fun _ hr => absurd hr List.not_mem_nil,
      fun _ hr => absurd hr List.not_mem_nil, hincreasing, hfits⟩
  have hend : Unrepeated cfg [] (s, log) :=
    foldlM_induction (I := fun p blocks => Unrepeated cfg blocks p)
      (fun _ _ _ _ hp hstep => hp.runBlock hstep) hfirst h
  have hinj := IdTuple.encode_injective hencode
  have hmap : (log.map fun r => IdTuple.encode encodeAccount r.1)
      = (log.map Prod.fst).map (IdTuple.encode encodeAccount) := by
    rw [List.map_map]
    rfl
  refine ⟨?_, hend.ids, fun hcollide => ?_⟩
  · rw [hmap]
    exact hend.nodup.map hinj
  · have hids : (log.map fun r => r.2.intentionId) = (log.map Prod.fst).map cfg.hashIntention := by
      rw [List.map_map]
      exact List.map_congr_left hend.ids
    rw [hids]
    refine hend.nodup.map_on fun t ht t' ht' heq => ?_
    obtain ⟨r, hr, rfl⟩ := List.mem_map.mp ht
    obtain ⟨r', hr', rfl⟩ := List.mem_map.mp ht'
    exact hinj (hcollide r hr r' hr' heq)

/-! ### Two blocks -/

/-- Accounts of 32 bytes. -/
abbrev AccountId32 := List.Vector UInt8 32

/-- The account that begins with the given bytes. -/
def AccountId32.ofBytes (bytes : List UInt8) : AccountId32 :=
  ⟨(bytes ++ List.replicate 32 0).take 32, by simp⟩

theorem fixedLength_toList : FixedLength (List.Vector.toList : AccountId32 → List UInt8) :=
  ⟨List.Vector.toList_injective, 32, List.Vector.toList_length⟩

/-- A chain with accounts of 32 bytes, whose build does not check for overflow. -/
def wideCfg : Config AccountId32 (IdTuple AccountId32) where
  currency := Currency.tokens
  math := HydraDxMath.exact
  hashAccount := AccountId32.ofBytes
  hashIntention := id
  nativeAssetId := CORE_ASSET_ID
  getExchangeFee := Fee.default
  overflowChecks := false
  iterOrder := id
  iterOrder_perm := Dev.perm_id

/-- Everybody has 10000 of every asset, and there is a pool of the assets `1` and `2`. -/
def wideStart : State AccountId32 (IdTuple AccountId32) where
  ledger :=
    { free := fun _ _ => 10000
      reserved := fun _ _ => 0
      miscFrozen := fun _ _ => 0
      feeFrozen := fun _ _ => 0
      issuance := fun _ => 10 ^ 9 }
  registry := { coreAssetId := CORE_ASSET_ID, nextAssetId := 11, assetIds := fun _ => none }
  shareToken := fun w => if w = XYK.getPairId wideCfg ⟨1, 2⟩ then some 10 else none
  totalLiquidity := fun _ => 10000
  poolAssets := fun w => if w = XYK.getPairId wideCfg ⟨1, 2⟩ then some (1, 2) else none
  intentionCount := ∅
  intentions := fun _ => []
  blockNumber := 0
  events := []

/-- One account sells in both directions, one call fails, and the first call is made once more in
a later block. -/
def twoBlocks : List (BlockNumber × List (Extrinsic AccountId32)) :=
  [(1, [.sell (AccountId32.ofBytes [2]) 1 2 1000 1 false,
      .sell (AccountId32.ofBytes [2]) 1 3 1000 1 false,
      .sell (AccountId32.ofBytes [2]) 2 1 1000 500 false]),
    (5, [.sell (AccountId32.ofBytes [2]) 1 2 1000 1 false])]

theorem intention_ids_unique_twoBlocks :
    Succeeds (twoBlocks.foldlM (runBlock wideCfg) (wideStart, [])) fun p =>
      p.2.length = 3 ∧ (p.2.map fun r => IdTuple.encode List.Vector.toList r.1).Nodup ∧
      (p.2.map fun r => r.2.intentionId).Nodup := by
  obtain ⟨p, hp, hlength⟩ : Succeeds (twoBlocks.foldlM (runBlock wideCfg) (wideStart, []))
      fun p => p.2.length = 3 := by
    decide +kernel
  obtain ⟨hbytes, -, hids⟩ := intention_ids_unique wideCfg List.Vector.toList fixedLength_toList
    wideStart rfl twoBlocks (by decide) (Or.inr (by decide)) p.1 p.2 hp
  exact ⟨p, hp, hlength, hbytes, hids fun r _ r' _ heq => congrArg _ heq⟩

end HydraDX.Exchange
