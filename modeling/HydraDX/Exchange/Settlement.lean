import HydraDX.Exchange.Log
import HydraDX.Lib.Tally

set_option autoImplicit false

/-! # What becomes of each intention

The events of a block record every direct trade and every AMM trade with the ids of the
intentions it is made for. `flow id` reads off an event what the intention `id` gave and
got, and its tally over the events is what it gave and got in all.

`SettlementRule` lists what has to be shown about single steps so that every intention ends
up with a tally that is `Done`: about an AMM trade for a whole intention, about a direct
trade in an iteration that meets `P`, and about what is left of a main intention at the end.
`SettlementRule.onFinalize` is the rule: it says so of all intentions of a block. The calls of
the block are followed one by one; each settles the intentions of which it decides what becomes
of them, and their ids keep them apart. -/

namespace HydraDX.Exchange

open Tally

variable {AccountId Hash : Type} [DecidableEq AccountId] (cfg : Config AccountId Hash)

/-- What an AMM trade gives to the pool and gets from it. A buy gives `amountOut`. -/
def ammFlow (intentionType : IntentionType) (t : AMMTransfer AccountId) : Nat × Nat :=
  match intentionType with
  | .SELL => (t.amount, t.amountOut)
  | .BUY => (t.amountOut, t.amount)

/-- What the intention `id` gave and got by the event. Fees of direct trades do not count. -/
def flow [DecidableEq Hash] (id : Hash) : Event AccountId Hash → Nat × Nat
  | .IntentionResolvedDirectTrade _ _ idA idB fromA fromB =>
      (if idA = id then (fromA, fromB) else 0) + (if idB = id then (fromB, fromA) else 0)
  | .IntentionResolvedAMMTrade _ .SELL id' amount amountOut =>
      if id' = id then (amount, amountOut) else 0
  | .IntentionResolvedAMMTrade _ .BUY id' amount amountOut =>
      if id' = id then (amountOut, amount) else 0
  | _ => 0

/-- What the AMM leg of a matched intention gives and gets. -/
def legFlow (matched : Intention AccountId Hash) : Scenario AccountId → Nat × Nat
  | .split t => ammFlow matched.sellOrBuy t
  | _ => 0

/-- The copy is of the main intention: only amounts and limit may differ. -/
structure CopyOf (intention copy : Intention AccountId Hash) : Prop where
  who : copy.who = intention.who
  assets : copy.assets = intention.assets
  discount : copy.discount = intention.discount
  sellOrBuy : copy.sellOrBuy = intention.sellOrBuy
  intentionId : copy.intentionId = intention.intentionId

/-- What single steps have to do so that every intention ends up `Done`. `Ok` is what is
known of every registered intention, and `Part i copy τ` what is known of the main intention
`i` when `copy` is left of it and `τ` is its tally. -/
structure SettlementRule (P : IterationCond AccountId Hash) (Ok : Intention AccountId Hash → Prop)
    (Done : Intention AccountId Hash → Nat × Nat → Prop)
    (Part : Intention AccountId Hash → Intention AccountId Hash → Nat × Nat → Prop) : Prop where
  untouched : ∀ i, Ok i → Done i 0
  amm : ∀ i s t, Ok i → validateIntention cfg i s = .ok t → Done i (ammFlow i.sellOrBuy t)
  start : ∀ i, Ok i → Part i i 0
  trade : ∀ pairAccount i s copy matched scenario fromA fromB copy' τ,
    Ok i → Ok matched → CopyOf i copy → Part i copy τ → P pairAccount i (s, copy) matched →
    Prepares cfg i s copy matched scenario fromA fromB →
    nextCopy cfg copy matched scenario = .ok copy' →
      Part i copy' (τ + (fromA, fromB)) ∧ Done matched ((fromB, fromA) + legFlow matched scenario)
  finish : ∀ i copy τ, Ok i → Part i copy τ → Done i τ
  finishAmm : ∀ i s copy τ t, Ok i → CopyOf i copy → 0 < copy.amountIn → Part i copy τ →
    validateIntention cfg copy s = .ok t → Done i (τ + ammFlow copy.sellOrBuy t)

/-- The intentions of a pair: those that sell the second asset, which are the main ones, then
those that sell the first. -/
def pairIntentions (s : State AccountId Hash) (key : AssetId × AssetId) :
    List (Intention AccountId Hash) :=
  s.intentions (key.2, key.1) ++ s.intentions (key.1, key.2)

/-- What holds of the intentions of a block: the ids are pairwise different, and intentions
are counted under the pair with the smaller asset id first. -/
structure Registered (s : State AccountId Hash) : Prop where
  ids_nodup : ∀ key, ((s.intentions key).map (·.intentionId)).Nodup
  ids_ne : ∀ key key', key ≠ key' → ∀ i ∈ s.intentions key, ∀ j ∈ s.intentions key',
    i.intentionId ≠ j.intentionId
  ordered : ∀ key ∈ s.intentionCount.keys, key.1 < key.2

section Pairs

variable {AccountId Hash : Type} {s : State AccountId Hash} {key key' : AssetId × AssetId}
  {i : Intention AccountId Hash}

theorem mem_pairIntentions :
    i ∈ pairIntentions s key ↔ ∃ k, (k = (key.2, key.1) ∨ k = key) ∧ i ∈ s.intentions k := by
  rw [pairIntentions, List.mem_append]
  constructor
  · rintro (h | h)
    · exact ⟨_, Or.inl rfl, h⟩
    · exact ⟨_, Or.inr rfl, h⟩
  · rintro ⟨_, rfl | rfl, h⟩
    · exact Or.inl h
    · exact Or.inr h

theorem Registered.pair_nodup (h : Registered s) (hlt : key.1 < key.2) :
    ((pairIntentions s key).map (·.intentionId)).Nodup := by
  rw [pairIntentions, List.map_append, List.nodup_append]
  refine ⟨h.ids_nodup _, h.ids_nodup _, fun a ha b hb => ?_⟩
  obtain ⟨i, hi, rfl⟩ := List.mem_map.mp ha
  obtain ⟨j, hj, rfl⟩ := List.mem_map.mp hb
  refine h.ids_ne _ _ (fun he => ?_) i hi j hj
  rw [Prod.mk.injEq] at he
  rw [he.1] at hlt
  exact UInt32.lt_irrefl _ hlt

/-- Different pairs have different intentions. -/
theorem Registered.pairs_ne (h : Registered s) (hlt : key.1 < key.2) (hlt' : key'.1 < key'.2)
    (hne : key ≠ key') :
    ∀ a ∈ pairIntentions s key, ∀ b ∈ pairIntentions s key', a.intentionId ≠ b.intentionId := by
  intro a ha b hb
  obtain ⟨k, hk, ha⟩ := mem_pairIntentions.mp ha
  obtain ⟨k', hk', hb⟩ := mem_pairIntentions.mp hb
  refine h.ids_ne k k' (fun he => ?_) a ha b hb
  obtain ⟨x, y⟩ := key
  obtain ⟨x', y'⟩ := key'
  subst he
  simp only [Prod.mk.injEq, ne_eq] at hk hk' hne hlt hlt'
  have hlt₁ := UInt32.lt_asymm hlt
  grind

/-- The intentions of a counted pair, those of the first group first. -/
theorem mainsOf_append_othersOf (hcount : (s.intentionCount.lookup key).getD 0 ≠ 0) :
    (mainsOf s key ++ othersOf s key).Perm (pairIntentions s key) := by
  rw [mainsOf, othersOf, if_neg hcount, if_neg hcount]
  exact (sortByAmountIn_perm _).append (sortByAmountIn_perm _)

theorem mem_pairIntentions_of_groups (h : i ∈ mainsOf s key ++ othersOf s key) :
    i ∈ pairIntentions s key := by
  by_cases hcount : (s.intentionCount.lookup key).getD 0 = 0
  · rw [mainsOf, othersOf, if_pos hcount, if_pos hcount] at h
    cases h
  · exact (mainsOf_append_othersOf hcount).mem_iff.mp h

/-- The ids of the intentions that are processed are pairwise different. -/
theorem Registered.block_nodup (h : Registered s) {keys : List (AssetId × AssetId)}
    (hkeys : keys.Nodup) (hlt : ∀ key ∈ keys, key.1 < key.2) :
    ((keys.flatMap (mainsOf s) ++ keys.flatMap (othersOf s)).map (·.intentionId)).Nodup := by
  have hperm := List.flatMap_append_perm keys (mainsOf s) (othersOf s)
  rw [(hperm.map _).nodup_iff, List.map_flatMap, List.nodup_flatMap]
  refine ⟨fun key hkey => ?_, hkeys.imp_of_mem fun {key key'} hkey hkey' hne id hid hid' => ?_⟩
  · by_cases hcount : (s.intentionCount.lookup key).getD 0 = 0
    · rw [mainsOf, othersOf, if_pos hcount, if_pos hcount]
      exact List.nodup_nil
    · rw [((mainsOf_append_othersOf hcount).map _).nodup_iff]
      exact h.pair_nodup (hlt key hkey)
  · obtain ⟨i, hi, rfl⟩ := List.mem_map.mp hid
    obtain ⟨j, hj, hij⟩ := List.mem_map.mp hid'
    exact h.pairs_ne (hlt key hkey) (hlt key' hkey') hne i (mem_pairIntentions_of_groups hi) j
      (mem_pairIntentions_of_groups hj) hij.symm

/-- An intention is known by its id. -/
theorem Registered.eq_of_id (h : Registered s) {j : Intention AccountId Hash}
    (hi : i ∈ s.intentions key) (hj : j ∈ s.intentions key') (he : i.intentionId = j.intentionId) :
    i = j := by
  by_cases hk : key = key'
  · subst hk
    exact List.inj_on_of_nodup_map (h.ids_nodup key) hi hj he
  · exact absurd he (h.ids_ne key key' hk i hi j hj)

end Pairs

/-- The ids of the intentions of the calls are pairwise different. -/
theorem Registered.processed_nodup {s : State AccountId Hash}
    (h : Registered s) (cfg : Config AccountId Hash) :
    (((cfg.iterOrder s.intentionCount.keys).flatMap (mainsOf s) ++
      (cfg.iterOrder s.intentionCount.keys).flatMap (othersOf s)).map (·.intentionId)).Nodup :=
  have hperm := cfg.iterOrder_perm s.intentionCount.keys
  h.block_nodup (hperm.nodup_iff.mpr s.intentionCount.keys_nodup) fun key hkey =>
    h.ordered key (hperm.mem_iff.mp hkey)

section Flows

variable {AccountId Hash : Type} [DecidableEq Hash]

omit [DecidableEq Hash] in
theorem CopyOf.refl (intention : Intention AccountId Hash) : CopyOf intention intention :=
  ⟨rfl, rfl, rfl, rfl, rfl⟩

theorem tally_tradedEvents (id id' : Hash) (intentionType : IntentionType)
    (t : AMMTransfer AccountId) :
    tally flow id (tradedEvents intentionType id' t)
      = if id' = id then ammFlow intentionType t else 0 := by
  cases intentionType <;> simp [tally, tradedEvents, flow, ammFlow]

theorem tally_legEvents (id : Hash) (matched : Intention AccountId Hash)
    (scenario : Scenario AccountId) :
    tally flow id (legEvents matched scenario)
      = if matched.intentionId = id then legFlow matched scenario else 0 := by
  cases scenario with
  | split t => exact tally_tradedEvents id _ _ t
  | complete => simp [tally, legEvents, legFlow]
  | exactMatch => simp [tally, legEvents, legFlow]

theorem tally_reports {id : Hash} {E : List (Event AccountId Hash)}
    (reports : List (Event AccountId Hash)) (h : ∀ e ∈ reports, isReport e = true) :
    tally flow id (E ++ reports) = tally flow id E := by
  have hzero : tally flow id reports = 0 := by
    refine tally_eq_zero fun e he => ?_
    have := h e he
    cases e <;> first | rfl | cases this
  rw [tally_append, hzero, add_zero]

theorem tally_sendIntentionErrorEvent (id : Hash) (i : Intention AccountId Hash)
    (error : DispatchError) (s : State AccountId Hash) :
    tally flow id (sendIntentionErrorEvent i error s).events = tally flow id s.events :=
  tally_reports [_] (by simp [isReport])

end Flows

section Steps

variable {cfg} {s s' : State AccountId Hash} {pairAccount : AccountId}
  {intention copy copy' matched : Intention AccountId Hash} {scenario : Scenario AccountId}
  {fromA fromB : Nat}

/-- What an executed direct trade adds to the tallies: the AMM leg and the direct trade. -/
theorem Traded.tally_eq [DecidableEq Hash]
    (h : Traded cfg pairAccount intention s copy matched scenario fromA fromB s' copy')
    (id : Hash) :
    tally flow id s'.events = tally flow id s.events +
      ((if copy.intentionId = id then (fromA, fromB) else 0) +
        if matched.intentionId = id then (fromB, fromA) + legFlow matched scenario else 0) := by
  obtain ⟨fees, hfees, hevents⟩ := h.events
  have hzero : tally flow id fees = 0 := by
    refine tally_eq_zero fun e he => ?_
    obtain ⟨_, _, _, _, _, rfl⟩ := hfees e he
    rfl
  rw [hevents, tally_append, tally_append, tally_cons, hzero, tally_legEvents, flow]
  split_ifs <;> ring

/-- The next copy is still of the main intention. -/
theorem CopyOf.next (h : CopyOf intention copy)
    (hnext : nextCopy cfg copy matched scenario = .ok copy') : CopyOf intention copy' := by
  have hzero : CopyOf intention { copy with amountIn := 0 } :=
    ⟨h.who, h.assets, h.discount, h.sellOrBuy, h.intentionId⟩
  cases scenario with
  | split t => cases hnext; exact hzero
  | exactMatch => cases hnext; exact hzero
  | complete =>
      simp only [nextCopy, restOfMain, Fallible.bind_eq_ok] at hnext
      obtain ⟨_, -, _, -, hnext⟩ := hnext
      cases hb : copy.sellOrBuy with
      | SELL =>
          rw [hb] at hnext
          cases hnext
          exact ⟨h.who, h.assets, h.discount, hb ▸ h.sellOrBuy, h.intentionId⟩
      | BUY =>
          rw [hb] at hnext
          simp only [Fallible.bind_eq_ok] at hnext
          obtain ⟨_, -, hnext⟩ := hnext
          cases hnext
          exact ⟨h.who, h.assets, h.discount, hb ▸ h.sellOrBuy, h.intentionId⟩

end Steps

/-! ## The loops -/

namespace SettlementRule

variable [DecidableEq Hash] {cfg} {P : IterationCond AccountId Hash}
  {Ok : Intention AccountId Hash → Prop} {Done : Intention AccountId Hash → Nat × Nat → Prop}
  {Part : Intention AccountId Hash → Intention AccountId Hash → Nat × Nat → Prop}
  (rule : SettlementRule cfg P Ok Done Part)
  {s s' : State AccountId Hash} {pairAccount : AccountId} {i copy copy' : Intention AccountId Hash}

include rule

/-- One iteration: what it does to the main intention, to the matched one and to all others.
The tally of the main intention is counted from a base: what it was before the iterations. -/
theorem resolveStep {m : Intention AccountId Hash} (hi : Ok i) (hm : Ok m)
    (him : i.intentionId ≠ m.intentionId) (hP : P pairAccount i (s, copy) m)
    (hcopy : CopyOf i copy) {base τ : Nat × Nat} (hpart : Part i copy τ)
    (hτ : tally flow i.intentionId s.events = base + τ)
    (h : resolveMatched cfg pairAccount i (s, copy) m = .ok (s', copy')) :
    CopyOf i copy' ∧
    (∃ τ', Part i copy' τ' ∧ tally flow i.intentionId s'.events = base + τ') ∧
    (tally flow m.intentionId s.events = 0 → Done m (tally flow m.intentionId s'.events)) ∧
    (∀ id, i.intentionId ≠ id → m.intentionId ≠ id →
      tally flow id s'.events = tally flow id s.events) := by
  rcases resolveMatched_cases h with ⟨scenario, fromA, fromB, ht⟩ | ⟨-, hn⟩
  · obtain ⟨hpart', hdone⟩ := rule.trade pairAccount i s copy m scenario fromA fromB copy' _
      hi hm hcopy hpart hP ht.trades.1 ht.copy_eq
    refine ⟨hcopy.next ht.copy_eq, ⟨_, hpart', ?_⟩, fun hz => ?_, fun id hid hmid => ?_⟩
    · rw [ht.tally_eq, if_pos hcopy.intentionId, if_neg (Ne.symm him), hτ, add_zero, add_assoc]
    · rw [ht.tally_eq, hcopy.intentionId, if_neg him, if_pos rfl, zero_add, hz, zero_add]
      exact hdone
    · rw [ht.tally_eq, hcopy.intentionId, if_neg hid, if_neg hmid, add_zero, add_zero]
  · -- No trade: only errors are reported, which carry no amounts.
    obtain ⟨reports, hreports, hevents⟩ := hn.events
    have hsame : ∀ id, tally flow id s'.events = tally flow id s.events := fun id => by
      rw [hevents, tally_reports reports hreports]
    refine ⟨hn.copy_eq ▸ hcopy, ⟨τ, hn.copy_eq ▸ hpart, by rw [hsame, hτ]⟩, fun hz => ?_,
      fun id _ _ => hsame id⟩
    rw [hsame, hz]
    exact rule.untouched m hm

/-- The iterations for one main intention: the matched ones are settled, and what is known of
the main one is carried on. -/
theorem resolveLoop {bvec : List (Intention AccountId Hash)} (hi : Ok i) (hok : ∀ m ∈ bvec, Ok m)
    (hids : ((i :: bvec).map (·.intentionId)).Nodup)
    (hall : Fallible.Always (resolveMatched cfg pairAccount i) (P pairAccount i) (s, copy) bvec)
    (hcopy : CopyOf i copy) {base τ : Nat × Nat} (hpart : Part i copy τ)
    (hτ : tally flow i.intentionId s.events = base + τ)
    (h : bvec.foldlM (resolveMatched cfg pairAccount i) (s, copy) = .ok (s', copy')) :
    CopyOf i copy' ∧
    (∃ τ', Part i copy' τ' ∧ tally flow i.intentionId s'.events = base + τ') ∧
    (∀ m ∈ bvec, tally flow m.intentionId s.events = 0 →
      Done m (tally flow m.intentionId s'.events)) ∧
    (∀ id, (∀ m ∈ i :: bvec, m.intentionId ≠ id) →
      tally flow id s'.events = tally flow id s.events) := by
  induction bvec generalizing s copy τ with
  | nil =>
      rw [Fallible.foldlM_nil_eq_ok] at h
      cases h
      exact ⟨hcopy, ⟨τ, hpart, hτ⟩, fun m hm => absurd hm List.not_mem_nil, fun _ _ => rfl⟩
  | cons m bvec ih =>
      obtain ⟨⟨s₁, copy₁⟩, hstep, hrest⟩ := Fallible.foldlM_cons_eq_ok.mp h
      obtain ⟨hP, hall'⟩ := hall
      simp only [List.map_cons, List.nodup_cons, List.mem_cons, not_or] at hids
      obtain ⟨⟨him, hi_bvec⟩, hm_bvec, hbvec⟩ := hids
      have hids' : ((i :: bvec).map (·.intentionId)).Nodup := by
        rw [List.map_cons, List.nodup_cons]
        exact ⟨hi_bvec, hbvec⟩
      have hok' : ∀ m' ∈ bvec, Ok m' := fun m' hm' => hok m' (List.mem_cons_of_mem m hm')
      have hne : ∀ m' ∈ bvec, m'.intentionId ≠ m.intentionId := fun m' hm' he =>
        hm_bvec (List.mem_map.mpr ⟨m', hm', he⟩)
      obtain ⟨hcopy₁, ⟨τ₁, hpart₁, hτ₁⟩, hdone₁, hframe₁⟩ :=
        rule.resolveStep hi (hok m List.mem_cons_self) him hP hcopy hpart hτ hstep
      obtain ⟨hcopy', hpart', hdone', hframe'⟩ :=
        ih hok' hids' (hall' _ hstep) hcopy₁ hpart₁ hτ₁ hrest
      -- the first matched intention is settled by its iteration and not touched by the others
      refine ⟨hcopy', hpart', fun m' hm' hz => ?_, fun id hid => ?_⟩
      · rcases List.mem_cons.mp hm' with rfl | hm'
        · have hrest : ∀ m'' ∈ i :: bvec, m''.intentionId ≠ m'.intentionId := by
            intro m'' hm''
            rcases List.mem_cons.mp hm'' with rfl | hm''
            · exact him
            · exact hne m'' hm''
          rw [hframe' _ hrest]
          exact hdone₁ hz
        · refine hdone' m' hm' ?_
          rw [hframe₁ _ (fun he => hi_bvec (List.mem_map.mpr ⟨m', hm', he.symm⟩))
            (hne m' hm').symm, hz]
      · rw [hframe' id fun m' hm' => hid m' (by
            rcases List.mem_cons.mp hm' with rfl | hm'
            · exact List.mem_cons_self
            · exact List.mem_cons_of_mem _ (List.mem_cons_of_mem _ hm'))]
        exact hframe₁ id (hid i List.mem_cons_self)
          (hid m (List.mem_cons_of_mem _ List.mem_cons_self))

/-- An intention resolved by the AMM alone. -/
theorem resolveSingle (hi : Ok i) :
    Resolves flow (·.intentionId) Done [i] s.events
      (resolveSingleIntention cfg i s).events := by
  rcases resolveSingleIntention_cases cfg i s with ⟨error, h⟩ | ⟨t, hv, h⟩
  · rw [h]
    refine Resolves.of_silent ?_ (fun id => tally_sendIntentionErrorEvent id i error s)
    simpa using rule.untouched i hi
  · rw [h]
    refine ⟨fun j hj hz => ?_, fun id hid => ?_⟩
    · obtain rfl := List.mem_singleton.mp hj
      rw [tally_append, hz, zero_add, tally_tradedEvents, if_pos rfl]
      exact rule.amm j s t hi hv
    · rw [tally_append, tally_tradedEvents, if_neg (hid i (List.mem_singleton.mpr rfl)), add_zero]

/-- What is left of the main intention after the iterations goes to the AMM. -/
theorem resolveCopy (hi : Ok i) (hcopy : CopyOf i copy) {τ : Nat × Nat} (hpart : Part i copy τ)
    (hs' : s' = if copy.amountIn > 0 then resolveSingleIntention cfg copy s else s) :
    ∃ δ, (∀ id, tally flow id s'.events
      = tally flow id s.events + if i.intentionId = id then δ else 0) ∧ Done i (τ + δ) := by
  by_cases hin : copy.amountIn > 0
  · rw [if_pos hin] at hs'
    rcases resolveSingleIntention_cases cfg copy s with ⟨error, he⟩ | ⟨t, ht, he⟩
    · refine ⟨0, fun id => ?_, by rw [add_zero]; exact rule.finish i copy τ hi hpart⟩
      rw [hs', he, tally_sendIntentionErrorEvent, ite_self, add_zero]
    · refine ⟨_, fun id => ?_, rule.finishAmm i s copy τ t hi hcopy hin hpart ht⟩
      rw [hs', he, tally_append, tally_tradedEvents, hcopy.intentionId]
  · rw [if_neg hin] at hs'
    refine ⟨0, fun id => ?_, by rw [add_zero]; exact rule.finish i copy τ hi hpart⟩
    rw [hs', ite_self, add_zero]

/-- A call settles the intentions of which it decides what becomes of them. -/
theorem work {w : Work AccountId Hash} (hok : ∀ m ∈ w.intentions, Ok m)
    (hids : (w.intentions.map (·.intentionId)).Nodup) (hfaith : w.Faithful cfg s)
    (hmeets : w.Meets cfg P s) (h : w.run cfg s = .ok s') :
    Resolves flow (·.intentionId) Done w.intentions s.events s'.events := by
  cases w with
  | verify i ok =>
      cases h
      unfold verifyIntention
      cases hv : validateIntention cfg i s with
      | error error =>
          refine Resolves.of_silent (fun m hm => rule.untouched m (hok m hm)) fun id => ?_
          exact tally_sendIntentionErrorEvent id i error s
      | ok transfer =>
          exact Resolves.of_silent (fun m hm => rule.untouched m (hok m hm)) fun _ => rfl
  | single i =>
      cases h
      exact rule.resolveSingle (hok i List.mem_cons_self)
  | matched pairAccount i bvec =>
      obtain ⟨⟨s₁, copy⟩, hloop, h⟩ := Fallible.bind_eq_ok.mp h
      have hi : Ok i := hok i List.mem_cons_self
      -- the main intention and the matched ones have different tallies
      have hnot : ∀ m ∈ bvec, m.intentionId ≠ i.intentionId := fun m hm he =>
        (List.nodup_cons.mp hids).1 (List.mem_map.mpr ⟨m, hm, he⟩)
      obtain ⟨hcopy, ⟨τ, hpart, hτ⟩, hdone, hframe⟩ := rule.resolveLoop hi
        (fun m hm => hok m (List.mem_cons_of_mem i hm)) hids hmeets (CopyOf.refl i)
        (rule.start i hi) (add_zero _).symm hloop
      obtain ⟨δ, hδ, hdone_i⟩ := rule.resolveCopy hi hcopy hpart (Except.ok.inj h).symm
      refine ⟨fun m hm hz => ?_, fun id hid => ?_⟩
      · rcases List.mem_cons.mp hm with rfl | hm
        · rw [hδ, if_pos rfl, hτ, hz, zero_add]
          exact hdone_i
        · rw [hδ, if_neg (hnot m hm).symm, add_zero]
          exact hdone m hm hz
      · rw [hδ, if_neg (hid i List.mem_cons_self), add_zero]
        exact hframe id hid

/-- Calls one after the other, about different intentions. -/
theorem works {works : List (Work AccountId Hash)}
    (hok : ∀ m ∈ works.flatMap Work.intentions, Ok m)
    (hids : ((works.flatMap Work.intentions).map (·.intentionId)).Nodup)
    (hfaith : Fallible.Always (Work.run cfg) (Work.Faithful cfg) s works)
    (hmeets : Fallible.Always (Work.run cfg) (Work.Meets cfg P) s works)
    (h : works.foldlM (Work.run cfg) s = .ok s') :
    Resolves flow (·.intentionId) Done (works.flatMap Work.intentions) s.events s'.events := by
  induction works generalizing s with
  | nil =>
      rw [Fallible.foldlM_nil_eq_ok] at h
      cases h
      exact Resolves.nil
  | cons w works ih =>
      obtain ⟨s₁, hstep, hrest⟩ := Fallible.foldlM_cons_eq_ok.mp h
      rw [List.flatMap_cons] at hok hids ⊢
      rw [List.map_append, List.nodup_append] at hids
      obtain ⟨hids₁, hids₂, hne⟩ := hids
      have hone := rule.work (fun m hm => hok m (List.mem_append_left _ hm)) hids₁ hfaith.1 hmeets.1
        hstep
      have hall := ih (fun m hm => hok m (List.mem_append_right _ hm)) hids₂ (hfaith.2 _ hstep)
        (hmeets.2 _ hstep) hrest
      exact hone.append hall fun a ha b hb =>
        hne _ (List.mem_map_of_mem ha) _ (List.mem_map_of_mem hb)

/-- **Every intention of a block ends up done**, if the steps that concern it do what the
rule asks for. -/
theorem onFinalize (hreg : Registered s) (hok : ∀ key, ∀ i ∈ s.intentions key, Ok i)
    (hfresh : ∀ id, tally flow id s.events = 0) (hall : EveryIteration cfg P s)
    (h : Exchange.onFinalize cfg s = .ok s') :
    ∀ key, ∀ i ∈ s.intentions key, Done i (tally flow i.intentionId s'.events) := by
  obtain ⟨t, log, hlog, rfl⟩ := onFinalize_iff_log.mp h
  have hspec := finalizeLog_spec hall hlog
  have hperm := hspec.intentions_perm
  have hids := (hperm.map (·.intentionId)).nodup_iff.mpr (hreg.processed_nodup cfg)
  -- what is decided is registered under some key
  have hmem : ∀ m ∈ log.flatMap Work.intentions, ∃ key, m ∈ s.intentions key := by
    intro m hm
    rcases List.mem_append.mp (hperm.mem_iff.mp hm) with hm | hm
    · obtain ⟨key, -, hm⟩ := List.mem_flatMap.mp hm
      obtain ⟨k, -, hk⟩ := mem_pairIntentions.mp
        (mem_pairIntentions_of_groups (List.mem_append_left _ hm))
      exact ⟨k, hk⟩
    · obtain ⟨key, -, hm⟩ := List.mem_flatMap.mp hm
      obtain ⟨k, -, hk⟩ := mem_pairIntentions.mp
        (mem_pairIntentions_of_groups (List.mem_append_right _ hm))
      exact ⟨k, hk⟩
  have hres := rule.works (fun m hm => (hmem m hm).elim fun key hkey => hok key m hkey) hids
    hspec.faithful hspec.meets hspec.run
  intro key i hi
  show Done i (tally flow i.intentionId t.events)
  by_cases hin : i ∈ log.flatMap Work.intentions
  · exact hres.done i hin (hfresh _)
  · -- An intention whose pair is not counted is not touched: no other one has its id.
    rw [hres.frame i.intentionId, hfresh]
    · exact rule.untouched i (hok key i hi)
    · intro j hj he
      obtain ⟨key', hj'⟩ := hmem j hj
      exact hin (hreg.eq_of_id hj' hi he ▸ hj)

end SettlementRule

end HydraDX.Exchange
