import HydraDX.Exchange.Log
import HydraDX.Exchange.Limits

set_option autoImplicit false

/-! # The history of one intention

The events that say what became of an intention carry its id. Its history is the list of these
events; what it gave and got, and whether anything was reported about it, is read off there.

A call that finalizing makes decides what becomes of certain intentions (`Work.intentions`) and
adds to their histories only; every intention of a block is decided by one call. So the history
of an intention over a whole block is what this one call adds (`Logs.cut`). For an intention of
the second group the call is cut once more, at the iteration for it: such an intention is traded
as a whole or not at all (`second_group_whole`). -/

namespace HydraDX.Exchange

open Tally Fallible

variable {AccountId Hash : Type} [DecidableEq Hash]

/-- The event says what became of the intention `id`. -/
def concerns (id : Hash) : Event AccountId Hash → Bool
  | .IntentionResolvedAMMTrade _ _ id' _ _ => id' = id
  | .IntentionResolvedDirectTrade _ _ idA idB _ _ => idA = id ∨ idB = id
  | .InsufficientAssetBalanceEvent _ _ _ id' _ => id' = id
  | .IntentionResolveErrorEvent _ _ _ id' _ => id' = id
  | _ => false

/-- What became of the intention `id`. -/
def history (id : Hash) (s : State AccountId Hash) : List (Event AccountId Hash) :=
  s.events.filter (concerns id)

theorem flow_eq_zero {id : Hash} {e : Event AccountId Hash} (h : concerns id e = false) :
    flow id e = 0 := by
  cases e with
  | IntentionResolvedAMMTrade who type id' amount amountOut =>
      have hne : id' ≠ id := of_decide_eq_false h
      cases type with
      | SELL => simp [flow, hne]
      | BUY => simp [flow, hne]
  | IntentionResolvedDirectTrade whoA whoB idA idB fromA fromB =>
      obtain ⟨hA, hB⟩ := not_or.mp (of_decide_eq_false h)
      simp [flow, hA, hB]
  | _ => rfl

/-- What is added up over the events of an intention is in its history. -/
theorem tally_history {contrib : Hash → Event AccountId Hash → Nat × Nat} {id : Hash}
    (hzero : ∀ e, concerns id e = false → contrib id e = 0) (s : State AccountId Hash) :
    tally contrib id s.events = tally contrib id (history id s) := by
  unfold history
  induction s.events with
  | nil => rfl
  | cons e E ih =>
      rw [List.filter_cons, tally_cons]
      cases hc : concerns id e with
      | true => rw [if_pos rfl, tally_cons, ih]
      | false => rw [if_neg Bool.false_ne_true, hzero e hc, ih, zero_add]

theorem tally_eq_of_history {id : Hash} {s s' : State AccountId Hash}
    (h : history id s' = history id s) : tally flow id s'.events = tally flow id s.events := by
  rw [tally_history (fun _ => flow_eq_zero) s', h, ← tally_history (fun _ => flow_eq_zero) s]

/-- An intention of which nothing has become has given and got nothing. -/
theorem tally_eq_zero_of_history {id : Hash} {s : State AccountId Hash} (h : history id s = []) :
    tally flow id s.events = 0 := by
  rw [tally_history (fun _ => flow_eq_zero), h]
  rfl

/-- So has one of which nothing but reports has become. -/
theorem tally_eq_zero_of_reports {id : Hash} {s : State AccountId Hash}
    (h : ∀ e ∈ history id s, isReport e = true) : tally flow id s.events = 0 := by
  have hreports : tally flow id ([] ++ history id s) = tally flow id [] :=
    tally_reports (history id s) h
  rw [List.nil_append] at hreports
  rw [tally_history (fun _ => flow_eq_zero), hreports]
  rfl

/-- `s'` has the events of `s` and more, all of which are about the intentions `ids`. -/
def AddsFor (ids : List Hash) (s s' : State AccountId Hash) : Prop :=
  ∃ E, s'.events = s.events ++ E ∧ ∀ e ∈ E, ∀ id, concerns id e = true → id ∈ ids

theorem AddsFor.refl {ids : List Hash} (s : State AccountId Hash) : AddsFor ids s s :=
  ⟨[], (List.append_nil _).symm, fun _ h => absurd h List.not_mem_nil⟩

theorem AddsFor.trans {ids : List Hash} {s s' s'' : State AccountId Hash} (h : AddsFor ids s s')
    (h' : AddsFor ids s' s'') : AddsFor ids s s'' := by
  obtain ⟨E, hE, hids⟩ := h
  obtain ⟨E', hE', hids'⟩ := h'
  refine ⟨E ++ E', by rw [hE', hE, List.append_assoc], fun e he => ?_⟩
  rcases List.mem_append.mp he with he | he
  · exact hids e he
  · exact hids' e he

theorem AddsFor.mono {ids ids' : List Hash} {s s' : State AccountId Hash} (h : AddsFor ids s s')
    (hsub : ∀ id ∈ ids, id ∈ ids') : AddsFor ids' s s' := by
  obtain ⟨E, hE, hids⟩ := h
  exact ⟨E, hE, fun e he id hc => hsub id (hids e he id hc)⟩

theorem AddsFor.history_eq {ids : List Hash} {s s' : State AccountId Hash} (h : AddsFor ids s s')
    {id : Hash} (hid : id ∉ ids) : history id s' = history id s := by
  obtain ⟨E, hE, hids⟩ := h
  have hnone : E.filter (concerns id) = [] :=
    List.filter_eq_nil_iff.mpr fun e he hc => hid (hids e he id hc)
  rw [history, hE, List.filter_append, hnone, List.append_nil, history]

/-! ## The calls -/

section Calls

variable [DecidableEq AccountId] {cfg : Config AccountId Hash} {s s' : State AccountId Hash}
  {pairAccount : AccountId} {i copy copy' matched : Intention AccountId Hash}

omit [DecidableEq AccountId] in
theorem sendIntentionErrorEvent_addsFor (i : Intention AccountId Hash) (error : DispatchError)
    (s : State AccountId Hash) : AddsFor [i.intentionId] s (sendIntentionErrorEvent i error s) := by
  refine ⟨_, rfl, fun e he id hc => ?_⟩
  rw [List.mem_singleton.mp he] at hc
  exact List.mem_singleton.mpr (of_decide_eq_true hc).symm

omit [DecidableEq AccountId] in
theorem concerns_tradedEvents {intentionType : IntentionType} {id id' : Hash}
    {t : AMMTransfer AccountId} : ∀ e ∈ tradedEvents intentionType id t,
      concerns id' e = true → id' = id := by
  intro e he hc
  simp only [tradedEvents, List.mem_cons, List.not_mem_nil, or_false] at he
  rcases he with rfl | rfl
  · cases intentionType with
    | SELL => cases hc
    | BUY => cases hc
  · exact (of_decide_eq_true hc).symm

theorem resolveSingleIntention_addsFor (i : Intention AccountId Hash) (s : State AccountId Hash) :
    AddsFor [i.intentionId] s (resolveSingleIntention cfg i s) := by
  rcases resolveSingleIntention_cases cfg i s with ⟨error, h⟩ | ⟨t, -, h⟩
  · rw [h]
    exact sendIntentionErrorEvent_addsFor i error s
  · rw [h]
    exact ⟨_, rfl, fun e he id hc => List.mem_singleton.mpr (concerns_tradedEvents e he hc)⟩

/-- An executed trade is about the two intentions. -/
theorem Traded.addsFor {scenario : Scenario AccountId} {fromA fromB : Nat}
    (h : Traded cfg pairAccount i s copy matched scenario fromA fromB s' copy') :
    AddsFor [copy.intentionId, matched.intentionId] s s' := by
  obtain ⟨fees, hfees, hevents⟩ := h.events
  refine ⟨legEvents matched scenario ++ _, by rw [hevents, List.append_assoc],
    fun e he id hc => ?_⟩
  rcases List.mem_append.mp he with he | he
  · -- the AMM leg is one of the matched intention
    have hid : id = matched.intentionId := by
      cases scenario with
      | split t => exact concerns_tradedEvents e he hc
      | complete => cases he
      | exactMatch => cases he
    exact List.mem_cons_of_mem _ (List.mem_singleton.mpr hid)
  · rcases List.mem_cons.mp he with rfl | he
    · rcases of_decide_eq_true hc with hid | hid
      · exact List.mem_cons.mpr (Or.inl hid.symm)
      · exact List.mem_cons_of_mem _ (List.mem_singleton.mpr hid.symm)
    · -- the events of fees name the payer only
      obtain ⟨_, _, _, _, _, rfl⟩ := hfees e he
      cases hc

/-- A trade that cannot be prepared is reported for one of the two intentions, if at all. -/
theorem prepare_addsFor {dt : DirectTradeData AccountId Hash} {fromA fromB : Nat}
    (hp : (directTrade copy matched fromA fromB).prepare cfg pairAccount s = (false, dt, s')) :
    AddsFor [copy.intentionId, matched.intentionId] s s' := by
  obtain ⟨hfalse, -⟩ | ⟨-, left, hnot, -⟩ := DirectTradeData.prepare_cases rfl hp
  · cases hfalse
  · rcases hnot.events_eq with he | ⟨failed, asset, hor, he⟩
    · exact ⟨[], by rw [he, List.append_nil], fun _ h => absurd h List.not_mem_nil⟩
    · refine ⟨[_], he, fun e hmem id hc => ?_⟩
      rw [List.mem_singleton.mp hmem] at hc
      have hid : failed.intentionId = id := of_decide_eq_true hc
      rcases hor with rfl | rfl
      · exact List.mem_cons.mpr (Or.inl hid.symm)
      · exact List.mem_cons_of_mem _ (List.mem_singleton.mpr hid.symm)

/-- An iteration is about the main and the matched intention. -/
theorem resolveMatched_addsFor (hcopy : copy.intentionId = i.intentionId)
    (h : resolveMatched cfg pairAccount i (s, copy) matched = .ok (s', copy')) :
    AddsFor [i.intentionId, matched.intentionId] s s' := by
  have hfailed : ∀ failed error, failed = i ∨ failed = matched → ∀ t : State AccountId Hash,
      AddsFor [i.intentionId, matched.intentionId] t (sendIntentionErrorEvent failed error t) := by
    intro failed error hor t
    refine (sendIntentionErrorEvent_addsFor failed error t).mono fun id hid => ?_
    rcases hor with rfl | rfl
    · exact List.mem_cons.mpr (Or.inl (List.mem_singleton.mp hid))
    · exact List.mem_cons_of_mem _ hid
  cases resolveMatched_ok h with
  | refused _ _ hnone =>
      -- which of the two is reported, `Iterated` does not say
      rcases resolveMatched_of_not_prepares pairAccount hnone with
        ⟨failed, error, hor, heq⟩ | ⟨_, _, -, -, -, -, heq⟩
      · rw [heq] at h
        injection h with h
        injection h with h
        rw [← h]
        exact hfailed failed error (hor.imp And.left And.left) s
      · rw [heq] at h
        cases h
  | unreserved scenario fromA fromB dt s₁ hprep hp =>
      obtain ⟨E, hE, hids⟩ := prepare_addsFor hp
      rw [DirectTradeData.revert_eq, ← hcopy]
      exact ⟨E, hE, hids⟩
  | ammFailed scenario fromA fromB dt s₁ error hprep hp hamm =>
      obtain ⟨-, _, _, hprepared, -⟩ | ⟨hfalse, -⟩ := DirectTradeData.prepare_cases rfl hp
      · have hs₁ : s₁.events = s.events := by rw [hprepared.state_eq]; rfl
        obtain ⟨E, hE, hids⟩ := hfailed matched error (Or.inr rfl) s₁
        rw [DirectTradeData.revert_eq]
        exact ⟨E, by rw [State.setLedger_events, hE, hs₁], hids⟩
      · cases hfalse
  | executed scenario fromA fromB dt s₁ s₂ _ _ hprep hp hamm hex hnext =>
      rw [← hcopy]
      exact (Traded.of_executed hprep hp hamm hex hnext).addsFor

omit [DecidableEq Hash] in
theorem resolveMatched_copyOf (hcopy : CopyOf i copy)
    (h : resolveMatched cfg pairAccount i (s, copy) matched = .ok (s', copy')) :
    CopyOf i copy' := by
  rcases resolveMatched_cases h with ⟨_, _, _, ht⟩ | ⟨-, hn⟩
  · exact hcopy.next ht.copy_eq
  · exact hn.copy_eq ▸ hcopy

/-- The iterations are about the main and the matched intentions. -/
theorem resolveLoop_addsFor {bvec : List (Intention AccountId Hash)} (hcopy : CopyOf i copy)
    (h : bvec.foldlM (resolveMatched cfg pairAccount i) (s, copy) = .ok (s', copy')) :
    CopyOf i copy' ∧ AddsFor ((i :: bvec).map (·.intentionId)) s s' := by
  induction bvec generalizing s copy with
  | nil =>
      rw [foldlM_nil_eq_ok] at h
      cases h
      exact ⟨hcopy, .refl _⟩
  | cons m bvec ih =>
      obtain ⟨⟨s₁, copy₁⟩, hstep, hrest⟩ := foldlM_cons_eq_ok.mp h
      obtain ⟨hcopy', hadds⟩ := ih (resolveMatched_copyOf hcopy hstep) hrest
      refine ⟨hcopy', ((resolveMatched_addsFor hcopy.intentionId hstep).mono fun id hid => ?_).trans
        (hadds.mono fun id hid => ?_)⟩
      · simp only [List.map_cons, List.mem_cons, List.not_mem_nil, or_false] at hid ⊢
        tauto
      · simp only [List.map_cons, List.mem_cons] at hid ⊢
        tauto

/-- What is left of the main intention, or nothing, goes to the AMM. -/
theorem resolveCopy_addsFor (hcopy : CopyOf i copy) (s : State AccountId Hash) :
    AddsFor [i.intentionId] s
      (if copy.amountIn > 0 then resolveSingleIntention cfg copy s else s) := by
  split_ifs
  · rw [← hcopy.intentionId]
    exact resolveSingleIntention_addsFor copy s
  · exact .refl s

end Calls

/-! ## The call for an intention -/

section Cut

variable [DecidableEq AccountId] {cfg : Config AccountId Hash} {P : IterationCond AccountId Hash}
  {W : Work AccountId Hash → Prop} {mains others : List (Intention AccountId Hash)}
  {works before after : List (Work AccountId Hash)} {w : Work AccountId Hash}
  {s s' t : State AccountId Hash} {i : Intention AccountId Hash} {id : Hash}

theorem Work.run_addsFor (hfaith : w.Faithful cfg s) (h : w.run cfg s = .ok s') :
    AddsFor (w.intentions.map (·.intentionId)) s s' := by
  cases w with
  | verify i ok =>
      cases h
      cases ok with
      | true =>
          -- found valid: nothing is reported
          obtain ⟨-, -, hsame⟩ := verifyIntention_true hfaith
          rw [hsame]
          exact .refl s
      | false =>
          unfold verifyIntention
          cases validateIntention cfg i s with
          | error error => exact sendIntentionErrorEvent_addsFor i error s
          | ok transfer => exact .refl s
  | matched pairAccount i bvec =>
      obtain ⟨⟨s₁, copy⟩, hloop, h⟩ := bind_eq_ok.mp h
      cases h
      obtain ⟨hcopy, hadds⟩ := resolveLoop_addsFor (CopyOf.refl i) hloop
      refine hadds.trans ((resolveCopy_addsFor hcopy s₁).mono fun id hid => ?_)
      exact List.mem_cons.mpr (Or.inl (List.mem_singleton.mp hid))
  | single i =>
      cases h
      exact resolveSingleIntention_addsFor i s

/-- Calls that decide nothing about an intention do not change its history. -/
theorem run_history (hid : id ∉ (works.flatMap Work.intentions).map (·.intentionId))
    (hfaith : Always (Work.run cfg) (Work.Faithful cfg) s works)
    (h : works.foldlM (Work.run cfg) s = .ok t) : history id t = history id s := by
  refine Always.foldlM_eq (fun u w hw u' hf hu => ?_) hfaith h
  refine (Work.run_addsFor hf hu).history_eq fun hmem => hid ?_
  obtain ⟨i, hi, rfl⟩ := List.mem_map.mp hmem
  exact List.mem_map_of_mem (List.mem_flatMap.mpr ⟨w, hw, hi⟩)

/-- **What becomes of an intention is decided by one call**: the block, cut at it. -/
theorem Logs.cut (h : Logs cfg P W mains others s (before ++ w :: after) t)
    (hids : ((mains ++ others).map (·.intentionId)).Nodup) (hi : i ∈ w.intentions) :
    ∃ s₁ s₂, before.foldlM (Work.run cfg) s = .ok s₁ ∧ w.run cfg s₁ = .ok s₂ ∧
      w.Faithful cfg s₁ ∧ w.Meets cfg P s₁ ∧ (w.intentions.map (·.intentionId)).Nodup ∧
      history i.intentionId s₁ = history i.intentionId s ∧
      history i.intentionId t = history i.intentionId s₂ := by
  have hnodup := (h.intentions_perm.map (·.intentionId)).nodup_iff.mpr hids
  rw [List.flatMap_append, List.flatMap_cons, List.map_append, List.map_append] at hnodup
  have hid : i.intentionId ∈ w.intentions.map (·.intentionId) := List.mem_map_of_mem hi
  -- the calls before and after `w` decide about other ids
  obtain ⟨-, hrest, hbefore⟩ := List.nodup_append.mp hnodup
  obtain ⟨hw_ids, -, hafter⟩ := List.nodup_append.mp hrest
  obtain ⟨s₁, s₂, h₁, hw, h₂⟩ := foldlM_split h.run
  obtain ⟨hfaith₁, hfaith, hfaith₂⟩ := h.faithful.of_append h₁
  obtain ⟨-, hmeets, -⟩ := h.meets.of_append h₁
  refine ⟨s₁, s₂, h₁, hw, hfaith, hmeets, hw_ids, run_history (fun hmem => ?_) hfaith₁ h₁,
    run_history (fun hmem => ?_) (hfaith₂ s₂ hw) h₂⟩
  · exact hbefore _ hmem _ (List.mem_append_left _ hid) rfl
  · exact hafter _ hid _ hmem rfl

end Cut

/-! ## A block -/

section Block

variable [DecidableEq AccountId] {cfg : Config AccountId Hash} {s s' t : State AccountId Hash}
  {key : AssetId × AssetId} {i : Intention AccountId Hash}

/-- Every registered intention is processed, in the first or in the second group. -/
theorem Registering.processed (hs : Registering cfg s) (hi : i ∈ s.intentions key) :
    (key.1 < key.2 ∧ i ∈ (cfg.iterOrder s.intentionCount.keys).flatMap (othersOf s)) ∨
    (key.2 < key.1 ∧ i ∈ (cfg.iterOrder s.intentionCount.keys).flatMap (mainsOf s)) := by
  obtain ⟨tuple, htuple⟩ := hs.counted key i hi
  have hn := htuple.count_lt
  -- the counter in the id is below the count, so the pair is counted
  have hcount : (s.intentionCount.lookup (countKey key)).getD 0 ≠ 0 := fun hzero => by
    rw [countOf, hzero, UInt32.toNat_zero] at hn
    exact Nat.not_lt_zero _ hn
  have hmem : countKey key ∈ s.intentionCount.keys := by
    by_contra hnot
    refine hcount ?_
    rw [AList.lookup_eq_none.mpr fun h => hnot (AList.mem_keys.mp h)]
    rfl
  have hlt := hs.registered.ordered _ hmem
  have hkeys := (cfg.iterOrder_perm s.intentionCount.keys).mem_iff.mpr hmem
  by_cases hle : key.1 ≤ key.2
  · have hkey : countKey key = key := if_pos hle
    rw [hkey] at hlt hkeys hcount
    refine Or.inl ⟨hlt, List.mem_flatMap.mpr ⟨key, hkeys, ?_⟩⟩
    rw [othersOf, if_neg hcount]
    exact (sortByAmountIn_perm _).mem_iff.mpr hi
  · have hkey : countKey key = (key.2, key.1) := if_neg hle
    rw [hkey] at hlt hkeys hcount
    refine Or.inr ⟨hlt, List.mem_flatMap.mpr ⟨(key.2, key.1), hkeys, ?_⟩⟩
    rw [mainsOf, if_neg hcount]
    exact (sortByAmountIn_perm _).mem_iff.mpr hi

/-- Nothing has become of an intention before the block is finalized. -/
theorem history_of_blockRuns {s₀ : State AccountId Hash} (hstart : BlockStart s₀)
    {P : State AccountId Hash → Extrinsic AccountId → Prop} (hrun : BlockRuns cfg P s₀ s)
    (id : Hash) : history id s = [] := by
  refine hrun.invariant (I := fun t => history id t = []) (fun t e t' ht _ h => ?_) ?_
  · -- the calls report about pools and registrations only
    have hnew : ∃ new, t'.events = t.events ++ new ∧ ∀ e ∈ new, concerns id e = false := by
      cases e with
      | xyk call =>
          obtain ⟨new, hnew, hpool⟩ :=
            (XYK.Call.exchangeUntouched ((Extrinsic.xyk_ok cfg).mp h)).events
          refine ⟨new, hnew, fun e he => ?_⟩
          have := hpool e he
          cases e <;> first | rfl | cases this
      | sell who a b amount minBought discount =>
          obtain ⟨_, -, -, -, hr⟩ := sell_ok h
          obtain ⟨_, event, -, ⟨_, _, _, _, _, _, rfl⟩, rfl⟩ := registerIntention_ok hr
          refine ⟨[_], rfl, fun e he => ?_⟩
          rw [List.mem_singleton.mp he]
          rfl
      | buy who b a amount maxSold discount =>
          obtain ⟨_, -, -, -, hr⟩ := buy_ok h
          obtain ⟨_, event, -, ⟨_, _, _, _, _, _, rfl⟩, rfl⟩ := registerIntention_ok hr
          refine ⟨[_], rfl, fun e he => ?_⟩
          rw [List.mem_singleton.mp he]
          rfl
      | transfer asset source dest amount =>
          obtain ⟨l, -, rfl⟩ := (Extrinsic.transfer_ok cfg).mp h
          exact ⟨[], (List.append_nil _).symm, nofun⟩
    obtain ⟨new, hnew, hnone⟩ := hnew
    have hfilter : new.filter (concerns id) = [] :=
      List.filter_eq_nil_iff.mpr fun e he => by rw [hnone e he]; exact Bool.false_ne_true
    rw [history, hnew, List.filter_append, hfilter, List.append_nil]
    exact ht
  · rw [history, hstart.events]
    rfl

end Block

/-! ## The second group -/

/-- What the intention is about has been traded: all it offers if it is a sell, all it asks for
if it is a buy. -/
def Whole (i : Intention AccountId Hash) (τ : Nat × Nat) : Prop :=
  match i.sellOrBuy with
  | .SELL => τ.1 = i.amountIn
  | .BUY => τ.2 = i.amountOut

/-- Nothing but reports has become of the intention, or it has been traded as a whole. -/
def WholeOrNothing (i : Intention AccountId Hash) (s : State AccountId Hash) : Prop :=
  (∀ e ∈ history i.intentionId s, isReport e = true) ∨ Whole i (tally flow i.intentionId s.events)

section SecondGroup

variable [DecidableEq AccountId] {cfg : Config AccountId Hash} {s s' t : State AccountId Hash}
  {pairAccount : AccountId} {i copy copy' m : Intention AccountId Hash}

omit [DecidableEq AccountId] in
theorem WholeOrNothing.congr (h : WholeOrNothing i s)
    (heq : history i.intentionId s' = history i.intentionId s) : WholeOrNothing i s' := by
  unfold WholeOrNothing at h ⊢
  rwa [heq, tally_eq_of_history heq]

omit [DecidableEq AccountId] in
theorem WholeOrNothing.of_reports {reports : List (Event AccountId Hash)}
    (hfresh : history i.intentionId s = []) (hreports : ∀ e ∈ reports, isReport e = true)
    (h : s'.events = s.events ++ reports) : WholeOrNothing i s' := by
  refine Or.inl fun e he => ?_
  rw [history, h, List.filter_append, ← history, hfresh, List.nil_append] at he
  exact hreports e (List.mem_filter.mp he).1

omit [DecidableEq Hash] in
/-- A direct trade and the AMM leg of the matched intention make up the whole of it. -/
theorem Prepares.whole {scenario : Scenario AccountId} {fromA fromB : Nat}
    (h : Prepares cfg i s copy m scenario fromA fromB) :
    Whole m ((fromB, fromA) + legFlow m scenario) := by
  unfold Whole
  cases h with
  | complete hlt hlimit => cases m.sellOrBuy <;> rfl
  | split t limitLeft hlt hle hvalid hleft hlimit =>
      obtain ⟨hsell, hbuy⟩ := validateRest_amounts hvalid
      cases hb : m.sellOrBuy with
      | SELL =>
          simp only [legFlow, ammFlow, hb, Prod.fst_add, (hsell hb).1]
          omega
      | BUY =>
          simp only [legFlow, ammFlow, hb, Prod.snd_add, (hbuy hb).1]
          omega
  | exactMatch heq hmain hlimit =>
      cases m.sellOrBuy with
      | SELL => rfl
      | BUY => exact heq

omit [DecidableEq Hash] in
theorem validateIntention_whole {transfer : AMMTransfer AccountId}
    (h : validateIntention cfg i s = .ok transfer) : Whole i (ammFlow i.sellOrBuy transfer) := by
  obtain ⟨hsell, hbuy⟩ := validateIntention_amounts h
  unfold Whole
  cases hb : i.sellOrBuy with
  | SELL => exact (hsell hb).1
  | BUY => exact (hbuy hb).1

/-- The iteration for a matched intention. -/
theorem resolveMatched_whole (hfresh : history m.intentionId s = [])
    (hne : copy.intentionId ≠ m.intentionId)
    (h : resolveMatched cfg pairAccount i (s, copy) m = .ok (s', copy')) : WholeOrNothing m s' := by
  rcases resolveMatched_cases h with ⟨scenario, fromA, fromB, ht⟩ | ⟨-, hn⟩
  · refine Or.inr ?_
    rw [ht.tally_eq, if_neg hne, if_pos rfl, tally_eq_zero_of_history hfresh, zero_add, zero_add]
    exact ht.trades.1.whole
  · obtain ⟨reports, hreports, hevents⟩ := hn.events
    exact .of_reports hfresh hreports hevents

theorem resolveSingleIntention_whole (hfresh : history i.intentionId s = []) :
    WholeOrNothing i (resolveSingleIntention cfg i s) := by
  rcases resolveSingleIntention_cases cfg i s with ⟨error, h⟩ | ⟨transfer, hv, h⟩
  · rw [h]
    exact .of_reports hfresh (isReport_error i error) rfl
  · refine Or.inr ?_
    rw [h, tally_append, tally_tradedEvents, if_pos rfl, tally_eq_zero_of_history hfresh, zero_add]
    exact validateIntention_whole hv

/-- The call for a main intention, cut at the iteration for one of its matched intentions: what
becomes of this one is decided by this iteration. -/
theorem Work.cut_matched {pre post : List (Intention AccountId Hash)}
    (hids : ((Work.matched pairAccount i (pre ++ m :: post)).intentions.map (·.intentionId)).Nodup)
    (h : (Work.matched pairAccount i (pre ++ m :: post)).run cfg s = .ok s') :
    ∃ s₁ copy₁ s₂ copy₂, pre.foldlM (resolveMatched cfg pairAccount i) (s, i) = .ok (s₁, copy₁) ∧
      resolveMatched cfg pairAccount i (s₁, copy₁) m = .ok (s₂, copy₂) ∧
      CopyOf i copy₁ ∧ i.intentionId ≠ m.intentionId ∧
      history m.intentionId s₁ = history m.intentionId s ∧
      history m.intentionId s' = history m.intentionId s₂ := by
  obtain ⟨⟨s₃, copy⟩, hloop, h⟩ := bind_eq_ok.mp h
  cases h
  obtain ⟨⟨s₁, copy₁⟩, ⟨s₂, copy₂⟩, hpre, hstep, hpost⟩ := foldlM_split hloop
  obtain ⟨hcopy₁, hadds₁⟩ := resolveLoop_addsFor (CopyOf.refl i) hpre
  have hcopy₂ := resolveMatched_copyOf hcopy₁ hstep
  obtain ⟨hcopy, hadds₂⟩ := resolveLoop_addsFor hcopy₂ hpost
  -- the id of the intention is that of no other one in the call
  simp only [Work.intentions, List.map_cons, List.map_append, List.nodup_cons,
    List.nodup_append, List.mem_append, List.mem_cons, not_or] at hids
  obtain ⟨⟨-, hi, -⟩, -, ⟨hm_post, -⟩, hpre_m⟩ := hids
  have hm_pre : m.intentionId ∉ pre.map (·.intentionId) := fun hmem =>
    hpre_m _ hmem _ (Or.inl rfl) rfl
  refine ⟨s₁, copy₁, s₂, copy₂, hpre, hstep, hcopy₁, hi, hadds₁.history_eq ?_, ?_⟩
  · rw [List.map_cons, List.mem_cons, not_or]
    exact ⟨Ne.symm hi, hm_pre⟩
  · rw [(resolveCopy_addsFor hcopy s₃).history_eq (by simpa using Ne.symm hi),
      hadds₂.history_eq]
    rw [List.map_cons, List.mem_cons, not_or]
    exact ⟨Ne.symm hi, hm_post⟩

/-- What a call makes of one of its intentions of the second group. -/
theorem Work.run_whole {w : Work AccountId Hash} (hm : m ∈ w.others)
    (hids : (w.intentions.map (·.intentionId)).Nodup) (hfresh : history m.intentionId s = [])
    (h : w.run cfg s = .ok s') : WholeOrNothing m s' := by
  cases w with
  | verify i ok => cases hm
  | single i =>
      obtain rfl := List.mem_singleton.mp hm
      cases h
      exact resolveSingleIntention_whole hfresh
  | matched pairAccount i bvec =>
      obtain ⟨pre, post, rfl⟩ := List.append_of_mem hm
      obtain ⟨s₁, copy₁, s₂, copy₂, -, hstep, hcopy, hne, hsame, hsame'⟩ :=
        Work.cut_matched hids h
      have hne' : copy₁.intentionId ≠ m.intentionId := by
        rw [hcopy.intentionId]
        exact hne
      exact (resolveMatched_whole (hsame.trans hfresh) hne' hstep).congr hsame'

end SecondGroup

/-! ## The intentions of a block -/

section Groups

variable [DecidableEq AccountId] {cfg : Config AccountId Hash} {P : IterationCond AccountId Hash}
  {s s' t : State AccountId Hash} {log before after : List (Work AccountId Hash)}
  {pairAccount : AccountId} {bvec : List (Intention AccountId Hash)} {key : AssetId × AssetId}
  {i : Intention AccountId Hash}

/-- **An intention of the second group is traded as a whole or not at all**, wherever it ends up:
matched, in one of the three scenarios, or by itself. -/
theorem second_group_whole (hs : Registering cfg s) (hfresh : history i.intentionId s = [])
    (hlog : finalizeLog cfg s = .ok (t, log)) (hi : i ∈ s.intentions key) (hlt : key.1 < key.2) :
    WholeOrNothing i t := by
  have hspec := finalizeLog_logs hlog
  rcases hs.processed hi with ⟨-, hmem⟩ | ⟨hgt, -⟩
  · rw [← hspec.others] at hmem
    obtain ⟨w, hw, hiw⟩ := List.mem_flatMap.mp hmem
    obtain ⟨before, after, rfl⟩ := List.append_of_mem hw
    have hiw' : i ∈ w.intentions := by
      cases w with
      | verify j ok => cases hiw
      | matched account j bvec => exact List.mem_cons_of_mem j hiw
      | single j => exact hiw
    obtain ⟨s₁, s₂, -, hrun, -, -, hids, hsame, hsame'⟩ :=
      hspec.cut (hs.registered.processed_nodup cfg) hiw'
    exact (Work.run_whole hiw hids (hsame.trans hfresh) hrun).congr hsame'
  · exact absurd hgt (UInt32.lt_asymm hlt)

/-- A main intention is found valid, or its error is all that becomes of it. -/
theorem main_group_verified (hs : Registering cfg s) (hfresh : history i.intentionId s = [])
    (hlog : finalizeLog cfg s = .ok (t, log)) (hi : i ∈ s.intentions key) (hlt : key.2 < key.1) :
    Work.verify i true ∈ log ∨ ∃ error, history i.intentionId t
      = [.IntentionResolveErrorEvent i.who i.assets i.sellOrBuy i.intentionId error] := by
  have hspec := finalizeLog_logs hlog
  rcases hs.processed hi with ⟨hgt, -⟩ | ⟨-, hmem⟩
  · exact absurd hgt (UInt32.lt_asymm hlt)
  · rw [← hspec.verified] at hmem
    obtain ⟨w, hw, hiw⟩ := List.mem_filterMap.mp hmem
    cases w with
    | matched account j bvec => cases hiw
    | single j => cases hiw
    | verify j ok =>
        cases hiw
        cases ok with
        | true => exact Or.inl hw
        | false =>
            -- the block, cut at the verification: this call decides about the intention
            obtain ⟨before, after, rfl⟩ := List.append_of_mem hw
            obtain ⟨s₁, s₂, -, hrun, hfaith, -, -, hsame, hsame'⟩ :=
              hspec.cut (hs.registered.processed_nodup cfg) List.mem_cons_self
            cases hrun
            have hfalse : (verifyIntention cfg i s₁).1 = false := hfaith
            unfold verifyIntention at hfalse hsame'
            cases hv : validateIntention cfg i s₁ with
            | ok transfer => rw [hv] at hfalse; cases hfalse
            | error error =>
                refine Or.inr ⟨error, ?_⟩
                rw [hsame', hv, history]
                show List.filter _ (s₁.events ++ [_]) = _
                rw [List.filter_append, ← history, hsame, hfresh, List.nil_append]
                exact List.filter_eq_self.mpr fun e he => by
                  rw [List.mem_singleton.mp he]
                  exact decide_eq_true rfl

omit [DecidableEq Hash] [DecidableEq AccountId] in
theorem Work.valid_eq_some {w : Work AccountId Hash} : w.valid = some i ↔ w = .verify i true := by
  constructor
  · intro h
    cases w with
    | matched account j bvec => cases h
    | single j => cases h
    | verify j ok =>
        cases ok with
        | false => cases h
        | true => cases h; rfl
  · rintro rfl
    rfl

omit [DecidableEq Hash] [DecidableEq AccountId] in
theorem Work.main_eq_some {w : Work AccountId Hash} :
    w.main = some i ↔ ∃ pairAccount bvec, w = .matched pairAccount i bvec := by
  constructor
  · intro h
    cases w with
    | verify j ok => cases h
    | single j => cases h
    | matched account j bvec => cases h; exact ⟨account, bvec, rfl⟩
  · rintro ⟨account, bvec, rfl⟩
    rfl

omit [DecidableEq Hash] in
/-- A main intention that is found valid is resolved. -/
theorem resolved_of_valid (hlog : finalizeLog cfg s = .ok (t, log))
    (hv : Work.verify i true ∈ log) :
    ∃ before pairAccount bvec after, log = before ++ .matched pairAccount i bvec :: after := by
  have hspec := finalizeLog_logs hlog
  have hmem : i ∈ log.filterMap Work.main := by
    rw [hspec.resolved]
    exact List.mem_filterMap.mpr ⟨_, hv, rfl⟩
  obtain ⟨w, hw, hiw⟩ := List.mem_filterMap.mp hmem
  obtain ⟨pairAccount, bvec, rfl⟩ := Work.main_eq_some.mp hiw
  obtain ⟨before, after, h⟩ := List.append_of_mem hw
  exact ⟨before, pairAccount, bvec, after, h⟩

omit [DecidableEq Hash] [DecidableEq AccountId] in
theorem ids_ne_of_nodup (h : ((i :: bvec).map (·.intentionId)).Nodup) :
    ∀ m ∈ bvec, m.intentionId ≠ i.intentionId := fun m hm he =>
  (List.nodup_cons.mp h).1 (List.mem_map.mpr ⟨m, hm, he⟩)

/-- The iterations for a main intention, and what becomes of it in the block: what they and the
AMM trade of the rest do. -/
theorem main_group_resolved (hs : Registering cfg s) (hfresh : history i.intentionId s = [])
    (hlog : finalizeLog cfg s = .ok (t, before ++ .matched pairAccount i bvec :: after)) :
    ∃ s₁ s₂ copy, before.foldlM (Work.run cfg) s = .ok s₁ ∧
      bvec.foldlM (resolveMatched cfg pairAccount i) (s₁, i) = .ok (s₂, copy) ∧
      ((i :: bvec).map (·.intentionId)).Nodup ∧
      (∀ m ∈ i :: bvec, ∃ key, m ∈ s.intentions key) ∧
      history i.intentionId s₁ = [] ∧
      history i.intentionId t = history i.intentionId
        (if copy.amountIn > 0 then resolveSingleIntention cfg copy s₂ else s₂) := by
  have hspec := finalizeLog_logs hlog
  obtain ⟨s₁, s₃, hbefore, hrun, -, -, hids, hsame, hsame'⟩ :=
    hspec.cut (hs.registered.processed_nodup cfg) List.mem_cons_self
  obtain ⟨⟨s₂, copy⟩, hloop, hrun⟩ := bind_eq_ok.mp hrun
  cases hrun
  obtain ⟨k, -, -, hmain, hothers⟩ := hspec.kind _ (List.mem_append_right before List.mem_cons_self)
  refine ⟨s₁, s₂, copy, hbefore, hloop, hids, fun m hm => ?_, hsame.trans hfresh, hsame'⟩
  rcases List.mem_cons.mp hm with rfl | hm
  · exact ⟨_, hmain⟩
  · exact ⟨_, hothers m hm⟩

end Groups

end HydraDX.Exchange
