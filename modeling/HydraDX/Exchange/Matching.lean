import HydraDX.Chain
import HydraDX.Exchange.Log

set_option autoImplicit false

/-! # When matching stops

For a main intention the second group is popped until the popped intentions cover it. What
covers it are the amounts that they ask for, which are in the asset that the main intention
gives. The loop adds up the amounts that they give instead, in the other asset, so it stops at
another place unless the two sums reach the amount of the main intention together
(`StopsInTime`).

The loops are taken with any callees: who verifies and who resolves does not matter here. -/

namespace HydraDX.Exchange

variable {AccountId Hash : Type}

/-- The amounts that the intentions give. -/
def given (intentions : List (Intention AccountId Hash)) : Nat := (intentions.map (·.amountIn)).sum

@[simp] theorem given_nil : given ([] : List (Intention AccountId Hash)) = 0 := rfl

@[simp] theorem given_cons (i : Intention AccountId Hash)
    (intentions : List (Intention AccountId Hash)) :
    given (i :: intentions) = i.amountIn + given intentions := by
  rw [given, List.map_cons, List.sum_cons, given]

/-- The amounts that the intentions ask for. -/
def wanted (intentions : List (Intention AccountId Hash)) : Nat :=
  (intentions.map (·.amountOut)).sum

/-- The intentions that were popped before the last one do not cover the main intention yet. -/
def UncoveredBeforeLast (main : Intention AccountId Hash) (bvec : List (Intention AccountId Hash)) :
    Prop :=
  wanted bvec.dropLast < main.amountIn

/-- Sorted by `amountIn`, the largest first. -/
def Descending (intentions : List (Intention AccountId Hash)) : Prop :=
  intentions.Pairwise fun a b => b.amountIn ≤ a.amountIn

/-- No intention on the stack is popped where those above it cover `amountIn` already. An
intention is popped if what those above it give, as a running total of balances, has stayed
below `amountIn`. -/
def StopsInTime (amountIn : Nat) (stack : List (Intention AccountId Hash)) : Prop :=
  0 < amountIn ∧ ∀ above next below, stack = above ++ next :: below →
    (∀ top, top <+: above → top ≠ [] → given top % balanceBound < amountIn) →
      wanted above < amountIn

section Popping

variable {checks : Bool} {amountIn total : Nat}
  {stack bvec rest : List (Intention AccountId Hash)}

/-- An unchecked addition is exact modulo the range. -/
theorem addBalance_mod {a b r : Nat} (h : addBalance checks a b = .ok r) :
    r = (a + b) % balanceBound := by
  unfold addBalance at h
  split_ifs at h with hlt
  · cases h
    rw [Nat.mod_eq_of_lt hlt]
  · cases h
    rfl

/-- The running total stays below `amountIn` if it does after the first intention and from there
on. -/
theorem runningBelow_cons {m : Intention AccountId Hash} {total' : Nat}
    {above : List (Intention AccountId Hash)}
    (htotal : total' = (total + m.amountIn) % balanceBound) (hlt : total' < amountIn) :
    (∀ top, top <+: m :: above → top ≠ [] → (total + given top) % balanceBound < amountIn) ↔
      ∀ top, top <+: above → top ≠ [] → (total' + given top) % balanceBound < amountIn := by
  have hshift : ∀ top : List (Intention AccountId Hash),
      (total + given (m :: top)) % balanceBound = (total' + given top) % balanceBound := by
    intro top
    rw [given_cons, htotal, Nat.mod_add_mod, Nat.add_assoc]
  constructor
  · intro hbelow top htop hne
    rw [← hshift]
    exact hbelow (m :: top) (List.cons_prefix_cons.mpr ⟨rfl, htop⟩) (by simp)
  · intro hbelow top htop hne
    cases top with
    | nil => exact absurd rfl hne
    | cons x top =>
        obtain ⟨rfl, htops⟩ := List.cons_prefix_cons.mp htop
        rw [hshift]
        by_cases hnil : top = []
        · rw [hnil, given_nil, Nat.add_zero, htotal, Nat.mod_mod, ← htotal]
          exact hlt
        · exact hbelow top htops hnil

/-- **What is popped**: an intention on the stack is exactly if the running total has stayed below
`amountIn` above it. -/
theorem popMatched_iff (h : popMatched checks amountIn total stack = .ok (bvec, rest))
    {above below : List (Intention AccountId Hash)} {next : Intention AccountId Hash}
    (hstack : stack = above ++ next :: below) :
    above ++ [next] <+: bvec ↔
      ∀ top, top <+: above → top ≠ [] → (total + given top) % balanceBound < amountIn := by
  -- by induction on the stack, along the running total
  induction stack generalizing total bvec above with
  | nil => simp at hstack
  | cons m stack ih =>
      obtain ⟨total', htotal, hcases⟩ := popMatched_cons h
      have htotal := addBalance_mod htotal
      cases above with
      | nil =>
          -- the first intention is popped in any case
          have hfirst : [m] <+: bvec := by
            rcases hcases with ⟨-, rfl, -⟩ | ⟨-, popped, -, rfl⟩
            · exact List.prefix_rfl
            · exact ⟨popped, rfl⟩
          obtain ⟨rfl, -⟩ := List.cons.inj hstack
          refine iff_of_true hfirst fun top htop hne => ?_
          exact absurd (List.prefix_nil.mp htop) hne
      | cons m' above =>
          obtain ⟨rfl, htail⟩ := List.cons.inj hstack
          rcases hcases with ⟨hge, rfl, -⟩ | ⟨hlt, popped, hpopped, rfl⟩
          · -- popping stops here
            refine iff_of_false (fun hp => ?_) fun hbelow => ?_
            · have hlen := hp.length_le
              simp at hlen
            · have hm := hbelow [m] ⟨above, rfl⟩ (by simp)
              rw [given_cons, given_nil, Nat.add_zero, ← htotal] at hm
              omega
          · rw [List.cons_append, List.cons_prefix_cons, ih hpopped htail, and_iff_right rfl]
            exact (runningBelow_cons htotal hlt).symm

theorem wanted_mono {p q : List (Intention AccountId Hash)} (h : p <+: q) :
    wanted p ≤ wanted q := by
  obtain ⟨r, rfl⟩ := h
  rw [wanted, wanted, List.map_append, List.sum_append]
  exact Nat.le_add_right _ _

/-- **Popping stops in time or not**, for one main intention. -/
theorem uncoveredBeforeLast_iff {main : Intention AccountId Hash}
    (h : popMatched checks main.amountIn 0 stack = .ok (bvec, rest)) :
    UncoveredBeforeLast main bvec ↔ StopsInTime main.amountIn stack := by
  have hiff : ∀ {above next below}, stack = above ++ next :: below →
      (above ++ [next] <+: bvec ↔
        ∀ top, top <+: above → top ≠ [] → given top % balanceBound < main.amountIn) := by
    intro above next below hstack
    simpa only [Nat.zero_add] using popMatched_iff h hstack
  constructor
  · intro hun
    refine ⟨Nat.lt_of_le_of_lt (Nat.zero_le _) hun, fun above next below hstack hbelow => ?_⟩
    -- the intention is popped, so those above it are before the last
    obtain ⟨tail, hbvec⟩ := (hiff hstack).mpr hbelow
    have hprefix : above <+: bvec.dropLast := by
      rw [← hbvec, List.append_assoc, List.singleton_append,
        List.dropLast_append_of_ne_nil (by simp)]
      exact List.prefix_append _ _
    exact Nat.lt_of_le_of_lt (wanted_mono hprefix) hun
  · intro hstops
    unfold UncoveredBeforeLast
    rcases List.eq_nil_or_concat bvec with hnil | ⟨above, last, hbvec⟩
    · rw [hnil]
      exact hstops.1
    · rw [List.concat_eq_append] at hbvec
      rw [hbvec] at h hiff ⊢
      have hstack : stack = above ++ last :: rest := by
        rw [popMatched_ok h, List.append_assoc]
        rfl
      rw [List.dropLast_concat]
      exact hstops.2 above last rest hstack ((hiff hstack).mp List.prefix_rfl)

theorem sortByAmountIn_descending (intentions : List (Intention AccountId Hash)) :
    Descending (sortByAmountIn intentions) :=
  List.pairwise_insertionSort _ _

end Popping

/-! ## All main intentions -/

section Passes

variable [DecidableEq AccountId] (cfg : Config AccountId Hash) {σ : Type}
  (H : Handlers σ AccountId Hash) (pairAccount : AccountId)

/-- `bvec` is passed to the resolver with the main intention `main`: those before `main` are
processed and leave `stack`, `main` is valid, and `bvec` is popped for it. -/
def Passes (aInIntentions bInIntentions : List (Intention AccountId Hash)) (s : σ)
    (main : Intention AccountId Hash) (stack bvec : List (Intention AccountId Hash)) : Prop :=
  ∃ before after t rest, sortByAmountIn aInIntentions = before ++ main :: after ∧
    before.foldlM (processMainWith cfg H pairAccount) (s, sortByAmountIn bInIntentions)
      = .ok (t, stack) ∧
    (H.verify main t).1 = true ∧
    popMatched cfg.overflowChecks main.amountIn 0 stack = .ok (bvec, rest)

variable {cfg H pairAccount} {s t : σ} {main : Intention AccountId Hash}
  {stack rest : List (Intention AccountId Hash)}

/-- What is left on the stack is a part of it. -/
theorem processMainWith_suffix
    (h : processMainWith cfg H pairAccount (s, stack) main = .ok (t, rest)) : rest <:+ stack := by
  unfold processMainWith at h
  simp only at h
  generalize H.verify main s = v at h
  obtain ⟨ok, s₁⟩ := v
  cases ok with
  | false =>
      cases h
      exact List.suffix_rfl
  | true =>
      simp only [Fallible.bind_eq_ok] at h
      obtain ⟨⟨bvec, rest'⟩, hpop, s₂, -, h⟩ := h
      cases h
      exact ⟨bvec, (popMatched_ok hpop).symm⟩

/-- What is on the stack is always sorted. -/
theorem foldlM_processMainWith_descending {mains : List (Intention AccountId Hash)}
    (h : mains.foldlM (processMainWith cfg H pairAccount) (s, stack) = .ok (t, rest))
    (hstack : Descending stack) : Descending rest := by
  induction mains generalizing s stack with
  | nil =>
      rw [Fallible.foldlM_nil_eq_ok] at h
      cases h
      exact hstack
  | cons i mains ih =>
      obtain ⟨⟨s₁, stack₁⟩, hstep, hrest⟩ := Fallible.foldlM_cons_eq_ok.mp h
      exact ih hrest (hstack.sublist (processMainWith_suffix hstep).sublist)

/-- One main intention with a log: it is passed on if it is valid. -/
theorem processMainWith_logging {L L' : List (Work AccountId Hash)}
    (h : processMainWith cfg H.logging pairAccount ((s, L), stack) main = .ok ((t, L'), rest)) :
    processMainWith cfg H pairAccount (s, stack) main = .ok (t, rest) ∧
    ∀ account i bvec, Work.matched account i bvec ∈ L' → Work.matched account i bvec ∈ L ∨
      (i = main ∧ (H.verify main s).1 = true ∧
        popMatched cfg.overflowChecks main.amountIn 0 stack = .ok (bvec, rest)) := by
  unfold processMainWith Handlers.logging at h
  unfold processMainWith
  simp only at h ⊢
  generalize H.verify main s = v at h ⊢
  obtain ⟨ok, s₁⟩ := v
  cases ok with
  | false =>
      cases h
      refine ⟨rfl, fun account i bvec hmem => Or.inl ?_⟩
      simpa using hmem
  | true =>
      simp only [Fallible.bind_eq_ok] at h ⊢
      obtain ⟨⟨bvec', rest'⟩, hpop, ⟨s₂, L₂⟩, ⟨s₃, hres, hs₃⟩, h⟩ := h
      cases hs₃
      cases h
      refine ⟨⟨(bvec', rest'), hpop, t, hres, rfl⟩, fun account i bvec hmem => ?_⟩
      simp only [List.append_assoc, List.mem_append, List.mem_cons, List.not_mem_nil, or_false,
        reduceCtorEq, false_or, Work.matched.injEq] at hmem
      rcases hmem with hmem | ⟨-, rfl, rfl⟩
      · exact Or.inl hmem
      · exact Or.inr ⟨rfl, trivial, hpop⟩

/-- The main intentions with a log: what is logged was passed on. -/
theorem foldlM_processMainWith_logging {L L' : List (Work AccountId Hash)}
    {mains : List (Intention AccountId Hash)}
    (h : mains.foldlM (processMainWith cfg H.logging pairAccount) ((s, L), stack)
      = .ok ((t, L'), rest)) {account : AccountId} {bvec : List (Intention AccountId Hash)}
    (hmem : Work.matched account main bvec ∈ L') (hnew : Work.matched account main bvec ∉ L) :
    ∃ before after u stack' rest', mains = before ++ main :: after ∧
      before.foldlM (processMainWith cfg H pairAccount) (s, stack) = .ok (u, stack') ∧
      (H.verify main u).1 = true ∧
      popMatched cfg.overflowChecks main.amountIn 0 stack' = .ok (bvec, rest') := by
  induction mains generalizing s L stack with
  | nil =>
      rw [Fallible.foldlM_nil_eq_ok] at h
      cases h
      exact absurd hmem hnew
  | cons i mains ih =>
      obtain ⟨⟨⟨s₁, L₁⟩, stack₁⟩, hstep, hrest⟩ := Fallible.foldlM_cons_eq_ok.mp h
      obtain ⟨hmain, hlogged⟩ := processMainWith_logging hstep
      by_cases hold : Work.matched account main bvec ∈ L₁
      · -- it is logged by this main intention
        rcases hlogged account main bvec hold with hL | ⟨rfl, hv, hpop⟩
        · exact absurd hL hnew
        · exact ⟨[], mains, s, stack, stack₁, rfl, rfl, hv, hpop⟩
      · obtain ⟨before, after, u, stack', rest', rfl, hbefore, hv, hpop⟩ := ih hrest hold
        refine ⟨i :: before, after, u, stack', rest', rfl, ?_, hv, hpop⟩
        exact Fallible.foldlM_cons_eq_ok.mpr ⟨_, hmain, hbefore⟩

omit [DecidableEq AccountId] in
/-- What is left of the second group adds no matched intentions to the log. -/
theorem foldl_resolveSingle_logging (rest : List (Intention AccountId Hash))
    (p : σ × List (Work AccountId Hash)) {account : AccountId}
    {bvec : List (Intention AccountId Hash)}
    (hmem : Work.matched account main bvec
      ∈ (rest.foldl (fun s intention => H.logging.resolveSingle intention s) p).2) :
    Work.matched account main bvec ∈ p.2 := by
  induction rest generalizing p with
  | nil => exact hmem
  | cons i rest ih =>
      have hstep := ih (H.logging.resolveSingle i p) hmem
      simpa [Handlers.logging] using hstep

/-- **Matching stops when the main intention is covered**: exactly where the amounts that are
asked for and the amounts that are given reach it together. Every list that is passed with a main
intention is sorted, and the lists that are passed are those that a log shows. -/
theorem matching_stops_in_time_iff (cfg : Config AccountId Hash) (H : Handlers σ AccountId Hash)
    (pairAccount : AccountId) (aInIntentions bInIntentions : List (Intention AccountId Hash))
    (s : σ) :
    (∀ main stack bvec,
      Passes cfg H pairAccount aInIntentions bInIntentions s main stack bvec →
        Descending bvec ∧
        (UncoveredBeforeLast main bvec ↔ StopsInTime main.amountIn stack)) ∧
    (∀ t log, processExchangeIntentionsWith cfg H.logging pairAccount aInIntentions bInIntentions
        (s, []) = .ok (t, log) →
      ∀ account main bvec, Work.matched account main bvec ∈ log →
        ∃ stack, Passes cfg H pairAccount aInIntentions bInIntentions s main stack bvec) := by
  constructor
  · rintro main stack bvec ⟨before, after, t, rest, -, hbefore, -, hpop⟩
    have hstack : Descending stack :=
      foldlM_processMainWith_descending hbefore (sortByAmountIn_descending _)
    refine ⟨?_, uncoveredBeforeLast_iff hpop⟩
    rw [popMatched_ok hpop] at hstack
    exact hstack.sublist (List.sublist_append_left _ _)
  · intro t log h account main bvec hmem
    unfold processExchangeIntentionsWith at h
    obtain ⟨⟨⟨s₁, L₁⟩, rest⟩, hloop, h⟩ := Fallible.bind_eq_ok.mp h
    have hL : Work.matched account main bvec ∈ L₁ := by
      refine foldl_resolveSingle_logging rest (s₁, L₁) (H := H) ?_
      rw [Except.ok.inj h]
      exact hmem
    obtain ⟨before, after, u, stack, rest', hsort, hbefore, hv, hpop⟩ :=
      foldlM_processMainWith_logging hloop hL List.not_mem_nil
    exact ⟨stack, before, after, u, rest', hsort, hbefore, hv, hpop⟩

end Passes

/-! ## A price of three to one -/

open Fallible

/-- The main intention and the list that are passed to the resolver. -/
def Work.pass : Work AccountId Hash →
    Option (Intention AccountId Hash × List (Intention AccountId Hash))
  | .matched _ main bvec => some (main, bvec)
  | _ => none

theorem Work.pass_eq_some {w : Work AccountId Hash}
    {q : Intention AccountId Hash × List (Intention AccountId Hash)} (h : w.pass = some q) :
    ∃ account, w = .matched account q.1 q.2 := by
  cases w with
  | matched account main bvec =>
      cases h
      exact ⟨account, rfl⟩
  | verify => cases h
  | single => cases h

/-- One unit of asset `1` is worth `price` units of asset `2`. `[2]` sells `3000` of asset `2`;
`[3]` and `[4]` sell `1100` and `1000` of asset `1`. -/
def pricedPool (price : Nat) : Except Failure (State Dev.AccountId Dev.Hash) :=
  Dev.after (Dev.genesis [(1, [1], 1000000), (2, [1], 4000000), (2, [2], 10000), (1, [3], 10000),
      (1, [4], 10000)])
    [.xyk (.createPool [1] 1 2 1000000 (price * 10 ^ 18)), .sell [2] 2 1 3000 1 false,
      .sell [3] 1 2 1100 500 false, .sell [4] 1 2 1000 500 false]

/-- Process the intentions of the pair and log the calls. -/
def processedPair (s : State Dev.AccountId Dev.Hash) :
    Except Panic (State Dev.AccountId Dev.Hash × List (Work Dev.AccountId Dev.Hash)) :=
  processExchangeIntentionsWith Dev.cfg (Handlers.pallet Dev.cfg).logging
    (XYK.getPairId Dev.cfg ⟨1, 2⟩) (s.intentions (2, 1)) (s.intentions (1, 2)) (s, [])

instance decidableUncoveredBeforeLast (main : Intention AccountId Hash)
    (bvec : List (Intention AccountId Hash)) : Decidable (UncoveredBeforeLast main bvec) :=
  inferInstanceAs (Decidable (_ < _))

/-- At a price of three to one, `[3]` asks for `3300` and so covers `[2]` alone. It gives `1100`,
and `[4]` is matched as well. -/
theorem matching_goes_on :
    Succeeds (pricedPool 3) fun s => Succeeds (processedPair s) fun p =>
      ∃ q ∈ p.2.filterMap Work.pass, q.1.amountIn = 3000 ∧ q.2.length = 2 ∧
        wanted q.2.dropLast = 3300 ∧ ¬ UncoveredBeforeLast q.1 q.2 := by
  decide +kernel

/-- At a price of one to one matching stops in time. -/
theorem matching_stops_at_even_price :
    Succeeds (pricedPool 1) fun s => Succeeds (processedPair s) fun p =>
      ∃ q ∈ p.2.filterMap Work.pass, q.2.length = 2 ∧ Descending q.2 ∧
        ∃ stack, Passes Dev.cfg (Handlers.pallet Dev.cfg) (XYK.getPairId Dev.cfg ⟨1, 2⟩)
          (s.intentions (2, 1)) (s.intentions (1, 2)) s q.1 stack q.2 ∧
          StopsInTime q.1.amountIn stack := by
  obtain ⟨s, hs, p, hp, q, hq, hlength, hun⟩ : Succeeds (pricedPool 1) fun s =>
      Succeeds (processedPair s) fun p => ∃ q ∈ p.2.filterMap Work.pass, q.2.length = 2 ∧
        UncoveredBeforeLast q.1 q.2 := by
    decide +kernel
  have key := matching_stops_in_time_iff Dev.cfg (Handlers.pallet Dev.cfg)
    (XYK.getPairId Dev.cfg ⟨1, 2⟩) (s.intentions (2, 1)) (s.intentions (1, 2)) s
  obtain ⟨w, hw, hpass⟩ := List.mem_filterMap.mp hq
  obtain ⟨account, rfl⟩ := Work.pass_eq_some hpass
  obtain ⟨stack, hpasses⟩ := key.2 p.1 p.2 hp account q.1 q.2 hw
  obtain ⟨hdescending, hiff⟩ := key.1 q.1 stack q.2 hpasses
  exact ⟨s, hs, p, hp, q, hq, hlength, hdescending, stack, hpasses, hiff.mp hun⟩

end HydraDX.Exchange
