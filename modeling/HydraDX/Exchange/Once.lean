import HydraDX.Exchange.Log
import HydraDX.Exchange.Registration

set_option autoImplicit false

/-! # Every intention is processed once

Intentions are counted under the ordered pair of their assets and stored under the directed one;
finalizing finds its work through the counts. The list of its calls (`finalizeLog`) accounts for
every intention of the block: those that give the asset with the larger id are verified once
each, the valid ones among them are resolved once each, and those of the other direction are
matched with one of them, or resolved by themselves, once each. -/

namespace HydraDX.Exchange

variable {AccountId Hash : Type} [DecidableEq AccountId] {cfg : Config AccountId Hash}
  {s s' : State AccountId Hash}

/-- The counters do not wrap: the build checks for overflow, or there are less than `2 ^ 32`
intentions of each pair. -/
def CountsFit (cfg : Config AccountId Hash) (s : State AccountId Hash) : Prop :=
  cfg.overflowChecks = true ∨ ∀ key, pairLength s key < 2 ^ 32

theorem countKey_of_lt {x y : AssetId} (h : x < y) : countKey (x, y) = (x, y) :=
  if_pos (UInt32.le_of_lt h)

/-- Under the ordered pair stands the number of intentions of the pair. -/
theorem Collected.count_eq (hs : Collected cfg s) (hfits : CountsFit cfg s) {x y : AssetId}
    (h : x < y) :
    ((s.intentionCount.lookup (x, y)).getD 0).toNat
      = (s.intentions (x, y)).length + (s.intentions (y, x)).length := by
  have hne : x ≠ y := UInt32.ne_of_lt h
  have hcount := hs.count (x, y) hne
  rw [countOf, countKey_of_lt h] at hcount
  rw [hcount]
  refine Nat.mod_eq_of_lt ?_
  rcases hfits with hchecks | hfits
  · exact hs.checked hchecks (x, y) hne
  · exact hfits (x, y)

/-- A pair that is not counted has no intentions. -/
theorem Collected.nil_of_count_zero (hs : Collected cfg s) (hfits : CountsFit cfg s)
    {x y : AssetId} (h : x < y) (hzero : (s.intentionCount.lookup (x, y)).getD 0 = 0) :
    s.intentions (x, y) = [] ∧ s.intentions (y, x) = [] := by
  have hcount := hs.count_eq hfits h
  rw [hzero, UInt32.toNat_zero] at hcount
  exact ⟨List.eq_nil_of_length_eq_zero (by omega), List.eq_nil_of_length_eq_zero (by omega)⟩

/-- In a list that is put together from groups, one group is found by what only its elements
have. -/
theorem filter_flatMap_of_nodup {K α : Type} [DecidableEq K] {f : K → List α} {p : α → Bool}
    (k₀ : K) {keys : List K} (hnodup : keys.Nodup) (hin : ∀ i ∈ f k₀, p i = true)
    (hout : ∀ k, k ≠ k₀ → ∀ i ∈ f k, p i = false) :
    (keys.flatMap f).filter p = if k₀ ∈ keys then f k₀ else [] := by
  -- of each group, all or nothing is kept
  have hfilter : ∀ k, (f k).filter p = if k = k₀ then f k₀ else [] := by
    intro k
    split_ifs with hk
    · rw [hk]
      exact List.filter_eq_self.mpr hin
    · refine List.filter_eq_nil_iff.mpr fun i hi => ?_
      rw [hout k hk i hi]
      exact Bool.false_ne_true
  induction keys with
  | nil => rfl
  | cons k keys ih =>
      obtain ⟨hk, hkeys⟩ := List.nodup_cons.mp hnodup
      rw [List.flatMap_cons, List.filter_append, hfilter, ih hkeys]
      by_cases he : k = k₀
      · subst he
        rw [if_pos rfl, if_neg hk, if_pos List.mem_cons_self, List.append_nil]
      · have hmem : k₀ ∈ k :: keys ↔ k₀ ∈ keys := by
          rw [List.mem_cons]
          exact or_iff_right (Ne.symm he)
        rw [if_neg he, List.nil_append]
        simp only [hmem]

/-- A group of the block is one of the groups that are processed. -/
theorem Collected.group_perm (hs : Collected cfg s) (hfits : CountsFit cfg s)
    {f : AssetId × AssetId → List (Intention AccountId Hash)}
    {d : AssetId × AssetId → AssetId × AssetId}
    (hdir : ∀ key, d key = key ∨ d key = (key.2, key.1))
    (hf : ∀ key, f key = if (s.intentionCount.lookup key).getD 0 = 0 then []
      else sortByAmountIn (s.intentions (d key)))
    (hinj : Function.Injective d) (x y : AssetId) :
    (((cfg.iterOrder s.intentionCount.keys).flatMap f).filter
        (fun i => i.assets = ⟨(d (x, y)).1, (d (x, y)).2⟩)).Perm
      (if x < y then s.intentions (d (x, y)) else []) := by
  have hperm := cfg.iterOrder_perm s.intentionCount.keys
  have hmem : ∀ key, ∀ i ∈ f key, i.assets = ⟨(d key).1, (d key).2⟩ := by
    intro key i hi
    rw [hf] at hi
    split_ifs at hi
    · cases hi
    · exact hs.own _ i ((sortByAmountIn_perm _).mem_iff.mp hi)
  rw [filter_flatMap_of_nodup (x, y)]
  · by_cases hlt : x < y
    · rw [if_pos hlt]
      by_cases hzero : (s.intentionCount.lookup (x, y)).getD 0 = 0
      · -- nothing is counted and nothing is stored
        obtain ⟨h₁, h₂⟩ := hs.nil_of_count_zero hfits hlt hzero
        have hnil : s.intentions (d (x, y)) = [] := by
          rcases hdir (x, y) with he | he
          · rw [he, h₁]
          · rw [he, h₂]
        rw [hf, if_pos hzero, ite_self, hnil]
      · have hkey : (x, y) ∈ cfg.iterOrder s.intentionCount.keys := by
          rw [hperm.mem_iff]
          by_contra hnot
          refine hzero ?_
          rw [AList.lookup_eq_none.mpr fun h => hnot (AList.mem_keys.mp h)]
          rfl
        rw [if_pos hkey, hf, if_neg hzero]
        exact sortByAmountIn_perm _
    · rw [if_neg hlt, if_neg]
      exact fun hkey => hlt (hs.ordered _ (hperm.mem_iff.mp hkey))
  · exact hperm.nodup_iff.mpr s.intentionCount.keys_nodup
  · intro i hi
    rw [hmem (x, y) i hi, decide_eq_true_eq]
  · intro key hkey i hi
    rw [hmem key i hi, decide_eq_false_iff_not, AssetPair.mk.injEq]
    exact fun he => hkey (hinj (Prod.ext he.1 he.2))

/-- **Every intention is processed exactly once, in its own block.** Before the block is
finalized, the count of every ordered pair is the number of its intentions, each of which is
stored under its own assets. Finalizing makes the calls `log`, one after the other: for every
pair of assets, the intentions that give the larger id are verified once each, those found valid
are resolved once each, and the intentions that give the smaller id occur once each, matched or
by themselves. Afterwards nothing is stored or counted. -/
theorem every_intention_once (cfg : Config AccountId Hash) (hseeds : XYK.SeedsInjective cfg)
    (s₀ s s' : State AccountId Hash) (hstart : BlockStart s₀) (hself : XYK.NoSelfPool cfg s₀)
    (hrun : BlockRuns cfg (fun _ _ => True) s₀ s) (hfits : CountsFit cfg s)
    (h : onFinalize cfg s = .ok s') :
    (∀ x y, x < y → ((s.intentionCount.lookup (x, y)).getD 0).toNat
      = (s.intentions (x, y)).length + (s.intentions (y, x)).length) ∧
    (∀ key, ∀ i ∈ s.intentions key, (i.assets.assetIn, i.assets.assetOut) = key) ∧
    (∃ t log, finalizeLog cfg s = .ok (t, log) ∧
      s' = { t with intentionCount := ∅, intentions := fun _ => [] } ∧
      log.foldlM (Work.run cfg) s = .ok t ∧
      Fallible.Always (Work.run cfg) (Work.Faithful cfg) s log ∧
      log.filterMap Work.main = log.filterMap Work.valid ∧
      ∀ a b,
        ((log.filterMap Work.verified).filter (fun i => i.assets = ⟨a, b⟩)).Perm
          (if b < a then s.intentions (a, b) else []) ∧
        ((log.flatMap Work.others).filter (fun i => i.assets = ⟨a, b⟩)).Perm
          (if a < b then s.intentions (a, b) else [])) ∧
    s'.intentionCount = ∅ ∧ ∀ key, s'.intentions key = [] := by
  have hs := collected_of_blockRuns hseeds hstart hself hrun
  obtain ⟨t, log, hlog, rfl⟩ := onFinalize_iff_log.mp h
  have hspec := finalizeLog_logs hlog
  refine ⟨fun x y hlt => hs.count_eq hfits hlt, fun key i hi => ?_,
    ⟨t, log, hlog, rfl, hspec.run, hspec.faithful, hspec.resolved, fun a b => ⟨?_, ?_⟩⟩, rfl,
    fun _ => rfl⟩
  · rw [hs.own key i hi]
  · rw [hspec.verified]
    exact hs.group_perm hfits (d := fun key => (key.2, key.1)) (fun _ => Or.inr rfl)
      (fun _ => rfl) (fun _ _ he => Prod.ext (congrArg Prod.snd he) (congrArg Prod.fst he)) b a
  · rw [hspec.others]
    exact hs.group_perm hfits (d := id) (fun _ => Or.inl rfl) (fun _ => rfl)
      (fun _ _ he => he) a b

/-! ## A block with three intentions -/

open Fallible

/-- `[2]` sells asset `1` for asset `0`; `[3]` sells asset `0` for asset `1` and buys some more
of it. -/
def threeIntentions : Except Failure (State Dev.AccountId Dev.Hash) :=
  Dev.after
    (Dev.genesis [(0, [1], 1000000), (1, [1], 1000000), (1, [2], 10000), (0, [3], 10000)])
    [.xyk (.createPool [1] 0 1 400000 (10 ^ 18)), .sell [2] 1 0 3000 1 false,
     .sell [3] 0 1 2000 1 false, .buy [3] 1 0 1500 5000 false]

theorem every_intention_once_threeIntentions :
    Succeeds threeIntentions fun s =>
      ((s.intentionCount.lookup (0, 1)).getD 0).toNat
        = (s.intentions (0, 1)).length + (s.intentions (1, 0)).length ∧
      ∃ t log, finalizeLog Dev.cfg s = .ok (t, log) ∧
        ((log.filterMap Work.verified).filter (fun i => i.assets = ⟨1, 0⟩)).Perm
          (s.intentions (1, 0)) ∧
        ((log.flatMap Work.others).filter (fun i => i.assets = ⟨0, 1⟩)).Perm
          (s.intentions (0, 1)) := by
  obtain ⟨s, hs, s', hs', -⟩ : Succeeds threeIntentions fun s =>
      Succeeds (onFinalize Dev.cfg s) fun _ => True := by decide +kernel
  obtain ⟨hcount, -, ⟨t, log, hlog, -, -, -, -, hgroups⟩, -⟩ := every_intention_once Dev.cfg
    Dev.seedsInjective _ s s' (Dev.blockStart _) (Dev.noSelfPool _)
    (Runs.of_foldlM (fun _ _ => trivial) hs) (Or.inl rfl) hs'
  exact ⟨s, hs, hcount 0 1 (by decide), t, log, hlog, (hgroups 1 0).1, (hgroups 0 1).2⟩

end HydraDX.Exchange
