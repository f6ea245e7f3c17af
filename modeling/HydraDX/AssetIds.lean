import HydraDX.Registry
import HydraDX.Lib.Dispatch
import HydraDX.Lib.Histories
import Mathlib.Data.Set.Card

set_option autoImplicit false

/-! # The ids that the asset registry hands out

`pallets/asset-registry/src/lib.rs` from its genesis on. `get_or_create_asset` is not
transactional, so it is given here write by write; it writes after its last check, so that a
call that fails has changed nothing (`exec_getOrCreateAsset`).

Over a history of calls the registry is only ever extended (`Extends`): a name keeps its id, a new
name gets one that was not below the counter, and the counter grows by one for every new name. -/

namespace HydraDX.AssetRegistry

open Histories Dispatch

/-! ## Genesis -/

structure GenesisConfig where
  coreAssetId : AssetId
  nextAssetId : AssetId
  assetIds : List (List UInt8 × AssetId)

/-- `AssetIds::insert` of an entry. -/
def insertAsset (m : List UInt8 → Option AssetId) (e : List UInt8 × AssetId) :
    List UInt8 → Option AssetId :=
  Function.update m e.1 (some e.2)

def GenesisConfig.build (g : GenesisConfig) : AssetRegistry where
  coreAssetId := g.coreAssetId
  nextAssetId := g.nextAssetId
  assetIds := g.assetIds.foldl insertAsset (fun _ => none)

/-- Names and ids are pairwise different, and the counter is above all ids. -/
structure GenesisConfig.Valid (g : GenesisConfig) : Prop where
  names : (g.assetIds.map Prod.fst).Nodup
  ids : (g.assetIds.map Prod.snd).Nodup
  below : ∀ e ∈ g.assetIds, e.2 < g.nextAssetId
  core_below : g.coreAssetId < g.nextAssetId

/-- What an entry of the map comes from: one of the entries that were inserted. -/
theorem foldl_insertAsset_eq_some {entries : List (List UInt8 × AssetId)}
    {m : List UInt8 → Option AssetId} {name : List UInt8} {id : AssetId}
    (h : entries.foldl insertAsset m name = some id) :
    (name, id) ∈ entries ∨ m name = some id := by
  induction entries generalizing m with
  | nil => exact Or.inr h
  | cons e entries ih =>
      rw [List.foldl_cons] at h
      rcases ih h with hmem | hm
      · exact Or.inl (List.mem_cons_of_mem e hmem)
      · rw [insertAsset, Function.update_apply] at hm
        split_ifs at hm with hn
        · left
          rw [hn, ← Option.some.inj hm]
          exact List.mem_cons_self
        · exact Or.inr hm

theorem GenesisConfig.build_eq_some {g : GenesisConfig} {name : List UInt8} {id : AssetId}
    (h : g.build.assetIds name = some id) : (name, id) ∈ g.assetIds := by
  rcases foldl_insertAsset_eq_some h with hmem | hnone
  · exact hmem
  · cases hnone

theorem GenesisConfig.Valid.consistent {g : GenesisConfig} (hg : g.Valid) :
    g.build.Consistent := by
  refine ⟨fun {name name' id} _ _ h h' => ?_, fun {name id} _ h => ?_⟩
  · -- two entries with one id are one entry
    have he := List.inj_on_of_nodup_map hg.ids (GenesisConfig.build_eq_some h)
      (GenesisConfig.build_eq_some h') rfl
    exact (Prod.mk.inj he).1
  · exact hg.below _ (GenesisConfig.build_eq_some h)

/-! ## Calls -/

/-- `checked_add` of one. -/
def checkedSucc (assetId : AssetId) : Except DispatchError AssetId :=
  if assetId.toNat + 1 < 2 ^ 32 then .ok (assetId + 1) else .error (.registry .NoIdAvailable)

/-- `get_or_create_asset`, write by write. -/
def Storage.getOrCreateAsset (name : List UInt8) : Dispatch AssetRegistry DispatchError AssetId := do
  match (← get).assetIds name with
  | some assetId => return assetId
  | none =>
      let assetId := (← get).nextAssetId
      let nextId ← checkedSucc assetId
      modify fun r => { r with nextAssetId := nextId }
      modify fun r => { r with assetIds := Function.update r.assetIds name (some assetId) }
      return assetId

/-- The registry after a call, whether it succeeds or not. -/
def register (r : AssetRegistry) (name : List UInt8) : AssetRegistry :=
  (exec (Storage.getOrCreateAsset name) r).2

/-- **A call that fails has changed nothing.** -/
theorem exec_getOrCreateAsset (r : AssetRegistry) (name : List UInt8) :
    exec (Storage.getOrCreateAsset name) r =
      match r.getOrCreateAsset name with
      | .ok (id, r') => (.ok id, r')
      | .error e => (.error e, r) := by
  unfold Storage.getOrCreateAsset AssetRegistry.getOrCreateAsset
  rw [exec_get_bind]
  cases r.assetIds name with
  | some id => rfl
  | none =>
      simp only
      rw [exec_get_bind]
      by_cases hb : r.nextAssetId.toNat + 1 < 2 ^ 32
      · have hnext : checkedSucc r.nextAssetId = .ok (r.nextAssetId + 1) := if_pos hb
        rw [if_pos hb, hnext]
        rfl
      · have hnext : checkedSucc r.nextAssetId = .error (.registry .NoIdAvailable) := if_neg hb
        rw [if_neg hb, hnext]
        rfl

theorem exec_eq_ok_iff {r r' : AssetRegistry} {name : List UInt8} {id : AssetId} :
    exec (Storage.getOrCreateAsset name) r = (.ok id, r') ↔
      r.getOrCreateAsset name = .ok (id, r') := by
  rw [exec_getOrCreateAsset]
  cases r.getOrCreateAsset name with
  | ok p => simp [Prod.ext_iff]
  | error e => simp

theorem exec_eq_error {r r' : AssetRegistry} {name : List UInt8} {e : DispatchError}
    (h : exec (Storage.getOrCreateAsset name) r = (.error e, r')) :
    e = .registry .NoIdAvailable ∧ r' = r := by
  rw [exec_getOrCreateAsset] at h
  unfold AssetRegistry.getOrCreateAsset at h
  cases hn : r.assetIds name with
  | some id =>
      rw [hn] at h
      simp at h
  | none =>
      rw [hn] at h
      split_ifs at h
      · simp at h
      · simp only [Prod.mk.injEq, Except.error.injEq] at h
        exact ⟨h.1.symm, h.2.symm⟩

/-- A call issues the next id to a new name, or nothing is registered. -/
theorem register_cases (r : AssetRegistry) (name : List UInt8) :
    register r name = r ∨
    (r.assetIds name = none ∧ r.nextAssetId.toNat + 1 < 2 ^ 32 ∧
      register r name = { r with
        nextAssetId := r.nextAssetId + 1
        assetIds := Function.update r.assetIds name (some r.nextAssetId) }) := by
  rcases hx : exec (Storage.getOrCreateAsset name) r with ⟨result, r'⟩
  have hr : register r name = r' := by rw [register, hx]
  rw [hr]
  cases result with
  | error e => exact Or.inl (exec_eq_error hx).2
  | ok id =>
      rcases getOrCreateAsset_cases (exec_eq_ok_iff.mp hx) with ⟨-, rfl⟩ | ⟨hnone, -, hb, rfl⟩
      · exact Or.inl rfl
      · exact Or.inr ⟨hnone, hb, rfl⟩

/-! ## Histories -/

/-- The registry has been extended: names keep their ids, and new names have new ids. -/
structure Extends (r₀ r : AssetRegistry) : Prop where
  core : r.coreAssetId = r₀.coreAssetId
  next_le : r₀.nextAssetId ≤ r.nextAssetId
  stable : ∀ {name id}, r₀.assetIds name = some id → r.assetIds name = some id
  fresh : ∀ {name id}, r.assetIds name = some id →
    r₀.assetIds name = some id ∨ r₀.nextAssetId ≤ id

theorem Extends.refl (r : AssetRegistry) : Extends r r :=
  ⟨rfl, UInt32.le_refl _, id, Or.inl⟩

theorem Extends.trans {r s t : AssetRegistry} (h : Extends r s) (h' : Extends s t) :
    Extends r t := by
  refine ⟨h'.core.trans h.core, UInt32.le_trans h.next_le h'.next_le,
    fun hr => h'.stable (h.stable hr), fun ht => ?_⟩
  rcases h'.fresh ht with hs | hle
  · exact h.fresh hs
  · exact Or.inr (UInt32.le_trans h.next_le hle)

theorem Extends.register (r : AssetRegistry) (name : List UInt8) :
    Extends r (register r name) := by
  rcases register_cases r name with hr | ⟨hnone, hb, hr⟩
  · rw [hr]
    exact .refl r
  · rw [hr]
    refine ⟨rfl, ?_, fun {n id} hn => ?_, fun {n id} hn => ?_⟩
    · rw [UInt32.le_iff_toNat_le, toNat_add_one hb]
      exact Nat.le_succ _
    · have hne : n ≠ name := by
        rintro rfl
        rw [hnone] at hn
        cases hn
      rw [← hn]
      exact Function.update_of_ne hne _ _
    · simp only [Function.update_apply] at hn
      split_ifs at hn with he
      · cases hn
        exact Or.inr (UInt32.le_refl _)
      · exact Or.inl hn

/-- **Every history extends the registry.** -/
theorem extends_run (r : AssetRegistry) (names : List (List UInt8)) :
    Extends r (run register r names) :=
  run_rel Extends.refl (fun _ _ _ => Extends.trans) Extends.register r names

theorem Consistent.register {r : AssetRegistry} (hr : Consistent r) (name : List UInt8) :
    Consistent (register r name) := by
  rcases hx : exec (Storage.getOrCreateAsset name) r with ⟨result, r'⟩
  have hr' : AssetRegistry.register r name = r' := by rw [AssetRegistry.register, hx]
  rw [hr']
  cases result with
  | error e =>
      rw [(exec_eq_error hx).2]
      exact hr
  | ok id => exact hr.getOrCreateAsset (exec_eq_ok_iff.mp hx)

/-- The names that have been registered. -/
def registeredSince (r₀ r : AssetRegistry) : Set (List UInt8) :=
  {name | r₀.assetIds name = none ∧ r.assetIds name ≠ none}

/-- The counter counts the names. -/
structure Counted (r₀ r : AssetRegistry) : Prop where
  finite : (registeredSince r₀ r).Finite
  next_eq : r.nextAssetId.toNat = r₀.nextAssetId.toNat + (registeredSince r₀ r).ncard

theorem Counted.refl (r : AssetRegistry) : Counted r r := by
  have hempty : registeredSince r r = ∅ := by
    ext name
    simp [registeredSince]
  refine ⟨?_, ?_⟩
  · rw [hempty]
    exact Set.finite_empty
  · rw [hempty, Set.ncard_empty, Nat.add_zero]

theorem Counted.register {r₀ r : AssetRegistry} (h : Counted r₀ r) (hext : Extends r₀ r)
    (name : List UInt8) : Counted r₀ (register r name) := by
  rcases register_cases r name with hr | ⟨hnone, hb, hr⟩
  · rw [hr]
    exact h
  · -- the new name was not registered at the beginning either
    have hnone₀ : r₀.assetIds name = none := by
      rw [Option.eq_none_iff_forall_ne_some]
      intro id hid
      rw [hext.stable hid] at hnone
      cases hnone
    have hset : registeredSince r₀ (AssetRegistry.register r name)
        = insert name (registeredSince r₀ r) := by
      ext n
      rw [hr]
      by_cases hn : n = name
      · subst hn
        simp [registeredSince, hnone₀]
      · simp [registeredSince, hn]
    have hnew : name ∉ registeredSince r₀ r := fun hmem => hmem.2 hnone
    refine ⟨?_, ?_⟩
    · rw [hset]
      exact h.finite.insert name
    · rw [hset, Set.ncard_insert_of_notMem hnew h.finite, hr]
      show (r.nextAssetId + 1).toNat = _
      rw [toNat_add_one hb, h.next_eq]
      omega

theorem counted_run (r : AssetRegistry) (names : List (List UInt8)) :
    Counted r (run register r names) :=
  (run_invariant (I := fun s => Extends r s ∧ Counted r s)
    (fun s name h => ⟨h.1.trans (.register s name), h.2.register h.1 name⟩)
    ⟨.refl r, .refl r⟩ names).2

/-- A name that has an id returns it, and nothing happens. -/
theorem exec_of_registered {r : AssetRegistry} {name : List UInt8} {id : AssetId}
    (h : r.assetIds name = some id) : exec (Storage.getOrCreateAsset name) r = (.ok id, r) := by
  rw [exec_eq_ok_iff, AssetRegistry.getOrCreateAsset, h]

/-- A call that returns an id has registered it, and the counter has grown by one exactly if the
name was new. -/
theorem exec_ok {r r' : AssetRegistry} {name : List UInt8} {id : AssetId}
    (h : exec (Storage.getOrCreateAsset name) r = (.ok id, r')) :
    r'.assetIds name = some id ∧
      r'.nextAssetId.toNat = r.nextAssetId.toNat + if r.assetIds name = none then 1 else 0 := by
  refine ⟨getOrCreateAsset_self (exec_eq_ok_iff.mp h), ?_⟩
  rcases getOrCreateAsset_cases (exec_eq_ok_iff.mp h) with ⟨hn, rfl⟩ | ⟨hnone, -, hb, rfl⟩
  · rw [hn, if_neg nofun, Nat.add_zero]
  · rw [if_pos hnone]
    exact toNat_add_one hb

/-- **The ids of the registry are unique and stable.** From every valid genesis and after every
history of calls: different names have different ids, only a name of the genesis can have the id of
the core asset, ids are below the counter, a name keeps its id whatever is called later, the counter
counts the names that were registered, a call that fails has changed nothing, and the id of a share
token determines the pair of assets up to its order. -/
theorem ids_unique_and_stable (g : GenesisConfig) (hg : g.Valid) (names : List (List UInt8)) :
    let r := run register g.build names
    (∀ name name' id, r.assetIds name = some id → r.assetIds name' = some id → name = name') ∧
    (∀ name, r.assetIds name = some r.coreAssetId → (name, g.coreAssetId) ∈ g.assetIds) ∧
    (∀ name id, r.assetIds name = some id → id < r.nextAssetId) ∧
    (∀ name id, r.assetIds name = some id → ∀ later,
      exec (Storage.getOrCreateAsset name) (run register r later)
        = (.ok id, run register r later)) ∧
    (∀ name id r', exec (Storage.getOrCreateAsset name) r = (.ok id, r') →
      r'.assetIds name = some id ∧
      r'.nextAssetId.toNat = r.nextAssetId.toNat + if r.assetIds name = none then 1 else 0) ∧
    (registeredSince g.build r).Finite ∧
    r.nextAssetId.toNat = g.nextAssetId.toNat + (registeredSince g.build r).ncard ∧
    (∀ name e r', exec (Storage.getOrCreateAsset name) r = (.error e, r') →
      e = .registry .NoIdAvailable ∧ r' = r) ∧
    (∀ pair pair' : AssetPair, ∀ id, r.assetIds pair.name = some id →
      (r.assetIds pair'.name = some id ↔ pair = pair' ∨ pair = pair'.swap)) := by
  intro r
  have hcons : r.Consistent :=
    run_invariant (fun s name (h : s.Consistent) => h.register name) hg.consistent names
  have hext : Extends g.build r := extends_run g.build names
  have hcount : Counted g.build r := counted_run g.build names
  refine ⟨fun _ _ _ => hcons.injective trivial trivial, fun name hn => ?_,
    fun _ _ => hcons.below trivial,
    fun name id hn later => ?_, fun name id r' => exec_ok, hcount.finite, hcount.next_eq,
    fun name e r' => exec_eq_error, fun pair pair' id hid => ?_⟩
  · rw [show r.coreAssetId = g.coreAssetId from hext.core] at hn
    -- new ids start at the counter, which is above the core asset
    rcases hext.fresh hn with hold | hle
    · exact GenesisConfig.build_eq_some hold
    · exact absurd hg.core_below (UInt32.not_lt.mpr hle)
  · exact exec_of_registered ((extends_run r later).stable hn)
  · constructor
    · intro hid'
      exact AssetPair.name_injective (hcons.injective trivial trivial hid hid')
    · rintro (rfl | rfl)
      · exact hid
      · rw [← AssetPair.name_swap]
        exact hid

/-- The core asset `HDX` and another one, and the counter at `2`. -/
def twoAssets : GenesisConfig :=
  { coreAssetId := 0, nextAssetId := 2, assetIds := [([72, 68, 88], 0), ([66, 84, 67], 1)] }

/-- `DOT` is registered as `2`, and stays so whatever is called later. -/
theorem ids_twoAssets :
    twoAssets.Valid ∧ ∀ later,
      exec (Storage.getOrCreateAsset [68, 79, 84])
        (run register (run register twoAssets.build [[68, 79, 84]]) later)
        = (.ok 2, run register (run register twoAssets.build [[68, 79, 84]]) later) := by
  have hvalid : twoAssets.Valid := by
    refine ⟨?_, ?_, ?_, ?_⟩
    all_goals decide
  have hdot : (run register twoAssets.build [[68, 79, 84]]).assetIds [68, 79, 84] = some 2 := by
    decide +kernel
  exact ⟨hvalid, (ids_unique_and_stable twoAssets hvalid [[68, 79, 84]]).2.2.2.1 _ _ hdot⟩

end HydraDX.AssetRegistry
