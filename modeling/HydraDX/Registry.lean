import HydraDX.State

set_option autoImplicit false

/-! # The asset registry

`pallets/asset-registry/src/lib.rs` hands out ids to names. An id is never given to two
names, and every id in use is below the next one, as long as the first state is so. -/

namespace HydraDX.AssetRegistry

/-- The ids of the given names are pairwise different and below the next one. -/
structure ConsistentOn (names : Set (List UInt8)) (r : AssetRegistry) : Prop where
  injective : ∀ {name name' : List UInt8} {id : AssetId}, name ∈ names → name' ∈ names →
    r.assetIds name = some id → r.assetIds name' = some id → name = name'
  below : ∀ {name : List UInt8} {id : AssetId}, name ∈ names →
    r.assetIds name = some id → id < r.nextAssetId

/-- All ids are. -/
abbrev Consistent (r : AssetRegistry) : Prop := r.ConsistentOn Set.univ

variable {r r' : AssetRegistry} {names : Set (List UInt8)} {name name' : List UInt8}
  {id id' : AssetId}

/-- The id that was found or created belongs to the name. -/
theorem getOrCreateAsset_self (h : r.getOrCreateAsset name = .ok (id, r')) :
    r'.assetIds name = some id := by
  rcases getOrCreateAsset_cases h with ⟨hn, rfl⟩ | ⟨-, rfl, -, rfl⟩
  · exact hn
  · exact Function.update_self _ _ _

/-- Other names keep what they had. -/
theorem getOrCreateAsset_of_ne (h : r.getOrCreateAsset name = .ok (id, r')) (hne : name' ≠ name) :
    r'.assetIds name' = r.assetIds name' := by
  rcases getOrCreateAsset_cases h with ⟨-, rfl⟩ | ⟨-, -, -, rfl⟩
  · rfl
  · exact Function.update_of_ne hne _ _

theorem toNat_add_one {a : AssetId} (h : a.toNat + 1 < 2 ^ 32) : (a + 1).toNat = a.toNat + 1 := by
  rw [UInt32.toNat_add, UInt32.toNat_one]
  exact Nat.mod_eq_of_lt h

theorem getOrCreateAsset_next_le (h : r.getOrCreateAsset name = .ok (id, r')) :
    r.nextAssetId ≤ r'.nextAssetId := by
  rcases getOrCreateAsset_cases h with ⟨-, rfl⟩ | ⟨-, -, hb, rfl⟩
  · exact UInt32.le_refl _
  · rw [UInt32.le_iff_toNat_le, toNat_add_one hb]
    exact Nat.le_succ _

theorem ConsistentOn.getOrCreateAsset (hr : r.ConsistentOn names)
    (h : r.getOrCreateAsset name = .ok (id, r')) : r'.ConsistentOn names := by
  rcases getOrCreateAsset_cases h with ⟨-, rfl⟩ | ⟨hnone, -, hb, rfl⟩
  · exact hr
  · have hlt : ∀ {a : AssetId}, a < r.nextAssetId → a < r.nextAssetId + 1 := by
      intro a ha
      rw [UInt32.lt_iff_toNat_lt] at ha ⊢
      rw [toNat_add_one hb]
      omega
    refine ⟨fun {n n' i} hmem hmem' hn hn' => ?_, fun {n i} hmem hn => ?_⟩
    · simp only [Function.update_apply] at hn hn'
      -- the new id is not below the next one, so no other name has it
      split_ifs at hn hn' with he he' he'
      · exact he.trans he'.symm
      · cases hn
        exact absurd (hr.below hmem' hn') (UInt32.lt_irrefl _)
      · cases hn'
        exact absurd (hr.below hmem hn) (UInt32.lt_irrefl _)
      · exact hr.injective hmem hmem' hn hn'
    · simp only [Function.update_apply] at hn
      split_ifs at hn with he
      · cases hn
        rw [UInt32.lt_iff_toNat_lt, toNat_add_one hb]
        exact Nat.lt_succ_self _
      · exact hlt (hr.below hmem hn)

end HydraDX.AssetRegistry
