import HydraDX.Lib.Ledger
import Mathlib.Algebra.BigOperators.Finprod
import Mathlib.Logic.Relation

set_option autoImplicit false

/-! # The supply of a ledger

A ledger is `Backed` if no finite set of accounts holds more of an asset, free and reserved,
than was issued. `Moves I D l l'` says that `l'` arises from `l` by ledger operations that are
covered by the balances they take from, and that only assets in `I` are issued and only those
in `D` destroyed. Such operations keep a ledger backed (`Moves.backed`) and the issuance of
all other assets (`Moves.issuance`). The `supply` of an asset is what all accounts together
hold; operations that neither issue nor destroy keep it (`Moves.supply`). -/

namespace Ledger

variable {Asset Account : Type} [DecidableEq Asset] [DecidableEq Account]

/-- What an account holds of an asset, free and reserved. -/
def total (l : Ledger Asset Account) (c : Asset) (w : Account) : Nat :=
  l.free c w + l.reserved c w

/-- No finite set of accounts holds more than was issued. -/
def Backed (l : Ledger Asset Account) : Prop :=
  ∀ (c : Asset) (U : Finset Account), ∑ w ∈ U, l.total c w ≤ l.issuance c

/-! ## Totals after an operation -/

/-- Only two accounts may hold something else than before, and together they hold the same. -/
def Redistributes (l l' : Ledger Asset Account) : Prop :=
  ∃ a b : Account, (∀ c w, w ≠ a → w ≠ b → l'.total c w = l.total c w) ∧
    ∀ c, ∑ w ∈ {a, b}, l'.total c w = ∑ w ∈ {a, b}, l.total c w

section Totals

variable {l l' : Ledger Asset Account} {c : Asset} {w source dest : Account} {x : Nat}

omit [DecidableEq Asset] in
theorem Redistributes.of_total_eq (w : Account) (h : ∀ c w, l'.total c w = l.total c w) :
    Redistributes l l' :=
  ⟨w, w, fun c w _ _ => h c w, fun c => Finset.sum_congr rfl fun w _ => h c w⟩

omit [DecidableEq Asset] in
theorem Redistributes.of_pair (hne : source ≠ dest)
    (hsum : ∀ c, l'.total c source + l'.total c dest = l.total c source + l.total c dest)
    (hoff : ∀ c w, w ≠ source → w ≠ dest → l'.total c w = l.total c w) : Redistributes l l' :=
  ⟨source, dest, hoff, fun c => by rw [Finset.sum_pair hne, Finset.sum_pair hne, hsum]⟩

omit [DecidableEq Asset] in
/-- The sum over a set of accounts that has the two among them does not change. -/
theorem Redistributes.exists_sum_eq (h : Redistributes l l') :
    ∃ T : Finset Account, ∀ (c : Asset) (U : Finset Account), T ⊆ U →
      ∑ w ∈ U, l'.total c w = ∑ w ∈ U, l.total c w := by
  obtain ⟨a, b, hoff, hsum⟩ := h
  refine ⟨{a, b}, fun c U hU => ?_⟩
  have hrest : ∑ w ∈ U \ {a, b}, l'.total c w = ∑ w ∈ U \ {a, b}, l.total c w := by
    refine Finset.sum_congr rfl fun w hw => ?_
    have hw := (Finset.mem_sdiff.mp hw).2
    rw [Finset.mem_insert, Finset.mem_singleton, not_or] at hw
    exact hoff c w hw.1 hw.2
  rw [← Finset.sum_sdiff hU, ← Finset.sum_sdiff hU, hrest, hsum]

theorem move_redistributes (hx : source ≠ dest → x ≤ l.free c source) :
    Redistributes l (l.move c source dest x) := by
  by_cases hsd : source = dest
  · rw [hsd, move_self]
    exact .of_total_eq dest fun _ _ => rfl
  · refine .of_pair hsd (fun c' => ?_) (fun c' w hs hd => ?_)
    · have hx' := hx hsd
      by_cases hc : c' = c
      · subst hc
        simp only [Ledger.total, move_free_source hsd, move_free_dest hsd, move_reserved]
        omega
      · simp only [Ledger.total, move_free_of_ne (Or.inl hc), move_reserved]
    · simp only [Ledger.total, move_free_of_ne (Or.inr ⟨hs, hd⟩), move_reserved]

theorem hold_redistributes (hx : x ≤ l.free c w) : Redistributes l (l.hold c w x) := by
  refine .of_total_eq w fun c' w' => ?_
  simp only [Ledger.total, Ledger.hold, put_apply]
  split_ifs with hcw
  · rw [hcw.1, hcw.2]
    omega
  · rfl

theorem repatriate_redistributes : Redistributes l (l.repatriate c source dest x) := by
  have hmin : min (l.reserved c source) x ≤ l.reserved c source := Nat.min_le_left _ _
  by_cases hsd : source = dest
  · subst hsd
    refine .of_total_eq source fun c' w' => ?_
    simp only [Ledger.total, Ledger.repatriate, put_apply]
    split_ifs with hcw
    · rw [hcw.1, hcw.2]
      omega
    · rfl
  · refine .of_pair hsd (fun c' => ?_) (fun c' w hs hd => ?_)
    · by_cases hc : c' = c
      · subst hc
        simp only [Ledger.total, Ledger.repatriate, put_same,
          put_of_ne (c := c') (Or.inr hsd), put_of_ne (c := c') (Or.inr (Ne.symm hsd))]
        omega
      · simp only [Ledger.total, Ledger.repatriate, put_of_ne (Or.inl hc)]
    · simp only [Ledger.total, Ledger.repatriate, put_of_ne (Or.inr hs), put_of_ne (Or.inr hd)]

theorem mint_total (c' : Asset) (w' : Account) :
    (l.mint c w x).total c' w' = l.total c' w' + if c' = c ∧ w' = w then x else 0 := by
  by_cases hcw : c' = c ∧ w' = w
  · obtain ⟨rfl, rfl⟩ := hcw
    rw [if_pos ⟨rfl, rfl⟩]
    simp only [Ledger.total, Ledger.mint, put_same]
    omega
  · rw [if_neg hcw, Nat.add_zero]
    simp only [Ledger.total, mint_free_of_ne (not_and_or.mp hcw), mint_reserved]

theorem burn_total_add (hx : x ≤ l.free c w) (c' : Asset) (w' : Account) :
    (l.burn c w x).total c' w' + (if c' = c ∧ w' = w then x else 0) = l.total c' w' := by
  by_cases hcw : c' = c ∧ w' = w
  · obtain ⟨rfl, rfl⟩ := hcw
    rw [if_pos ⟨rfl, rfl⟩]
    simp only [Ledger.total, Ledger.burn, put_same]
    omega
  · rw [if_neg hcw, Nat.add_zero]
    simp only [Ledger.total, burn_free_of_ne (not_and_or.mp hcw), burn_reserved]

/-- What a balance of `x` of the asset `c` on the account `w` adds to a sum over accounts. -/
theorem sum_single {U : Finset Account} (hw : w ∈ U) (c' : Asset) :
    ∑ w' ∈ U, (if c' = c ∧ w' = w then x else 0) = if c' = c then x else 0 := by
  by_cases hc : c' = c
  · simp [hc, hw]
  · simp [hc]

theorem sum_mint {U : Finset Account} (hw : w ∈ U) (c' : Asset) :
    ∑ w' ∈ U, (l.mint c w x).total c' w' = ∑ w' ∈ U, l.total c' w' + if c' = c then x else 0 := by
  rw [Finset.sum_congr rfl fun w' _ => mint_total c' w', Finset.sum_add_distrib, sum_single hw]

theorem sum_burn_add {U : Finset Account} (hw : w ∈ U) (hx : x ≤ l.free c w) (c' : Asset) :
    ∑ w' ∈ U, (l.burn c w x).total c' w' + (if c' = c then x else 0)
      = ∑ w' ∈ U, l.total c' w' := by
  rw [← sum_single hw, ← Finset.sum_add_distrib]
  exact Finset.sum_congr rfl fun w' _ => burn_total_add hx c' w'

end Totals

/-! ## Backed ledgers -/

section Backed

variable {l l' : Ledger Asset Account} {c : Asset} {w source dest : Account} {x : Nat}

omit [DecidableEq Asset] in
theorem Backed.pair_le (h : Backed l) (c : Asset) {a b : Account} (hab : a ≠ b) :
    l.total c a + l.total c b ≤ l.issuance c := by
  simpa [Finset.sum_pair hab] using h c {a, b}

omit [DecidableEq Asset] in
theorem Backed.redistributes (h : Backed l) (hiss : l'.issuance = l.issuance)
    (hl : Redistributes l l') : Backed l' := by
  intro c U
  -- enlarge the set by the accounts between which the sum does not change
  obtain ⟨T, hsum⟩ := hl.exists_sum_eq
  calc ∑ w ∈ U, l'.total c w
      ≤ ∑ w ∈ T ∪ U, l'.total c w := Finset.sum_le_sum_of_subset Finset.subset_union_right
    _ = ∑ w ∈ T ∪ U, l.total c w := hsum c _ Finset.subset_union_left
    _ ≤ l.issuance c := h c _
    _ = l'.issuance c := by rw [hiss]

theorem Backed.mint (h : Backed l) : Backed (l.mint c w x) := by
  intro c' U
  calc ∑ w' ∈ U, (l.mint c w x).total c' w'
      ≤ ∑ w' ∈ insert w U, (l.mint c w x).total c' w' :=
        Finset.sum_le_sum_of_subset (Finset.subset_insert w U)
    _ = ∑ w' ∈ insert w U, l.total c' w' + if c' = c then x else 0 :=
        sum_mint (Finset.mem_insert_self w U) c'
    _ ≤ l.issuance c' + if c' = c then x else 0 := Nat.add_le_add_right (h c' _) _
    _ = (l.mint c w x).issuance c' := by
        rw [mint_issuance]
        split_ifs with hc
        · rw [hc]
        · rfl

theorem Backed.burn (h : Backed l) (hx : x ≤ l.free c w) : Backed (l.burn c w x) := by
  intro c' U
  have hmono : ∑ w' ∈ U, (l.burn c w x).total c' w'
      ≤ ∑ w' ∈ insert w U, (l.burn c w x).total c' w' :=
    Finset.sum_le_sum_of_subset (Finset.subset_insert w U)
  have hsum := sum_burn_add (Finset.mem_insert_self w U) hx c'
  have hle := h c' (insert w U)
  rw [burn_issuance]
  split_ifs at hsum ⊢ with hc
  · subst hc
    omega
  · omega

end Backed

/-! ## The supply -/

/-- Finitely many accounts hold something of each asset. -/
def FiniteHolders (l : Ledger Asset Account) : Prop :=
  ∀ c, (Function.support (l.total c)).Finite

/-- What all accounts together hold of an asset. -/
noncomputable def supply (l : Ledger Asset Account) (c : Asset) : Nat := ∑ᶠ w, l.total c w

section Supply

variable {l l' : Ledger Asset Account} {c : Asset} {w : Account} {x : Nat}

omit [DecidableEq Asset] [DecidableEq Account] in
theorem supply_eq_sum {U : Finset Account} (h : Function.support (l.total c) ⊆ U) :
    l.supply c = ∑ w ∈ U, l.total c w :=
  finsum_eq_sum_of_support_subset _ h

omit [DecidableEq Asset] in
/-- Two ledgers that differ on finitely many accounts. -/
theorem FiniteHolders.of_eq_off (h : FiniteHolders l) (T : Finset Account)
    (hoff : ∀ c w, w ∉ T → l'.total c w = l.total c w) : FiniteHolders l' := by
  intro c
  refine ((h c).union T.finite_toSet).subset fun w hw => ?_
  by_cases hT : w ∈ T
  · exact Or.inr hT
  · left
    rw [Function.mem_support] at hw ⊢
    rwa [← hoff c w hT]

omit [DecidableEq Asset] in
theorem FiniteHolders.redistributes (h : FiniteHolders l) (hl : Redistributes l l') :
    FiniteHolders l' := by
  obtain ⟨a, b, hoff, -⟩ := hl
  refine h.of_eq_off {a, b} fun c w hw => ?_
  rw [Finset.mem_insert, Finset.mem_singleton, not_or] at hw
  exact hoff c w hw.1 hw.2

omit [DecidableEq Asset] in
theorem Redistributes.supply_eq (h : FiniteHolders l) (hl : Redistributes l l') (c : Asset) :
    l'.supply c = l.supply c := by
  obtain ⟨T, hsum⟩ := hl.exists_sum_eq
  have h' := h.redistributes hl
  rw [supply_eq_sum (U := T ∪ ((h c).toFinset ∪ (h' c).toFinset)),
    supply_eq_sum (U := T ∪ ((h c).toFinset ∪ (h' c).toFinset)), hsum c _ Finset.subset_union_left]
  · intro w hw
    simp [hw]
  · intro w hw
    simp [hw]

theorem FiniteHolders.mint (h : FiniteHolders l) : FiniteHolders (l.mint c w x) := by
  refine h.of_eq_off {w} fun c' w' hw' => ?_
  rw [mint_total, if_neg fun hcw => hw' (Finset.mem_singleton.mpr hcw.2), Nat.add_zero]

theorem FiniteHolders.burn (h : FiniteHolders l) : FiniteHolders (l.burn c w x) := by
  refine h.of_eq_off {w} fun c' w' hw' => ?_
  simp only [Ledger.total, burn_free_of_ne (Or.inr fun he => hw' (Finset.mem_singleton.mpr he)),
    burn_reserved]

theorem supply_mint (h : FiniteHolders l) (c' : Asset) :
    (l.mint c w x).supply c' = l.supply c' + if c' = c then x else 0 := by
  have h' : FiniteHolders (l.mint c w x) := h.mint
  rw [supply_eq_sum (U := insert w ((h c').toFinset ∪ (h' c').toFinset)),
    supply_eq_sum (U := insert w ((h c').toFinset ∪ (h' c').toFinset)),
    sum_mint (Finset.mem_insert_self _ _)]
  · intro w' hw'
    simp [hw']
  · intro w' hw'
    simp [hw']

theorem supply_burn_add (h : FiniteHolders l) (hx : x ≤ l.free c w) (c' : Asset) :
    (l.burn c w x).supply c' + (if c' = c then x else 0) = l.supply c' := by
  have h' : FiniteHolders (l.burn c w x) := h.burn
  rw [supply_eq_sum (U := insert w ((h c').toFinset ∪ (h' c').toFinset)),
    supply_eq_sum (U := insert w ((h c').toFinset ∪ (h' c').toFinset)),
    sum_burn_add (Finset.mem_insert_self _ _) hx]
  · intro w' hw'
    simp [hw']
  · intro w' hw'
    simp [hw']

end Supply

/-! ## Sequences of operations -/

/-- One ledger operation, covered by the balance it takes from. Only assets of which `I`
holds are issued, only those of which `D` holds are destroyed. -/
inductive Step (I D : Asset → Prop) (l : Ledger Asset Account) :
    Ledger Asset Account → Prop where
  | move (c : Asset) (source dest : Account) (x : Nat)
      (hx : source ≠ dest → x ≤ l.free c source) : Step I D l (l.move c source dest x)
  | mint (c : Asset) (w : Account) (x : Nat) (hc : I c) : Step I D l (l.mint c w x)
  | burn (c : Asset) (w : Account) (x : Nat) (hc : D c) (hx : x ≤ l.free c w) :
      Step I D l (l.burn c w x)
  | hold (c : Asset) (w : Account) (x : Nat) (hx : x ≤ l.free c w) : Step I D l (l.hold c w x)
  | release (c : Asset) (w : Account) (x : Nat) : Step I D l (l.release c w x)
  | repatriate (c : Asset) (source dest : Account) (x : Nat) :
      Step I D l (l.repatriate c source dest x)

/-- Any number of operations. -/
def Moves (I D : Asset → Prop) : Ledger Asset Account → Ledger Asset Account → Prop :=
  Relation.ReflTransGen (Step I D)

section Moves

variable {I D : Asset → Prop} {l l' l'' : Ledger Asset Account} {c : Asset}

theorem Moves.refl (l : Ledger Asset Account) : Moves I D l l := Relation.ReflTransGen.refl

theorem Moves.trans (h : Moves I D l l') (h' : Moves I D l' l'') : Moves I D l l'' :=
  Relation.ReflTransGen.trans h h'

theorem Step.moves (h : Step I D l l') : Moves I D l l' := Relation.ReflTransGen.single h

/-- Allowing more to be issued or destroyed. -/
theorem Moves.mono {I' D' : Asset → Prop} (h : Moves I D l l') (hI : ∀ c, I c → I' c)
    (hD : ∀ c, D c → D' c) : Moves I' D' l l' := by
  refine Relation.ReflTransGen.mono (fun l₁ l₂ hstep => ?_) _ _ h
  cases hstep with
  | move c source dest x hx => exact .move c source dest x hx
  | mint c w x hc => exact .mint c w x (hI c hc)
  | burn c w x hc hx => exact .burn c w x (hD c hc) hx
  | hold c w x hx => exact .hold c w x hx
  | release c w x => exact .release c w x
  | repatriate c source dest x => exact .repatriate c source dest x

theorem Moves.backed (h : Moves I D l l') (hl : Backed l) : Backed l' := by
  induction h with
  | refl => exact hl
  | tail _ hstep ih =>
      cases hstep with
      | move c source dest x hx => exact ih.redistributes (move_issuance ..) (move_redistributes hx)
      | mint c w x hc => exact ih.mint
      | burn c w x hc hx => exact ih.burn hx
      | hold c w x hx => exact ih.redistributes rfl (hold_redistributes hx)
      | release c w x => exact ih.redistributes rfl repatriate_redistributes
      | repatriate c source dest x => exact ih.redistributes rfl repatriate_redistributes

/-- Of an asset that is not issued there is not more than before. -/
theorem Moves.issuance_le (h : Moves I D l l') (hI : ¬ I c) : l'.issuance c ≤ l.issuance c := by
  induction h with
  | refl => exact le_rfl
  | tail _ hstep ih =>
      refine le_trans ?_ ih
      cases hstep with
      | move c' source dest x hx => rw [move_issuance]
      | mint c' w x hc' => rw [mint_issuance, if_neg (by rintro rfl; exact hI hc')]
      | burn c' w x hc' hx =>
          rw [burn_issuance]
          split_ifs with hc
          · rw [hc]
            exact Nat.sub_le _ _
          · exact le_rfl
      | hold c' w x hx => exact le_rfl
      | release c' w x => exact le_rfl
      | repatriate c' source dest x => exact le_rfl

/-- Assets that are neither issued nor destroyed keep their issuance. -/
theorem Moves.issuance (h : Moves I D l l') (hI : ¬ I c) (hD : ¬ D c) :
    l'.issuance c = l.issuance c := by
  induction h with
  | refl => rfl
  | tail _ hstep ih =>
      rw [← ih]
      cases hstep with
      | move c' source dest x hx => rw [move_issuance]
      | mint c' w x hc' => rw [mint_issuance, if_neg (by rintro rfl; exact hI hc')]
      | burn c' w x hc' hx => rw [burn_issuance, if_neg (by rintro rfl; exact hD hc')]
      | hold c' w x hx => rfl
      | release c' w x => rfl
      | repatriate c' source dest x => rfl

/-- An operation that neither issues nor destroys redistributes. -/
theorem Step.redistributes (h : Step (fun _ => False) (fun _ => False) l l') :
    Redistributes l l' := by
  cases h with
  | move c source dest x hx => exact move_redistributes hx
  | mint c w x hc => exact hc.elim
  | burn c w x hc hx => exact hc.elim
  | hold c w x hx => exact hold_redistributes hx
  | release c w x => exact repatriate_redistributes
  | repatriate c source dest x => exact repatriate_redistributes

/-- Where nothing is issued or destroyed, finitely many accounts still hold all there is, and
the supply of every asset is the same. -/
theorem Moves.supply (h : Moves (fun _ => False) (fun _ => False) l l') (hl : FiniteHolders l) :
    FiniteHolders l' ∧ ∀ c, l'.supply c = l.supply c := by
  induction h with
  | refl => exact ⟨hl, fun _ => rfl⟩
  | tail _ hstep ih =>
      obtain ⟨hfinite, hsupply⟩ := ih
      have hredist := hstep.redistributes
      refine ⟨hfinite.redistributes hredist, fun c => ?_⟩
      rw [hredist.supply_eq hfinite, hsupply]

/-- What an operation adds to the issuance it adds to the supply, and likewise what it takes. -/
theorem Step.surplus (h : Step I D l l') (hfinite : FiniteHolders l) (hback : Backed l) :
    FiniteHolders l' ∧ ∀ c, l'.issuance c + l.supply c = l.issuance c + l'.supply c := by
  have hsame : l'.issuance = l.issuance → Redistributes l l' →
      FiniteHolders l' ∧ ∀ c, l'.issuance c + l.supply c = l.issuance c + l'.supply c :=
    fun hissuance hl => ⟨hfinite.redistributes hl, fun c => by
      rw [hissuance, hl.supply_eq hfinite]⟩
  cases h with
  | move a source dest x hx => exact hsame (move_issuance ..) (move_redistributes hx)
  | mint a w x ha =>
      refine ⟨hfinite.mint, fun c => ?_⟩
      rw [supply_mint hfinite, mint_issuance]
      split_ifs with hc
      · rw [hc]
        omega
      · rfl
  | burn a w x ha hx =>
      refine ⟨hfinite.burn, fun c => ?_⟩
      have hsupply := supply_burn_add hfinite hx c
      have hissued := hback a {w}
      rw [Finset.sum_singleton, Ledger.total] at hissued
      rw [burn_issuance]
      split_ifs at hsupply ⊢ with hc
      · subst hc
        omega
      · omega
  | hold a w x hx => exact hsame rfl (hold_redistributes hx)
  | release a w x => exact hsame rfl repatriate_redistributes
  | repatriate a source dest x => exact hsame rfl repatriate_redistributes

/-- **Issuance and supply change together.** -/
theorem Moves.surplus (h : Moves I D l l') (hfinite : FiniteHolders l) (hback : Backed l) :
    FiniteHolders l' ∧ ∀ c, l'.issuance c + l.supply c = l.issuance c + l'.supply c := by
  induction h with
  | refl => exact ⟨hfinite, fun _ => rfl⟩
  | tail hmoves hstep ih =>
      obtain ⟨hfinite', hsurplus⟩ := ih
      obtain ⟨hfinite'', hsurplus'⟩ := hstep.surplus hfinite' (Moves.backed hmoves hback)
      refine ⟨hfinite'', fun c => ?_⟩
      have h₁ := hsurplus c
      have h₂ := hsurplus' c
      omega

end Moves

end Ledger
