import HydraDX.Lib.Tally
import Mathlib.Algebra.BigOperators.Finprod

set_option autoImplicit false

/-! # A map built from a list of entries

Entries of a key and an amount are put into a map that is zero elsewhere. They are either added to
what the map has (`total`) or they replace it (`overwrite`). The two agree exactly if an entry is
zero whenever a later one has the same key (`overwrite_eq_total_iff`). The amounts of a map with
finitely many keys add up to a `sum`; the sum of a total is the sum of the entries. -/

namespace Entries

variable {Key : Type} [DecidableEq Key]

/-- What an entry contributes to a key. -/
def amountFor (k : Key) (e : Key × Nat) : Nat := if e.1 = k then e.2 else 0

/-- What the entries of a key add up to. -/
def total (entries : List (Key × Nat)) (k : Key) : Nat := Tally.tally amountFor k entries

/-- An entry replaces the amount of its key. -/
def put (m : Key → Nat) (e : Key × Nat) : Key → Nat := Function.update m e.1 e.2

def overwrite (entries : List (Key × Nat)) (m : Key → Nat) : Key → Nat := entries.foldl put m

/-- An entry that is followed by another one of its key is zero. -/
def OnlyLast (entries : List (Key × Nat)) : Prop :=
  ∀ before e after, entries = before ++ e :: after → (∃ e' ∈ after, e'.1 = e.1) → e.2 = 0

variable {entries : List (Key × Nat)} {e : Key × Nat} {m : Key → Nat} {k : Key}

theorem total_cons (e : Key × Nat) (entries : List (Key × Nat)) (k : Key) :
    total (e :: entries) k = amountFor k e + total entries k := Tally.tally_cons k e entries

theorem total_eq_zero (h : ∀ e ∈ entries, e.1 ≠ k) : total entries k = 0 :=
  Tally.tally_eq_zero fun e he => if_neg (h e he)

/-- The amount of a key that is listed once. -/
theorem total_of_mem (hnodup : (entries.map Prod.fst).Nodup) (h : e ∈ entries) :
    total entries e.1 = e.2 := by
  induction entries with
  | nil => exact absurd h List.not_mem_nil
  | cons e' entries ih =>
      rw [List.map_cons, List.nodup_cons] at hnodup
      obtain ⟨hfirst, hrest⟩ := hnodup
      have hne : ∀ f ∈ entries, f.1 ≠ e'.1 := fun f hf heq =>
        hfirst (heq ▸ List.mem_map_of_mem hf)
      rw [total_cons]
      rcases List.mem_cons.mp h with rfl | hmem
      · rw [total_eq_zero hne, amountFor, if_pos rfl, Nat.add_zero]
      · rw [ih hrest hmem, amountFor, if_neg (Ne.symm (hne e hmem)), Nat.zero_add]

/-- Adding an entry to the amount of its key. -/
theorem update_add (m : Key → Nat) (e : Key × Nat) :
    Function.update m e.1 (m e.1 + e.2) = fun k => m k + amountFor k e := by
  funext k
  rw [Function.update_apply, amountFor]
  by_cases h : e.1 = k
  · rw [if_pos h.symm, if_pos h, h]
  · rw [if_neg (Ne.symm h), if_neg h, Nat.add_zero]

/-! ## Replacing -/

omit [DecidableEq Key] in
theorem onlyLast_nil : OnlyLast ([] : List (Key × Nat)) := by
  intro before e after h
  simp at h

omit [DecidableEq Key] in
theorem onlyLast_cons : OnlyLast (e :: entries) ↔
    ((∃ e' ∈ entries, e'.1 = e.1) → e.2 = 0) ∧ OnlyLast entries := by
  constructor
  · intro h
    refine ⟨h [] e entries rfl, fun before e' after hsplit => ?_⟩
    refine h (e :: before) e' after ?_
    rw [hsplit]
    rfl
  · rintro ⟨hhead, htail⟩ before e' after hsplit
    cases before with
    | nil =>
        cases hsplit
        exact hhead
    | cons b before =>
        obtain ⟨-, hsplit⟩ := List.cons.inj hsplit
        exact htail before e' after hsplit

theorem overwrite_of_not_mem (h : ∀ e ∈ entries, e.1 ≠ k) (m : Key → Nat) :
    overwrite entries m k = m k := by
  induction entries generalizing m with
  | nil => rfl
  | cons e entries ih =>
      show overwrite entries (put m e) k = m k
      have hne : k ≠ e.1 := Ne.symm (h e List.mem_cons_self)
      rw [ih (fun e' he' => h e' (List.mem_cons_of_mem e he')), put, Function.update_of_ne hne]

omit [DecidableEq Key] in
theorem mem_or_not_mem (entries : List (Key × Nat)) (k : Key) :
    (∃ e ∈ entries, e.1 = k) ∨ ∀ e ∈ entries, e.1 ≠ k := by
  by_cases h : ∃ e ∈ entries, e.1 = k
  · exact Or.inl h
  · exact Or.inr fun e he hk => h ⟨e, he, hk⟩

/-- A key that occurs has what its entries say, whatever was there. -/
theorem overwrite_of_mem (h : ∃ e ∈ entries, e.1 = k) (m m' : Key → Nat) :
    overwrite entries m k = overwrite entries m' k := by
  induction entries generalizing m m' with
  | nil =>
      obtain ⟨e, he, -⟩ := h
      cases he
  | cons e entries ih =>
      show overwrite entries (put m e) k = overwrite entries (put m' e) k
      rcases mem_or_not_mem entries k with hrest | hnot
      · exact ih hrest _ _
      · -- then it is the key of the first entry
        have hhead : e.1 = k := by
          obtain ⟨e', he', hk⟩ := h
          rcases List.mem_cons.mp he' with rfl | hmem
          · exact hk
          · exact absurd hk (hnot e' hmem)
        rw [overwrite_of_not_mem hnot, overwrite_of_not_mem hnot, put, put, ← hhead,
          Function.update_self, Function.update_self]

/-- An entry in front is replaced if its key occurs again, -/
theorem overwrite_cons_of_mem (h : ∃ e' ∈ entries, e'.1 = k) :
    overwrite (e :: entries) (fun _ => 0) k = overwrite entries (fun _ => 0) k :=
  overwrite_of_mem h _ _

/-- and stays otherwise. -/
theorem overwrite_cons_of_not_mem (h : ∀ e' ∈ entries, e'.1 ≠ k) :
    overwrite (e :: entries) (fun _ => 0) k = amountFor k e := by
  show overwrite entries (put (fun _ => 0) e) k = _
  rw [overwrite_of_not_mem h, put, Function.update_apply, amountFor]
  simp only [eq_comm]

/-- The last entry of a key is one of its entries. -/
theorem overwrite_le_total (entries : List (Key × Nat)) (k : Key) :
    overwrite entries (fun _ => 0) k ≤ total entries k := by
  induction entries with
  | nil => exact Nat.le_refl 0
  | cons e entries ih =>
      rw [total_cons]
      rcases mem_or_not_mem entries k with hmem | hnot
      · rw [overwrite_cons_of_mem hmem]
        omega
      · rw [overwrite_cons_of_not_mem hnot]
        omega

/-- What bounds the entries bounds the map. -/
theorem overwrite_lt {b : Nat} (hb : 0 < b) (h : ∀ e ∈ entries, e.2 < b) (k : Key) :
    overwrite entries (fun _ => 0) k < b := by
  induction entries with
  | nil => exact hb
  | cons e entries ih =>
      rcases mem_or_not_mem entries k with hmem | hnot
      · rw [overwrite_cons_of_mem hmem]
        exact ih fun e' he' => h e' (List.mem_cons_of_mem e he')
      · rw [overwrite_cons_of_not_mem hnot, amountFor]
        split_ifs
        · exact h e List.mem_cons_self
        · exact hb

/-- **Replacing is adding** exactly if all entries of a key but the last are zero. -/
theorem overwrite_eq_total_iff :
    (∀ k, overwrite entries (fun _ => 0) k = total entries k) ↔ OnlyLast entries := by
  induction entries with
  | nil => exact iff_of_true (fun _ => rfl) onlyLast_nil
  | cons e entries ih =>
      -- the first entry of a key that occurs again has to be zero
      have hmem : ∀ k, (∃ e' ∈ entries, e'.1 = k) →
          (overwrite (e :: entries) (fun _ => 0) k = total (e :: entries) k ↔
            amountFor k e = 0 ∧ overwrite entries (fun _ => 0) k = total entries k) := by
        intro k h
        have hle := overwrite_le_total entries k
        rw [overwrite_cons_of_mem h, total_cons]
        omega
      have hnot : ∀ k, (∀ e' ∈ entries, e'.1 ≠ k) →
          overwrite (e :: entries) (fun _ => 0) k = total (e :: entries) k ∧
            overwrite entries (fun _ => 0) k = total entries k := by
        intro k h
        rw [overwrite_cons_of_not_mem h, overwrite_of_not_mem h, total_cons, total_eq_zero h]
        exact ⟨rfl, rfl⟩
      rw [onlyLast_cons, ← ih]
      constructor
      · intro h
        refine ⟨fun hoccurs => ?_, fun k => ?_⟩
        · have hzero := ((hmem e.1 hoccurs).mp (h e.1)).1
          rw [amountFor, if_pos rfl] at hzero
          exact hzero
        · rcases mem_or_not_mem entries k with hk | hk
          · exact ((hmem k hk).mp (h k)).2
          · exact (hnot k hk).2
      · rintro ⟨hhead, htail⟩ k
        rcases mem_or_not_mem entries k with hk | hk
        · have hzero : amountFor k e = 0 := by
            unfold amountFor
            split_ifs with he
            · exact hhead (by rw [he]; exact hk)
            · rfl
          exact (hmem k hk).mpr ⟨hzero, htail k⟩
        · exact (hnot k hk).1

/-! ## Sums -/

/-- What all keys of a map have together. -/
noncomputable def sum (m : Key → Nat) : Nat := ∑ᶠ k, m k

theorem amountFor_finite (e : Key × Nat) : Function.HasFiniteSupport fun k => amountFor k e := by
  refine (Set.finite_singleton e.1).subset fun k hk => ?_
  by_contra hne
  exact hk (if_neg fun h => hne h.symm)

/-- One entry adds its amount. -/
theorem sum_amountFor (e : Key × Nat) : sum (fun k => amountFor k e) = e.2 := by
  have hoff : ∀ k, k ≠ e.1 → amountFor k e = 0 := fun k hk => if_neg (Ne.symm hk)
  have hself : amountFor e.1 e = e.2 := if_pos rfl
  rw [sum, finsum_eq_single _ e.1 hoff, hself]

omit [DecidableEq Key] in
theorem sum_add {m' : Key → Nat} (hm : Function.HasFiniteSupport m)
    (hm' : Function.HasFiniteSupport m') : sum (fun k => m k + m' k) = sum m + sum m' :=
  finsum_add_distrib hm hm'

theorem total_cons_eq (e : Key × Nat) (entries : List (Key × Nat)) :
    total (e :: entries) = fun k => amountFor k e + total entries k :=
  funext fun k => total_cons e entries k

theorem total_finite (entries : List (Key × Nat)) : Function.HasFiniteSupport (total entries) := by
  induction entries with
  | nil => exact Function.hasFiniteSupport_zero
  | cons e entries ih =>
      rw [total_cons_eq]
      exact (amountFor_finite e).add ih

/-- **The sum of a total is the sum of the entries.** -/
theorem sum_total (entries : List (Key × Nat)) :
    sum (total entries) = (entries.map Prod.snd).sum := by
  induction entries with
  | nil => exact finsum_zero
  | cons e entries ih =>
      rw [total_cons_eq, sum_add (amountFor_finite e) (total_finite entries), sum_amountFor, ih,
        List.map_cons, List.sum_cons]

theorem update_finite (hm : Function.HasFiniteSupport m) (k : Key) :
    Function.HasFiniteSupport (Function.update m k 0) := by
  refine hm.subset fun j hj => ?_
  rw [Function.mem_support, Function.update_apply] at hj
  split_ifs at hj with h
  · exact absurd rfl hj
  · exact hj

/-- Clearing a key takes its amount from the sum. -/
theorem sum_clear (hm : Function.HasFiniteSupport m) (k : Key) :
    sum (Function.update m k 0) + m k = sum m := by
  -- adding the amount again gives the map back
  have hsplit : (fun j => Function.update m k 0 j + amountFor j (k, m k)) = m := by
    rw [← update_add, Function.update_self, Nat.zero_add, Function.update_idem,
      Function.update_eq_self]
  have hsum := sum_add (update_finite hm k) (amountFor_finite (k, m k))
  rw [hsplit, sum_amountFor] at hsum
  exact hsum.symm

/-- Replacing the amount of a key. -/
theorem sum_replace (hm : Function.HasFiniteSupport m) (k : Key) (v : Nat) :
    Function.HasFiniteSupport (Function.update m k v) ∧
      sum (Function.update m k v) + m k = sum m + v := by
  -- clear the key, then add the new amount
  have hsplit : Function.update m k v
      = fun j => Function.update m k 0 j + amountFor j (k, v) := by
    rw [← update_add, Function.update_self, Nat.zero_add, Function.update_idem]
  have hclear := sum_clear hm k
  rw [hsplit, sum_add (update_finite hm k) (amountFor_finite (k, v)), sum_amountFor]
  exact ⟨(update_finite hm k).add (amountFor_finite (k, v)), by omega⟩

/-- No key has more than all together. -/
theorem le_sum (hm : Function.HasFiniteSupport m) (k : Key) : m k ≤ sum m := by
  have h := sum_clear hm k
  omega

end Entries
