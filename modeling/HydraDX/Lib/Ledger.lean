import Mathlib.Algebra.BigOperators.Group.Finset.Basic
import Mathlib.Algebra.Order.BigOperators.Group.Finset
import Mathlib.Tactic

set_option autoImplicit false

/-! # A ledger of several assets with reservations

A ledger gives every account a free and a reserved balance of every asset, what is locked
of the free balance, and the total issuance of every asset. The operations below are the
*effects* of a successful ledger call: they do not check that the balance suffices, which
is the business of the calls.

`Ledger.Holds l l' H` says that `l'` is `l` with the amounts of the list `H` moved from free
to reserved. Reserving appends to `H`, releasing the first entry removes it, and paying the
first entry out to somebody else moves the amount in the ledger `l` underneath. A sequence of
reservations that is later released, or paid out, is followed through `H` without ever
looking at the balances in between. -/

structure Ledger (Asset Account : Type) where
  free : Asset → Account → Nat
  reserved : Asset → Account → Nat
  miscFrozen : Asset → Account → Nat
  feeFrozen : Asset → Account → Nat
  issuance : Asset → Nat

namespace Ledger

variable {Asset Account : Type} [DecidableEq Asset] [DecidableEq Account]

/-- `f` with its value at the asset `c` and the account `w` replaced by `n`. -/
def put (f : Asset → Account → Nat) (c : Asset) (w : Account) (n : Nat) : Asset → Account → Nat :=
  fun c' w' => if c' = c ∧ w' = w then n else f c' w'

theorem put_apply (f : Asset → Account → Nat) (c c' : Asset) (w w' : Account) (n : Nat) :
    put f c w n c' w' = if c' = c ∧ w' = w then n else f c' w' := rfl

@[simp] theorem put_same (f : Asset → Account → Nat) (c : Asset) (w : Account) (n : Nat) :
    put f c w n c w = n := by simp [put]

@[simp] theorem put_eq_self (f : Asset → Account → Nat) (c : Asset) (w : Account) :
    put f c w (f c w) = f := by
  funext c' w'
  rw [put_apply]
  split_ifs with h
  · rw [h.1, h.2]
  · rfl

theorem put_of_ne {f : Asset → Account → Nat} {c c' : Asset} {w w' : Account} {n : Nat}
    (h : c' ≠ c ∨ w' ≠ w) : put f c w n c' w' = f c' w' := by
  rw [put_apply, if_neg]
  rintro ⟨hc, hw⟩
  exact h.elim (fun h => h hc) (fun h => h hw)

/-! ## The operations -/

/-- Move `x` from the free balance of `source` to the free balance of `dest`. -/
def move (l : Ledger Asset Account) (c : Asset) (source dest : Account) (x : Nat) :
    Ledger Asset Account :=
  if source = dest then l
  else
    { l with
      free := put (put l.free c source (l.free c source - x)) c dest (l.free c dest + x) }

/-- Issue `x` to `w`. -/
def mint (l : Ledger Asset Account) (c : Asset) (w : Account) (x : Nat) : Ledger Asset Account :=
  { l with
    free := put l.free c w (l.free c w + x)
    issuance := Function.update l.issuance c (l.issuance c + x) }

/-- Destroy `x` of the free balance of `w`. -/
def burn (l : Ledger Asset Account) (c : Asset) (w : Account) (x : Nat) : Ledger Asset Account :=
  { l with
    free := put l.free c w (l.free c w - x)
    issuance := Function.update l.issuance c (l.issuance c - x) }

/-- Move `x` of `w` from free to reserved. -/
def hold (l : Ledger Asset Account) (c : Asset) (w : Account) (x : Nat) : Ledger Asset Account :=
  { l with
    free := put l.free c w (l.free c w - x)
    reserved := put l.reserved c w (l.reserved c w + x) }

/-- Move at most `x` of `w` back from reserved to free. -/
def release (l : Ledger Asset Account) (c : Asset) (w : Account) (x : Nat) : Ledger Asset Account :=
  { l with
    free := put l.free c w (l.free c w + min (l.reserved c w) x)
    reserved := put l.reserved c w (l.reserved c w - min (l.reserved c w) x) }

/-- Move at most `x` from the reserved balance of `source` to the free balance of `dest`. -/
def repatriate (l : Ledger Asset Account) (c : Asset) (source dest : Account) (x : Nat) :
    Ledger Asset Account :=
  { l with
    free := put l.free c dest (l.free c dest + min (l.reserved c source) x)
    reserved := put l.reserved c source (l.reserved c source - min (l.reserved c source) x) }

section Effects

variable (l : Ledger Asset Account) (c : Asset) (w source dest : Account) (x : Nat)

@[simp] theorem move_self : l.move c w w x = l := by simp [move]

@[simp] theorem move_reserved : (l.move c source dest x).reserved = l.reserved := by
  unfold move; split_ifs <;> rfl

@[simp] theorem move_issuance : (l.move c source dest x).issuance = l.issuance := by
  unfold move; split_ifs <;> rfl

@[simp] theorem move_miscFrozen : (l.move c source dest x).miscFrozen = l.miscFrozen := by
  unfold move; split_ifs <;> rfl

@[simp] theorem move_feeFrozen : (l.move c source dest x).feeFrozen = l.feeFrozen := by
  unfold move; split_ifs <;> rfl

@[simp] theorem mint_reserved : (l.mint c w x).reserved = l.reserved := rfl

@[simp] theorem burn_reserved : (l.burn c w x).reserved = l.reserved := rfl

@[simp] theorem hold_issuance : (l.hold c w x).issuance = l.issuance := rfl

@[simp] theorem release_issuance : (l.release c w x).issuance = l.issuance := rfl

@[simp] theorem repatriate_issuance : (l.repatriate c source dest x).issuance = l.issuance := rfl

theorem mint_issuance (c' : Asset) :
    (l.mint c w x).issuance c' = if c' = c then l.issuance c + x else l.issuance c' := by
  simp only [mint, Function.update_apply]

theorem burn_issuance (c' : Asset) :
    (l.burn c w x).issuance c' = if c' = c then l.issuance c - x else l.issuance c' := by
  simp only [burn, Function.update_apply]

variable {l c w source dest x}

theorem move_free (h : source ≠ dest) (c' : Asset) (w' : Account) :
    (l.move c source dest x).free c' w'
      = if c' = c ∧ w' = dest then l.free c dest + x
        else if c' = c ∧ w' = source then l.free c source - x else l.free c' w' := by
  simp only [move, if_neg h, put_apply]

theorem move_free_of_ne {c' : Asset} {w' : Account} (h : c' ≠ c ∨ (w' ≠ source ∧ w' ≠ dest)) :
    (l.move c source dest x).free c' w' = l.free c' w' := by
  by_cases hsd : source = dest
  · rw [hsd, move_self]
  · rw [move_free hsd, if_neg, if_neg]
    · rintro ⟨hc, hw⟩
      exact h.elim (fun h => h hc) (fun h => h.1 hw)
    · rintro ⟨hc, hw⟩
      exact h.elim (fun h => h hc) (fun h => h.2 hw)

theorem move_free_source (h : source ≠ dest) :
    (l.move c source dest x).free c source = l.free c source - x := by
  rw [move_free h, if_neg (fun hc => h hc.2), if_pos ⟨rfl, rfl⟩]

theorem move_free_dest (h : source ≠ dest) :
    (l.move c source dest x).free c dest = l.free c dest + x := by
  rw [move_free h, if_pos ⟨rfl, rfl⟩]

/-- Moves of different assets can be made in either order. -/
theorem move_comm {c' : Asset} {source' dest' : Account} {x' : Nat} (hne : c ≠ c') :
    (l.move c source dest x).move c' source' dest' x'
      = (l.move c' source' dest' x').move c source dest x := by
  by_cases hsd : source = dest
  · rw [hsd, move_self, move_self]
  · by_cases hsd' : source' = dest'
    · rw [hsd', move_self, move_self]
    · simp only [move, if_neg hsd, if_neg hsd', mk.injEq, and_true]
      funext d w
      simp only [put_apply]
      by_cases hd : d = c
      · subst hd
        simp [hne]
      · by_cases hd' : d = c'
        · subst hd'
          simp [hne.symm]
        · simp [hd, hd']

theorem burn_free_of_ne {c' : Asset} {w' : Account} (h : c' ≠ c ∨ w' ≠ w) :
    (l.burn c w x).free c' w' = l.free c' w' := put_of_ne h

theorem mint_free_of_ne {c' : Asset} {w' : Account} (h : c' ≠ c ∨ w' ≠ w) :
    (l.mint c w x).free c' w' = l.free c' w' := put_of_ne h

theorem mint_free_self (c' : Asset) :
    (l.mint c w x).free c' w = l.free c' w + if c' = c then x else 0 := by
  by_cases hc : c' = c
  · rw [if_pos hc, hc]
    exact put_same _ _ _ _
  · rw [if_neg hc]
    exact mint_free_of_ne (Or.inl hc)

theorem burn_free_self (c' : Asset) :
    (l.burn c w x).free c' w = l.free c' w - if c' = c then x else 0 := by
  by_cases hc : c' = c
  · rw [if_pos hc, hc]
    exact put_same _ _ _ _
  · rw [if_neg hc]
    exact burn_free_of_ne (Or.inl hc)

end Effects

/-! ## Following reservations -/

/-- What the list of reservations `H` has put aside of the asset `c` of the account `w`. -/
def held : List (Asset × Account × Nat) → Asset → Account → Nat
  | [], _, _ => 0
  | (c', w', x) :: H, c, w => (if c' = c ∧ w' = w then x else 0) + held H c w

@[simp] theorem held_nil (c : Asset) (w : Account) : held [] c w = 0 := rfl

theorem held_cons (c c' : Asset) (w w' : Account) (x : Nat) (H : List (Asset × Account × Nat)) :
    held ((c', w', x) :: H) c w = (if c' = c ∧ w' = w then x else 0) + held H c w := rfl

theorem held_append (H K : List (Asset × Account × Nat)) (c : Asset) (w : Account) :
    held (H ++ K) c w = held H c w + held K c w := by
  induction H with
  | nil => simp
  | cons h H ih =>
      obtain ⟨c', w', x⟩ := h
      rw [List.cons_append, held_cons, held_cons, ih, Nat.add_assoc]

theorem held_eq_zero_iff {H : List (Asset × Account × Nat)} :
    (∀ c w, held H c w = 0) ↔ ∀ h ∈ H, h.2.2 = 0 := by
  induction H with
  | nil => simp
  | cons h H ih =>
      obtain ⟨c', w', x⟩ := h
      simp only [held_cons, Nat.add_eq_zero_iff, List.forall_mem_cons, ← ih]
      constructor
      · intro hz
        exact ⟨by simpa using (hz c' w').1, fun c w => (hz c w).2⟩
      · rintro ⟨hx, hH⟩ c w
        exact ⟨by simp [hx], hH c w⟩

/-- The ledger with the reservations `H` given back. -/
def unhold (l : Ledger Asset Account) (H : List (Asset × Account × Nat)) : Ledger Asset Account :=
  { l with
    free := fun c w => l.free c w + held H c w
    reserved := fun c w => l.reserved c w - held H c w }

/-- `l'` is `l` with the reservations `H` made. -/
structure Holds (l l' : Ledger Asset Account) (H : List (Asset × Account × Nat)) : Prop where
  free : ∀ c w, l'.free c w + held H c w = l.free c w
  reserved : ∀ c w, l'.reserved c w = l.reserved c w + held H c w
  miscFrozen : l'.miscFrozen = l.miscFrozen
  feeFrozen : l'.feeFrozen = l.feeFrozen
  issuance : l'.issuance = l.issuance

theorem Holds.refl (l : Ledger Asset Account) : Holds l l [] :=
  ⟨fun _ _ => rfl, fun _ _ => rfl, rfl, rfl, rfl⟩

section Holds

variable {l l' : Ledger Asset Account} {H : List (Asset × Account × Nat)}
  {c : Asset} {w source dest : Account} {x : Nat}

theorem Holds.eq_iff (h : Holds l l' H) : l' = l ↔ ∀ e ∈ H, e.2.2 = 0 := by
  rw [← held_eq_zero_iff]
  constructor
  · rintro rfl c w
    have := h.free c w
    omega
  · intro hz
    obtain ⟨free', reserved', misc', fee', iss'⟩ := l'
    obtain ⟨free, reserved, misc, fee, iss⟩ := l
    have hf : free' = free := by
      funext c w
      have := h.free c w
      rw [hz c w] at this
      exact this
    have hr : reserved' = reserved := by
      funext c w
      have := h.reserved c w
      rw [hz c w] at this
      exact this
    have hm : misc' = misc := h.miscFrozen
    have hfee : fee' = fee := h.feeFrozen
    have hi : iss' = iss := h.issuance
    rw [hf, hr, hm, hfee, hi]

theorem Holds.eq_of_nil (h : Holds l l' []) : l' = l :=
  h.eq_iff.mpr (by simp)

/-- Whatever is reserved is held on the ledger without the reservations. -/
theorem holds_unhold (h : ∀ c w, held H c w ≤ l'.reserved c w) : Holds (l'.unhold H) l' H := by
  refine ⟨fun c w => rfl, fun c w => ?_, rfl, rfl, rfl⟩
  have := h c w
  show l'.reserved c w = l'.reserved c w - held H c w + held H c w
  omega

/-- Reserving appends to the reservations. -/
theorem Holds.hold (h : Holds l l' H) (hx : x ≤ l'.free c w) :
    Holds l (l'.hold c w x) (H ++ [(c, w, x)]) := by
  refine ⟨fun c' w' => ?_, fun c' w' => ?_, h.miscFrozen, h.feeFrozen, h.issuance⟩
  · have hf := h.free c' w'
    rw [held_append, held_cons, held_nil, Nat.add_zero]
    simp only [Ledger.hold, put_apply]
    by_cases hcw : c' = c ∧ w' = w
    · obtain ⟨rfl, rfl⟩ := hcw
      simp only [and_self, if_true]
      omega
    · rw [if_neg hcw, if_neg (fun e => hcw ⟨e.1.symm, e.2.symm⟩)]
      omega
  · have hr := h.reserved c' w'
    rw [held_append, held_cons, held_nil, Nat.add_zero]
    simp only [Ledger.hold, put_apply]
    by_cases hcw : c' = c ∧ w' = w
    · obtain ⟨rfl, rfl⟩ := hcw
      simp only [and_self, if_true]
      omega
    · rw [if_neg hcw, if_neg (fun e => hcw ⟨e.1.symm, e.2.symm⟩)]
      omega

theorem Holds.le_reserved (h : Holds l l' ((c, w, x) :: H)) : x ≤ l'.reserved c w := by
  have hr := h.reserved c w
  rw [held_cons, if_pos ⟨rfl, rfl⟩] at hr
  omega

/-- Paying the first reservation out to `dest` is a move in the ledger underneath. -/
theorem Holds.repatriate (dest : Account) (h : Holds l l' ((c, source, x) :: H)) :
    Holds (l.move c source dest x) (l'.repatriate c source dest x) H := by
  -- the reservation is there in full, so nothing is cut off
  have hmin : min (l'.reserved c source) x = x := Nat.min_eq_right h.le_reserved
  refine ⟨fun c' w' => ?_, fun c' w' => ?_, ?_, ?_, ?_⟩
  · have hf := h.free c' w'
    rw [held_cons] at hf
    by_cases hsd : source = dest
    · subst hsd
      rw [move_self]
      simp only [Ledger.repatriate, put_apply, hmin]
      by_cases hcw : c' = c ∧ w' = source
      · obtain ⟨rfl, rfl⟩ := hcw
        simp only [and_self, if_true] at hf ⊢
        omega
      · rw [if_neg (fun e => hcw ⟨e.1.symm, e.2.symm⟩)] at hf
        rw [if_neg hcw]
        omega
    · rw [move_free hsd]
      simp only [Ledger.repatriate, put_apply, hmin]
      by_cases hd : c' = c ∧ w' = dest
      · obtain ⟨rfl, rfl⟩ := hd
        rw [if_neg (fun e => hsd e.2)] at hf
        simp only [and_self, if_true]
        omega
      · rw [if_neg hd, if_neg hd]
        by_cases hs : c' = c ∧ w' = source
        · obtain ⟨rfl, rfl⟩ := hs
          simp only [and_self, if_true] at hf ⊢
          omega
        · rw [if_neg (fun e => hs ⟨e.1.symm, e.2.symm⟩)] at hf
          rw [if_neg hs]
          omega
  · have hr := h.reserved c' w'
    rw [held_cons] at hr
    rw [move_reserved]
    simp only [Ledger.repatriate, put_apply, hmin]
    by_cases hs : c' = c ∧ w' = source
    · obtain ⟨rfl, rfl⟩ := hs
      simp only [and_self, if_true] at hr ⊢
      omega
    · rw [if_neg (fun e => hs ⟨e.1.symm, e.2.symm⟩)] at hr
      rw [if_neg hs]
      omega
  · rw [move_miscFrozen]; exact h.miscFrozen
  · rw [move_feeFrozen]; exact h.feeFrozen
  · rw [move_issuance]; exact h.issuance

/-- Releasing is paying out to oneself. -/
theorem release_eq_repatriate (l : Ledger Asset Account) (c : Asset) (w : Account) (x : Nat) :
    l.release c w x = l.repatriate c w w x := rfl

/-- Releasing the first reservation removes it. -/
theorem Holds.release (h : Holds l l' ((c, w, x) :: H)) : Holds l (l'.release c w x) H := by
  have := h.repatriate w
  rwa [move_self] at this

end Holds

/-! ## Balances that stay as they are -/

section Outside

variable {T : Asset → Account → Prop} {l l' l'' : Ledger Asset Account}

/-- Outside of `T`, a set of assets of accounts, the two ledgers have the same free and the same
reserved balances. -/
def SameOutside (T : Asset → Account → Prop) (l l' : Ledger Asset Account) : Prop :=
  ∀ c w, ¬ T c w → l'.free c w = l.free c w ∧ l'.reserved c w = l.reserved c w

omit [DecidableEq Asset] [DecidableEq Account] in
theorem SameOutside.refl (l : Ledger Asset Account) : SameOutside T l l :=
  fun _ _ _ => ⟨rfl, rfl⟩

omit [DecidableEq Asset] [DecidableEq Account] in
theorem SameOutside.trans (h : SameOutside T l l') (h' : SameOutside T l' l'') :
    SameOutside T l l'' := by
  intro c w hT
  obtain ⟨hf, hr⟩ := h c w hT
  obtain ⟨hf', hr'⟩ := h' c w hT
  exact ⟨hf'.trans hf, hr'.trans hr⟩

theorem put_outside {c c' : Asset} {w w' : Account} (hT : T c w) (hnot : ¬ T c' w')
    (f : Asset → Account → Nat) (n : Nat) : put f c w n c' w' = f c' w' := by
  rw [put_apply, if_neg]
  rintro ⟨rfl, rfl⟩
  exact hnot hT

variable (l) {c : Asset} {w source dest : Account} (x : Nat)

theorem SameOutside.move (hs : T c source) (hd : T c dest) :
    SameOutside T l (l.move c source dest x) := by
  intro c' w' hnot
  refine ⟨?_, by rw [move_reserved]⟩
  unfold Ledger.move
  split_ifs
  · rfl
  · exact (put_outside hd hnot _ _).trans (put_outside hs hnot _ _)

theorem SameOutside.burn (hT : T c w) : SameOutside T l (l.burn c w x) :=
  fun _ _ hnot => ⟨put_outside hT hnot _ _, rfl⟩

theorem SameOutside.hold (hT : T c w) : SameOutside T l (l.hold c w x) :=
  fun _ _ hnot => ⟨put_outside hT hnot _ _, put_outside hT hnot _ _⟩

theorem SameOutside.repatriate (hs : T c source) (hd : T c dest) :
    SameOutside T l (l.repatriate c source dest x) :=
  fun _ _ hnot => ⟨put_outside hd hnot _ _, put_outside hs hnot _ _⟩

theorem SameOutside.release (hT : T c w) : SameOutside T l (l.release c w x) :=
  SameOutside.repatriate l x hT hT

end Outside

end Ledger
