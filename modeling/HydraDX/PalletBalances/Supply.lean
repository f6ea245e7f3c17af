import HydraDX.PalletBalances.Operation
import HydraDX.PalletBalances.Transfer
import HydraDX.Lib.Entries

set_option autoImplicit false

/-! # What all accounts hold

The supply is the sum of what the accounts hold. A mutation changes it by the difference between
the old and the new data, less the dust, and takes the dust off the issuance. -/

namespace HydraDX.PalletBalances

open Balances (NegativeImbalance PositiveImbalance)
open Dispatch

variable {AccountId : Type} {sys : AccountStore AccountId}

/-- What an account holds. -/
def AccountData.holding (d : AccountData) : Nat := d.free + d.reserved

def Storage.holdings (s : Storage sys) (who : AccountId) : Nat := (s.account who).holding

/-- What an account holds fits into `u128`. -/
def Storage.Fits (s : Storage sys) : Prop := ∀ who, (s.account who).holding < balanceBound

/-- Finitely many accounts hold something. -/
def Storage.FiniteHolders (s : Storage sys) : Prop := Function.HasFiniteSupport s.holdings

noncomputable def Storage.supply (s : Storage sys) : Nat := Entries.sum s.holdings

theorem giveTo_holding {status : BalanceStatus} {actual : Nat} {account paid : AccountData}
    (h : giveTo status actual account = .ok paid) : paid.holding = account.holding + actual := by
  rcases giveTo_eq_ok.mp h with ⟨-, -, rfl⟩ | ⟨-, -, rfl⟩
  · simp only [AccountData.holding]
    omega
  · simp only [AccountData.holding]
    omega

section Supply

variable {cfg : Config} {who : AccountId} {d : AccountData} {s t : Storage sys}

theorem total_eq_holding (h : d.total < balanceBound - 1) : d.total = d.holding := by
  unfold AccountData.total saturatingAdd at *
  unfold AccountData.holding
  omega

/-- What is not kept is dust. -/
theorem settled_holding (cfg : Config) (d : AccountData) :
    (settled cfg d).holding + dust cfg d = d.holding := by
  have hlt := cfg.existentialDeposit_lt
  unfold settled dust
  split_ifs with h
  · rw [total_eq_holding (by omega)]
    exact Nat.zero_add _
  · exact Nat.add_zero _

theorem holdings_congr (h : sys.get t.accounts = sys.get s.accounts) :
    t.holdings = s.holdings := by
  funext who
  rw [Storage.holdings, Storage.holdings, Storage.account, Storage.account, h]

theorem supply_congr (h : sys.get t.accounts = sys.get s.accounts) : t.supply = s.supply := by
  rw [Storage.supply, Storage.supply, holdings_congr h]

theorem finiteHolders_congr (h : sys.get t.accounts = sys.get s.accounts) :
    t.FiniteHolders ↔ s.FiniteHolders := by
  rw [Storage.FiniteHolders, Storage.FiniteHolders, holdings_congr h]

variable [DecidableEq AccountId]

theorem holdings_set (h : sys.set who (kept cfg d) s.accounts = .ok t.accounts) :
    t.holdings = Function.update s.holdings who (settled cfg d).holding := by
  funext w
  rw [Function.update_apply]
  split_ifs with hw
  · rw [hw, Storage.holdings, Storage.account, get_set_kept h]
  · rw [Storage.holdings, Storage.account, sys.get_set_of_ne h hw]
    rfl

/-- **Storing an account** changes the supply by what the account holds more or less. -/
theorem supply_set (hs : s.FiniteHolders)
    (h : sys.set who (kept cfg d) s.accounts = .ok t.accounts) :
    t.FiniteHolders ∧
      t.supply + dust cfg d + (s.account who).holding = s.supply + d.holding := by
  have hupdate := holdings_set h
  obtain ⟨hfinite, hsum⟩ := Entries.sum_replace hs who (settled cfg d).holding
  have hsettled := settled_holding cfg d
  have hsupply : t.supply + (s.account who).holding = s.supply + (settled cfg d).holding := by
    rw [Storage.supply, hupdate]
    exact hsum
  exact ⟨by rw [Storage.FiniteHolders, hupdate]; exact hfinite, by omega⟩

/-- Storing two accounts, one after the other. -/
theorem supply_set_set {w : AccountId} {d' : AccountData} {a : sys.Accounts} {u : Storage sys}
    (hs : s.FiniteHolders) (hne : w ≠ who) (h : sys.set who (kept cfg d) s.accounts = .ok a)
    (h' : sys.set w (kept cfg d') a = .ok u.accounts) :
    u.FiniteHolders ∧ u.supply + (dust cfg d + dust cfg d')
        + ((s.account who).holding + (s.account w).holding)
      = s.supply + (d.holding + d'.holding) := by
  let t : Storage sys := { s with accounts := a }
  have hsame : t.account w = s.account w :=
    congrArg (Option.getD · default) (sys.get_set_of_ne h hne)
  obtain ⟨hfinite, hsupply⟩ := supply_set (t := t) hs h
  obtain ⟨hfinite', hsupply'⟩ := supply_set (s := t) hfinite h'
  rw [hsame] at hsupply'
  exact ⟨hfinite', by omega⟩

end Supply

/-! ## The issuance follows the supply -/

/-- The nearest number that fits into `u128`. -/
def clamp (z : Int) : Int := max 0 (min z (balanceBound - 1))

/-- The storage of a chain: a total issuance in `u128`, and finitely many holders. -/
structure Sound (s : Storage sys) : Prop where
  finite : s.FiniteHolders
  fits : s.totalIssuance < balanceBound

/-- From `s` to `u`, with positive imbalances of `p` and negative ones of `n` created, the issuance
changes as the supply and the imbalances do, as far as it can. -/
structure Effect (s : Storage sys) (p n : Nat) (u : Storage sys) : Prop where
  finite : u.FiniteHolders
  issuance : (u.totalIssuance : Int) = clamp (s.totalIssuance + (u.supply + n) - (s.supply + p))

section Effect

variable {cfg : Config} {who : AccountId} {d : AccountData} {s t u : Storage sys} {p n : Nat}

theorem clamp_nat {x : Nat} (h : x < balanceBound) : clamp x = x := by
  unfold clamp
  omega

theorem Effect.refl (hs : Sound s) : Effect s 0 0 s := by
  have hclamp := clamp_nat hs.fits
  refine ⟨hs.finite, ?_⟩
  rw [← hclamp]
  congr 1
  omega

theorem Effect.sound (h : Effect s p n u) : Sound u := by
  refine ⟨h.finite, ?_⟩
  have hiss := h.issuance
  have hpos := balanceBound_pos
  unfold clamp at hiss
  omega

/-- What is written besides does not matter. -/
theorem Effect.congr (h : Effect s p n u) (haccounts : sys.get t.accounts = sys.get u.accounts)
    (hissuance : t.totalIssuance = u.totalIssuance) : Effect s p n t :=
  ⟨(finiteHolders_congr haccounts).mpr h.finite, by
    rw [hissuance, supply_congr haccounts]; exact h.issuance⟩

/-- An amount taken off the issuance. -/
theorem Effect.of_sub (hs : Sound s) (hfinite : u.FiniteHolders) {x : Nat}
    (hsupply : u.supply + n + x = s.supply + p)
    (hissuance : u.totalIssuance = s.totalIssuance - x) : Effect s p n u := by
  refine ⟨hfinite, ?_⟩
  have hfits := hs.fits
  unfold clamp
  omega

/-- Adding to the issuance what is counted elsewhere. -/
theorem Effect.of_add (hfinite : u.FiniteHolders) {x : Nat}
    (hsupply : u.supply + n = s.supply + p + x) (hfits : s.totalIssuance + x < balanceBound)
    (hissuance : u.totalIssuance = s.totalIssuance + x) : Effect s p n u := by
  refine ⟨hfinite, ?_⟩
  unfold clamp
  omega

variable [DecidableEq AccountId]

theorem Mutated.supply (hs : s.FiniteHolders) (h : Mutated cfg who d s u) :
    u.FiniteHolders ∧
      u.supply + dust cfg d + (s.account who).holding = s.supply + d.holding := by
  obtain ⟨accounts, hset, hu⟩ := h
  refine supply_set hs ?_
  rw [hset, hu, Drop.accounts_drop]
  rfl

/-- A mutation whose imbalances make up for the difference in the holdings. -/
theorem Mutated.effect (hs : Sound s) (h : Mutated cfg who d s u)
    (heq : d.holding + n = (s.account who).holding + p) : Effect s p n u := by
  obtain ⟨hfinite, hsupply⟩ := h.supply hs.finite
  exact .of_sub hs hfinite (by omega) h.totalIssuance

end Effect

end HydraDX.PalletBalances
