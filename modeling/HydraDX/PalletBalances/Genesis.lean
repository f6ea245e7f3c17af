import HydraDX.PalletBalances.Accounting
import HydraDX.PalletBalances.Locks

set_option autoImplicit false

/-! # The genesis

The genesis is built on a fresh storage if its balances add up to a `u128`, each is at least the
existential deposit and no account is listed twice. Then the accounts hold what is listed, and all
that is kept over runs of the pallet holds of the storage (`build_spec`). -/

namespace HydraDX.PalletBalances

open Dispatch

variable {AccountId : Type} {sys : AccountStore AccountId}

/-- What the assertions of `build` and the sum of the balances ask for. -/
structure GenesisConfig.Valid (cfg : Config) (g : GenesisConfig AccountId) : Prop where
  fits : (g.balances.map Prod.snd).sum < balanceBound
  deposit : ∀ entry ∈ g.balances, cfg.existentialDeposit ≤ entry.2
  nodup : (g.balances.map Prod.fst).Nodup

section Build

variable [DecidableEq AccountId] {cfg : Config} {s : Storage sys}
  {entries : List (AccountId × Nat)} {acc : Nat}

omit [DecidableEq AccountId] in
theorem foldlM_plus (cfg : Config) (acc : Nat) (entries : List (AccountId × Nat))
    (h : acc + (entries.map Prod.snd).sum < balanceBound) :
    (entries.foldlM (fun acc entry => plus cfg acc entry.2) acc : Except Failure Nat)
      = .ok (acc + (entries.map Prod.snd).sum) := by
  induction entries generalizing acc with
  | nil => rfl
  | cons entry entries ih =>
      rw [List.map_cons, List.sum_cons] at h ⊢
      rw [List.foldlM_cons, plus_of_lt (by omega), ← Nat.add_assoc]
      exact ih _ (by omega)

omit [DecidableEq AccountId] in
/-- With overflow checks, a sum that does not fit panics. -/
theorem foldlM_plus_of_not (hchecks : cfg.overflowChecks = true) (hacc : acc < balanceBound)
    (h : ¬ acc + (entries.map Prod.snd).sum < balanceBound) :
    (entries.foldlM (fun acc entry => plus cfg acc entry.2) acc : Except Failure Nat)
      = .error (.panic .arithmetic) := by
  induction entries generalizing acc with
  | nil => exact absurd hacc h
  | cons entry entries ih =>
      rw [List.map_cons, List.sum_cons] at h
      rw [List.foldlM_cons]
      by_cases hfirst : acc + entry.2 < balanceBound
      · rw [plus_of_lt hfirst]
        exact ih hfirst (by omega)
      · have hplus : plus cfg acc entry.2 = .error (.panic .arithmetic) := by
          unfold plus addBalance
          rw [if_neg hfirst, hchecks]
          rfl
        rw [hplus]
        rfl

omit [DecidableEq AccountId] in
theorem exec_insertAccount (who : AccountId) (d : AccountData) (s : Storage sys) :
    ∃ a, sys.set who (some d) s.accounts = .ok a ∧ (sys.get a who).getD default = d ∧
      exec (insertAccount who d) s = (.ok (), { s with accounts := a }) := by
  obtain ⟨a, ha, hget⟩ := sys.set_some s.accounts who d
  exact ⟨a, ha, hget, exec_tryMutateExists_of_ok exec_pure ha⟩

omit [DecidableEq AccountId] in
/-- Inserting the accounts one by one. -/
theorem exec_forM_insertAccount (hnodup : (entries.map Prod.fst).Nodup) (s : Storage sys) :
    ∃ a, exec (entries.forM fun entry =>
          insertAccount entry.1 { (default : AccountData) with free := entry.2 }) s
        = (.ok (), { s with accounts := a }) ∧
      (∀ entry ∈ entries, (sys.get a entry.1).getD default
        = { (default : AccountData) with free := entry.2 }) ∧
      ∀ who, who ∉ entries.map Prod.fst → sys.get a who = sys.get s.accounts who := by
  induction entries generalizing s with
  | nil => exact ⟨s.accounts, exec_pure, fun _ h => absurd h List.not_mem_nil, fun _ _ => rfl⟩
  | cons entry entries ih =>
      rw [List.map_cons, List.nodup_cons] at hnodup
      obtain ⟨a, hset, hget, hexec⟩ :=
        exec_insertAccount entry.1 { (default : AccountData) with free := entry.2 } s
      obtain ⟨a', hexec', hlisted, hother⟩ := ih hnodup.2 { s with accounts := a }
      refine ⟨a', (exec_bind_of_ok hexec).trans hexec', fun e he => ?_, fun who hwho => ?_⟩
      · rcases List.mem_cons.mp he with rfl | he
        · rw [hother _ hnodup.1]
          exact hget
        · exact hlisted e he
      · rw [List.map_cons, List.mem_cons, not_or] at hwho
        rw [hother who hwho.2]
        exact sys.get_set_of_ne hset hwho.1

/-- The storage that is built. -/
structure Built (cfg : Config) (g : GenesisConfig AccountId) (t : Storage sys) : Prop where
  account : ∀ who, t.account who
    = { (default : AccountData) with free := Entries.total g.balances who }
  keepsDeposit : KeepsDeposit cfg t
  locksKept : LocksKept t
  fits : t.Fits
  accounted : World.Accounted ⟨t, 0, 0⟩

omit [DecidableEq AccountId] in
theorem exec_setTotalIssuance (amount : Nat) (s : Storage sys) :
    exec (setTotalIssuance amount) s = (.ok (), { s with totalIssuance := amount }) := rfl

/-- Accounts that hold what is listed, and nothing else that is stored. -/
theorem Built.of_accounts {g : GenesisConfig AccountId} (hvalid : g.Valid cfg) {t : Storage sys}
    (hissuance : t.totalIssuance = (g.balances.map Prod.snd).sum) (hlocks : ∀ who, t.locks who = none)
    (hlisted : ∀ entry ∈ g.balances, (sys.get t.accounts entry.1).getD default
      = { (default : AccountData) with free := entry.2 })
    (hother : ∀ who, who ∉ g.balances.map Prod.fst → sys.get t.accounts who = none) :
    Built cfg g t := by
  have haccount : ∀ who, t.account who
      = { (default : AccountData) with free := Entries.total g.balances who } := by
    intro who
    rcases Entries.mem_or_not_mem g.balances who with ⟨entry, hmem, rfl⟩ | hnot
    · rw [Entries.total_of_mem hvalid.nodup hmem]
      exact hlisted entry hmem
    · rw [Entries.total_eq_zero hnot, Storage.account, hother]
      · rfl
      · intro hmem
        obtain ⟨entry, hentry, heq⟩ := List.mem_map.mp hmem
        exact hnot entry hentry heq
  have hholdings : t.holdings = Entries.total g.balances := by
    funext who
    rw [Storage.holdings, haccount]
    exact Nat.add_zero _
  have hfinite : t.FiniteHolders := by
    rw [Storage.FiniteHolders, hholdings]
    exact Entries.total_finite _
  have hsupply : t.supply = t.totalIssuance := by
    rw [Storage.supply, hholdings, Entries.sum_total, hissuance]
  have hsum : t.totalIssuance < balanceBound := hissuance ▸ hvalid.fits
  refine ⟨haccount, fun who d hd => ?_, ⟨fun who => ?_, fun who reason => ?_⟩, fun who => ?_,
    ⟨⟨hfinite, hsum⟩, ?_⟩⟩
  · -- what is stored is listed, and so above the existential deposit
    by_cases hmem : who ∈ g.balances.map Prod.fst
    · obtain ⟨entry, hentry, rfl⟩ := List.mem_map.mp hmem
      have hd' : d = { (default : AccountData) with free := entry.2 } := by
        rw [← hlisted entry hentry, hd]
        rfl
      have hdeposit := hvalid.deposit entry hentry
      have hlt := cfg.existentialDeposit_lt
      rw [hd', AccountData.total, saturatingAdd]
      show _ ≤ min (entry.2 + 0) _
      omega
    · rw [hother who hmem] at hd
      cases hd
  · rw [Storage.locksOf, hlocks]
    exact List.nodup_nil
  · rw [Storage.locksOf, hlocks, haccount]
    cases reason with
    | All | Misc | Fee => rfl
  · have hle : t.holdings who ≤ t.supply := Entries.le_sum hfinite who
    have heq : (t.account who).holding = t.holdings who := rfl
    omega
  · show (t.totalIssuance : Int) = t.supply + 0 - 0
    omega

/-- **Building the genesis** succeeds if it is valid, with all that is kept over runs; otherwise it
panics, if the sum is computed with overflow checks. -/
theorem build_spec (hs : Fresh s) (g : GenesisConfig AccountId) :
    (g.Valid cfg → ∃ t, exec (g.build cfg) s = (.ok (), t) ∧ Built cfg g t) ∧
      (cfg.overflowChecks = true → ¬ g.Valid cfg →
        ∃ p t, exec (g.build cfg) s = (.error (.panic p), t)) := by
  constructor
  · intro hvalid
    have hsum := foldlM_plus cfg 0 g.balances (by rw [Nat.zero_add]; exact hvalid.fits)
    rw [Nat.zero_add] at hsum
    obtain ⟨a, hexec, hlisted, hother⟩ := exec_forM_insertAccount hvalid.nodup
      { s with totalIssuance := (g.balances.map Prod.snd).sum }
    refine ⟨{ s with totalIssuance := (g.balances.map Prod.snd).sum, accounts := a }, ?_, ?_⟩
    · unfold GenesisConfig.build
      rw [exec_lift_bind_of_ok hsum, exec_bind_of_ok (exec_setTotalIssuance _ s),
        exec_ensure_bind_of_pos hvalid.deposit, exec_ensure_bind_of_pos hvalid.nodup]
      exact hexec
    · exact .of_accounts hvalid rfl hs.locks hlisted fun who hwho =>
        (hother who hwho).trans (hs.accounts who)
  · intro hchecks hinvalid
    have hpos := balanceBound_pos
    unfold GenesisConfig.build
    by_cases hfits : 0 + (g.balances.map Prod.snd).sum < balanceBound
    · rw [exec_lift_bind_of_ok (foldlM_plus cfg 0 g.balances hfits),
        exec_bind_of_ok (exec_setTotalIssuance _ s)]
      rw [Nat.zero_add] at hfits
      by_cases hdeposit : ∀ entry ∈ g.balances, entry.2 ≥ cfg.existentialDeposit
      · rw [exec_ensure_bind_of_pos hdeposit,
          exec_ensure_bind_of_neg fun hnodup => hinvalid ⟨hfits, hdeposit, hnodup⟩]
        exact ⟨_, _, rfl⟩
      · rw [exec_ensure_bind_of_neg hdeposit]
        exact ⟨_, _, rfl⟩
    · rw [exec_lift_bind_of_error (foldlM_plus_of_not hchecks hpos hfits)]
      exact ⟨_, _, rfl⟩

end Build

/-- Two accounts, and an account that is listed twice. -/
theorem build_spec_two :
    (∃ t : Storage (System : AccountStore Nat), Built Dev.dear ⟨[(1, 100), (2, 50)]⟩ t) ∧
      ∃ p t, exec (GenesisConfig.build Dev.dear ⟨[(1, 100), (1, 50)]⟩) Dev.empty
        = (.error (.panic p), t) := by
  constructor
  · have hvalid : GenesisConfig.Valid Dev.dear ⟨[(1, 100), (2, 50)]⟩ :=
      ⟨by decide, by decide, by decide⟩
    obtain ⟨t, -, h⟩ := (build_spec Dev.fresh ⟨[(1, 100), (2, 50)]⟩).1 hvalid
    exact ⟨t, h⟩
  · exact (build_spec Dev.fresh ⟨[(1, 100), (1, 50)]⟩).2 rfl fun h => absurd h.nodup (by decide)

end HydraDX.PalletBalances
