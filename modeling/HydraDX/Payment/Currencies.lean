import HydraDX.Payment.Adapter
import HydraDX.Lib.Histories

set_option autoImplicit false

/-! # The currencies in which fees are paid

The calls of the multi payment pallet, made by any origins in any order. `set_currency` checks
that the currency is accepted when it is chosen. `remove_currency` does not look at the accounts
that have chosen the currency it removes: they go on paying in it.

So fees are paid in accepted currencies throughout a history exactly when no currency is removed
that is still in use (`feesAccepted_throughout_iff`). -/

namespace HydraDX.Payment

open Histories

inductive Call (AccountId : Type) where
  | setCurrency (currency : AssetId)
  | addCurrency (currency : AssetId)
  | removeCurrency (currency : AssetId)
  | addMember (member : AccountId)
  | removeMember (member : AccountId)
  deriving DecidableEq, Repr

variable {AccountId Hash : Type} [DecidableEq AccountId] (cfg : Params AccountId Hash)

def Call.dispatch (s : Storage AccountId Hash) (x : Origin AccountId × Call AccountId) :
    Except Failure (Storage AccountId Hash) :=
  match x.2 with
  | .setCurrency currency => Payment.setCurrency cfg x.1 currency s
  | .addCurrency currency => Payment.addCurrency x.1 currency s
  | .removeCurrency currency => Payment.removeCurrency x.1 currency s
  | .addMember member => Payment.addMember x.1 member s
  | .removeMember member => Payment.removeMember x.1 member s

/-- Every account pays its fees in the native currency or in one that is accepted. -/
def FeesAccepted (s : Storage AccountId Hash) : Prop :=
  ∀ who, s.feeCurrency who = CORE_ASSET_ID ∨ s.feeCurrency who ∈ s.acceptedCurrencies

/-- A call does not remove a currency in which an account pays: it is another call, its origin
may not remove currencies, or nobody has chosen the currency. -/
def RemovesUnused (s : Storage AccountId Hash) (x : Origin AccountId × Call AccountId) : Prop :=
  ∀ currency who, x = (.Signed who, .removeCurrency currency) → currency ≠ CORE_ASSET_ID →
    who ∈ s.authorities → ∀ account, s.accountCurrencyMap account ≠ some currency

variable {cfg} {s s' : Storage AccountId Hash} {who : AccountId} {origin : Origin AccountId}
  {currency : AssetId}

/-! ## What the calls change -/

omit [DecidableEq AccountId] in
theorem ensureSigned_eq_ok : ensureSigned origin = .ok who ↔ origin = .Signed who := by
  cases origin with
  | Root => simp [ensureSigned]
  | Signed w => simp [ensureSigned]
  | None => simp [ensureSigned]

/-- Buying a fee and withdrawing one change balances only. -/
theorem swapCurrency_frame {fee : Nat} (h : swapCurrency cfg who fee s = .ok s') :
    ∃ chain, s' = { s with chain } := by
  rcases swapCurrency_ok cfg h with ⟨-, rfl⟩ | ⟨-, price, hs⟩
  · exact ⟨s'.chain, rfl⟩
  · exact ⟨_, hs.state_eq⟩

theorem withdrawSetFee_frame (h : withdrawSetFee cfg who currency s = .ok s') :
    ∃ chain, s' = { s with chain } := by
  unfold withdrawSetFee at h
  obtain ⟨s₁, hswap, h⟩ := Fallible.bind_eq_ok.mp h
  obtain ⟨chain, rfl⟩ := swapCurrency_frame hswap
  split at h
  · cases h
    exact ⟨_, rfl⟩
  · cases h

/-- A currency that was set is native or accepted, and it is all that is set. -/
theorem setCurrency_ok (h : setCurrency cfg origin currency s = .ok s') :
    ∃ who, origin = .Signed who ∧
      (currency = CORE_ASSET_ID ∨ currency ∈ s.acceptedCurrencies) ∧
      s'.accountCurrencyMap = Function.update s.accountCurrencyMap who (some currency) ∧
      s'.acceptedCurrencies = s.acceptedCurrencies := by
  unfold setCurrency at h
  obtain ⟨who, hwho, h⟩ := Fallible.bind_eq_ok.mp h
  refine ⟨who, ensureSigned_eq_ok.mp hwho, ?_⟩
  by_cases hc : currency = CORE_ASSET_ID ∨ currency ∈ s.acceptedCurrencies
  · rw [if_pos hc] at h
    obtain ⟨-, h⟩ := Fallible.ensure_bind_eq_ok.mp h
    simp only at h
    split_ifs at h
    · obtain ⟨s₁, hfee, h⟩ := Fallible.bind_eq_ok.mp h
      obtain ⟨chain, rfl⟩ := withdrawSetFee_frame hfee
      cases h
      exact ⟨hc, rfl, rfl⟩
    · cases h
      exact ⟨hc, rfl, rfl⟩
  · rw [if_neg hc] at h
    cases h

theorem addCurrency_ok (h : addCurrency origin currency s = .ok s') :
    s'.accountCurrencyMap = s.accountCurrencyMap ∧
      s'.acceptedCurrencies = insert currency s.acceptedCurrencies := by
  unfold addCurrency at h
  obtain ⟨who, -, h⟩ := Fallible.bind_eq_ok.mp h
  obtain ⟨-, h⟩ := Fallible.ensure_bind_eq_ok.mp h
  obtain ⟨-, h⟩ := Fallible.ensure_bind_eq_ok.mp h
  obtain ⟨-, h⟩ := Fallible.ensure_bind_eq_ok.mp h
  cases h
  exact ⟨rfl, rfl⟩

/-- A currency is removed by an authority, and no account is looked at. -/
theorem removeCurrency_ok (h : removeCurrency origin currency s = .ok s') :
    ∃ who, origin = .Signed who ∧ currency ≠ CORE_ASSET_ID ∧ who ∈ s.authorities ∧
      s'.accountCurrencyMap = s.accountCurrencyMap ∧
      s'.acceptedCurrencies = s.acceptedCurrencies.erase currency := by
  unfold removeCurrency at h
  obtain ⟨who, hwho, h⟩ := Fallible.bind_eq_ok.mp h
  obtain ⟨hcore, h⟩ := Fallible.ensure_bind_eq_ok.mp h
  obtain ⟨hauth, h⟩ := Fallible.ensure_bind_eq_ok.mp h
  obtain ⟨-, h⟩ := Fallible.ensure_bind_eq_ok.mp h
  cases h
  exact ⟨who, ensureSigned_eq_ok.mp hwho, hcore, hauth, rfl, rfl⟩

/-- An authority can remove every accepted currency. -/
theorem removeCurrency_of_accepted (hcore : currency ≠ CORE_ASSET_ID) (hauth : who ∈ s.authorities)
    (hc : currency ∈ s.acceptedCurrencies) :
    removeCurrency (.Signed who) currency s = .ok
      ({ s with acceptedCurrencies := s.acceptedCurrencies.erase currency }.depositEvent
        (.CurrencyRemoved who currency)) := by
  simp [removeCurrency, ensureSigned, ensure, hcore, hauth, hc, bind, Except.bind, pure,
    Except.pure]

/-- The calls that manage the authorities do not touch currencies. -/
theorem addMember_ok {member : AccountId} (h : addMember origin member s = .ok s') :
    s'.accountCurrencyMap = s.accountCurrencyMap ∧
      s'.acceptedCurrencies = s.acceptedCurrencies := by
  unfold addMember at h
  obtain ⟨_, -, h⟩ := Fallible.bind_eq_ok.mp h
  obtain ⟨-, h⟩ := Fallible.ensure_bind_eq_ok.mp h
  cases h
  exact ⟨rfl, rfl⟩

theorem removeMember_ok {member : AccountId} (h : removeMember origin member s = .ok s') :
    s'.accountCurrencyMap = s.accountCurrencyMap ∧
      s'.acceptedCurrencies = s.acceptedCurrencies := by
  unfold removeMember at h
  obtain ⟨_, -, h⟩ := Fallible.bind_eq_ok.mp h
  obtain ⟨-, h⟩ := Fallible.ensure_bind_eq_ok.mp h
  cases h
  exact ⟨rfl, rfl⟩

/-! ## Fees in accepted currencies -/

omit [DecidableEq AccountId] in
theorem feeCurrency_of_eq_some {c : AssetId} (h : s.accountCurrencyMap who = some c) :
    s.feeCurrency who = c := by
  rw [Storage.feeCurrency, h]

omit [DecidableEq AccountId] in
/-- The choices of the accounts, one by one. -/
theorem feesAccepted_iff :
    FeesAccepted s ↔ ∀ who c, s.accountCurrencyMap who = some c →
      c = CORE_ASSET_ID ∨ c ∈ s.acceptedCurrencies := by
  constructor
  · intro h who c hc
    have hwho := h who
    rwa [feeCurrency_of_eq_some hc] at hwho
  · intro h who
    cases hc : s.accountCurrencyMap who with
    | none =>
        left
        rw [Storage.feeCurrency, hc]
    | some c =>
        rw [feeCurrency_of_eq_some hc]
        exact h who c hc

omit [DecidableEq AccountId] in
/-- More currencies, the same choices. -/
theorem FeesAccepted.mono (h : FeesAccepted s)
    (hmap : s'.accountCurrencyMap = s.accountCurrencyMap)
    (haccepted : s.acceptedCurrencies ⊆ s'.acceptedCurrencies) : FeesAccepted s' := by
  rw [feesAccepted_iff] at h ⊢
  intro account c hc
  rw [hmap] at hc
  exact (h account c hc).imp_right fun hmem => haccepted hmem

/-- A currency is set that is native or accepted. -/
theorem FeesAccepted.set (h : FeesAccepted s)
    (hc : currency = CORE_ASSET_ID ∨ currency ∈ s.acceptedCurrencies)
    (hmap : s'.accountCurrencyMap = Function.update s.accountCurrencyMap who (some currency))
    (haccepted : s'.acceptedCurrencies = s.acceptedCurrencies) : FeesAccepted s' := by
  rw [feesAccepted_iff] at h ⊢
  intro account c hset
  rw [hmap, Function.update_apply] at hset
  rw [haccepted]
  split_ifs at hset with ha
  · cases hset
    exact hc
  · exact h account c hset

omit [DecidableEq AccountId] in
/-- A currency is removed: fees stay in accepted currencies exactly when nobody pays in it. -/
theorem FeesAccepted.remove_iff (h : FeesAccepted s) (hcore : currency ≠ CORE_ASSET_ID)
    (hmap : s'.accountCurrencyMap = s.accountCurrencyMap)
    (haccepted : s'.acceptedCurrencies = s.acceptedCurrencies.erase currency) :
    FeesAccepted s' ↔ ∀ account, s.accountCurrencyMap account ≠ some currency := by
  rw [feesAccepted_iff] at h ⊢
  rw [hmap, haccepted]
  constructor
  · intro h' account hc
    rcases h' account currency hc with he | he
    · exact hcore he
    · exact Finset.notMem_erase currency _ he
  · intro hunused account c hc
    refine (h account c hc).imp_right fun hmem => ?_
    have hne : c ≠ currency := by
      rintro rfl
      exact hunused account hc
    exact Finset.mem_erase.mpr ⟨hne, hmem⟩

/-- A call to remove a currency that fails is not one by an authority, or removes a currency in
which nobody pays. -/
theorem FeesAccepted.removesUnused_of_error (h : FeesAccepted s) {e : Failure}
    (he : removeCurrency origin currency s = .error e) :
    RemovesUnused s (origin, .removeCurrency currency) := by
  intro c who hx hcore hauth account hc
  cases hx
  rcases feesAccepted_iff.mp h account currency hc with hc' | hc'
  · exact hcore hc'
  · rw [removeCurrency_of_accepted hcore hauth hc'] at he
    cases he

/-- **One call.** Fees stay in accepted currencies exactly when no currency is removed that an
account has chosen. -/
theorem feesAccepted_attempt_iff (h : FeesAccepted s) (x : Origin AccountId × Call AccountId) :
    FeesAccepted (attempt (Call.dispatch cfg) s x) ↔ RemovesUnused s x := by
  obtain ⟨origin, call⟩ := x
  have hother : (∀ c, call ≠ .removeCurrency c) → RemovesUnused s (origin, call) := by
    intro hne c who hx
    exact absurd (Prod.mk.inj hx).2 (hne c)
  rcases attempt_cases (Call.dispatch cfg) s (origin, call) with hok | ⟨⟨e, he⟩, hs⟩
  · generalize attempt (Call.dispatch cfg) s (origin, call) = s' at hok
    cases call with
    | setCurrency c =>
        obtain ⟨who, -, hc, hmap, haccepted⟩ := setCurrency_ok hok
        exact iff_of_true (h.set hc hmap haccepted) (hother nofun)
    | addCurrency c =>
        obtain ⟨hmap, haccepted⟩ := addCurrency_ok hok
        refine iff_of_true (h.mono hmap ?_) (hother nofun)
        rw [haccepted]
        exact Finset.subset_insert c _
    | removeCurrency c =>
        obtain ⟨who, rfl, hcore, hauth, hmap, haccepted⟩ := removeCurrency_ok hok
        rw [h.remove_iff hcore hmap haccepted]
        constructor
        · intro hunused c' who' hx
          cases hx
          exact fun _ _ => hunused
        · intro hunused
          exact hunused c who rfl hcore hauth
    | addMember member =>
        obtain ⟨hmap, haccepted⟩ := addMember_ok hok
        exact iff_of_true (h.mono hmap haccepted.symm.subset) (hother nofun)
    | removeMember member =>
        obtain ⟨hmap, haccepted⟩ := removeMember_ok hok
        exact iff_of_true (h.mono hmap haccepted.symm.subset) (hother nofun)
  · rw [hs]
    refine iff_of_true h ?_
    cases call with
    | removeCurrency c => exact h.removesUnused_of_error he
    | setCurrency c => exact hother nofun
    | addCurrency c => exact hother nofun
    | addMember member => exact hother nofun
    | removeMember member => exact hother nofun

/-- **Fees are paid in accepted currencies**, from a genesis on in which no account has chosen a
currency and throughout all calls by all origins, exactly when no currency is removed that some
account has chosen. -/
theorem feesAccepted_throughout_iff (s : Storage AccountId Hash)
    (hgenesis : ∀ who, s.accountCurrencyMap who = none)
    (calls : List (Origin AccountId × Call AccountId)) :
    Throughout (attempt (Call.dispatch cfg)) FeesAccepted s calls ↔
      Each (attempt (Call.dispatch cfg)) RemovesUnused s calls := by
  have h₀ : FeesAccepted s := by
    rw [feesAccepted_iff]
    intro who c hc
    rw [hgenesis who] at hc
    cases hc
  exact throughout_iff_each (fun s x h => feesAccepted_attempt_iff h x) h₀

/-- The chain with the fee pool: asset `1` is accepted, nobody has chosen a currency, and `[1]` is
the authority. -/
def choosing (chain : State Dev.AccountId Dev.Hash) : Storage Dev.AccountId Dev.Hash :=
  { payingInOne chain with accountCurrencyMap := fun _ => none }

/-- `[2]` is not an authority and cannot remove the currency in which it pays. -/
theorem feesAccepted_unauthorised :
    Fallible.Succeeds feePool fun chain =>
      Throughout (attempt (Call.dispatch devParams)) FeesAccepted (choosing chain)
        [(.Signed [2], .setCurrency 1), (.Signed [2], .removeCurrency 1)] := by
  have hok : Fallible.Succeeds feePool fun chain =>
      [2] ∉ (attempt (Call.dispatch devParams) (choosing chain)
        (.Signed [2], .setCurrency 1)).authorities := by
    decide +kernel
  obtain ⟨chain, hchain, hauth⟩ := hok
  refine ⟨chain, hchain, (feesAccepted_throughout_iff _ (fun _ => rfl) _).mpr ?_⟩
  refine ⟨nofun, fun c who hx _ hmem => ?_, trivial⟩
  cases hx
  exact absurd hmem hauth

/-- `[2]` chooses asset `1`, then the authority removes it: `[2]` still pays in it. -/
theorem removed_currency_in_use :
    Fallible.Succeeds feePool fun chain =>
      ¬ Throughout (attempt (Call.dispatch devParams)) FeesAccepted (choosing chain)
        [(.Signed [2], .setCurrency 1), (.Signed [1], .removeCurrency 1)] := by
  have hok : Fallible.Succeeds feePool fun chain =>
      let s := run (attempt (Call.dispatch devParams)) (choosing chain)
        [(.Signed [2], .setCurrency 1), (.Signed [1], .removeCurrency 1)]
      s.feeCurrency [2] = 1 ∧ 1 ∉ s.acceptedCurrencies := by
    decide +kernel
  obtain ⟨chain, hchain, hfee, haccepted⟩ := hok
  refine ⟨chain, hchain, fun h => ?_⟩
  rcases h _ (List.prefix_refl _) [2] with hcore | hmem
  · rw [hfee] at hcore
    exact absurd hcore (by decide)
  · rw [hfee] at hmem
    exact haccepted hmem

end HydraDX.Payment
