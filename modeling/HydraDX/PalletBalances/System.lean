import HydraDX.PalletBalances.Storage

set_option autoImplicit false

/-! # The account store of the runtime

`AccountStore = System`: `frame_system` keeps the data of an account next to two counters. An
account with data has a provider, and its last provider cannot go while it has consumers. Data
that are all zero count as no data. -/

namespace HydraDX.PalletBalances

/-- What `frame_system` keeps of an account. -/
structure AccountInfo where
  consumers : Nat
  providers : Nat
  data : AccountData
  deriving DecidableEq, Repr, Inhabited

namespace AccountInfo

/-- The data, if there are any. -/
def stored (info : AccountInfo) : Option AccountData :=
  if info.data ≠ default then some info.data else none

/-- `dec_providers` of an account whose data go. A counter at zero counts as one. -/
def decProviders (info : AccountInfo) : Except StoredMapError AccountInfo :=
  let providers := max info.providers 1
  if providers = 1 then
    if info.consumers = 0 then .ok default else .error .ConsumerRemaining
  else .ok { info with providers := providers - 1, data := default }

/-- The end of `try_mutate_exists`. -/
def setData (info : AccountInfo) : Option AccountData → Except StoredMapError AccountInfo
  | some data =>
      if info.data = default then .ok { info with providers := info.providers + 1, data }
      else .ok { info with data }
  | none => if info.data = default then .ok info else info.decProviders

def canDecProvider (info : AccountInfo) : Bool := info.consumers = 0 ∨ info.providers > 1

variable {info info' : AccountInfo}

theorem stored_getD (info : AccountInfo) : info.stored.getD default = info.data := by
  unfold stored
  split_ifs with h
  · rfl
  · exact (not_not.mp h).symm

theorem stored_eq_none : info.stored = none ↔ info.data = default := by
  unfold stored
  split_ifs with h
  · simp [h]
  · simp [not_not.mp h]

theorem decProviders_data (h : info.decProviders = .ok info') : info'.data = default := by
  unfold decProviders at h
  simp only at h
  split_ifs at h
  · cases h
    rfl
  · cases h
    rfl

theorem setData_some (info : AccountInfo) (data : AccountData) :
    ∃ info', info.setData (some data) = .ok info' ∧ info'.data = data := by
  unfold setData
  split_ifs
  · exact ⟨_, rfl, rfl⟩
  · exact ⟨_, rfl, rfl⟩

theorem setData_none (h : info.setData none = .ok info') : info'.data = default := by
  unfold setData at h
  split_ifs at h with hd
  · cases h
    exact hd
  · exact decProviders_data h

theorem setData_none_of_canDec (h : info.canDecProvider = true) :
    ∃ info', info.setData none = .ok info' := by
  simp only [canDecProvider, decide_eq_true_eq] at h
  unfold setData decProviders
  simp only
  split_ifs with hd hp hc
  · exact ⟨_, rfl⟩
  · exact ⟨_, rfl⟩
  · omega
  · exact ⟨_, rfl⟩

end AccountInfo

section

variable {AccountId : Type} [DecidableEq AccountId]

/-- Replace what is kept of one account, if that succeeds. -/
def System.set (who : AccountId) (data : Option AccountData) (a : AccountId → AccountInfo) :
    Except StoredMapError (AccountId → AccountInfo) := do
  let info ← (a who).setData data
  return Function.update a who info

theorem System.set_eq_ok {who : AccountId} {data : Option AccountData}
    {a a' : AccountId → AccountInfo} : System.set who data a = .ok a' ↔
      ∃ info, (a who).setData data = .ok info ∧ a' = Function.update a who info := by
  rw [System.set, Fallible.bind_eq_ok]
  refine exists_congr fun info => and_congr_right fun _ => ?_
  constructor
  · intro h
    cases h
    rfl
  · rintro rfl
    rfl

theorem System.set_of_ne {who w : AccountId} {data : Option AccountData}
    {a a' : AccountId → AccountInfo} (h : System.set who data a = .ok a') (hne : w ≠ who) :
    a' w = a w := by
  obtain ⟨info, -, rfl⟩ := System.set_eq_ok.mp h
  exact Function.update_of_ne hne _ _

/-- The account store of the runtime. -/
def System : AccountStore AccountId where
  Accounts := AccountId → AccountInfo
  get a who := (a who).stored
  set := System.set
  canDecProvider a who := (a who).canDecProvider
  isProviderRequired a who := (a who).consumers ≠ 0
  incConsumers who a :=
    if (a who).providers > 0 then
      Function.update a who { a who with consumers := (a who).consumers + 1 }
    else a
  decConsumers who a := Function.update a who { a who with consumers := (a who).consumers - 1 }
  set_some a who d := by
    obtain ⟨info, hset, hdata⟩ := (a who).setData_some d
    refine ⟨_, System.set_eq_ok.mpr ⟨info, hset, rfl⟩, ?_⟩
    rw [Function.update_self, AccountInfo.stored_getD, hdata]
  get_set_none h := by
    obtain ⟨info, hset, rfl⟩ := System.set_eq_ok.mp h
    rw [Function.update_self, AccountInfo.stored_eq_none]
    exact AccountInfo.setData_none hset
  get_set_of_ne h hne := by rw [System.set_of_ne h hne]
  canDecProvider_set_of_ne h hne := by rw [System.set_of_ne h hne]
  set_none_of_absent {a who} h := by
    have hset : (a who).setData none = .ok (a who) := if_pos (AccountInfo.stored_eq_none.mp h)
    exact ⟨_, System.set_eq_ok.mpr ⟨_, hset, rfl⟩⟩
  set_none_of_canDec h := by
    obtain ⟨info, hset⟩ := AccountInfo.setData_none_of_canDec h
    exact ⟨_, System.set_eq_ok.mpr ⟨info, hset, rfl⟩⟩
  canDec_of_not_required h := by
    simp only [ne_eq, decide_not, Bool.not_eq_false', decide_eq_true_eq] at h
    simp [AccountInfo.canDecProvider, h]
  get_incConsumers a who := by
    funext w
    split_ifs with hp
    · by_cases hw : w = who
      · rw [hw, Function.update_self]
        rfl
      · rw [Function.update_of_ne hw]
    · rfl
  get_decConsumers a who := by
    funext w
    by_cases hw : w = who
    · rw [hw, Function.update_self]
      rfl
    · rw [Function.update_of_ne hw]

end

end HydraDX.PalletBalances
