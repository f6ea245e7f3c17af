import HydraDX.PalletBalances.Existence
import HydraDX.PalletBalances.Frame

set_option autoImplicit false

/-! # Locks over whole runs

What the locks are for: a table of amounts by account and identifier, in which `set_lock` writes,
`extend_lock` merges and `remove_lock` erases. The pallet keeps a list for each account, and in the
data of the account the largest amounts that are frozen. Over any run the lists stay a table
(`LocksKept`), the table is what the calls on it make of it, and the frozen amounts are the largest
in the table. So what is locked is not spent (`locked_throughout`). -/

namespace HydraDX.PalletBalances

open Balances (WithdrawReasons Reasons)
open Dispatch

variable {AccountId : Type} {sys : AccountStore AccountId}

/-! ## The table -/

/-- The locks by account and identifier. -/
abbrev LockTable (AccountId : Type) := AccountId → LockIdentifier → Option (Nat × Reasons)

/-- A lock for `r` freezes what is withdrawn for `reason`. -/
def Freezes (r reason : Reasons) : Prop := r = .All ∨ reason = .All ∨ r = reason

namespace LockTable

variable [DecidableEq AccountId]

def put (T : LockTable AccountId) (who : AccountId) (id : LockIdentifier)
    (entry : Option (Nat × Reasons)) : LockTable AccountId :=
  Function.update T who (Function.update (T who) id entry)

/-- What an action makes of the table. -/
def step (T : LockTable AccountId) : Action AccountId → LockTable AccountId
  | .operate (.setLock id who amount reasons) =>
      if amount = 0 ∨ reasons.isEmpty then T
      else T.put who id (some (amount, .ofWithdrawReasons reasons))
  | .operate (.extendLock id who amount reasons) =>
      if amount = 0 ∨ reasons.isEmpty then T
      else T.put who id (some (((T who id).elim (amount, .ofWithdrawReasons reasons)
        fun old => (max old.1 amount, old.2.union (.ofWithdrawReasons reasons)))))
  | .operate (.removeLock id who) => T.put who id none
  | _ => T

/-- `x` is the largest amount that is frozen for a reason. -/
structure IsFrozen (entries : LockIdentifier → Option (Nat × Reasons)) (reason : Reasons) (x : Nat) :
    Prop where
  bound : ∀ {id a r}, entries id = some (a, r) → Freezes r reason → a ≤ x
  reached : x = 0 ∨ ∃ id r, entries id = some (x, r) ∧ Freezes r reason

end LockTable

/-! ## Lists of locks -/

section Lists

variable {id id' : LockIdentifier} {locks : List BalanceLock} {l : BalanceLock}
  {newLock : BalanceLock} {replacement : BalanceLock → BalanceLock}

/-- The entry of an identifier in a list of locks. -/
def entry (locks : List BalanceLock) (id : LockIdentifier) : Option (Nat × Reasons) :=
  (locks.find? fun l => l.id = id).map fun l => (l.amount, l.reasons)

theorem entry_cons : entry (l :: locks) id
    = if l.id = id then some (l.amount, l.reasons) else entry locks id := by
  unfold entry
  by_cases h : l.id = id
  · simp [h]
  · simp [h]

/-- In a list without duplicates, the entries are the locks. -/
theorem entry_eq_some (hnodup : (locks.map BalanceLock.id).Nodup) {a : Nat} {r : Reasons} :
    entry locks id = some (a, r) ↔ ⟨id, a, r⟩ ∈ locks := by
  induction locks with
  | nil => simp [entry]
  | cons l locks ih =>
      rw [List.map_cons, List.nodup_cons] at hnodup
      rw [entry_cons, List.mem_cons]
      by_cases h : l.id = id
      · rw [if_pos h]
        constructor
        · intro heq
          cases heq
          exact Or.inl (by rw [← h])
        · rintro (rfl | hmem)
          · rfl
          · exact absurd (h ▸ List.mem_map_of_mem hmem) hnodup.1
      · rw [if_neg h, ih hnodup.2]
        refine (or_iff_right ?_).symm
        rintro rfl
        exact h rfl

/-- After the new lock is taken, the locks of its identifier are left out. -/
theorem replaceLock_none : replaceLock id replacement none locks
    = locks.filter fun l => l.id ≠ id := by
  induction locks with
  | nil => rfl
  | cons l locks ih =>
      unfold replaceLock
      by_cases h : l.id = id
      · rw [if_pos h, ih, List.filter_cons_of_neg (by simp [h])]
        rfl
      · rw [if_neg h, ih, List.filter_cons_of_pos (by simp [h])]

theorem entry_filter : entry (locks.filter fun l => l.id ≠ id) id'
    = if id' = id then none else entry locks id' := by
  induction locks with
  | nil => simp [entry]
  | cons l locks ih =>
      by_cases h : l.id = id
      · rw [List.filter_cons_of_neg (by simp [h]), ih]
        split_ifs with hid
        · rfl
        · rw [entry_cons, if_neg fun heq : l.id = id' => hid (heq.symm.trans h)]
      · rw [List.filter_cons_of_pos (by simp [h]), entry_cons, entry_cons, ih]
        split_ifs with hl hid hid
        · exact absurd (hl.trans hid) h
        · rfl
        · rfl
        · rfl

/-- The entries after a lock is replaced, or appended. -/
theorem entry_replaceLock (hnew : newLock.id = id) (hid : ∀ l, l.id = id → (replacement l).id = id) :
    entry (replaceLock id replacement (some newLock) locks) id'
      = if id' = id then
          some (((locks.find? fun l => l.id = id).elim newLock replacement).amount,
            ((locks.find? fun l => l.id = id).elim newLock replacement).reasons)
        else entry locks id' := by
  induction locks with
  | nil =>
      unfold replaceLock
      rw [Option.toList_some, entry_cons, hnew, List.find?_nil, Option.elim_none]
      exact if_congr eq_comm rfl rfl
  | cons l locks ih =>
      unfold replaceLock
      by_cases h : l.id = id
      · rw [if_pos h, replaceLock_none, Option.map_some, Option.toList_some, List.singleton_append,
          entry_cons, hid l h, entry_filter, List.find?_cons_of_pos (by simp [h]), Option.elim_some]
        split_ifs with h₁ h₂ h₂
        · rfl
        · exact absurd h₁.symm h₂
        · exact absurd h₂.symm h₁
        · rw [entry_cons, if_neg fun heq : l.id = id' => h₁ (h.symm.trans heq)]
      · rw [if_neg h, entry_cons, entry_cons, ih, List.find?_cons_of_neg (by simp [h])]
        split_ifs with hl hid' hid'
        · exact absurd (hl.trans hid') h
        · rfl
        · rfl
        · rfl

theorem map_id_filter : (locks.filter fun l => l.id ≠ id).map BalanceLock.id
    = (locks.map BalanceLock.id).filter (· ≠ id) := by
  rw [List.filter_map]
  rfl

/-- Replacing a lock keeps the identifiers different. -/
theorem nodup_replaceLock (hnew : newLock.id = id)
    (hid : ∀ l, l.id = id → (replacement l).id = id) (hnodup : (locks.map BalanceLock.id).Nodup) :
    ((replaceLock id replacement (some newLock) locks).map BalanceLock.id).Nodup := by
  -- the identifiers stay among the old ones and that of the new lock
  have hsubset : ∀ locks : List BalanceLock, ∀ x ∈ (replaceLock id replacement (some newLock)
      locks).map BalanceLock.id, x = id ∨ x ∈ locks.map BalanceLock.id := by
    intro locks x hx
    induction locks with
    | nil =>
        unfold replaceLock at hx
        simp only [Option.toList_some, List.map_cons, List.map_nil, List.mem_singleton] at hx
        exact Or.inl (hx.trans hnew)
    | cons l locks ih =>
        unfold replaceLock at hx
        split_ifs at hx with h
        · rw [replaceLock_none, Option.map_some, Option.toList_some, List.singleton_append,
            List.map_cons, List.mem_cons, hid l h, map_id_filter, List.mem_filter] at hx
          exact hx.imp_right fun hx => List.mem_cons_of_mem _ hx.1
        · rw [List.map_cons, List.mem_cons] at hx
          rcases hx with rfl | hx
          · exact Or.inr List.mem_cons_self
          · exact (ih hx).imp_right (List.mem_cons_of_mem _)
  induction locks with
  | nil => exact List.nodup_singleton _
  | cons l locks ih =>
      rw [List.map_cons, List.nodup_cons] at hnodup
      unfold replaceLock
      by_cases h : l.id = id
      · rw [if_pos h, replaceLock_none, Option.map_some, Option.toList_some, List.singleton_append,
          List.map_cons, map_id_filter, hid l h, List.nodup_cons]
        exact ⟨fun hmem => by simp at hmem, hnodup.2.filter _⟩
      · rw [if_neg h, List.map_cons, List.nodup_cons]
        refine ⟨fun hmem => ?_, ih hnodup.2⟩
        rcases hsubset locks l.id hmem with heq | hmem
        · exact h heq
        · exact hnodup.1 hmem

/-- What the locks of a list freeze is the largest amount among them. -/
theorem foldl_freeze_spec (locks : List BalanceLock) (account : AccountData) (reason : Reasons) :
    account.frozen reason ≤ (locks.foldl freeze account).frozen reason ∧
      (∀ l ∈ locks, Freezes l.reasons reason →
        l.amount ≤ (locks.foldl freeze account).frozen reason) ∧
      ((locks.foldl freeze account).frozen reason = account.frozen reason ∨
        ∃ l ∈ locks, Freezes l.reasons reason ∧
          (locks.foldl freeze account).frozen reason = l.amount) := by
  -- one lock raises the frozen amounts to its own
  have hone : ∀ (account : AccountData) (l : BalanceLock),
      account.frozen reason ≤ (freeze account l).frozen reason ∧
      (Freezes l.reasons reason → l.amount ≤ (freeze account l).frozen reason) ∧
      ((freeze account l).frozen reason = account.frozen reason ∨
        Freezes l.reasons reason ∧ (freeze account l).frozen reason = l.amount) := by
    rintro account ⟨i, a, r⟩
    cases r <;> cases reason <;> simp [freeze, AccountData.frozen, Freezes] <;> omega
  induction locks generalizing account with
  | nil => exact ⟨le_rfl, fun l hl => absurd hl List.not_mem_nil, Or.inl rfl⟩
  | cons l locks ih =>
      obtain ⟨hle, hall, hreached⟩ := ih (freeze account l)
      obtain ⟨hle₁, hself, hone⟩ := hone account l
      rw [List.foldl_cons]
      refine ⟨hle₁.trans hle, fun l' hl' hfreezes => ?_, ?_⟩
      · rcases List.mem_cons.mp hl' with rfl | hmem
        · exact (hself hfreezes).trans hle
        · exact hall l' hmem hfreezes
      · rcases hreached with heq | ⟨l', hl', hfreezes, heq⟩
        · rw [heq]
          exact hone.imp_right fun h => ⟨l, List.mem_cons_self, h.1, h.2⟩
        · exact Or.inr ⟨l', List.mem_cons_of_mem _ hl', hfreezes, heq⟩

end Lists

/-! ## The storage -/

/-- The table that the pallet keeps. -/
def Storage.lockTable (s : Storage sys) : LockTable AccountId := fun who => entry (s.locksOf who)

/-- The locks of an account have different identifiers, and are what is frozen in its data. -/
structure LocksKept (s : Storage sys) : Prop where
  nodup : ∀ who, ((s.locksOf who).map BalanceLock.id).Nodup
  frozen : ∀ who reason, (s.account who).frozen reason
    = ((s.locksOf who).foldl freeze default).frozen reason

section Storage

variable {s t : Storage sys} {who : AccountId}

/-- The frozen amounts are the largest in the table. -/
theorem LocksKept.isFrozen (h : LocksKept s) (who : AccountId) (reason : Reasons) :
    LockTable.IsFrozen (s.lockTable who) reason ((s.account who).frozen reason) := by
  obtain ⟨-, hall, hreached⟩ := foldl_freeze_spec (s.locksOf who) default reason
  rw [← h.frozen] at hall hreached
  refine ⟨fun hentry hfreezes => ?_, ?_⟩
  · exact hall _ ((entry_eq_some (h.nodup who)).mp hentry) hfreezes
  · rcases hreached with heq | ⟨l, hl, hfreezes, heq⟩
    · left
      rw [heq]
      cases reason with
      | All | Misc | Fee => rfl
    · right
      refine ⟨l.id, l.reasons, (entry_eq_some (h.nodup who)).mpr ?_, hfreezes⟩
      rw [heq]
      exact hl

/-- What is frozen depends on the two frozen amounts only. -/
theorem frozen_congr {d d' : AccountData} (hmisc : d'.miscFrozen = d.miscFrozen)
    (hfee : d'.feeFrozen = d.feeFrozen) (reason : Reasons) : d'.frozen reason = d.frozen reason := by
  cases reason with
  | All | Misc | Fee => simp only [AccountData.frozen, hmisc, hfee]

theorem Frame.locksKept {forced : AccountId → Prop} (h : Frame forced s t) (hs : LocksKept s) :
    LocksKept t := by
  have hlocks : ∀ who, t.locksOf who = s.locksOf who := fun who => by
    rw [Storage.locksOf, Storage.locksOf, h.locks]
  refine ⟨fun who => by rw [hlocks]; exact hs.nodup who, fun who reason => ?_⟩
  rw [hlocks, ← hs.frozen]
  exact frozen_congr (h.accounts who).misc (h.accounts who).fee reason

theorem Frame.lockTable {forced : AccountId → Prop} (h : Frame forced s t) :
    t.lockTable = s.lockTable := by
  funext who
  rw [Storage.lockTable, Storage.lockTable, Storage.locksOf, Storage.locksOf, h.locks]

/-- The storage after the locks of an account are replaced. -/
structure Relocked (who : AccountId) (locks : List BalanceLock) (s t : Storage sys) : Prop where
  locks_self : t.locksOf who = locks
  locks_of_ne : ∀ w, w ≠ who → t.locksOf w = s.locksOf w
  account_self : t.account who
    = locks.foldl freeze { s.account who with miscFrozen := 0, feeFrozen := 0 }
  account_of_ne : ∀ w, w ≠ who → t.account w = s.account w

/-- Freezing does not depend on the balances. -/
theorem foldl_freeze_congr (locks : List BalanceLock) {d d' : AccountData}
    (hmisc : d'.miscFrozen = d.miscFrozen) (hfee : d'.feeFrozen = d.feeFrozen) (reason : Reasons) :
    (locks.foldl freeze d').frozen reason = (locks.foldl freeze d).frozen reason := by
  induction locks generalizing d d' with
  | nil => exact frozen_congr hmisc hfee reason
  | cons l locks ih =>
      refine ih ?_ ?_
      · unfold freeze
        split_ifs <;> simp only [hmisc]
      · unfold freeze
        split_ifs <;> simp only [hfee]

theorem Relocked.locksKept {locks : List BalanceLock} (h : Relocked who locks s t)
    (hnodup : (locks.map BalanceLock.id).Nodup) (hs : LocksKept s) : LocksKept t := by
  refine ⟨fun w => ?_, fun w reason => ?_⟩
  · by_cases hw : w = who
    · rw [hw, h.locks_self]
      exact hnodup
    · rw [h.locks_of_ne w hw]
      exact hs.nodup w
  · by_cases hw : w = who
    · rw [hw, h.locks_self, h.account_self]
      have hmisc : ({ s.account who with miscFrozen := 0, feeFrozen := 0 } : AccountData).miscFrozen
          = (default : AccountData).miscFrozen := rfl
      exact foldl_freeze_congr locks hmisc rfl reason
    · rw [h.locks_of_ne w hw, h.account_of_ne w hw]
      exact hs.frozen w reason

/-- The free balance stays. -/
theorem Relocked.free {locks : List BalanceLock} (h : Relocked who locks s t) (w : AccountId) :
    (t.account w).free = (s.account w).free := by
  by_cases hw : w = who
  · rw [hw, h.account_self, (foldl_freeze _ locks).1]
  · rw [h.account_of_ne w hw]

variable [DecidableEq AccountId]

/-- The table is the old one, with other entries for the account. -/
theorem Relocked.lockTable {locks : List BalanceLock} {id : LockIdentifier}
    {e : Option (Nat × Reasons)} (h : Relocked who locks s t)
    (hentry : ∀ id', entry locks id' = if id' = id then e else entry (s.locksOf who) id') :
    t.lockTable = s.lockTable.put who id e := by
  funext w
  rw [LockTable.put, Storage.lockTable]
  by_cases hw : w = who
  · funext id'
    rw [hw, h.locks_self, hentry, Function.update_self, Function.update_apply]
    rfl
  · rw [Function.update_of_ne hw, h.locks_of_ne w hw]
    rfl

theorem exec_updateLocks {cfg : Config} (hed : cfg.existentialDeposit = 0)
    (who : AccountId) (locks : List BalanceLock) (s : Storage sys) :
    ∃ t, exec (updateLocks cfg who locks) s = (.ok (), t) ∧ Relocked who locks s t := by
  have hmutation : ∃ u, exec (recover (mutateAccount cfg who fun account =>
        return ((), locks.foldl freeze { account with miscFrozen := 0, feeFrozen := 0 }))
        (return ()) : Op sys Unit) s = (.ok (), u) ∧
      Mutated cfg who
        (locks.foldl freeze { s.account who with miscFrozen := 0, feeFrozen := 0 }) s u := by
    obtain ⟨accounts, hset⟩ := lenient_of_zero hed s.accounts who
      (locks.foldl freeze { s.account who with miscFrozen := 0, feeFrozen := 0 })
    exact ⟨_, exec_recover_of_ok (exec_tryMutateAccount_of_ok exec_pure hset), accounts, hset, rfl⟩
  obtain ⟨u, hexec, hu⟩ := hmutation
  have haccount := hu.account_self
  rw [settled_of_zero hed] at haccount
  -- the references are counted besides the data
  have hrelocked : ∀ t : Storage sys, t.locks = Function.update u.locks who
        (if locks = [] then none else some locks) → sys.get t.accounts = sys.get u.accounts →
      Relocked who locks s t := by
    intro t hlocks haccounts
    have hsame : ∀ w, t.account w = u.account w := fun w => by
      rw [Storage.account, Storage.account, haccounts]
    refine ⟨?_, fun w hw => ?_, (hsame who).trans haccount,
      fun w hw => (hsame w).trans (hu.account_of_ne hw)⟩
    · rw [Storage.locksOf, hlocks, Function.update_self]
      split_ifs with hnil
      · exact hnil.symm
      · rfl
    · rw [Storage.locksOf, hlocks, Function.update_of_ne hw, hu.locks]
      rfl
  unfold updateLocks
  rw [exec_bind_of_ok hexec, exec_get_bind, exec_ite]
  by_cases hnil : locks = []
  · rw [if_pos hnil]
    refine ⟨_, exec_set, hrelocked _ ?_ ?_⟩
    · rw [if_pos hnil]
    · split_ifs
      · exact sys.get_decConsumers _ _
      · rfl
  · rw [if_neg hnil]
    refine ⟨_, exec_set, hrelocked _ ?_ ?_⟩
    · rw [if_neg hnil]
    · split_ifs
      · rfl
      · exact sys.get_incConsumers _ _

end Storage

/-! ## Steps and runs -/

section Runs

variable {cfg : Config}

/-- What an operation on locks has done to the locks of an account. -/
structure Resets (T : LockTable AccountId) (s t : Storage sys) : Prop where
  kept : LocksKept t
  table : t.lockTable = T
  free : ∀ who, (t.account who).free = (s.account who).free

/-- Nothing is done. -/
theorem Resets.refl {s : Storage sys} (hs : LocksKept s) : Resets s.lockTable s s :=
  ⟨hs, rfl, fun _ => rfl⟩

theorem exec_quiet_of_ok {α : Type} {x : Op sys α} {s t : Storage sys} {a : α}
    (h : exec x s = (.ok a, t)) : exec (Op.quiet x) s = (.ok .none, t) :=
  (exec_bind_of_ok h).trans exec_pure

variable [DecidableEq AccountId]

theorem Relocked.resets {s t : Storage sys} {who : AccountId} {locks : List BalanceLock}
    {id : LockIdentifier} {e : Option (Nat × Reasons)} (h : Relocked who locks s t)
    (hs : LocksKept s) (hnodup : (locks.map BalanceLock.id).Nodup)
    (hentry : ∀ id', entry locks id' = if id' = id then e else entry (s.locksOf who) id') :
    Resets (s.lockTable.put who id e) s t :=
  ⟨h.locksKept hnodup hs, h.lockTable hentry, h.free⟩

/-- An operation on locks succeeds. -/
theorem Operation.relocks (hed : cfg.existentialDeposit = 0) {s : Storage sys} (hs : LocksKept s)
    {op : Operation AccountId} (hlocks : op.Relocks) :
    ∃ t, exec (op.apply cfg) s = (.ok .none, t) ∧
      Resets (s.lockTable.step (.operate op)) s t := by
  cases op with
  | setLock id who amount reasons =>
      by_cases hnothing : amount = 0 ∨ reasons.isEmpty = true
      · refine ⟨s, exec_quiet_of_ok (a := ()) ?_, ?_⟩
        · unfold PalletBalances.setLock
          rw [if_pos hnothing, exec_pure]
        · simp only [LockTable.step, if_pos hnothing]
          exact .refl hs
      · have hid : (⟨id, amount, .ofWithdrawReasons reasons⟩ : BalanceLock).id = id := rfl
        obtain ⟨t, ht, hrelocked⟩ := exec_updateLocks hed who (replaceLock id
          (fun _ => ⟨id, amount, .ofWithdrawReasons reasons⟩)
          (some ⟨id, amount, .ofWithdrawReasons reasons⟩) (s.locksOf who)) s
        refine ⟨t, exec_quiet_of_ok (a := ()) ?_, ?_⟩
        · unfold PalletBalances.setLock
          rw [if_neg hnothing, exec_get_bind]
          exact ht
        · simp only [LockTable.step, if_neg hnothing]
          refine hrelocked.resets hs (nodup_replaceLock hid (fun _ _ => hid) (hs.nodup who))
            fun id' => ?_
          rw [entry_replaceLock hid fun _ _ => hid]
          cases (s.locksOf who).find? fun l => l.id = id with
          | none | some l => rfl
  | extendLock id who amount reasons =>
      by_cases hnothing : amount = 0 ∨ reasons.isEmpty = true
      · refine ⟨s, exec_quiet_of_ok (a := ()) ?_, ?_⟩
        · unfold PalletBalances.extendLock
          rw [if_pos hnothing, exec_pure]
        · simp only [LockTable.step, if_pos hnothing]
          exact .refl hs
      · have hid : (⟨id, amount, .ofWithdrawReasons reasons⟩ : BalanceLock).id = id := rfl
        obtain ⟨t, ht, hrelocked⟩ := exec_updateLocks hed who (replaceLock id
          (fun l => ⟨l.id, max l.amount amount, l.reasons.union (.ofWithdrawReasons reasons)⟩)
          (some ⟨id, amount, .ofWithdrawReasons reasons⟩) (s.locksOf who)) s
        refine ⟨t, exec_quiet_of_ok (a := ()) ?_, ?_⟩
        · unfold PalletBalances.extendLock
          rw [if_neg hnothing, exec_get_bind]
          exact ht
        · simp only [LockTable.step, if_neg hnothing]
          refine hrelocked.resets hs (nodup_replaceLock hid (fun _ h => h) (hs.nodup who))
            fun id' => ?_
          have hextended : ∀ l : BalanceLock, l.id = id → (⟨l.id, max l.amount amount,
              l.reasons.union (.ofWithdrawReasons reasons)⟩ : BalanceLock).id = id := fun _ h => h
          rw [entry_replaceLock hid hextended]
          unfold Storage.lockTable entry
          cases (s.locksOf who).find? fun l => l.id = id with
          | none | some l => rfl
  | removeLock id who =>
      obtain ⟨t, ht, hrelocked⟩ := exec_updateLocks hed who
        ((s.locksOf who).filter fun l => l.id ≠ id) s
      refine ⟨t, exec_quiet_of_ok (a := ()) ?_, ?_⟩
      · unfold PalletBalances.removeLock
        rw [exec_get_bind]
        exact ht
      · refine hrelocked.resets hs ?_ fun id' => entry_filter
        rw [map_id_filter]
        exact (hs.nodup who).filter _
  | _ => exact absurd hlocks id

/-- Other actions leave the table alone. -/
theorem LockTable.step_of_not {T : LockTable AccountId} {op : Operation AccountId}
    (hlocks : ¬ op.Relocks) : T.step (.operate op) = T := by
  cases op with
  | setLock id who amount reasons | extendLock id who amount reasons =>
      exact absurd trivial hlocks
  | removeLock id who => exact absurd trivial hlocks
  | _ => rfl

theorem World.operate_frame (hed : cfg.existentialDeposit = 0) (w : World sys)
    {op : Operation AccountId} (hlocks : ¬ op.Relocks) :
    Frame op.forces w.pallet (w.operate cfg op).pallet := by
  have hframe : Frames op.forces w.pallet (op.apply cfg) := Operation.frames hed hlocks
  unfold Frames at hframe
  unfold World.operate
  rcases hexec : exec (op.apply cfg) w.pallet with ⟨e | created, pallet⟩
  all_goals rw [hexec] at hframe
  · cases e with
    | dispatch e => exact hframe
    | panic p => exact .refl
  · exact hframe

theorem World.operate_relocks (hed : cfg.existentialDeposit = 0) {w : World sys}
    (hs : LocksKept w.pallet) {op : Operation AccountId} (hlocks : op.Relocks) :
    Resets (w.pallet.lockTable.step (.operate op)) w.pallet (w.operate cfg op).pallet := by
  obtain ⟨t, hexec, hresets⟩ := Operation.relocks hed hs hlocks
  unfold World.operate
  rw [hexec]
  exact hresets

/-- What an action does to the locks. -/
theorem World.step_locks (hed : cfg.existentialDeposit = 0) {w : World sys}
    (hs : LocksKept w.pallet) (a : Action AccountId) :
    LocksKept (w.step cfg a).pallet ∧
      (w.step cfg a).pallet.lockTable = w.pallet.lockTable.step a := by
  by_cases ha : ∃ op, a = .operate op
  · obtain ⟨op, rfl⟩ := ha
    by_cases hlocks : op.Relocks
    · have hresets := World.operate_relocks hed hs hlocks
      exact ⟨hresets.kept, hresets.table⟩
    · have hframe := World.operate_frame hed w hlocks
      exact ⟨hframe.locksKept hs, hframe.lockTable.trans (LockTable.step_of_not hlocks).symm⟩
  · obtain ⟨haccounts, hlocks⟩ := (w.step_aside cfg a).resolve_left ha
    have hframe : Frame (fun _ => False) w.pallet (w.step cfg a).pallet :=
      .aside (congrArg sys.get haccounts) hlocks
    refine ⟨hframe.locksKept hs, hframe.lockTable.trans ?_⟩
    cases a with
    | operate op => exact absurd ⟨op, rfl⟩ ha
    | _ => rfl

theorem World.run_locks (hed : cfg.existentialDeposit = 0) {w : World sys} (h : LocksKept w.pallet)
    (actions : List (Action AccountId)) :
    LocksKept (Histories.run (World.step cfg) w actions).pallet ∧
      (Histories.run (World.step cfg) w actions).pallet.lockTable
        = Histories.run LockTable.step w.pallet.lockTable actions := by
  induction actions generalizing w with
  | nil => exact ⟨h, rfl⟩
  | cons a actions ih =>
      obtain ⟨hkept, htable⟩ := World.step_locks hed h a
      obtain ⟨hkept', htable'⟩ := ih hkept
      rw [htable] at htable'
      exact ⟨hkept', htable'⟩

/-- **The locks over whole runs.** The pallet keeps the table of locks, and the frozen amounts are
the largest in it. -/
theorem lockTable_run (hed : cfg.existentialDeposit = 0) {w : World sys} (h : LocksKept w.pallet)
    (actions : List (Action AccountId)) :
    (Histories.run (World.step cfg) w actions).pallet.lockTable
        = Histories.run LockTable.step w.pallet.lockTable actions ∧
      ∀ who reason, LockTable.IsFrozen
        (Histories.run LockTable.step w.pallet.lockTable actions who) reason
        (((Histories.run (World.step cfg) w actions).pallet.account who).frozen reason) := by
  obtain ⟨hkept, htable⟩ := World.run_locks hed h actions
  refine ⟨htable, fun who reason => ?_⟩
  rw [← htable]
  exact hkept.isFrozen who reason

omit [DecidableEq AccountId] in
theorem Fresh.locksKept {s : Storage sys} (h : Fresh s) : LocksKept s := by
  have hlocks : ∀ who, s.locksOf who = [] := by
    intro who
    rw [Storage.locksOf, h.locks who]
    rfl
  refine ⟨fun who => ?_, fun who reason => ?_⟩
  · rw [hlocks]
    exact List.nodup_nil
  · rw [hlocks, h.account]
    rfl

namespace Dev

def vesting : LockIdentifier := Vector.replicate 8 1

def staking : LockIdentifier := Vector.replicate 8 2

/-- Two locks of account `1`, one of which is extended and the other removed. -/
def locking : List (Action Nat) :=
  [.operate (.depositCreating 1 100), .operate (.setLock staking 1 70 .TRANSFER),
    .operate (.setLock vesting 1 40 .TRANSACTION_PAYMENT), .operate (.extendLock vesting 1 50 .TRANSFER),
    .operate (.removeLock staking 1)]

end Dev

theorem lockTable_run_locking :
    Histories.run LockTable.step Dev.empty.lockTable Dev.locking 1 Dev.vesting = some (50, .All) ∧
      ((Histories.run (World.step Dev.runtime) ⟨Dev.empty, 0, 0⟩ Dev.locking).pallet.lockTable
        = Histories.run LockTable.step Dev.empty.lockTable Dev.locking) :=
  ⟨by decide +kernel, (lockTable_run rfl Dev.fresh.locksKept Dev.locking).1⟩

/-! ### What is locked is not spent -/

/-- The operation replaces or removes the lock. -/
def Operation.Replaces (who : AccountId) (id : LockIdentifier) : Operation AccountId → Prop
  | .setLock id' w _ _ => w = who ∧ id' = id
  | .removeLock id' w => w = who ∧ id' = id
  | _ => False

/-- The action leaves the lock there, and does not force the balance of the account. -/
def Action.Respects (who : AccountId) (id : LockIdentifier) : Action AccountId → Prop
  | .operate op => ¬ op.forces who ∧ ¬ op.Replaces who id
  | _ => True

/-- A lock for all reasons of at least an amount, which the free balance has. -/
structure Locked (who : AccountId) (id : LockIdentifier) (amount : Nat) (s : Storage sys) : Prop where
  kept : LocksKept s
  entry : ∃ a, amount ≤ a ∧ s.lockTable who id = some (a, .All)
  free : amount ≤ (s.account who).free

/-- The lock is there after an action that respects it. -/
theorem LockTable.step_entry {T : LockTable AccountId} {a : Action AccountId} {who : AccountId}
    {id : LockIdentifier} {amount : Nat} (ha : a.Respects who id)
    (hentry : ∃ x, amount ≤ x ∧ T who id = some (x, Reasons.All)) :
    ∃ x, amount ≤ x ∧ T.step a who id = some (x, Reasons.All) := by
  -- an entry for another account or identifier is put
  have hput : ∀ {w : AccountId} {id' : LockIdentifier} {e : Option (Nat × Reasons)},
      ¬ (w = who ∧ id' = id) → T.put w id' e who id = T who id := by
    intro w id' e hne
    rw [LockTable.put, Function.update_apply]
    split_ifs with hw
    · rw [Function.update_of_ne fun hid => hne ⟨hw.symm, hid.symm⟩, hw]
    · rfl
  cases a with
  | operate op =>
      cases op with
      | setLock id' w amount' reasons =>
          simp only [LockTable.step]
          split_ifs
          · exact hentry
          · rw [hput ha.2]
            exact hentry
      | removeLock id' w =>
          simp only [LockTable.step]
          rw [hput ha.2]
          exact hentry
      | extendLock id' w amount' reasons =>
          simp only [LockTable.step]
          split_ifs
          · exact hentry
          · by_cases hsame : w = who ∧ id' = id
            · obtain ⟨rfl, rfl⟩ := hsame
              obtain ⟨x, hle, hx⟩ := hentry
              refine ⟨max x amount', hle.trans (Nat.le_max_left _ _), ?_⟩
              rw [LockTable.put, Function.update_self, Function.update_self, hx, Option.elim_some]
              simp only [Reasons.union]
              split_ifs with heq
              · rfl
              · rfl
            · rw [hput hsame]
              exact hentry
      | _ => exact hentry
  | _ => exact hentry

theorem World.step_locked (hed : cfg.existentialDeposit = 0) {w : World sys} {who : AccountId}
    {id : LockIdentifier} {amount : Nat} (hamount : amount < balanceBound)
    (h : Locked who id amount w.pallet) {a : Action AccountId} (ha : a.Respects who id) :
    Locked who id amount (w.step cfg a).pallet := by
  obtain ⟨hkept, htable⟩ := World.step_locks hed h.kept a
  refine ⟨hkept, by rw [htable]; exact LockTable.step_entry ha h.entry, ?_⟩
  by_cases hop : ∃ op, a = .operate op
  · obtain ⟨op, rfl⟩ := hop
    by_cases hlocks : op.Relocks
    · exact h.free.trans ((World.operate_relocks hed h.kept hlocks).free who).ge
    · -- the lock is part of all that is frozen
      obtain ⟨x, hle, hentry⟩ := h.entry
      have hmisc := (h.kept.isFrozen who .Misc).bound hentry (Or.inl rfl)
      have hfee := (h.kept.isFrozen who .Fee).bound hentry (Or.inl rfl)
      have hguarded := ((World.operate_frame hed w hlocks).accounts who).guarded ha.1
      have hfree := h.free
      refine le_trans ?_ hguarded
      unfold AccountData.guarded
      simp only [AccountData.frozen] at hmisc hfee
      omega
  · obtain ⟨haccounts, -⟩ := (w.step_aside cfg a).resolve_left hop
    rw [Storage.account, haccounts]
    exact h.free

/-- **Locked balance over whole runs.** Once an account has the balance that a lock for all reasons
locks, it keeps that balance as long as the lock is there and nothing forces the account. -/
theorem locked_throughout (hed : cfg.existentialDeposit = 0) {w : World sys} {who : AccountId}
    {id : LockIdentifier} {amount : Nat} (hamount : amount < balanceBound)
    (h : Locked who id amount w.pallet) {actions : List (Action AccountId)}
    (hactions : Histories.Each (World.step cfg) (fun _ a => a.Respects who id) w actions) :
    Histories.Throughout (World.step cfg) (fun w => Locked who id amount w.pallet) w actions :=
  hactions.throughout (fun _ _ hlocked ha => World.step_locked hed hamount hlocked ha) h

/-- Account `1` cannot spend what vests, whether at once or little by little. -/
def Dev.spending : List (Action Nat) :=
  [.operate (.transfer 1 2 60 .AllowDeath), .operate (.transfer 1 2 30 .AllowDeath),
    .operate (.withdraw 1 30 .TRANSFER .KeepAlive), .operate (.reserve 1 20)]

theorem locked_throughout_spending :
    Histories.Throughout (World.step Dev.runtime)
        (fun w => Locked 1 Dev.vesting 50 w.pallet)
        (Histories.run (World.step Dev.runtime) ⟨Dev.empty, 0, 0⟩ Dev.locking) Dev.spending ∧
      (Histories.run (World.step Dev.runtime) ⟨Dev.empty, 0, 0⟩
        (Dev.locking ++ Dev.spending)).pallet.account 1 = ⟨50, 20, 50, 50⟩ := by
  refine ⟨locked_throughout rfl (by decide) ⟨?_, ⟨50, le_rfl, ?_⟩, ?_⟩ ?_, ?_⟩
  · exact (World.run_locks rfl Dev.fresh.locksKept Dev.locking).1
  · decide +kernel
  · decide +kernel
  · simp [Dev.spending, Histories.Each, Action.Respects, Operation.forces, Operation.Replaces]
  · decide +kernel

end Runs

end HydraDX.PalletBalances
