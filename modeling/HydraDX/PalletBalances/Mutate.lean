import HydraDX.PalletBalances.Storage

set_option autoImplicit false

/-! # Mutating an account

All balances are written by `try_mutate_account`: a closure computes the new data of an account,
and an account with less than the existential deposit is removed, its balance being dust.
`exec_tryMutateAccountWithDust` and `exec_tryMutateAccount` say how a mutation ends, and the
operations of the pallet are executed by them. -/

namespace HydraDX.PalletBalances

open Balances (NegativeImbalance PositiveImbalance)

variable {AccountId : Type} {sys : AccountStore AccountId}

/-! ## Dropping values -/

/-- `Drop` of `NegativeImbalance`: square up the total issuance. -/
def Storage.dropNegative (s : Storage sys) (imbalance : NegativeImbalance) : Storage sys :=
  { s with totalIssuance := s.totalIssuance - imbalance.amount }

/-- `Drop` of `PositiveImbalance`: square up the total issuance. -/
def Storage.dropPositive (s : Storage sys) (imbalance : PositiveImbalance) : Storage sys :=
  { s with totalIssuance := saturatingAdd s.totalIssuance imbalance.amount }

/-- What happens to the storage when a value goes out of scope. The accounts and the locks stay as
they are. -/
class Drop (sys : AccountStore AccountId) (α : Type) where
  drop : α → Storage sys → Storage sys
  accounts_drop : ∀ a s, (drop a s).accounts = s.accounts
  locks_drop : ∀ a s, (drop a s).locks = s.locks

/-- A value without a destructor. -/
@[reducible] def Drop.nothing (α : Type) : Drop sys α where
  drop _ s := s
  accounts_drop _ _ := rfl
  locks_drop _ _ := rfl

instance : Drop sys Unit := .nothing Unit

instance : Drop sys Nat := .nothing Nat

instance : Drop sys AccountData := .nothing AccountData

instance : Drop sys NegativeImbalance where
  drop imbalance s := s.dropNegative imbalance
  accounts_drop _ _ := rfl
  locks_drop _ _ := rfl

instance : Drop sys PositiveImbalance where
  drop imbalance s := s.dropPositive imbalance
  accounts_drop _ _ := rfl
  locks_drop _ _ := rfl

instance {α : Type} [Drop sys α] : Drop sys (Option α) where
  drop
    | some a, s => Drop.drop a s
    | none, s => s
  accounts_drop
    | some a, s => Drop.accounts_drop a s
    | none, _ => rfl
  locks_drop
    | some a, s => Drop.locks_drop a s
    | none, _ => rfl

/-- The parts of a tuple go one after the other. -/
instance {α β : Type} [Drop sys α] [Drop sys β] : Drop sys (α × β) where
  drop ab s := Drop.drop ab.2 (Drop.drop ab.1 s)
  accounts_drop ab s := (Drop.accounts_drop ab.2 _).trans (Drop.accounts_drop ab.1 s)
  locks_drop ab s := (Drop.locks_drop ab.2 _).trans (Drop.locks_drop ab.1 s)

/-- The dust of an account, which is removed when the cleaner is dropped. -/
structure DustCleaner (AccountId : Type) where
  dust : Option (AccountId × NegativeImbalance)

instance : Drop sys (DustCleaner AccountId) where
  drop
    | ⟨some (who, dust)⟩, s => (s.depositEvent (.DustLost who dust.amount)).dropNegative dust
    | ⟨none⟩, s => s
  accounts_drop
    | ⟨some _⟩, _ => rfl
    | ⟨none⟩, _ => rfl
  locks_drop
    | ⟨some _⟩, _ => rfl
    | ⟨none⟩, _ => rfl

/-- `drop` -/
def dropped {α : Type} [Drop sys α] (a : α) : Op sys Unit := modify (Drop.drop a)

/-! ## Mutating -/

/-- What is kept of an account, and its dust. -/
def postMutation (cfg : Config) (new : AccountData) :
    Option AccountData × Option NegativeImbalance :=
  if new.total < cfg.existentialDeposit then
    if new.total = 0 then (none, none) else (none, some ⟨new.total⟩)
  else (some new, none)

/-- `T::AccountStore::try_mutate_exists` -/
def tryMutateExists {α : Type} [Drop sys α] (who : AccountId)
    (f : Option AccountData → Op sys (α × Option AccountData)) : Op sys α := do
  let (result, data) ← f (sys.get (← get).accounts who)
  let s ← get
  match sys.set who data s.accounts with
  | .ok accounts =>
      set { s with accounts }
      return result
  | .error e =>
      dropped result
      throw (.dispatch (.Store e))

def tryMutateAccountWithDust {α : Type} [Drop sys α] (cfg : Config) (who : AccountId)
    (f : AccountData → Bool → Op sys (α × AccountData)) :
    Op sys (α × DustCleaner AccountId) := do
  let (maybeEndowed, maybeDust, result) ← tryMutateExists who fun maybeAccount => do
    let isNew := maybeAccount.isNone
    let (result, account) ← f (maybeAccount.getD default) isNew
    let maybeEndowed := if isNew then some account.free else none
    let maybeAccountMaybeDust := postMutation cfg account
    return ((maybeEndowed, maybeAccountMaybeDust.2, result), maybeAccountMaybeDust.1)
  match maybeEndowed with
  | some endowed => depositEvent (.Endowed who endowed)
  | none => pure ()
  return (result, ⟨maybeDust.map fun dust => (who, dust)⟩)

def tryMutateAccount {α : Type} [Drop sys α] (cfg : Config) (who : AccountId)
    (f : AccountData → Bool → Op sys (α × AccountData)) : Op sys α := do
  let (result, dustCleaner) ← tryMutateAccountWithDust cfg who f
  dropped dustCleaner
  return result

def mutateAccount {α : Type} [Drop sys α] (cfg : Config) (who : AccountId)
    (f : AccountData → Op sys (α × AccountData)) : Op sys α :=
  tryMutateAccount cfg who fun account _ => f account

/-! ## How a mutation ends -/

/-- What is stored of the data. -/
def kept (cfg : Config) (d : AccountData) : Option AccountData := (postMutation cfg d).1

/-- What the data have of dust. -/
def dust (cfg : Config) (d : AccountData) : Nat :=
  if d.total < cfg.existentialDeposit then d.total else 0

/-- The cleaner of the data. -/
def cleaner (cfg : Config) (who : AccountId) (d : AccountData) : DustCleaner AccountId :=
  ⟨(postMutation cfg d).2.map fun dust => (who, dust)⟩

/-- The storage with the accounts written, with the event of a new account. -/
def Storage.written (s : Storage sys) (who : AccountId) (isNew : Bool) (d : AccountData)
    (accounts : sys.Accounts) : Storage sys :=
  { s with
    accounts
    events := if isNew then s.events ++ [.Endowed who d.free] else s.events }

/-- The account counts as new. -/
def Storage.isNew (s : Storage sys) (who : AccountId) : Bool := (sys.get s.accounts who).isNone

/-- Every account that is stored has the existential deposit. -/
def KeepsDeposit (cfg : Config) (s : Storage sys) : Prop :=
  ∀ who d, sys.get s.accounts who = some d → cfg.existentialDeposit ≤ d.total

/-- The account as it is read back. -/
def settled (cfg : Config) (d : AccountData) : AccountData :=
  if d.total < cfg.existentialDeposit then default else d

/-- `u` is `s` with the data `d` stored for `who`, the dust gone. -/
def Mutated (cfg : Config) (who : AccountId) (d : AccountData) (s u : Storage sys) : Prop :=
  ∃ accounts, sys.set who (kept cfg d) s.accounts = .ok accounts ∧
    u = Drop.drop (cleaner cfg who d) (s.written who (s.isNew who) d accounts)

open Dispatch

section Exec

variable {cfg : Config} {who : AccountId} {α : Type} [Drop sys α]
  {f : AccountData → Bool → Op sys (α × AccountData)} {s t : Storage sys} {r : α}
  {d : AccountData} {accounts : sys.Accounts}

theorem exec_tryMutateExists_of_error {g : Option AccountData → Op sys (α × Option AccountData)}
    {e : Failure} (hg : exec (g (sys.get s.accounts who)) s = (.error e, t)) :
    exec (tryMutateExists who g) s = (.error e, t) :=
  exec_get_bind.trans (exec_bind_of_error hg)

theorem exec_tryMutateExists_of_ok {g : Option AccountData → Op sys (α × Option AccountData)}
    {data : Option AccountData} (hg : exec (g (sys.get s.accounts who)) s = (.ok (r, data), t))
    (hset : sys.set who data t.accounts = .ok accounts) :
    exec (tryMutateExists who g) s = (.ok r, { t with accounts }) := by
  refine exec_get_bind.trans ((exec_bind_of_ok hg).trans (exec_get_bind.trans ?_))
  simp only [hset]
  rfl

theorem exec_tryMutateExists_of_refused {g : Option AccountData → Op sys (α × Option AccountData)}
    {data : Option AccountData} {e : StoredMapError}
    (hg : exec (g (sys.get s.accounts who)) s = (.ok (r, data), t))
    (hset : sys.set who data t.accounts = .error e) :
    exec (tryMutateExists who g) s = (.error (.dispatch (.Store e)), Drop.drop r t) := by
  refine exec_get_bind.trans ((exec_bind_of_ok hg).trans (exec_get_bind.trans ?_))
  simp only [hset]
  rfl

/-- A mutation whose closure fails ends like the closure. -/
theorem exec_tryMutateAccountWithDust_of_error {e : Failure}
    (hf : exec (f (s.account who) (s.isNew who)) s = (.error e, t)) :
    exec (tryMutateAccountWithDust cfg who f) s = (.error e, t) :=
  exec_bind_of_error (exec_tryMutateExists_of_error (exec_bind_of_error hf))

/-- A mutation that the store accepts. -/
theorem exec_tryMutateAccountWithDust_of_ok
    (hf : exec (f (s.account who) (s.isNew who)) s = (.ok (r, d), t))
    (hset : sys.set who (kept cfg d) t.accounts = .ok accounts) :
    exec (tryMutateAccountWithDust cfg who f) s
      = (.ok (r, cleaner cfg who d), t.written who (s.isNew who) d accounts) := by
  refine (exec_bind_of_ok (exec_tryMutateExists_of_ok (exec_bind_of_ok hf) hset)).trans ?_
  unfold Storage.isNew Storage.written
  cases (sys.get s.accounts who).isNone with
  | true => rfl
  | false => rfl

theorem drop_dust (d : AccountData) (t : Storage sys) :
    Drop.drop (postMutation cfg d).2 t = t.dropNegative ⟨dust cfg d⟩ := by
  unfold postMutation dust
  split_ifs with h h₀
  · rw [h₀]
    rfl
  · rfl
  · rfl

/-- A mutation that the store refuses: the dust and the result of the closure are dropped. -/
theorem exec_tryMutateAccountWithDust_of_refused {e : StoredMapError}
    (hf : exec (f (s.account who) (s.isNew who)) s = (.ok (r, d), t))
    (hset : sys.set who (kept cfg d) t.accounts = .error e) :
    exec (tryMutateAccountWithDust cfg who f) s
      = (.error (.dispatch (.Store e)), Drop.drop r (t.dropNegative ⟨dust cfg d⟩)) := by
  refine exec_bind_of_error ((exec_tryMutateExists_of_refused (exec_bind_of_ok hf) hset).trans ?_)
  rw [← drop_dust]
  cases (sys.get s.accounts who).isNone with
  | true => rfl
  | false => rfl

/-- The ends of a mutation. -/
theorem exec_tryMutateAccountWithDust_cases (cfg : Config) (who : AccountId)
    (f : AccountData → Bool → Op sys (α × AccountData)) (s : Storage sys) :
    (∃ e t, exec (f (s.account who) (s.isNew who)) s = (.error e, t) ∧
      exec (tryMutateAccountWithDust cfg who f) s = (.error e, t)) ∨
    (∃ r d t accounts, exec (f (s.account who) (s.isNew who)) s = (.ok (r, d), t) ∧
      sys.set who (kept cfg d) t.accounts = .ok accounts ∧
      exec (tryMutateAccountWithDust cfg who f) s
        = (.ok (r, cleaner cfg who d), t.written who (s.isNew who) d accounts)) ∨
    (∃ r d t e, exec (f (s.account who) (s.isNew who)) s = (.ok (r, d), t) ∧
      sys.set who (kept cfg d) t.accounts = .error e ∧
      exec (tryMutateAccountWithDust cfg who f) s
        = (.error (.dispatch (.Store e)), Drop.drop r (t.dropNegative ⟨dust cfg d⟩))) := by
  rcases hf : exec (f (s.account who) (s.isNew who)) s with ⟨e | ⟨r, d⟩, t⟩
  · exact Or.inl ⟨e, t, rfl, exec_tryMutateAccountWithDust_of_error hf⟩
  · cases hset : sys.set who (kept cfg d) t.accounts with
    | ok accounts =>
        exact Or.inr (Or.inl ⟨r, d, t, accounts, rfl, hset,
          exec_tryMutateAccountWithDust_of_ok hf hset⟩)
    | error e =>
        exact Or.inr (Or.inr ⟨r, d, t, e, rfl, hset,
          exec_tryMutateAccountWithDust_of_refused hf hset⟩)

theorem exec_tryMutateAccount_of_ok
    (hf : exec (f (s.account who) (s.isNew who)) s = (.ok (r, d), t))
    (hset : sys.set who (kept cfg d) t.accounts = .ok accounts) :
    exec (tryMutateAccount cfg who f) s
      = (.ok r, Drop.drop (cleaner cfg who d) (t.written who (s.isNew who) d accounts)) :=
  (exec_bind_of_ok (exec_tryMutateAccountWithDust_of_ok hf hset)).trans exec_modify_bind

/-- A mutation fails if its closure does. -/
theorem exec_tryMutateAccount_of_error {e : Failure}
    (hf : exec (f (s.account who) (s.isNew who)) s = (.error e, t)) :
    exec (tryMutateAccount cfg who f) s = (.error e, t) :=
  exec_bind_of_error (exec_tryMutateAccountWithDust_of_error hf)

end Exec

/-! ## What is read back -/

section ReadBack

variable {cfg : Config} {who w : AccountId} {d : AccountData} {s u : Storage sys}
  {a a' : sys.Accounts}

theorem kept_eq (cfg : Config) (d : AccountData) :
    kept cfg d = if d.total < cfg.existentialDeposit then none else some d := by
  unfold kept postMutation
  split_ifs
  · rfl
  · rfl
  · rfl

theorem settled_of_le (h : cfg.existentialDeposit ≤ d.total) : settled cfg d = d :=
  if_neg (Nat.not_lt.mpr h)

theorem dust_of_le (h : cfg.existentialDeposit ≤ d.total) : dust cfg d = 0 :=
  if_neg (Nat.not_lt.mpr h)

/-- What is stored is read back. -/
theorem get_set_kept (h : sys.set who (kept cfg d) a = .ok a') :
    (sys.get a' who).getD default = settled cfg d := by
  rw [kept_eq] at h
  unfold settled
  split_ifs at h ⊢
  · rw [sys.get_set_none h]
    rfl
  · obtain ⟨a'', hset, hget⟩ := sys.set_some a who d
    rw [h] at hset
    cases hset
    exact hget

/-- Storing is refused only if the account would be removed. -/
theorem exists_set_kept (h : cfg.existentialDeposit ≤ d.total ∨ sys.canDecProvider a who = true) :
    ∃ a', sys.set who (kept cfg d) a = .ok a' := by
  rw [kept_eq]
  split_ifs with hd
  · exact sys.set_none_of_canDec (h.resolve_left (by omega))
  · obtain ⟨a', hset, -⟩ := sys.set_some a who d
    exact ⟨a', hset⟩

theorem drop_cleaner_totalIssuance :
    (Drop.drop (cleaner cfg who d) s).totalIssuance = s.totalIssuance - dust cfg d := by
  unfold cleaner postMutation dust
  split_ifs with h h₀
  · rw [h₀]
    rfl
  · rfl
  · rfl

theorem Mutated.account_self (h : Mutated cfg who d s u) : u.account who = settled cfg d := by
  obtain ⟨accounts, hset, rfl⟩ := h
  rw [Storage.account, Drop.accounts_drop]
  exact get_set_kept hset

theorem Mutated.account_of_ne (h : Mutated cfg who d s u) (hne : w ≠ who) :
    u.account w = s.account w := by
  obtain ⟨accounts, hset, rfl⟩ := h
  rw [Storage.account, Drop.accounts_drop]
  exact congrArg (Option.getD · default) (sys.get_set_of_ne hset hne)

theorem Mutated.totalIssuance (h : Mutated cfg who d s u) :
    u.totalIssuance = s.totalIssuance - dust cfg d := by
  obtain ⟨accounts, hset, rfl⟩ := h
  exact drop_cleaner_totalIssuance

theorem Mutated.locks (h : Mutated cfg who d s u) : u.locks = s.locks := by
  obtain ⟨accounts, hset, rfl⟩ := h
  exact Drop.locks_drop _ _

end ReadBack

/-! ## A store that refuses nothing -/

section Lenient

variable {cfg : Config} {who : AccountId} {α : Type} [Drop sys α]
  {f : AccountData → Bool → Op sys (α × AccountData)}

/-- The store takes whatever a mutation leaves. -/
def Lenient (cfg : Config) (sys : AccountStore AccountId) : Prop :=
  ∀ a who d, ∃ a', sys.set who (kept cfg d) a = .ok a'

/-- Without an existential deposit no account is removed. -/
theorem lenient_of_zero (h : cfg.existentialDeposit = 0) : Lenient cfg sys :=
  fun _ _ _ => exists_set_kept (Or.inl (by omega))

/-- How a mutation ends that the store cannot refuse. -/
theorem exec_tryMutateAccount_lenient (hlenient : Lenient cfg sys)
    (hreads : ∀ account isNew, Reads (f account isNew)) (s : Storage sys) :
    (∃ e, exec (tryMutateAccount cfg who f) s = (.error e, s)) ∨
    (∃ r d u, exec (f (s.account who) (s.isNew who)) s = (.ok (r, d), s) ∧
      Mutated cfg who d s u ∧ exec (tryMutateAccount cfg who f) s = (.ok r, u)) := by
  rcases Reads.exec_cases (hreads (s.account who) (s.isNew who)) s with ⟨e, he⟩ | ⟨⟨r, d⟩, hok⟩
  · exact Or.inl ⟨e, exec_tryMutateAccount_of_error he⟩
  · obtain ⟨accounts, hset⟩ := hlenient s.accounts who d
    exact Or.inr ⟨r, d, _, hok, ⟨accounts, hset, rfl⟩, exec_tryMutateAccount_of_ok hok hset⟩

end Lenient

end HydraDX.PalletBalances
