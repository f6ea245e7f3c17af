import HydraDX.PalletBalances.Operation
import HydraDX.PalletBalances.Transfer
import HydraDX.PalletBalances.Supply

set_option autoImplicit false

/-! # Calls that fail

What a call has written stays if it fails, and the imbalance that a closure has returned is dropped
if the account cannot be stored. So it has to be seen that a failing call changes nothing. With the
existential deposit of the runtime no call does. With an existential deposit, when the store may
refuse to remove an account, it is so of the calls that do not lower what an account holds, and of
a transfer of free balance, but not of a withdrawal. -/

namespace HydraDX.PalletBalances

open Balances (WithdrawReasons ExistenceRequirement NegativeImbalance PositiveImbalance)
open Payment (Origin)
open Dispatch

variable {AccountId : Type} {sys : AccountStore AccountId}

/-- A call that fails with an error has changed nothing. -/
def Atomic {α : Type} (s : Storage sys) (x : Op sys α) : Prop :=
  ∀ e t, exec x s = (.error (.dispatch e), t) → t = s

/-- A call that does not fail with an error. -/
def Settles {α : Type} (s : Storage sys) (x : Op sys α) : Prop :=
  ∀ e t, exec x s ≠ (.error (.dispatch e), t)

section Rules

variable {α β : Type} {s : Storage sys} {x y : Op sys α}

theorem Settles.atomic (h : Settles s x) : Atomic s x := fun e t hx => absurd hx (h e t)

theorem Atomic.of_error {e : Failure} (h : exec x s = (.error e, s)) : Atomic s x := by
  intro e' t ht
  rw [h] at ht
  cases ht
  rfl

theorem Settles.of_ok {a : α} {t : Storage sys} (h : exec x s = (.ok a, t)) : Settles s x := by
  intro e u hu
  rw [h] at hu
  cases hu

theorem settles_pure {a : α} : Settles s (pure a) := .of_ok exec_pure

theorem Atomic.of_exec_eq (h : exec x s = exec y s) (hy : Atomic s y) : Atomic s x := by
  intro e t ht
  exact hy e t (h ▸ ht)

theorem Atomic.ite {p : Prop} [Decidable p] (hx : p → Atomic s x) (hy : ¬ p → Atomic s y) :
    Atomic s (if p then x else y) := by
  split_ifs with h
  · exact hx h
  · exact hy h

theorem Atomic.get_bind {f : Storage sys → Op sys α} (h : Atomic s (f s)) :
    Atomic s (get >>= f) := by
  intro e t ht
  rw [exec_get_bind] at ht
  exact h e t ht

theorem Atomic.lift_bind {z : Except Failure β} {f : β → Op sys α}
    (h : ∀ b, z = .ok b → Atomic s (f b)) : Atomic s (liftM z >>= f) := by
  cases hz : z with
  | ok b => exact .of_exec_eq (exec_lift_bind_of_ok rfl) (h b hz)
  | error e => exact .of_error (exec_lift_bind_of_error rfl)

/-- What comes after does not fail with an error. -/
theorem Atomic.bind {f : α → Op sys β} (hx : Atomic s x) (hf : ∀ a u, Settles u (f a)) :
    Atomic s (x >>= f) := by
  intro e t ht
  rcases hexec : exec x s with ⟨e' | a, u⟩
  · rw [exec_bind_of_error hexec] at ht
    cases ht
    exact hx _ _ hexec
  · rw [exec_bind_of_ok hexec] at ht
    exact absurd ht (hf a u e t)

theorem Atomic.quiet (hx : Atomic s x) : Atomic s (Op.quiet x) :=
  hx.bind fun _ _ => settles_pure

theorem Atomic.recover (hx : Atomic s x) (hy : Atomic s y) : Atomic s (recover x y) := by
  rcases hexec : exec x s with ⟨e | a, u⟩
  · cases e with
    | dispatch e =>
        have hu : u = s := hx e u hexec
        rw [hu] at hexec
        exact .of_exec_eq (exec_recover_of_error hexec) hy
    | panic p =>
        intro e t ht
        rw [exec_recover_of_panic hexec] at ht
        cases ht
  · exact (Settles.of_ok (exec_recover_of_ok hexec)).atomic

/-- An error is handled by what does not fail. -/
theorem settles_recover (hy : ∀ t, Settles t y) : Settles s (PalletBalances.recover x y) := by
  intro e t ht
  rcases hexec : exec x s with ⟨e' | a, u⟩
  · cases e' with
    | dispatch e' =>
        rw [exec_recover_of_error hexec] at ht
        exact hy u e t ht
    | panic p =>
        rw [exec_recover_of_panic hexec] at ht
        cases ht
  · rw [exec_recover_of_ok hexec] at ht
    cases ht

theorem settles_ite {p : Prop} [Decidable p] (hx : Settles s x) (hy : Settles s y) :
    Settles s (if p then x else y) := by
  split_ifs
  · exact hx
  · exact hy

theorem settles_get_bind {f : Storage sys → Op sys α} (h : Settles s (f s)) :
    Settles s (get >>= f) := by
  intro e t ht
  rw [exec_get_bind] at ht
  exact h e t ht

theorem settles_bind {f : α → Op sys β} (hx : Settles s x) (hf : ∀ a u, Settles u (f a)) :
    Settles s (x >>= f) := by
  intro e t ht
  rcases hexec : exec x s with ⟨e' | a, u⟩
  · rw [exec_bind_of_error hexec] at ht
    cases ht
    exact hx e t hexec
  · rw [exec_bind_of_ok hexec] at ht
    exact hf a u e t ht

/-- A mutation whose result the store accepts. -/
theorem atomic_mutation {cfg : Config} {who : AccountId} [Drop sys α]
    {f : AccountData → Bool → Op sys (α × AccountData)}
    (hreads : ∀ account isNew, Reads (f account isNew))
    (hset : ∀ r d, exec (f (s.account who) (s.isNew who)) s = (.ok (r, d), s) →
      ∃ a, sys.set who (kept cfg d) s.accounts = .ok a) :
    Atomic s (tryMutateAccount cfg who f) := by
  rcases Reads.exec_cases (hreads (s.account who) (s.isNew who)) s with ⟨e, he⟩ | ⟨⟨r, d⟩, hok⟩
  · exact .of_error (exec_tryMutateAccount_of_error he)
  · obtain ⟨a, ha⟩ := hset r d hok
    exact (Settles.of_ok (exec_tryMutateAccount_of_ok hok ha)).atomic

end Rules

/-- The store accepts an account that has no less than before. -/
def Accepts (cfg : Config) (s : Storage sys) : Prop :=
  ∀ who d, (s.account who).total ≤ AccountData.total d →
    ∃ a, sys.set who (kept cfg d) s.accounts = .ok a

theorem Lenient.accepts {cfg : Config} (h : Lenient cfg sys) (s : Storage sys) : Accepts cfg s :=
  fun who d _ => h s.accounts who d

/-- Where every account has the existential deposit, none is removed that has no less. -/
theorem KeepsDeposit.accepts {cfg : Config} {s : Storage sys} (h : KeepsDeposit cfg s) :
    Accepts cfg s := by
  intro who d hle
  cases hget : sys.get s.accounts who with
  | none =>
      rw [kept_eq]
      split_ifs
      · exact sys.set_none_of_absent hget
      · obtain ⟨a, ha, -⟩ := sys.set_some s.accounts who d
        exact ⟨a, ha⟩
  | some d' =>
      have haccount : s.account who = d' := by rw [Storage.account, hget, Option.getD_some]
      have hdeposit := h who d' hget
      rw [haccount] at hle
      exact exists_set_kept (Or.inl (hdeposit.trans hle))

section Operations

variable [DecidableEq AccountId] {cfg : Config} {s : Storage sys} {who transactor dest : AccountId}
  {value amount : Nat} {requirement : ExistenceRequirement}

/-! ### Calls that do not lower what an account holds -/

section Accepted

variable (h : Accepts cfg s)
include h

omit [DecidableEq AccountId]

theorem atomic_depositIntoExisting (hfits : s.Fits) :
    Atomic s (depositIntoExisting cfg who value : Op sys _) := by
  refine .ite (fun _ => settles_pure.atomic) fun _ =>
    atomic_mutation (fun _ _ => reads_depositExistingClosure) fun p d hok => h who d ?_
  obtain ⟨-, -, -, rfl, -⟩ := depositExistingClosure_eq_ok.mp hok
  have hholding := hfits who
  unfold AccountData.total saturatingAdd AccountData.holding at *
  simp only
  omega

theorem atomic_reserve : Atomic s (reserve cfg who value : Op sys _) := by
  refine .ite (fun _ => settles_pure.atomic) fun _ => .bind
    (atomic_mutation (fun _ _ => reads_reserveClosure) fun _ d hok => h who d ?_)
    fun _ _ => .of_ok exec_modify
  obtain ⟨hcovered, -, -, rfl, -⟩ := reserveClosure_eq_ok.mp hok
  unfold AccountData.total saturatingAdd
  simp only
  omega

theorem atomic_hold (hfits : s.Fits) : Atomic s (hold cfg who amount : Op sys _) := by
  refine .ite (fun _ => settles_pure.atomic) fun hamount => .get_bind (.lift_bind fun _ hcan =>
    atomic_mutation (fun _ _ => reads_holdClosure) fun _ d hok => h who d ?_)
  have hcan := Fallible.ensure_eq_ok.mp hcan
  simp only [canReserve, decide_eq_true_eq, hamount, false_or] at hcan
  have hholding := hfits who
  unfold AccountData.holding at hholding
  obtain ⟨free, reserved, hfree, hreserved, rfl, -⟩ := holdClosure_eq_ok.mp hok
  rw [minus_of_le hcan.1] at hfree
  cases hfree
  rw [plus_of_lt (by omega)] at hreserved
  cases hreserved
  unfold AccountData.total saturatingAdd
  simp only
  omega

theorem atomic_release {bestEffort : Bool} (hfits : s.Fits) :
    Atomic s (release cfg who amount bestEffort : Op sys _) := by
  refine .ite (fun _ => settles_pure.atomic) fun _ =>
    atomic_mutation (fun _ _ => reads_releaseClosure) fun actual d hok => h who d ?_
  have hholding := hfits who
  unfold AccountData.holding at hholding
  obtain ⟨hactual, -, rfl, -⟩ := releaseClosure_eq_ok.mp hok
  have hnew : saturatingAdd (s.account who).free (min amount (s.account who).reserved)
      = (s.account who).free + min amount (s.account who).reserved := by
    unfold saturatingAdd
    omega
  rw [hnew, minus_of_le (Nat.le_add_right _ _)] at hactual
  cases hactual
  unfold AccountData.total
  simp only [hnew]
  unfold saturatingAdd
  omega

end Accepted

theorem atomic_transfer :
    Atomic s (transfer cfg transactor dest value requirement : Op sys _) := by
  by_cases hnothing : value = 0 ∨ transactor = dest
  · exact (Settles.of_ok (exec_transfer_of_nothing hnothing)).atomic
  · rcases exec_transfer_cases hnothing with ⟨-, e, he⟩ | ⟨h, a₁, a₂, h₁, h₂, hexec⟩
    · exact .of_error he
    · exact (Settles.of_ok hexec).atomic

/-! ### Calls that check before -/

omit [DecidableEq AccountId] in
/-- Plain arithmetic panics. -/
theorem plus_ne_error {a b : Nat} {e : DispatchError} : plus cfg a b ≠ .error (.dispatch e) := by
  unfold plus
  cases addBalance cfg.overflowChecks a b with
  | ok _ => exact fun h => by cases h
  | error _ => exact fun h => by cases h

omit [DecidableEq AccountId] in
theorem minus_ne_error {a b : Nat} {e : DispatchError} : minus cfg a b ≠ .error (.dispatch e) := by
  unfold minus
  cases subBalance cfg.overflowChecks a b with
  | ok _ => exact fun h => by cases h
  | error _ => exact fun h => by cases h

omit [DecidableEq AccountId] in
theorem settles_raiseIssuance : Settles s (raiseIssuance cfg amount : Op sys Unit) := by
  intro e t ht
  rw [raiseIssuance, exec_get_bind] at ht
  cases hplus : plus cfg s.totalIssuance amount with
  | ok issued =>
      rw [exec_lift_bind_of_ok hplus] at ht
      cases ht
  | error e' =>
      rw [exec_lift_bind_of_error hplus] at ht
      cases ht
      exact plus_ne_error hplus

omit [DecidableEq AccountId] in
theorem settles_lowerIssuance : Settles s (lowerIssuance cfg amount : Op sys Unit) := by
  intro e t ht
  rw [lowerIssuance, exec_get_bind] at ht
  cases hminus : minus cfg s.totalIssuance amount with
  | ok issued =>
      rw [exec_lift_bind_of_ok hminus] at ht
      cases ht
  | error e' =>
      rw [exec_lift_bind_of_error hminus] at ht
      cases ht
      exact minus_ne_error hminus

omit [DecidableEq AccountId] in
theorem atomic_mintInto : Atomic s (mintInto cfg who amount : Op sys _) := by
  refine .ite (fun _ => settles_pure.atomic) fun hamount => .bind
    (atomic_mutation (fun _ _ => reads_mintClosure) fun _ d hok => ?_)
    fun _ _ => settles_raiseIssuance
  obtain ⟨hdeposit, ⟨free, hfree, rfl⟩, -⟩ := mintClosure_eq_ok.mp hok
  obtain ⟨-, htotal, hed⟩ := depositConsequence_intoResult.mp hdeposit hamount
  refine exists_set_kept (Or.inl ?_)
  unfold AccountData.total saturatingAdd at *
  rw [plus_of_lt (by omega)] at hfree
  cases hfree
  simp only
  omega

omit [DecidableEq AccountId] in
theorem atomic_burnFrom : Atomic s (burnFrom cfg who amount : Op sys _) := by
  refine .ite (fun _ => settles_pure.atomic) fun hamount => .bind
    (atomic_mutation (fun _ _ => reads_burnClosure) fun _ d hok => ?_) fun actual u e t ht => ?_
  · obtain ⟨extra, free, hextra, hactual, hfree, rfl, -⟩ := burnClosure_eq_ok.mp hok
    obtain ⟨-, htotal, hle, -, ⟨hed, rfl⟩ | ⟨-, hdec, -⟩⟩ :=
      (withdrawConsequence_intoResult hamount).mp hextra
    · refine exists_set_kept (Or.inl ?_)
      have hpos := balanceBound_pos
      unfold AccountData.total saturatingAdd at *
      rw [plus_of_lt (by omega)] at hactual
      cases hactual
      rw [minus_of_le (by omega)] at hfree
      cases hfree
      simp only
      omega
    · exact exists_set_kept (Or.inr hdec)
  · rcases hlower : exec (lowerIssuance cfg actual) u with ⟨e' | _, v⟩
    · rw [exec_bind_of_error hlower] at ht
      cases ht
      exact absurd hlower (settles_lowerIssuance e t)
    · rw [exec_bind_of_ok hlower] at ht
      cases ht

/-! ### All calls, with a store that refuses nothing -/

section Lenient

variable (h : Lenient cfg sys)
include h

omit [DecidableEq AccountId] in
theorem atomic_withdraw {reasons : WithdrawReasons} :
    Atomic s (withdraw cfg who value reasons requirement : Op sys _) :=
  .ite (fun _ => settles_pure.atomic) fun _ =>
    atomic_mutation (fun _ _ => reads_withdrawClosure) fun _ d _ => h s.accounts who d

omit [DecidableEq AccountId] in
theorem atomic_setFreeBalance : Atomic s (setFreeBalance cfg who amount : Op sys _) :=
  atomic_mutation (fun _ _ => reads_pure) fun _ d _ => h s.accounts who d

omit [DecidableEq AccountId] in
/-- After the two checks nothing fails. -/
theorem atomic_setBalance {origin : Origin AccountId} {newFree newReserved : Nat} :
    Atomic s (setBalance cfg origin who newFree newReserved : Op sys _) := by
  refine .lift_bind fun _ _ => .lift_bind fun whole _ => .bind (Settles.atomic ?_)
    fun _ _ => .of_ok exec_modify
  have hsquare : ∀ old new (u : Storage sys), ∃ t, exec (square old new) u = (.ok (), t) := by
    intro old new u
    unfold square
    split_ifs
    · exact ⟨_, exec_modify⟩
    · exact ⟨_, exec_modify⟩
    · exact ⟨_, exec_pure⟩
  have hclosure : ∀ free reserved account (u : Storage sys), ∃ r d t,
      exec (setBalanceClosure free reserved account) u = (.ok (r, d), t) := by
    intro free reserved account u
    obtain ⟨t, ht⟩ := hsquare account.free free u
    obtain ⟨t', ht'⟩ := hsquare account.reserved reserved t
    exact ⟨_, _, t', (exec_bind_of_ok ht).trans ((exec_bind_of_ok ht').trans exec_pure)⟩
  obtain ⟨r, d, t, ht⟩ := hclosure _ _ (s.account who) s
  obtain ⟨a, ha⟩ := h t.accounts who d
  exact .of_ok (exec_tryMutateAccount_of_ok ht ha)

theorem atomic_doTransferReserved {slashed beneficiary : AccountId} {bestEffort : Bool}
    {status : BalanceStatus} :
    Atomic s (doTransferReserved cfg slashed beneficiary value bestEffort status : Op sys _) := by
  by_cases hv : value = 0
  · unfold doTransferReserved
    rw [if_pos hv]
    exact settles_pure.atomic
  · by_cases hself : slashed = beneficiary
    · unfold doTransferReserved
      rw [if_neg hv, if_pos hself]
      cases status with
      | Free =>
          exact .ite (fun _ => settles_pure.atomic) fun _ => .get_bind
            (.ite (fun _ => settles_pure.atomic) fun _ => (settles_recover fun _ => settles_pure).atomic)
      | Reserved => exact .get_bind settles_pure.atomic
    · by_cases hpay : ∃ paid, Payable slashed beneficiary value bestEffort status s paid
      · obtain ⟨paid, hpay⟩ := hpay
        obtain ⟨a₁, h₁⟩ := h s.accounts slashed (docked s slashed value)
        obtain ⟨a₂, h₂⟩ := h a₁ beneficiary paid
        exact (Settles.of_ok (exec_doTransferReserved_of_ok hv hself hpay h₁ h₂)).atomic
      · obtain ⟨e, he⟩ := exec_doTransferReserved_of_not hv hself hpay
        exact .of_error he

end Lenient

/-- The operations that can fail with an error after they have taken from an account. -/
def Operation.Lowers : Operation AccountId → Prop
  | .withdraw .. | .setFreeBalance .. | .setBalance .. | .repatriateReserved ..
  | .transferHeld .. => True
  | _ => False

omit [DecidableEq AccountId]

theorem settles_slash : Settles s (slash cfg who value : Op sys _) :=
  settles_ite settles_pure (settles_get_bind (settles_ite settles_pure
    (settles_recover fun _ => settles_recover fun _ => settles_pure)))

theorem settles_slashReserved : Settles s (slashReserved cfg who value : Op sys _) :=
  settles_ite settles_pure (settles_get_bind (settles_ite settles_pure
    (settles_recover fun _ => settles_recover fun _ => settles_pure)))

theorem settles_depositCreating : Settles s (depositCreating cfg who value : Op sys _) :=
  settles_ite settles_pure (settles_recover fun _ => settles_pure)

theorem settles_unreserve : Settles s (unreserve cfg who value : Op sys _) :=
  settles_ite settles_pure (settles_get_bind (settles_ite settles_pure
    (settles_recover fun _ => settles_pure)))

theorem settles_burn : Settles s (burn amount : Op sys _) := by
  refine settles_ite settles_pure (settles_get_bind ?_)
  cases checkedSub s.totalIssuance amount with
  | some issued => exact .of_ok (t := { s with totalIssuance := issued }) rfl
  | none => exact .of_ok (t := { s with totalIssuance := 0 }) rfl

theorem settles_issue : Settles s (issue amount : Op sys _) := by
  refine settles_ite settles_pure (settles_get_bind ?_)
  cases checkedAdd s.totalIssuance amount with
  | some issued => exact .of_ok (t := { s with totalIssuance := issued }) rfl
  | none => exact .of_ok (t := { s with totalIssuance := balanceBound - 1 }) rfl

theorem settles_updateLocks [DecidableEq AccountId] {locks : List BalanceLock} :
    Settles s (updateLocks cfg who locks : Op sys _) :=
  settles_bind (settles_recover fun _ => settles_pure) fun _ _ =>
    settles_get_bind (settles_ite (.of_ok exec_set) (.of_ok exec_set))

variable [DecidableEq AccountId]

/-- The operations that are atomic with any store. -/
theorem Operation.atomic_of_accepts (haccepts : Accepts cfg s) (hfits : s.Fits)
    {op : Operation AccountId} (hop : ¬ op.Lowers) : Atomic s (op.apply cfg) := by
  cases op with
  | transfer transactor dest value requirement => exact atomic_transfer.quiet
  | slash w value => exact settles_slash.atomic.bind fun _ _ => settles_pure
  | depositIntoExisting w value =>
      exact (atomic_depositIntoExisting haccepts hfits).bind fun _ _ => settles_pure
  | depositCreating w value => exact settles_depositCreating.atomic.bind fun _ _ => settles_pure
  | makeFreeBalanceBe w value =>
      exact Atomic.bind (settles_recover fun _ => settles_pure).atomic fun _ _ => settles_pure
  | burn amount => exact settles_burn.atomic.bind fun _ _ => settles_pure
  | issue amount => exact settles_issue.atomic.bind fun _ _ => settles_pure
  | reserve w value => exact (atomic_reserve haccepts).quiet
  | unreserve w value => exact settles_unreserve.atomic.quiet
  | slashReserved w value => exact settles_slashReserved.atomic.bind fun _ _ => settles_pure
  | setLock id w amount reasons | extendLock id w amount reasons =>
      exact Atomic.quiet (settles_ite settles_pure (settles_get_bind settles_updateLocks)).atomic
  | removeLock id w => exact Atomic.quiet (settles_get_bind settles_updateLocks).atomic
  | mintInto w amount => exact atomic_mintInto.quiet
  | burnFrom w amount => exact atomic_burnFrom.quiet
  | transferFungible source dest amount keepAlive =>
      exact Atomic.quiet (atomic_transfer.bind fun _ _ => settles_pure)
  | setTotalIssuance amount => exact Atomic.quiet (Settles.of_ok exec_modify).atomic
  | hold w amount => exact (atomic_hold haccepts hfits).quiet
  | release w amount bestEffort => exact (atomic_release haccepts hfits).quiet
  | transferCall origin dest value =>
      exact Atomic.quiet (.lift_bind fun _ _ => .lift_bind fun _ _ => atomic_transfer)
  | forceTransfer origin source dest value =>
      exact Atomic.quiet (.lift_bind fun _ _ => atomic_transfer)
  | transferKeepAlive origin dest value =>
      exact Atomic.quiet (.lift_bind fun _ _ => .lift_bind fun _ _ => atomic_transfer)
  | withdraw w value reasons liveness => exact absurd trivial hop
  | setFreeBalance w amount => exact absurd trivial hop
  | setBalance origin w newFree newReserved => exact absurd trivial hop
  | repatriateReserved slashed beneficiary value status => exact absurd trivial hop
  | transferHeld source dest amount bestEffort onHold => exact absurd trivial hop

/-- **What fails changes nothing**: whatever the store refuses, an operation that fails with an
error has changed nothing, unless it lowers an account without a look at what refers to it. With a
store that refuses nothing, as without an existential deposit, this is so of all operations. -/
theorem Operation.apply_atomic (hfits : s.Fits) (op : Operation AccountId)
    (h : Lenient cfg sys ∨ KeepsDeposit cfg s ∧ ¬ op.Lowers) : Atomic s (op.apply cfg) := by
  rcases h with hlenient | ⟨hs, hop⟩
  · have haccepts : Accepts cfg s := hlenient.accepts s
    by_cases hop : op.Lowers
    · cases op with
      | withdraw w value reasons liveness =>
          exact (atomic_withdraw hlenient).bind fun _ _ => settles_pure
      | setFreeBalance w amount => exact (atomic_setFreeBalance hlenient).quiet
      | setBalance origin w newFree newReserved => exact (atomic_setBalance hlenient).quiet
      | repatriateReserved slashed beneficiary value status =>
          exact Atomic.quiet ((atomic_doTransferReserved hlenient).bind fun _ _ => settles_pure)
      | transferHeld source dest amount bestEffort onHold =>
          exact (atomic_doTransferReserved hlenient).quiet
      | _ => exact absurd hop id
    · exact Operation.atomic_of_accepts haccepts hfits hop
  · exact Operation.atomic_of_accepts hs.accepts hfits hop

/-- An account that something refers to cannot be emptied. A transfer that would do so changes
nothing; a withdrawal has taken everything off the issuance before it is refused. -/
theorem Operation.apply_atomic_alone :
    exec ((Operation.transfer 1 2 20 .AllowDeath).apply Dev.dear) (Dev.alone 1 20 0)
      = (.error Error.KeepAlive.fail, Dev.alone 1 20 0) ∧
    ∃ t, exec ((Operation.withdraw 1 15 .TRANSFER .AllowDeath).apply Dev.dear) (Dev.alone 1 20 0)
      = (.error (.dispatch (.Store .ConsumerRemaining)), t) ∧
        t.account 1 = (Dev.alone 1 20 0).account 1 ∧ t.totalIssuance = 0 := by
  have hfits : (Dev.alone 1 20 0).Fits := by
    intro who
    by_cases hwho : who = 1
    · subst hwho
      decide
    · rw [Storage.account, Dev.alone_get_of_ne hwho]
      decide
  have hkept : KeepsDeposit Dev.dear (Dev.alone 1 20 0) := by
    intro who d hd
    by_cases hwho : who = 1
    · subst hwho
      cases hd
      decide
    · rw [Dev.alone_get_of_ne hwho] at hd
      cases hd
  have hatomic := Operation.apply_atomic hfits (.transfer 1 2 20 .AllowDeath) (Or.inr ⟨hkept, id⟩)
  constructor
  · have hkeep : (exec ((Operation.transfer 1 2 20 .AllowDeath).apply Dev.dear)
        (Dev.alone 1 20 0)).1 = .error Error.KeepAlive.fail := by decide +kernel
    exact Prod.ext hkeep (hatomic _ _ (Prod.ext hkeep rfl))
  · exact ⟨_, rfl, by decide +kernel, by decide +kernel⟩

end Operations

end HydraDX.PalletBalances
