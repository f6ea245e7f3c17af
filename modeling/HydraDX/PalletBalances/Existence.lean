import HydraDX.PalletBalances.Operation

set_option autoImplicit false

/-! # No account below the existential deposit

All balances are written by a mutation, which removes an account that is left with less than the
existential deposit. So no operation, however it ends, leaves such an account in the store. -/

namespace HydraDX.PalletBalances

open Balances (WithdrawReasons ExistenceRequirement NegativeImbalance PositiveImbalance)
open Payment (Origin)
open Dispatch

variable {AccountId : Type} {sys : AccountStore AccountId}

/-- One write. It leaves the data of the accounts alone, or is the end of a mutation. -/
inductive Write (cfg : Config) (s : Storage sys) : Storage sys → Prop where
  | aside {t : Storage sys} (h : sys.get t.accounts = sys.get s.accounts) : Write cfg s t
  | account {t : Storage sys} (who : AccountId) (d : AccountData)
      (h : sys.set who (kept cfg d) s.accounts = .ok t.accounts) : Write cfg s t

variable {cfg : Config}

theorem Write.keepsDeposit {s t : Storage sys} (hs : KeepsDeposit cfg s) (h : Write cfg s t) :
    KeepsDeposit cfg t := by
  intro w d hw
  cases h with
  | aside h =>
      rw [h] at hw
      exact hs w d hw
  | account who d' h =>
      by_cases hne : w = who
      · subst hne
        have hback := get_set_kept h
        rw [hw, Option.getD_some] at hback
        subst hback
        -- data that are not kept are not stored at all
        rw [kept_eq] at h
        unfold settled
        split_ifs at h ⊢ with hd
        · rw [sys.get_set_none h] at hw
          cases hw
        · omega
      · rw [sys.get_set_of_ne h hne] at hw
        exact hs w d hw

/-! ## What the operations write -/

section Rules

variable {α : Type} [Drop sys α] {who : AccountId}

theorem writes_depositEvent (event : Event AccountId) :
    Writes (Write cfg) (depositEvent event : Op sys Unit) := writes_modify fun _ => .aside rfl

theorem writes_dropped (a : α) : Writes (Write cfg) (dropped a : Op sys Unit) :=
  writes_modify fun s => .aside (congrArg sys.get (Drop.accounts_drop a s))

theorem writes_recover {β : Type} {x y : Op sys β} (hx : Writes (Write cfg) x)
    (hy : Writes (Write cfg) y) : Writes (Write cfg) (recover x y) := by
  refine hx.tryCatch fun e => ?_
  cases e with
  | dispatch e => exact hy
  | panic p => exact writes_throw

/-- A mutation, at the end of what its closure writes. -/
theorem writes_tryMutateAccountWithDust {f : AccountData → Bool → Op sys (α × AccountData)}
    (hf : ∀ account isNew, Writes (Write cfg) (f account isNew)) :
    Writes (Write cfg) (tryMutateAccountWithDust cfg who f) := by
  intro s
  have hclosure := hf (s.account who) (s.isNew who) s
  rcases exec_tryMutateAccountWithDust_cases cfg who f s with
    ⟨e, t, hx, hexec⟩ | ⟨r, d, t, accounts, hx, hset, hexec⟩ | ⟨r, d, t, e, hx, hset, hexec⟩
  · rw [hx] at hclosure
    rw [hexec]
    exact hclosure
  · rw [hx] at hclosure
    rw [hexec]
    exact hclosure.tail (.account who d hset)
  · rw [hx] at hclosure
    rw [hexec]
    exact hclosure.tail (.aside (congrArg sys.get (Drop.accounts_drop _ _)))

theorem writes_tryMutateAccount {f : AccountData → Bool → Op sys (α × AccountData)}
    (hf : ∀ account isNew, Writes (Write cfg) (f account isNew)) :
    Writes (Write cfg) (tryMutateAccount cfg who f) :=
  .bind (writes_tryMutateAccountWithDust hf) fun _ => .bind (writes_dropped _) fun _ => writes_pure

theorem writes_mutateAccount {f : AccountData → Op sys (α × AccountData)}
    (hf : ∀ account, Writes (Write cfg) (f account)) :
    Writes (Write cfg) (mutateAccount cfg who f) :=
  writes_tryMutateAccount fun account _ => hf account

end Rules

section Operations

variable {who : AccountId} {value amount : Nat} {reasons : WithdrawReasons}
  {requirement : ExistenceRequirement} {status : BalanceStatus} {bestEffort onHold : Bool}
  {origin : Origin AccountId}

theorem writes_slash : Writes (Write cfg) (slash cfg who value : Op sys _) :=
  .ite writes_pure (.bind writes_get fun _ => .ite writes_pure
    (writes_recover (writes_tryMutateAccount fun _ _ => reads_slashAttempt.writes)
      (writes_recover (writes_tryMutateAccount fun _ _ => reads_slashAttempt.writes) writes_pure)))

theorem writes_depositIntoExisting :
    Writes (Write cfg) (depositIntoExisting cfg who value : Op sys _) :=
  .ite writes_pure (writes_tryMutateAccount fun _ _ => reads_depositExistingClosure.writes)

theorem writes_depositCreating : Writes (Write cfg) (depositCreating cfg who value : Op sys _) :=
  .ite writes_pure (writes_recover
    (writes_tryMutateAccount fun _ _ => reads_depositCreatingClosure.writes) writes_pure)

theorem writes_withdraw :
    Writes (Write cfg) (withdraw cfg who value reasons requirement : Op sys _) :=
  .ite writes_pure (writes_tryMutateAccount fun _ _ => reads_withdrawClosure.writes)

theorem writes_makeFreeBalanceBe :
    Writes (Write cfg) (makeFreeBalanceBe cfg who value : Op sys _) :=
  writes_recover (writes_tryMutateAccount fun _ _ => reads_makeFreeBalanceClosure.writes)
    writes_pure

theorem writes_set {s t : Storage sys} {β : Type} {b : β} (h : t.accounts = s.accounts) :
    Relation.ReflTransGen (Write cfg) s
      (exec (do set t; return b : Op sys β) s).2 :=
  .single (.aside (congrArg sys.get h))

theorem writes_burn : Writes (Write cfg) (burn amount : Op sys _) := by
  refine .ite writes_pure fun s => ?_
  rw [exec_get_bind]
  cases checkedSub s.totalIssuance amount with
  | some issued => exact writes_set rfl
  | none => exact writes_set rfl

theorem writes_issue : Writes (Write cfg) (issue amount : Op sys _) := by
  refine .ite writes_pure fun s => ?_
  rw [exec_get_bind]
  cases checkedAdd s.totalIssuance amount with
  | some issued => exact writes_set rfl
  | none => exact writes_set rfl

theorem writes_reserve : Writes (Write cfg) (reserve cfg who value : Op sys _) :=
  .ite writes_pure (.bind (writes_tryMutateAccount fun _ _ => reads_reserveClosure.writes)
    fun _ => writes_depositEvent _)

theorem writes_unreserve : Writes (Write cfg) (unreserve cfg who value : Op sys _) :=
  .ite writes_pure (.bind writes_get fun _ => .ite writes_pure (writes_recover
    (.bind (writes_mutateAccount fun _ => reads_unreserveClosure.writes) fun _ =>
      .bind (writes_depositEvent _) fun _ => writes_pure)
    writes_pure))

theorem writes_slashReserved : Writes (Write cfg) (slashReserved cfg who value : Op sys _) :=
  .ite writes_pure (.bind writes_get fun _ => .ite writes_pure
    (writes_recover (writes_mutateAccount fun _ => reads_slashReservedAttempt.writes)
      (writes_recover (writes_mutateAccount fun _ => reads_slashReservedAttempt.writes)
        writes_pure)))

theorem writes_mintInto : Writes (Write cfg) (mintInto cfg who amount : Op sys _) := by
  refine .ite writes_pure (.bind (writes_tryMutateAccount fun _ _ => reads_mintClosure.writes)
    fun _ s => ?_)
  unfold raiseIssuance
  rw [exec_get_bind]
  cases plus cfg s.totalIssuance amount with
  | ok totalIssuance => exact .single (.aside rfl)
  | error e => exact .refl

theorem writes_burnFrom : Writes (Write cfg) (burnFrom cfg who amount : Op sys _) := by
  refine .ite writes_pure (.bind (writes_tryMutateAccount fun _ _ => reads_burnClosure.writes)
    fun actual => .bind (fun s => ?_) fun _ => writes_pure)
  unfold lowerIssuance
  rw [exec_get_bind]
  cases minus cfg s.totalIssuance actual with
  | ok totalIssuance => exact .single (.aside rfl)
  | error e => exact .refl

theorem writes_setFreeBalance : Writes (Write cfg) (setFreeBalance cfg who amount : Op sys _) :=
  writes_mutateAccount fun _ => writes_pure

theorem writes_setTotalIssuance : Writes (Write cfg) (setTotalIssuance amount : Op sys _) :=
  writes_modify fun _ => .aside rfl

theorem writes_hold : Writes (Write cfg) (hold cfg who amount : Op sys _) :=
  .ite writes_pure (.bind writes_get fun _ => .bind writes_lift fun _ =>
    writes_mutateAccount fun _ => reads_holdClosure.writes)

theorem writes_release : Writes (Write cfg) (release cfg who amount bestEffort : Op sys _) :=
  .ite writes_pure (writes_tryMutateAccount fun _ _ => reads_releaseClosure.writes)

theorem writes_setBalance {newFree newReserved : Nat} :
    Writes (Write cfg) (setBalance cfg origin who newFree newReserved : Op sys _) := by
  have hsquare : ∀ old new, Writes (Write cfg) (square old new : Op sys Unit) := fun old new =>
    .ite (writes_dropped _) (.ite (writes_dropped _) writes_pure)
  refine .bind writes_lift fun _ => .bind writes_lift fun _ => .bind
    (writes_mutateAccount fun account => ?_) fun _ => writes_depositEvent _
  exact .bind (hsquare _ _) fun _ => .bind (hsquare _ _) fun _ => writes_pure

variable [DecidableEq AccountId] {transactor dest slashed beneficiary : AccountId}

theorem writes_transfer :
    Writes (Write cfg) (transfer cfg transactor dest value requirement : Op sys Unit) := by
  refine .ite writes_pure (.bind (writes_tryMutateAccountWithDust fun toAccount _ => ?_) fun _ =>
    .bind (writes_dropped _) fun _ => writes_depositEvent _)
  exact .bind (writes_tryMutateAccountWithDust fun _ _ => reads_transferClosure.writes)
    fun _ => writes_pure

theorem writes_doTransferReserved : Writes (Write cfg)
    (doTransferReserved cfg slashed beneficiary value bestEffort status : Op sys _) := by
  refine .ite writes_pure (.ite ?_ (.bind (writes_tryMutateAccountWithDust fun toAccount _ => ?_)
    fun _ => .bind (writes_depositEvent _) fun _ => .bind (writes_dropped _) fun _ =>
      .bind (writes_dropped _) fun _ => writes_pure))
  · cases status with
    | Free => exact writes_unreserve
    | Reserved => exact .bind writes_get fun _ => writes_pure
  · exact .bind writes_lift fun _ => .bind
      (writes_tryMutateAccountWithDust fun _ _ => reads_transferReservedClosure.writes)
      fun _ => writes_pure

theorem writes_updateLocks {locks : List BalanceLock} :
    Writes (Write cfg) (updateLocks cfg who locks : Op sys _) := by
  refine .bind (writes_recover (writes_mutateAccount fun _ => writes_pure) writes_pure)
    fun _ s => ?_
  rw [exec_get_bind, exec_ite]
  split_ifs
  · exact .single (.aside (sys.get_decConsumers _ _))
  · exact .single (.aside rfl)
  · exact .single (.aside rfl)
  · exact .single (.aside (sys.get_incConsumers _ _))

/-- **What an operation writes**, however it ends. -/
theorem Operation.writes (op : Operation AccountId) :
    Writes (Write cfg) (op.apply cfg : Op sys Imbalances) := by
  have hquiet : ∀ {α : Type} {x : Op sys α}, Writes (Write cfg) x → Writes (Write cfg) (Op.quiet x) :=
    fun hx => .bind hx fun _ => writes_pure
  cases op with
  | transfer transactor dest value requirement => exact hquiet writes_transfer
  | slash who value => exact .bind writes_slash fun _ => writes_pure
  | depositIntoExisting who value => exact .bind writes_depositIntoExisting fun _ => writes_pure
  | depositCreating who value => exact .bind writes_depositCreating fun _ => writes_pure
  | withdraw who value reasons liveness => exact .bind writes_withdraw fun _ => writes_pure
  | makeFreeBalanceBe who value => exact .bind writes_makeFreeBalanceBe fun _ => writes_pure
  | burn amount => exact .bind writes_burn fun _ => writes_pure
  | issue amount => exact .bind writes_issue fun _ => writes_pure
  | reserve who value => exact hquiet writes_reserve
  | unreserve who value => exact hquiet writes_unreserve
  | slashReserved who value => exact .bind writes_slashReserved fun _ => writes_pure
  | repatriateReserved slashed beneficiary value status =>
      exact hquiet (.bind writes_doTransferReserved fun _ => writes_pure)
  | setLock id who amount reasons =>
      exact hquiet (.ite writes_pure (.bind writes_get fun _ => writes_updateLocks))
  | extendLock id who amount reasons =>
      exact hquiet (.ite writes_pure (.bind writes_get fun _ => writes_updateLocks))
  | removeLock id who => exact hquiet (.bind writes_get fun _ => writes_updateLocks)
  | mintInto who amount => exact hquiet writes_mintInto
  | burnFrom who amount => exact hquiet writes_burnFrom
  | transferFungible source dest amount keepAlive =>
      exact hquiet (.bind writes_transfer fun _ => writes_pure)
  | setFreeBalance who amount => exact hquiet writes_setFreeBalance
  | setTotalIssuance amount => exact hquiet writes_setTotalIssuance
  | hold who amount => exact hquiet writes_hold
  | release who amount bestEffort => exact hquiet writes_release
  | transferHeld source dest amount bestEffort onHold => exact hquiet writes_doTransferReserved
  | transferCall origin dest value =>
      exact hquiet (.bind writes_lift fun _ => .bind writes_lift fun _ => writes_transfer)
  | setBalance origin who newFree newReserved => exact hquiet writes_setBalance
  | forceTransfer origin source dest value =>
      exact hquiet (.bind writes_lift fun _ => writes_transfer)
  | transferKeepAlive origin dest value =>
      exact hquiet (.bind writes_lift fun _ => .bind writes_lift fun _ => writes_transfer)

end Operations

/-! ## Runs -/

variable [DecidableEq AccountId]

theorem World.operate_keepsDeposit {w : World sys} (h : KeepsDeposit cfg w.pallet)
    (op : Operation AccountId) : KeepsDeposit cfg (w.operate cfg op).pallet := by
  have hafter : KeepsDeposit cfg (exec (op.apply cfg) w.pallet).2 :=
    op.writes.invariant (fun _ _ hs hw => hw.keepsDeposit hs) h
  unfold World.operate
  rcases hexec : exec (op.apply cfg) w.pallet with ⟨e | created, pallet⟩
  all_goals rw [hexec] at hafter
  · cases e with
    | dispatch e => exact hafter
    | panic p => exact h
  · exact hafter

/-- What is done to imbalances changes neither the accounts nor the locks. -/
theorem World.step_aside (cfg : Config) (w : World sys) (a : Action AccountId) :
    (∃ op, a = .operate op) ∨ ((w.step cfg a).pallet.accounts = w.pallet.accounts ∧
      (w.step cfg a).pallet.locks = w.pallet.locks) := by
  cases a with
  | operate op => exact Or.inl ⟨op, rfl⟩
  | dropPositive p | dropNegative n | splitPositive p amount | splitNegative n amount
  | mergePositive p other | mergeNegative n other =>
      right
      simp only [World.step]
      split_ifs
      · exact ⟨rfl, rfl⟩
      · exact ⟨rfl, rfl⟩
  | offsetPositive p n =>
      right
      simp only [World.step]
      split_ifs
      · cases p.offset n with
        | none | same p' | other n' => exact ⟨rfl, rfl⟩
      · exact ⟨rfl, rfl⟩
  | offsetNegative n p =>
      right
      simp only [World.step]
      split_ifs
      · cases n.offset p with
        | none | same n' | other p' => exact ⟨rfl, rfl⟩
      · exact ⟨rfl, rfl⟩

theorem World.step_keepsDeposit {w : World sys} (h : KeepsDeposit cfg w.pallet)
    (a : Action AccountId) : KeepsDeposit cfg (w.step cfg a).pallet := by
  rcases w.step_aside cfg a with ⟨op, rfl⟩ | ⟨haccounts, -⟩
  · exact World.operate_keepsDeposit h op
  · intro who d hd
    rw [haccounts] at hd
    exact h who d hd

omit [DecidableEq AccountId] in
theorem Fresh.keepsDeposit {s : Storage sys} (h : Fresh s) : KeepsDeposit cfg s := by
  intro who d hd
  rw [h.accounts who] at hd
  cases hd

/-- **The existential deposit over whole runs.** Whatever is done, in any order, no account below
the existential deposit is ever in the store. -/
theorem keepsDeposit_throughout {w : World sys} (h : KeepsDeposit cfg w.pallet)
    (actions : List (Action AccountId)) :
    Histories.Throughout (World.step cfg) (fun w => KeepsDeposit cfg w.pallet) w actions :=
  Histories.Each.throughout (P := fun _ _ => True)
    (fun _ a hw _ => World.step_keepsDeposit hw a) h
    (Histories.Each.of_invariant (I := fun _ => True) (fun _ _ _ => trivial)
      (fun _ _ _ => trivial) trivial actions)

/-- What account `1` keeps is dust, and so is what account `3` would be given. -/
def Dev.reaping : List (Action Nat) :=
  [.operate (.depositCreating 1 100), .dropPositive ⟨100⟩,
    .operate (.transfer 1 2 95 .AllowDeath), .operate (.depositCreating 3 5)]

theorem keepsDeposit_throughout_reaping :
    Histories.Throughout (World.step Dev.dear) (fun w => KeepsDeposit Dev.dear w.pallet)
        ⟨Dev.empty, 0, 0⟩ Dev.reaping ∧
      (Histories.run (World.step Dev.dear) ⟨Dev.empty, 0, 0⟩ Dev.reaping).pallet.totalIssuance = 95 ∧
      (Histories.run (World.step Dev.dear) ⟨Dev.empty, 0, 0⟩ Dev.reaping).pallet.account 1
        = default :=
  ⟨keepsDeposit_throughout Dev.fresh.keepsDeposit Dev.reaping, by decide +kernel,
    by decide +kernel⟩

end HydraDX.PalletBalances
