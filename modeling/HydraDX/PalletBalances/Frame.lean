import HydraDX.PalletBalances.Operation
import HydraDX.PalletBalances.Transfer

set_option autoImplicit false

/-! # What the operations leave alone

Only the operations on locks change the locks and the frozen amounts. And only four operations,
which no user can ask for, take free balance that is frozen: to slash, and to set a balance.

The existential deposit is zero, as in the runtime, so that no account is ever removed. -/

namespace HydraDX.PalletBalances

open Balances (WithdrawReasons Reasons ExistenceRequirement NegativeImbalance PositiveImbalance)
open Payment (Origin)
open Dispatch

variable {AccountId : Type} {sys : AccountStore AccountId}

/-- The part of the free balance, a `u128`, that is frozen whatever it is withdrawn for. -/
def AccountData.guarded (d : AccountData) : Nat :=
  min (min d.free (balanceBound - 1)) (min d.miscFrozen d.feeFrozen)

/-- New data with the same frozen amounts. What is guarded is left, unless it may be taken. -/
structure Keeps (forced : Prop) (d d' : AccountData) : Prop where
  misc : d'.miscFrozen = d.miscFrozen
  fee : d'.feeFrozen = d.feeFrozen
  guarded : ¬ forced → d.guarded ≤ d'.free

/-- The locks are the same, and the accounts are kept; `forced` may be taken from. -/
structure Frame (forced : AccountId → Prop) (s t : Storage sys) : Prop where
  locks : t.locks = s.locks
  accounts : ∀ who, Keeps (forced who) (s.account who) (t.account who)

section Keeps

variable {forced : Prop} {d d' d'' : AccountData}

theorem AccountData.guarded_le : d.guarded ≤ d.free :=
  (Nat.min_le_left _ _).trans (Nat.min_le_left _ _)

theorem Keeps.refl : Keeps forced d d := ⟨rfl, rfl, fun _ => d.guarded_le⟩

theorem Keeps.trans (h : Keeps forced d d') (h' : Keeps forced d' d'') : Keeps forced d d'' := by
  refine ⟨h'.misc.trans h.misc, h'.fee.trans h.fee, fun hf => ?_⟩
  have hguarded := h.guarded hf
  have hguarded' := h'.guarded hf
  have hmisc := h.misc
  have hfee := h.fee
  unfold AccountData.guarded at *
  omega

/-- A change of the balances that does not lower the free balance. -/
theorem Keeps.of_le {free reserved : Nat} (h : d.free ≤ free) :
    Keeps forced d { d with free, reserved } :=
  ⟨rfl, rfl, fun _ => d.guarded_le.trans h⟩

/-- What is moved to the free balance is added as far as it fits. -/
theorem Keeps.of_saturatingAdd {reserved actual : Nat} :
    Keeps forced d { d with free := saturatingAdd d.free actual, reserved } := by
  refine ⟨rfl, rfl, fun _ => ?_⟩
  show min (min d.free (balanceBound - 1)) (min d.miscFrozen d.feeFrozen)
    ≤ saturatingAdd d.free actual
  unfold saturatingAdd
  omega

/-- What is left is as much as is frozen for some reason. -/
theorem Keeps.of_frozen {free reserved : Nat} {reasons : Reasons} (h : d.frozen reasons ≤ free) :
    Keeps forced d { d with free, reserved } := by
  refine ⟨rfl, rfl, fun _ => ?_⟩
  show min (min d.free (balanceBound - 1)) (min d.miscFrozen d.feeFrozen) ≤ free
  cases reasons with
  | All | Misc | Fee =>
      simp only [AccountData.frozen] at h
      omega

theorem Keeps.of_forced {free reserved : Nat} (h : forced) :
    Keeps forced d { d with free, reserved } :=
  ⟨rfl, rfl, fun hf => absurd h hf⟩

end Keeps

section Frame

variable {forced : AccountId → Prop} {cfg : Config} {who : AccountId} {d : AccountData}
  {s t u : Storage sys}

theorem Frame.refl : Frame forced s s := ⟨rfl, fun _ => .refl⟩

theorem Frame.trans (h : Frame forced s t) (h' : Frame forced t u) : Frame forced s u :=
  ⟨h'.locks.trans h.locks, fun who => (h.accounts who).trans (h'.accounts who)⟩

/-- Whatever is written besides the accounts and the locks. -/
theorem Frame.aside (haccounts : sys.get t.accounts = sys.get s.accounts)
    (hlocks : t.locks = s.locks) : Frame forced s t := by
  refine ⟨hlocks, fun w => ?_⟩
  have hsame : t.account w = s.account w := by
    rw [Storage.account, Storage.account, haccounts]
  rw [hsame]
  exact .refl

theorem settled_of_zero (hed : cfg.existentialDeposit = 0) : settled cfg d = d :=
  settled_of_le (by omega)

variable [DecidableEq AccountId]

theorem Mutated.frame (hed : cfg.existentialDeposit = 0) (h : Mutated cfg who d s u)
    (hkeeps : Keeps (forced who) (s.account who) d) : Frame forced s u := by
  refine ⟨h.locks, fun w => ?_⟩
  by_cases hw : w = who
  · rw [hw, h.account_self, settled_of_zero hed]
    exact hkeeps
  · rw [h.account_of_ne hw]
    exact .refl

/-- Storing two accounts, one after the other. -/
theorem Frame.of_set_set {w : AccountId} {d' : AccountData} {a : sys.Accounts}
    (hed : cfg.existentialDeposit = 0)
    (h : sys.set who (kept cfg d) s.accounts = .ok a)
    (h' : sys.set w (kept cfg d') a = .ok u.accounts) (hlocks : u.locks = s.locks)
    (hkeeps : Keeps (forced who) (s.account who) d) (hkeeps' : Keeps (forced w) (s.account w) d') :
    Frame forced s u := by
  have hsettled : ∀ d, settled cfg d = d := fun d => settled_of_zero hed
  refine ⟨hlocks, fun x => ?_⟩
  by_cases hxw : x = w
  · have hself : u.account x = d' := by
      rw [hxw, ← hsettled d']
      exact get_set_kept h'
    rw [hself, hxw]
    exact hkeeps'
  · have hother : sys.get u.accounts x = sys.get a x := sys.get_set_of_ne h' hxw
    by_cases hx : x = who
    · have hself : u.account x = d := by
        rw [Storage.account, hother, hx, ← hsettled d]
        exact get_set_kept h
      rw [hself, hx]
      exact hkeeps
    · have hsame : u.account x = s.account x := by
        rw [Storage.account, hother, sys.get_set_of_ne h hx]
        rfl
      rw [hsame]
      exact .refl

end Frame

/-! ## The operations -/

/-- The accounts that may be taken from in spite of their locks. -/
def Operation.forces : Operation AccountId → AccountId → Prop
  | .slash who _ => fun w => w = who
  | .makeFreeBalanceBe who _ => fun w => w = who
  | .setFreeBalance who _ => fun w => w = who
  | .setBalance _ who _ _ => fun w => w = who
  | _ => fun _ => False

/-- The operations on locks. -/
def Operation.Relocks : Operation AccountId → Prop
  | .setLock .. | .extendLock .. | .removeLock .. => True
  | _ => False

/-- However `x` ends, it is in the frame. -/
def Frames {α : Type} (forced : AccountId → Prop) (s : Storage sys) (x : Op sys α) : Prop :=
  Frame forced s (exec x s).2

section Rules

variable {forced : AccountId → Prop} {α β : Type} {s u : Storage sys} {x y : Op sys α}

theorem Frames.of_exec {r : Except Failure α} (h : exec x s = (r, u)) (hu : Frame forced s u) :
    Frames forced s x := by
  rw [Frames, h]
  exact hu

theorem Frames.of_exec_eq (h : exec x s = exec y s) (hy : Frames forced s y) :
    Frames forced s x := by
  rw [Frames, h]
  exact hy

theorem frames_pure {a : α} : Frames forced s (pure a) := .of_exec exec_pure .refl

theorem Frames.ite {p : Prop} [Decidable p] (hx : p → Frames forced s x)
    (hy : ¬ p → Frames forced s y) : Frames forced s (if p then x else y) := by
  split_ifs with h
  · exact hx h
  · exact hy h

theorem Frames.get_bind {f : Storage sys → Op sys α} (h : Frames forced s (f s)) :
    Frames forced s (get >>= f) := by
  rw [Frames, exec_get_bind]
  exact h

theorem Frames.lift_bind {z : Except Failure β} {f : β → Op sys α}
    (h : ∀ b, z = .ok b → Frames forced s (f b)) : Frames forced s (liftM z >>= f) := by
  cases hz : z with
  | ok b => exact .of_exec_eq (exec_lift_bind_of_ok rfl) (h b hz)
  | error e => exact .of_exec (exec_lift_bind_of_error rfl) .refl

theorem Frames.bind {f : α → Op sys β} (hx : Frames forced s x)
    (hf : ∀ a u, exec x s = (.ok a, u) → Frames forced u (f a)) : Frames forced s (x >>= f) := by
  rcases hexec : exec x s with ⟨e | a, u⟩
  · rw [Frames, hexec] at hx
    exact .of_exec (exec_bind_of_error hexec) hx
  · rw [Frames, hexec] at hx
    rw [Frames, exec_bind_of_ok hexec]
    exact hx.trans (hf a u hexec)

theorem Frames.quiet (hx : Frames forced s x) : Frames forced s (Op.quiet x) :=
  hx.bind fun _ _ _ => frames_pure

variable [DecidableEq AccountId] {cfg : Config} {who : AccountId} [Drop sys α]
  {f : AccountData → Bool → Op sys (α × AccountData)} (hed : cfg.existentialDeposit = 0)
  (hreads : ∀ account isNew, Reads (f account isNew))
  (hkeeps : ∀ r d, exec (f (s.account who) (s.isNew who)) s = (.ok (r, d), s) →
    Keeps (forced who) (s.account who) d)
include hed hreads hkeeps

theorem frames_mutation : Frames forced s (tryMutateAccount cfg who f) := by
  rcases exec_tryMutateAccount_lenient (lenient_of_zero hed) hreads s with
    ⟨e, he⟩ | ⟨r, d, u, hok, hu, hexec⟩
  · exact .of_exec he .refl
  · exact .of_exec hexec (hu.frame hed (hkeeps r d hok))

/-- The same, with a failure handled. -/
theorem frames_recover (hy : Frames forced s y) :
    Frames forced s (recover (tryMutateAccount cfg who f) y) := by
  rcases exec_tryMutateAccount_lenient (lenient_of_zero hed) hreads s with
    ⟨e, he⟩ | ⟨r, d, u, hok, hu, hexec⟩
  · cases e with
    | dispatch e => exact .of_exec_eq (exec_recover_of_error he) hy
    | panic p => exact .of_exec (exec_recover_of_panic he) .refl
  · exact .of_exec (exec_recover_of_ok hexec) (hu.frame hed (hkeeps r d hok))

end Rules

section Operations

variable [DecidableEq AccountId] {forced : AccountId → Prop} {cfg : Config} {s : Storage sys}
  {who transactor dest : AccountId} {value amount : Nat} {reasons : WithdrawReasons}
  {requirement : ExistenceRequirement} (hed : cfg.existentialDeposit = 0)

omit [DecidableEq AccountId] in
/-- What the locks permit is left. -/
theorem keeps_of_permits {reserved : Nat} (hvalue : value ≠ 0)
    (h : Permits s who value reasons amount) :
    Keeps (forced who) (s.account who) { s.account who with free := amount, reserved } :=
  .of_frozen (h.resolve_left hvalue)

include hed

theorem frames_slash (hforced : forced who) :
    Frames forced s (slash cfg who value : Op sys _) := by
  have hattempt : ∀ attempt (r : NegativeImbalance × Nat) d,
      exec (slashAttempt cfg value attempt (s.account who)) s = (.ok (r, d), s) →
      Keeps (forced who) (s.account who) d := by
    rintro attempt ⟨n, left⟩ d hok
    obtain ⟨best, -, -, -, rfl, -⟩ := slashAttempt_eq_ok.mp hok
    exact .of_forced hforced
  refine .ite (fun _ => frames_pure) fun _ => .get_bind (.ite (fun _ => frames_pure) fun _ => ?_)
  exact frames_recover hed (fun _ _ => reads_slashAttempt) (hattempt 0)
    (frames_recover hed (fun _ _ => reads_slashAttempt) (hattempt 1) frames_pure)

theorem frames_slashReserved : Frames forced s (slashReserved cfg who value : Op sys _) := by
  have hattempt : ∀ attempt (r : NegativeImbalance × Nat) d,
      exec (slashReservedAttempt cfg value attempt (s.account who)) s = (.ok (r, d), s) →
      Keeps (forced who) (s.account who) d := by
    rintro attempt ⟨n, left⟩ d hok
    obtain ⟨best, -, -, -, rfl, -⟩ := slashReservedAttempt_eq_ok.mp hok
    exact .of_le le_rfl
  refine .ite (fun _ => frames_pure) fun _ => .get_bind (.ite (fun _ => frames_pure) fun _ => ?_)
  exact frames_recover hed (fun _ _ => reads_slashReservedAttempt) (hattempt 0)
    (frames_recover hed (fun _ _ => reads_slashReservedAttempt) (hattempt 1) frames_pure)

theorem frames_depositIntoExisting :
    Frames forced s (depositIntoExisting cfg who value : Op sys _) := by
  refine .ite (fun _ => frames_pure) fun _ =>
    frames_mutation hed (fun _ _ => reads_depositExistingClosure) fun p d hok => ?_
  obtain ⟨-, -, -, rfl, -⟩ := depositExistingClosure_eq_ok.mp hok
  exact .of_le (Nat.le_add_right _ _)

theorem frames_depositCreating : Frames forced s (depositCreating cfg who value : Op sys _) := by
  refine .ite (fun _ => frames_pure) fun _ =>
    frames_recover hed (fun _ _ => reads_depositCreatingClosure) (fun p d hok => ?_) frames_pure
  obtain ⟨-, ⟨-, -, rfl⟩ | ⟨-, -, rfl⟩, -⟩ := depositCreatingClosure_eq_ok.mp hok
  · exact .of_le (Nat.le_add_right _ _)
  · exact .refl

theorem frames_withdraw :
    Frames forced s (withdraw cfg who value reasons requirement : Op sys _) := by
  refine .ite (fun _ => frames_pure) fun hvalue =>
    frames_mutation hed (fun _ _ => reads_withdrawClosure) fun n d hok => ?_
  obtain ⟨-, -, hpermits, -, rfl, -⟩ := withdrawClosure_eq_ok.mp hok
  exact keeps_of_permits hvalue hpermits

theorem frames_makeFreeBalanceBe (hforced : forced who) :
    Frames forced s (makeFreeBalanceBe cfg who value : Op sys _) := by
  refine frames_recover hed (fun _ _ => reads_makeFreeBalanceClosure) (fun r d hok => ?_)
    frames_pure
  obtain ⟨-, -, rfl, -⟩ := makeFreeBalanceClosure_eq_ok.mp hok
  exact .of_forced hforced

theorem frames_reserve : Frames forced s (reserve cfg who value : Op sys _) := by
  refine .ite (fun _ => frames_pure) fun hvalue => .bind
    (frames_mutation hed (fun _ _ => reads_reserveClosure) fun _ d hok => ?_)
    fun _ u _ => .of_exec exec_modify (.aside rfl rfl)
  obtain ⟨-, -, hpermits, rfl, -⟩ := reserveClosure_eq_ok.mp hok
  exact keeps_of_permits hvalue hpermits

theorem frames_unreserve : Frames forced s (unreserve cfg who value : Op sys _) := by
  refine .ite (fun _ => frames_pure) fun _ => .get_bind (.ite (fun _ => frames_pure) fun _ => ?_)
  rcases exec_tryMutateAccount_lenient (lenient_of_zero hed)
      (f := fun account _ => unreserveClosure value account)
      (fun _ _ => reads_unreserveClosure) s with ⟨e, he⟩ | ⟨r, d, u, hok, hu, hexec⟩
  · cases e with
    | dispatch e => exact .of_exec_eq (exec_recover_of_error (exec_bind_of_error he)) frames_pure
    | panic p => exact .of_exec (exec_recover_of_panic (exec_bind_of_error he)) .refl
  · cases hok
    exact .of_exec (exec_recover_of_ok ((exec_bind_of_ok hexec).trans rfl))
      ((hu.frame hed .of_saturatingAdd).trans (.aside rfl rfl))

omit hed [DecidableEq AccountId] in
theorem frames_issuance {issued : Storage sys → Nat} :
    Frames forced s (modify fun s => { s with totalIssuance := issued s } : Op sys Unit) :=
  .of_exec exec_modify (.aside rfl rfl)

omit hed [DecidableEq AccountId] in
theorem frames_burn : Frames forced s (burn amount : Op sys _) := by
  refine .ite (fun _ => frames_pure) fun _ => .get_bind ?_
  cases checkedSub s.totalIssuance amount with
  | some issued => exact .of_exec (u := { s with totalIssuance := issued }) rfl (.aside rfl rfl)
  | none => exact .of_exec (u := { s with totalIssuance := 0 }) rfl (.aside rfl rfl)

omit hed [DecidableEq AccountId] in
theorem frames_issue : Frames forced s (issue amount : Op sys _) := by
  refine .ite (fun _ => frames_pure) fun _ => .get_bind ?_
  cases checkedAdd s.totalIssuance amount with
  | some issued => exact .of_exec (u := { s with totalIssuance := issued }) rfl (.aside rfl rfl)
  | none =>
      exact .of_exec (u := { s with totalIssuance := balanceBound - 1 }) rfl (.aside rfl rfl)

/-- Plain `+` is only reached where it does not overflow. -/
theorem frames_mintInto : Frames forced s (mintInto cfg who amount : Op sys _) := by
  refine .ite (fun _ => frames_pure) fun hamount => .bind
    (frames_mutation hed (fun _ _ => reads_mintClosure) fun _ d hok => ?_) fun _ u _ =>
      .get_bind (.lift_bind fun issued _ => .of_exec exec_set (.aside rfl rfl))
  obtain ⟨hdeposit, ⟨free, hfree, rfl⟩, -⟩ := mintClosure_eq_ok.mp hok
  obtain ⟨-, htotal, -⟩ := depositConsequence_intoResult.mp hdeposit hamount
  have hfits : (s.account who).free + amount < balanceBound := by
    unfold AccountData.total saturatingAdd at htotal
    omega
  rw [plus_of_lt hfits] at hfree
  cases hfree
  exact .of_le (Nat.le_add_right _ _)

/-- Without an existential deposit nothing is burnt besides. -/
theorem frames_burnFrom : Frames forced s (burnFrom cfg who amount : Op sys _) := by
  refine .ite (fun _ => frames_pure) fun hamount => .bind
    (frames_mutation hed (fun _ _ => reads_burnClosure) fun actual d hok => ?_) fun actual u _ =>
      .bind (.get_bind (.lift_bind fun issued _ => .of_exec exec_set (.aside rfl rfl)))
        fun _ _ _ => frames_pure
  obtain ⟨extra, free, hextra, hactual, hfree, rfl, -⟩ := burnClosure_eq_ok.mp hok
  obtain ⟨-, htotal, hle, hfrozen, hleft⟩ := (withdrawConsequence_intoResult hamount).mp hextra
  have hzero : extra = 0 := by omega
  have hpos := balanceBound_pos
  unfold AccountData.total saturatingAdd at htotal
  rw [hzero, plus_of_lt (by omega)] at hactual
  cases hactual
  rw [minus_of_le (by omega)] at hfree
  cases hfree
  exact .of_frozen hfrozen

theorem frames_setFreeBalance (hforced : forced who) :
    Frames forced s (setFreeBalance cfg who amount : Op sys _) := by
  refine frames_mutation hed (fun _ _ => reads_pure) fun _ d hok => ?_
  cases hok
  exact .of_forced hforced

theorem frames_hold : Frames forced s (hold cfg who amount : Op sys _) := by
  refine .ite (fun _ => frames_pure) fun hamount => .get_bind (.lift_bind fun _ hcan =>
    frames_mutation hed (fun _ _ => reads_holdClosure) fun _ d hok => ?_)
  have hcan := Fallible.ensure_eq_ok.mp hcan
  simp only [canReserve, decide_eq_true_eq, hamount, false_or] at hcan
  obtain ⟨free, reserved, hfree, -, rfl, -⟩ := holdClosure_eq_ok.mp hok
  rw [minus_of_le hcan.1] at hfree
  cases hfree
  exact .of_frozen hcan.2

theorem frames_release {bestEffort : Bool} :
    Frames forced s (release cfg who amount bestEffort : Op sys _) := by
  refine .ite (fun _ => frames_pure) fun _ =>
    frames_mutation hed (fun _ _ => reads_releaseClosure) fun actual d hok => ?_
  obtain ⟨-, -, rfl, -⟩ := releaseClosure_eq_ok.mp hok
  exact .of_saturatingAdd

theorem frames_transfer :
    Frames forced s (transfer cfg transactor dest value requirement : Op sys Unit) := by
  by_cases hnothing : value = 0 ∨ transactor = dest
  · exact .of_exec (exec_transfer_of_nothing hnothing) .refl
  · rcases exec_transfer_cases hnothing with ⟨-, e, he⟩ | ⟨h, a₁, a₂, h₁, h₂, hexec⟩
    · exact .of_exec he .refl
    · have hvalue : value ≠ 0 := fun heq => hnothing (Or.inl heq)
      refine .of_exec hexec (.of_set_set hed h₁
        (h₂.trans (congrArg Except.ok transferred_accounts.symm)) transferred_locks
        (keeps_of_permits hvalue h.permits) (.of_le (Nat.le_add_right _ _)))

omit hed [DecidableEq AccountId] in
theorem keeps_giveTo {status : BalanceStatus} {actual : Nat} {account paid : AccountData}
    (h : giveTo status actual account = .ok paid) : Keeps (forced who) account paid := by
  rcases giveTo_eq_ok.mp h with ⟨-, -, rfl⟩ | ⟨-, -, rfl⟩
  · exact .of_le (Nat.le_add_right _ _)
  · exact .of_le le_rfl

theorem frames_doTransferReserved {slashed beneficiary : AccountId} {bestEffort : Bool}
    {status : BalanceStatus} : Frames forced s
      (doTransferReserved cfg slashed beneficiary value bestEffort status : Op sys _) := by
  by_cases hv : value = 0
  · refine .of_exec (r := .ok 0) ?_ .refl
    unfold doTransferReserved
    rw [if_pos hv, exec_pure]
  · by_cases hself : slashed = beneficiary
    · cases status with
      | Free =>
          refine .of_exec_eq (y := unreserve cfg slashed value) ?_ (frames_unreserve hed)
          unfold doTransferReserved
          rw [if_neg hv, if_pos hself]
      | Reserved =>
          refine .of_exec (r := .ok (value - reservedBalance s slashed)) ?_ .refl
          unfold doTransferReserved
          rw [if_neg hv, if_pos hself]
          rfl
    · by_cases hpay : ∃ paid, Payable slashed beneficiary value bestEffort status s paid
      · obtain ⟨paid, hpay⟩ := hpay
        obtain ⟨a₁, h₁⟩ := lenient_of_zero hed s.accounts slashed (docked s slashed value)
        obtain ⟨a₂, h₂⟩ := lenient_of_zero hed a₁ beneficiary paid
        have haccounts : (repatriated cfg slashed beneficiary value status s paid a₁ a₂).accounts
            = a₂ := repatriated_accounts
        exact .of_exec (exec_doTransferReserved_of_ok hv hself hpay h₁ h₂)
          (.of_set_set hed h₁ (h₂.trans (congrArg Except.ok haccounts.symm)) repatriated_locks
            (.of_le le_rfl) (keeps_giveTo hpay.2.2))
      · obtain ⟨e, he⟩ := exec_doTransferReserved_of_not hv hself hpay
        exact .of_exec he .refl

omit hed [DecidableEq AccountId] in
/-- Dropping an imbalance writes the issuance only. -/
theorem exec_square_aside (old new : Nat) : ∃ t, exec (square old new) s = (.ok (), t) ∧
    t.accounts = s.accounts ∧ t.locks = s.locks := by
  unfold square
  split_ifs
  · exact ⟨_, exec_modify, rfl, rfl⟩
  · exact ⟨_, exec_modify, rfl, rfl⟩
  · exact ⟨_, exec_pure, rfl, rfl⟩

theorem frames_setBalance {origin : Origin AccountId} {newFree newReserved : Nat}
    (hforced : forced who) :
    Frames forced s (setBalance cfg origin who newFree newReserved : Op sys Unit) := by
  refine .lift_bind fun _ _ => .lift_bind fun whole _ => .bind ?_ fun _ u _ =>
    .of_exec exec_modify (.aside rfl rfl)
  -- the imbalances are dropped first
  obtain ⟨t₁, h₁, ha₁, hl₁⟩ := exec_square_aside (s := s) (s.account who).free
    (if whole < cfg.existentialDeposit then 0 else newFree)
  obtain ⟨t, h₂, ha₂, hl₂⟩ := exec_square_aside (s := t₁) (s.account who).reserved
    (if whole < cfg.existentialDeposit then 0 else newReserved)
  have hclosure : exec (setBalanceClosure (if whole < cfg.existentialDeposit then 0 else newFree)
      (if whole < cfg.existentialDeposit then 0 else newReserved) (s.account who)) s = _ :=
    (exec_bind_of_ok h₁).trans ((exec_bind_of_ok h₂).trans exec_pure)
  have haccounts : t.accounts = s.accounts := ha₂.trans ha₁
  obtain ⟨accounts, hset⟩ := lenient_of_zero hed t.accounts who { s.account who with
    free := if whole < cfg.existentialDeposit then 0 else newFree
    reserved := if whole < cfg.existentialDeposit then 0 else newReserved }
  have hmutate : exec (mutateAccount cfg who fun account =>
      setBalanceClosure (if whole < cfg.existentialDeposit then 0 else newFree)
        (if whole < cfg.existentialDeposit then 0 else newReserved) account) s = _ :=
    exec_tryMutateAccount_of_ok hclosure hset
  have hsame : t.account who = s.account who := by
    rw [Storage.account, haccounts]
    rfl
  have hnew : s.isNew who = t.isNew who := by
    rw [Storage.isNew, Storage.isNew, haccounts]
  refine .of_exec hmutate ((Frame.aside (congrArg sys.get haccounts) (hl₂.trans hl₁)).trans ?_)
  rw [hnew]
  refine Mutated.frame hed ⟨accounts, hset, rfl⟩ ?_
  rw [hsame]
  exact .of_forced hforced

/-- **The frame of an operation** that is not on locks. -/
theorem Operation.frames {op : Operation AccountId} (hlocks : ¬ op.Relocks) :
    Frames op.forces s (op.apply cfg) := by
  cases op with
  | transfer transactor dest value requirement => exact (frames_transfer hed).quiet
  | slash w value =>
      have hforced : (Operation.slash w value).forces w := rfl
      exact (frames_slash hed hforced).bind fun _ _ _ => frames_pure
  | depositIntoExisting w value =>
      exact (frames_depositIntoExisting hed).bind fun _ _ _ => frames_pure
  | depositCreating w value => exact (frames_depositCreating hed).bind fun _ _ _ => frames_pure
  | withdraw w value reasons liveness =>
      exact (frames_withdraw hed).bind fun _ _ _ => frames_pure
  | makeFreeBalanceBe w value =>
      have hforced : (Operation.makeFreeBalanceBe w value).forces w := rfl
      exact (frames_makeFreeBalanceBe hed hforced).bind fun _ _ _ => frames_pure
  | burn amount => exact frames_burn.bind fun _ _ _ => frames_pure
  | issue amount => exact frames_issue.bind fun _ _ _ => frames_pure
  | reserve w value => exact (frames_reserve hed).quiet
  | unreserve w value => exact (frames_unreserve hed).quiet
  | slashReserved w value => exact (frames_slashReserved hed).bind fun _ _ _ => frames_pure
  | repatriateReserved slashed beneficiary value status =>
      exact Frames.quiet ((frames_doTransferReserved hed).bind fun _ _ _ => frames_pure)
  | setLock id w amount reasons | extendLock id w amount reasons => exact absurd trivial hlocks
  | removeLock id w => exact absurd trivial hlocks
  | mintInto w amount => exact (frames_mintInto hed).quiet
  | burnFrom w amount => exact (frames_burnFrom hed).quiet
  | transferFungible source dest amount keepAlive =>
      exact Frames.quiet ((frames_transfer hed).bind fun _ _ _ => frames_pure)
  | setFreeBalance w amount =>
      have hforced : (Operation.setFreeBalance w amount).forces w := rfl
      exact (frames_setFreeBalance hed hforced).quiet
  | setTotalIssuance amount => exact Frames.quiet frames_issuance
  | hold w amount => exact (frames_hold hed).quiet
  | release w amount bestEffort => exact (frames_release hed).quiet
  | transferHeld source dest amount bestEffort onHold =>
      exact (frames_doTransferReserved hed).quiet
  | transferCall origin dest value =>
      exact Frames.quiet (.lift_bind fun _ _ => .lift_bind fun _ _ => frames_transfer hed)
  | setBalance origin w newFree newReserved =>
      have hforced : (Operation.setBalance origin w newFree newReserved).forces w := rfl
      exact (frames_setBalance hed hforced).quiet
  | forceTransfer origin source dest value =>
      exact Frames.quiet (.lift_bind fun _ _ => frames_transfer hed)
  | transferKeepAlive origin dest value =>
      exact Frames.quiet (.lift_bind fun _ _ => .lift_bind fun _ _ => frames_transfer hed)

end Operations

end HydraDX.PalletBalances
