import HydraDX.PalletBalances.Issuance

set_option autoImplicit false

/-! # The issuance over whole runs

Every operation squares, as long as nothing it moves or sets overflows (`Operation.Fits`). So does
what is done to the imbalances that are held. From one state of the world to the next the issuance
then changes as the exact number does (`Follows`), and it is the exact number in every state of a
run if and only if that number always fits. -/

namespace HydraDX.PalletBalances

open Balances (WithdrawReasons ExistenceRequirement NegativeImbalance PositiveImbalance)
open Payment (Origin)
open Dispatch

variable {AccountId : Type} {sys : AccountStore AccountId}

/-! ## Operations -/

/-- What an operation moves fits where it goes. The two setters of `Unbalanced` leave the issuance
to their caller, and may only set what is there. -/
def Operation.Fits (cfg : Config) (s : Storage sys) : Operation AccountId → Prop
  | .unreserve who value => Room s who value
  | .release who amount _ => Room s who amount
  | .repatriateReserved slashed beneficiary value _ => slashed = beneficiary → Room s slashed value
  | .transferHeld source dest amount _ _ => source = dest → Room s source amount
  | .hold who amount => (s.account who).reserved + amount < balanceBound
  | .burnFrom who amount => Burnable cfg s who amount
  | .setFreeBalance who amount => amount = (s.account who).free
  | .setTotalIssuance amount => amount = s.totalIssuance
  | .setBalance _ who newFree newReserved => SquaresFirst cfg s who newFree newReserved
  | _ => True

namespace Imbalances

def positiveSum (c : Imbalances) : Nat := (c.positive.map PositiveImbalance.amount).sum

def negativeSum (c : Imbalances) : Nat := (c.negative.map NegativeImbalance.amount).sum

end Imbalances

section Operations

variable {cfg : Config} {s : Storage sys}

theorem squares_setTotalIssuance {amount : Nat} (hs : Sound s) (hsame : amount = s.totalIssuance) :
    Squares (fun _ => 0) (fun _ => 0) s (setTotalIssuance amount : Op sys Unit) := by
  refine .of_ok (u := { s with totalIssuance := amount }) exec_modify ?_
  exact (Effect.refl hs).congr rfl hsame

/-- An operation that returns one imbalance, as a list. -/
theorem Squares.held {α : Type} {P N : α → Nat} {x : Op sys α} (hx : Squares P N s x)
    (f : α → Imbalances) (hP : ∀ a, (f a).positiveSum = P a) (hN : ∀ a, (f a).negativeSum = N a) :
    Squares Imbalances.positiveSum Imbalances.negativeSum s (do let a ← x; return f a) :=
  hx.bind fun a u => ⟨f a, u, rfl, rfl, rfl, hP a, hN a⟩

variable [DecidableEq AccountId]

/-- **Every operation squares**, however it ends. -/
theorem Operation.squares (hlenient : Lenient cfg sys) (hs : Sound s) (op : Operation AccountId)
    (hfits : op.Fits cfg s) :
    Squares Imbalances.positiveSum Imbalances.negativeSum s (op.apply cfg) := by
  cases op with
  | transfer transactor dest value requirement => exact (squares_transfer hs).quiet
  | slash who value =>
      exact (squares_slash hlenient hs).held _ (fun _ => rfl) fun _ => List.sum_singleton
  | depositIntoExisting who value =>
      exact (squares_depositIntoExisting hlenient hs).held _ (fun _ => List.sum_singleton)
        fun _ => rfl
  | depositCreating who value =>
      exact (squares_depositCreating hlenient hs).held _ (fun _ => List.sum_singleton) fun _ => rfl
  | withdraw who value reasons liveness =>
      exact (squares_withdraw hlenient hs).held _ (fun _ => rfl) fun _ => List.sum_singleton
  | makeFreeBalanceBe who value =>
      exact (squares_makeFreeBalanceBe hlenient hs).held _ (fun _ => rfl) fun _ => rfl
  | burn amount =>
      exact (squares_burn hs).held _ (fun _ => List.sum_singleton) fun _ => rfl
  | issue amount =>
      exact (squares_issue hs).held _ (fun _ => rfl) fun _ => List.sum_singleton
  | reserve who value => exact (squares_reserve hlenient hs).quiet
  | unreserve who value => exact (squares_unreserve hlenient hs hfits).quiet
  | slashReserved who value =>
      exact (squares_slashReserved hlenient hs).held _ (fun _ => rfl) fun _ => List.sum_singleton
  | repatriateReserved slashed beneficiary value status =>
      have htransfer : Squares (fun _ => 0) (fun _ => 0) s
          (PalletBalances.repatriateReserved cfg slashed beneficiary value status : Op sys Nat) :=
        (squares_doTransferReserved hlenient hs hfits).bind
          fun actual u => ⟨value - actual, u, rfl, rfl, rfl, rfl, rfl⟩
      exact htransfer.quiet
  | setLock id who amount reasons =>
      have hset : Squares (fun _ => 0) (fun _ => 0) s
          (PalletBalances.setLock cfg id who amount reasons : Op sys Unit) :=
        .ite (fun _ => squares_pure hs rfl rfl) fun _ =>
          .get_bind (squares_updateLocks hlenient hs)
      exact hset.quiet
  | extendLock id who amount reasons =>
      have hset : Squares (fun _ => 0) (fun _ => 0) s
          (PalletBalances.extendLock cfg id who amount reasons : Op sys Unit) :=
        .ite (fun _ => squares_pure hs rfl rfl) fun _ =>
          .get_bind (squares_updateLocks hlenient hs)
      exact hset.quiet
  | removeLock id who =>
      have hset : Squares (fun _ => 0) (fun _ => 0) s (PalletBalances.removeLock cfg id who : Op sys Unit) :=
        .get_bind (squares_updateLocks hlenient hs)
      exact hset.quiet
  | mintInto who amount => exact (squares_mintInto hlenient hs).quiet
  | burnFrom who amount => exact (squares_burnFrom hlenient hs hfits).quiet
  | transferFungible source dest amount keepAlive =>
      have htransfer : Squares (fun _ => 0) (fun _ => 0) s
          (PalletBalances.transferFungible cfg source dest amount keepAlive : Op sys Nat) :=
        (squares_transfer hs).bind fun _ u => ⟨amount, u, rfl, rfl, rfl, rfl, rfl⟩
      exact htransfer.quiet
  | setFreeBalance who amount => exact (squares_setFreeBalance hlenient hs hfits).quiet
  | setTotalIssuance amount => exact (squares_setTotalIssuance hs hfits).quiet
  | hold who amount => exact (squares_hold hlenient hs hfits).quiet
  | release who amount bestEffort => exact (squares_release hlenient hs hfits).quiet
  | transferHeld source dest amount bestEffort onHold =>
      exact (squares_doTransferReserved hlenient hs hfits).quiet
  | transferCall origin dest value =>
      have hcall : Squares (fun _ => 0) (fun _ => 0) s
          (PalletBalances.transferCall cfg origin dest value : Op sys Unit) := by
        cases origin with
        | Root | Signed w | None => exact .of_error hs rfl
      exact hcall.quiet
  | setBalance origin who newFree newReserved =>
      exact (squares_setBalance hlenient hs hfits).quiet
  | forceTransfer origin source dest value =>
      have hcall : Squares (fun _ => 0) (fun _ => 0) s
          (PalletBalances.forceTransfer cfg origin source dest value : Op sys Unit) := by
        cases origin with
        | Signed w | None => exact .of_error hs rfl
        | Root => exact .of_exec_eq (exec_lift_bind_of_ok rfl) (squares_transfer hs)
      exact hcall.quiet
  | transferKeepAlive origin dest value =>
      have hcall : Squares (fun _ => 0) (fun _ => 0) s
          (PalletBalances.transferKeepAlive cfg origin dest value : Op sys Unit) := by
        cases origin with
        | Root | Signed w | None => exact .of_error hs rfl
      exact hcall.quiet

end Operations

/-! ## The world -/

namespace World

def positiveSum (w : World sys) : Nat := (w.positive.map PositiveImbalance.amount).sum

def negativeSum (w : World sys) : Nat := (w.negative.map NegativeImbalance.amount).sum

/-- What the issuance would be in exact numbers. -/
noncomputable def exactIssuance (w : World sys) : Int :=
  w.pallet.supply + w.negativeSum - w.positiveSum

/-- The issuance is the exact number. -/
structure Accounted (w : World sys) : Prop where
  sound : Sound w.pallet
  issuance : (w.pallet.totalIssuance : Int) = w.exactIssuance

/-- The exact number fits into `u128`. -/
def Representable (w : World sys) : Prop :=
  0 ≤ w.exactIssuance ∧ w.exactIssuance < balanceBound

/-- The issuance changes as the exact number does, as far as it can. -/
structure Follows (w w' : World sys) : Prop where
  finite : w'.pallet.FiniteHolders
  issuance : (w'.pallet.totalIssuance : Int)
    = clamp (w.pallet.totalIssuance + w'.exactIssuance - w.exactIssuance)

end World

/-- An action fits where it happens. A merge saturates, and must not. -/
def Action.Fits (cfg : Config) (w : World sys) : Action AccountId → Prop
  | .operate op => op.Fits cfg w.pallet
  | .mergePositive p other => p.amount + other.amount < balanceBound
  | .mergeNegative n other => n.amount + other.amount < balanceBound
  | _ => True

section Steps

variable {w w' : World sys}

/-- What follows an exact issuance is exact if and only if the number fits. -/
theorem World.Accounted.step (h : w.Accounted) (hfollows : w.Follows w') :
    w'.Accounted ↔ w'.Representable := by
  have hissuance := hfollows.issuance
  rw [h.issuance] at hissuance
  have hpos := balanceBound_pos
  constructor
  · intro h'
    have hfits := h'.sound.fits
    have hexact := h'.issuance
    unfold World.Representable
    omega
  · rintro ⟨hnonneg, hlt⟩
    unfold clamp at hissuance
    exact ⟨⟨hfollows.finite, by omega⟩, by omega⟩

/-- Where the storage stays, the imbalances must sum to the same. -/
theorem World.Follows.of_balanced (hs : Sound w.pallet) (hpallet : w'.pallet = w.pallet)
    (hsums : (w'.negativeSum : Int) - w'.positiveSum = w.negativeSum - w.positiveSum) :
    w.Follows w' := by
  have hclamp := clamp_nat hs.fits
  refine ⟨by rw [hpallet]; exact hs.finite, ?_⟩
  rw [hpallet, ← hclamp]
  congr 1
  unfold World.exactIssuance
  rw [hpallet]
  omega

/-- The sum after an exchange of what is held. -/
theorem sum_exchange {α : Type} [DecidableEq α] (f : α → Nat) {held given : Multiset α}
    (taken : Multiset α) (h : given ≤ held) :
    ((held - given + taken).map f).sum + (given.map f).sum
      = (held.map f).sum + (taken.map f).sum := by
  have hheld : held.map f = (held - given).map f + given.map f := by
    rw [← Multiset.map_add, tsub_add_cancel_of_le h]
  rw [hheld, Multiset.map_add, Multiset.sum_add, Multiset.sum_add]
  omega

section Exchange

variable {ps ps' : Multiset PositiveImbalance} {ns ns' : Multiset NegativeImbalance}

theorem World.positiveSum_exchange (h : ps ≤ w.positive) :
    (w.exchange ps ps' ns ns').positiveSum + (ps.map PositiveImbalance.amount).sum
      = w.positiveSum + (ps'.map PositiveImbalance.amount).sum := sum_exchange _ ps' h

theorem World.negativeSum_exchange (h : ns ≤ w.negative) :
    (w.exchange ps ps' ns ns').negativeSum + (ns.map NegativeImbalance.amount).sum
      = w.negativeSum + (ns'.map NegativeImbalance.amount).sum := sum_exchange _ ns' h

/-- Exchanging imbalances for others of the same net amount. -/
theorem World.Follows.of_exchange (hs : Sound w.pallet) (hps : ps ≤ w.positive)
    (hns : ns ≤ w.negative)
    (hnet : (ps.map PositiveImbalance.amount).sum + (ns'.map NegativeImbalance.amount).sum
      = (ps'.map PositiveImbalance.amount).sum + (ns.map NegativeImbalance.amount).sum) :
    w.Follows (w.exchange ps ps' ns ns') := by
  have hpositive : (w.exchange ps ps' ns ns').positiveSum + _ = _ :=
    World.positiveSum_exchange hps
  have hnegative : (w.exchange ps ps' ns ns').negativeSum + _ = _ :=
    World.negativeSum_exchange hns
  exact .of_balanced hs rfl (by omega)

end Exchange

theorem World.dropPositive_follows (hs : Sound w.pallet) {p : PositiveImbalance}
    (hp : p ∈ w.positive) :
    w.Follows { w.exchange {p} 0 0 0 with pallet := w.pallet.dropPositive p } := by
  have hpositive : (w.exchange {p} 0 0 0).positiveSum + p.amount = w.positiveSum :=
    World.positiveSum_exchange (Multiset.singleton_le.mpr hp)
  have hnegative : (w.exchange {p} 0 0 0).negativeSum + 0 = w.negativeSum + 0 :=
    World.negativeSum_exchange (Multiset.zero_le _)
  have hfits := hs.fits
  refine ⟨hs.finite, ?_⟩
  show ((saturatingAdd w.pallet.totalIssuance p.amount : Nat) : Int)
    = clamp (w.pallet.totalIssuance
        + (w.pallet.supply + (w.exchange {p} 0 0 0).negativeSum
          - (w.exchange {p} 0 0 0).positiveSum)
        - (w.pallet.supply + w.negativeSum - w.positiveSum))
  unfold clamp saturatingAdd
  omega

theorem World.dropNegative_follows (hs : Sound w.pallet) {n : NegativeImbalance}
    (hn : n ∈ w.negative) :
    w.Follows { w.exchange 0 0 {n} 0 with pallet := w.pallet.dropNegative n } := by
  have hpositive : (w.exchange 0 0 {n} 0).positiveSum + 0 = w.positiveSum + 0 :=
    World.positiveSum_exchange (Multiset.zero_le _)
  have hnegative : (w.exchange 0 0 {n} 0).negativeSum + n.amount = w.negativeSum :=
    World.negativeSum_exchange (Multiset.singleton_le.mpr hn)
  have hfits := hs.fits
  refine ⟨hs.finite, ?_⟩
  show ((w.pallet.totalIssuance - n.amount : Nat) : Int)
    = clamp (w.pallet.totalIssuance
        + (w.pallet.supply + (w.exchange 0 0 {n} 0).negativeSum
          - (w.exchange 0 0 {n} 0).positiveSum)
        - (w.pallet.supply + w.negativeSum - w.positiveSum))
  unfold clamp
  omega

variable [DecidableEq AccountId] {cfg : Config}

theorem World.operate_follows (hlenient : Lenient cfg sys) (hs : Sound w.pallet)
    (op : Operation AccountId) (hfits : op.Fits cfg w.pallet) : w.Follows (w.operate cfg op) := by
  have hsquares := op.squares hlenient hs hfits
  unfold Squares at hsquares
  unfold World.operate
  rcases hexec : exec (op.apply cfg) w.pallet with ⟨e | created, pallet⟩
  all_goals rw [hexec] at hsquares
  · cases e with
    | dispatch e =>
        refine ⟨hsquares.finite, hsquares.issuance.trans ?_⟩
        congr 1
        simp only [World.exactIssuance, World.positiveSum, World.negativeSum]
        omega
    | panic p => exact .of_balanced hs rfl rfl
  · refine ⟨hsquares.finite, hsquares.issuance.trans ?_⟩
    congr 1
    simp only [World.exactIssuance, World.positiveSum, World.negativeSum, Multiset.map_add,
      Multiset.sum_add, Multiset.map_coe, Multiset.sum_coe, Imbalances.positiveSum,
      Imbalances.negativeSum]
    omega

/-- **One step.** The issuance follows whatever is done. -/
theorem World.step_follows (hlenient : Lenient cfg sys) (hs : Sound w.pallet)
    (a : Action AccountId) (hfits : a.Fits cfg w) : w.Follows (w.step cfg a) := by
  have hstay : w.Follows w := .of_balanced hs rfl rfl
  have hzero : ∀ {α : Type} (m : Multiset α), 0 ≤ m := fun m => Multiset.zero_le m
  cases a with
  | operate op => exact World.operate_follows hlenient hs op hfits
  | dropPositive p =>
      simp only [World.step]
      split_ifs with hp
      · exact World.dropPositive_follows hs hp
      · exact hstay
  | dropNegative n =>
      simp only [World.step]
      split_ifs with hn
      · exact World.dropNegative_follows hs hn
      · exact hstay
  | splitPositive p amount =>
      simp only [World.step]
      split_ifs with hp
      · refine .of_exchange hs (Multiset.singleton_le.mpr hp) (hzero _) ?_
        simp [PositiveImbalance.split]
      · exact hstay
  | splitNegative n amount =>
      simp only [World.step]
      split_ifs with hn
      · refine .of_exchange hs (hzero _) (Multiset.singleton_le.mpr hn) ?_
        simp [NegativeImbalance.split]
      · exact hstay
  | mergePositive p other =>
      change p.amount + other.amount < balanceBound at hfits
      simp only [World.step]
      split_ifs with hp
      · refine .of_exchange hs hp (hzero _) ?_
        simp [PositiveImbalance.merge]
        omega
      · exact hstay
  | mergeNegative n other =>
      change n.amount + other.amount < balanceBound at hfits
      simp only [World.step]
      split_ifs with hn
      · refine .of_exchange hs (hzero _) hn ?_
        simp [NegativeImbalance.merge]
        omega
      · exact hstay
  | offsetPositive p n =>
      simp only [World.step]
      split_ifs with hheld
      · have hp := Multiset.singleton_le.mpr hheld.1
        have hn := Multiset.singleton_le.mpr hheld.2
        unfold PositiveImbalance.offset
        split_ifs
        · exact .of_exchange hs hp hn (by simp; omega)
        · exact .of_exchange hs hp hn (by simp; omega)
        · exact .of_exchange hs hp hn (by simp; omega)
      · exact hstay
  | offsetNegative n p =>
      simp only [World.step]
      split_ifs with hheld
      · have hp := Multiset.singleton_le.mpr hheld.1
        have hn := Multiset.singleton_le.mpr hheld.2
        unfold NegativeImbalance.offset
        split_ifs
        · exact .of_exchange hs hp hn (by simp; omega)
        · exact .of_exchange hs hp hn (by simp; omega)
        · exact .of_exchange hs hp hn (by simp; omega)
      · exact hstay

end Steps

/-! ## Runs -/

variable [DecidableEq AccountId] {cfg : Config}

/-- **The issuance over whole runs.** It is exact in every state if and only if the exact number
fits into `u128` in every state. -/
theorem accounted_throughout_iff (hlenient : Lenient cfg sys) {w : World sys} (h : w.Accounted)
    {actions : List (Action AccountId)}
    (hfits : Histories.Each (World.step cfg) (fun w a => a.Fits cfg w) w actions) :
    Histories.Throughout (World.step cfg) World.Accounted w actions ↔
      Histories.Throughout (World.step cfg) World.Representable w actions := by
  have hrepresentable : w.Representable := by
    have hissuance := h.issuance
    have hbound := h.sound.fits
    unfold World.Representable
    omega
  induction actions generalizing w with
  | nil =>
      rw [Histories.throughout_nil, Histories.throughout_nil]
      exact iff_of_true h hrepresentable
  | cons a actions ih =>
      obtain ⟨hfirst, hrest⟩ := hfits
      have hstep := h.step (World.step_follows hlenient h.sound a hfirst)
      rw [Histories.throughout_cons, Histories.throughout_cons]
      constructor
      · rintro ⟨-, hafter⟩
        have h' : (w.step cfg a).Accounted := hafter [] List.nil_prefix
        exact ⟨hrepresentable, (ih h' hrest (hstep.mp h')).mp hafter⟩
      · rintro ⟨-, hafter⟩
        have hr : (w.step cfg a).Representable := hafter [] List.nil_prefix
        exact ⟨h, (ih (hstep.mpr hr) hrest hr).mpr hafter⟩

omit [DecidableEq AccountId] in
theorem Fresh.accounted {s : Storage sys} (h : Fresh s) (hissuance : s.totalIssuance = 0) :
    World.Accounted ⟨s, 0, 0⟩ := by
  have hholdings : s.holdings = fun _ => 0 := by
    funext who
    rw [Storage.holdings, h.account who]
    rfl
  have hpos := balanceBound_pos
  refine ⟨⟨?_, ?_⟩, ?_⟩
  · rw [Storage.FiniteHolders, hholdings]
    exact Function.hasFiniteSupport_zero
  · rw [hissuance]
    exact hpos
  · show (s.totalIssuance : Int) = s.supply + (0 : Nat) - (0 : Nat)
    rw [hissuance, Storage.supply, hholdings, Entries.sum]
    simp

/-- What is issued is given away or dropped, and the last of the gifts is too much. -/
def Dev.issuing : List (Action Nat) :=
  [.operate (.issue (2 ^ 127)), .operate (.depositCreating 1 (2 ^ 127)),
    .offsetPositive ⟨2 ^ 127⟩ ⟨2 ^ 127⟩, .operate (.transfer 1 2 100 .KeepAlive),
    .operate (.depositCreating 1 (2 ^ 127)), .dropPositive ⟨2 ^ 127⟩]

theorem accounted_throughout_iff_issuing :
    (Histories.Throughout (World.step Dev.runtime) World.Accounted ⟨Dev.empty, 0, 0⟩ Dev.issuing ↔
      Histories.Throughout (World.step Dev.runtime) World.Representable ⟨Dev.empty, 0, 0⟩
        Dev.issuing) ∧
    (Histories.run (World.step Dev.runtime) ⟨Dev.empty, 0, 0⟩ Dev.issuing).pallet.totalIssuance
      = 2 ^ 128 - 1 :=
  ⟨accounted_throughout_iff (lenient_of_zero rfl) (Dev.fresh.accounted rfl)
    ⟨trivial, trivial, trivial, trivial, trivial, trivial, trivial⟩, by decide +kernel⟩

end HydraDX.PalletBalances
