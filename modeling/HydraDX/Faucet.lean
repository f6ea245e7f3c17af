import HydraDX.Payment.Pallet
import HydraDX.Lib.Dispatch
import HydraDX.Lib.Histories

set_option autoImplicit false

/-! # The faucet

`pallets/faucet/src/lib.rs`. `mint` deposits a fixed amount of every mintable currency, at most
`mint_limit` times in a block: it counts the calls that succeed, and `on_finalize` resets the
counter. The call is not transactional, and the counter is raised after the deposits. If one of
them fails, those before it have been made, and the call has not been counted.

So the limit holds in a block exactly when no deposit fails after another one of the same call
(`capped_iff_together`). With a currency that refuses a deposit when a balance or the issuance would
overflow, this can be read off the balances before a call: there is no room for its first deposit,
or there is room for all (`capped_iff`). -/

namespace HydraDX.Faucet

open Payment (Origin)
open Dispatch Histories

/-! ## Storage -/

inductive Error where
  | RampageMintNotAllowed
  | MaximumMintLimitReached
  deriving DecidableEq, Repr

/-- Why a call fails: an error of the pallet or of the currency, or a wrong origin. -/
inductive Failure where
  | faucet (error : Error)
  | currency (error : CurrencyError)
  | badOrigin
  deriving DecidableEq, Repr

inductive Event (AccountId : Type) where
  | RampageMint (who : AccountId) (asset : AssetId) (amount : Nat)
  | Mint (who : AccountId)
  deriving DecidableEq, Repr

/-- The storage of the pallet, over the balances. -/
structure Storage (AccountId : Type) where
  ledger : Ledger AssetId AccountId
  minted : UInt8
  mintLimit : UInt8
  rampage : Bool
  mintableCurrencies : List AssetId
  events : List (Event AccountId)

structure GenesisConfig where
  mintLimit : UInt8
  rampage : Bool
  mintableCurrencies : List AssetId

def GenesisConfig.build {AccountId : Type} (g : GenesisConfig) (l : Ledger AssetId AccountId) :
    Storage AccountId where
  ledger := l
  minted := 0
  mintLimit := g.mintLimit
  rampage := g.rampage
  mintableCurrencies := g.mintableCurrencies
  events := []

/-- What `mint` deposits of every currency. -/
def mintAmount : Nat := 1000000000000000

/-! ## Calls -/

variable {AccountId : Type} [DecidableEq AccountId] (currency : Currency AccountId)

def Storage.depositEvent (s : Storage AccountId) (event : Event AccountId) : Storage AccountId :=
  { s with events := s.events ++ [event] }

/-- `T::Currency::deposit`, its error passed on. -/
def deposit (who : AccountId) (amount : Nat) (s : Storage AccountId) (asset : AssetId) :
    Except Failure (Storage AccountId) :=
  match currency.deposit asset who amount s.ledger with
  | .ok l => .ok { s with ledger := l }
  | .error error => .error (.currency error)

def rampageMint (origin : Origin AccountId) (asset : AssetId) (amount : Nat) :
    Dispatch (Storage AccountId) Failure Unit := do
  let who ← origin.signedOr Failure.badOrigin
  let s ← get
  ensure (s.rampage = true) (Failure.faucet .RampageMintNotAllowed)
  atomic fun s => deposit currency who amount s asset
  modify fun s => s.depositEvent (.RampageMint who asset amount)

def mint (origin : Origin AccountId) : Dispatch (Storage AccountId) Failure Unit := do
  let who ← origin.signedOr Failure.badOrigin
  let s ← get
  ensure (s.minted < s.mintLimit) (Failure.faucet .MaximumMintLimitReached)
  s.mintableCurrencies.forM fun i => atomic fun s => deposit currency who mintAmount s i
  modify fun s => { s with minted := s.minted + 1 }
  modify fun s => s.depositEvent (.Mint who)

def onFinalize (s : Storage AccountId) : Storage AccountId := { s with minted := 0 }

inductive Call where
  | rampageMint (asset : AssetId) (amount : Nat)
  | mint
  deriving DecidableEq, Repr

def Call.dispatch (origin : Origin AccountId) : Call → Dispatch (Storage AccountId) Failure Unit
  | .rampageMint asset amount => Faucet.rampageMint currency origin asset amount
  | .mint => Faucet.mint currency origin

/-- The storage after a call, whether it succeeds or not. -/
def after (s : Storage AccountId) (x : Origin AccountId × Call) : Storage AccountId :=
  (exec (x.2.dispatch currency x.1) s).2

/-! ## What a block creates -/

/-- What the calls of `mint` among the calls of a block have issued of the currency. -/
def createdByMint (asset : AssetId) : Storage AccountId → List (Origin AccountId × Call) → Nat
  | _, [] => 0
  | s, x :: calls =>
      (if x.2 = .mint then (after currency s x).ledger.issuance asset - s.ledger.issuance asset
        else 0)
        + createdByMint asset (after currency s x) calls

/-- The calls of `mint` among the calls of a block keep the limit: one that fails leaves all
balances as they are, and no currency is created in excess of what the limit allows. -/
structure Capped (s : Storage AccountId) (calls : List (Origin AccountId × Call)) : Prop where
  failed : Each (after currency) (fun s x => x.2 = .mint → ∀ e s',
    exec (mint currency x.1) s = (.error e, s') → s'.ledger.free = s.ledger.free) s calls
  created : ∀ asset, createdByMint currency asset s calls
    ≤ s.mintLimit.toNat * mintAmount * s.mintableCurrencies.count asset

/-- No deposit of a call of `mint` within the limit fails after another one has been made. -/
def DepositsTogether (s : Storage AccountId) (origin : Origin AccountId) : Prop :=
  ∀ who, origin = .Signed who → s.minted < s.mintLimit →
    ∀ made asset rest s₁, s.mintableCurrencies = made ++ asset :: rest → made ≠ [] →
      made.foldlM (deposit currency who mintAmount) s = .ok s₁ →
      ∃ s₂, deposit currency who mintAmount s₁ asset = .ok s₂

/-- The currency refuses a deposit exactly when the balance of the account or the issuance would
overflow. -/
def RefusesOverflow : Prop :=
  ∀ asset who amount l, (∃ l', currency.deposit asset who amount l = .ok l') ↔
    l.free asset who + amount < balanceBound ∧ l.issuance asset + amount < balanceBound

/-- The account and the issuance have room for a number of deposits of the currency. -/
def HasRoom (s : Storage AccountId) (who : AccountId) (asset : AssetId) (n : Nat) : Prop :=
  s.ledger.free asset who + mintAmount * n < balanceBound ∧
    s.ledger.issuance asset + mintAmount * n < balanceBound

/-- If a call of `mint` within the limit finds room for its first deposit, there is room for all: of
every currency as often as it is listed. -/
def RoomForAll (s : Storage AccountId) (origin : Origin AccountId) : Prop :=
  ∀ who first others, origin = .Signed who → s.minted < s.mintLimit →
    s.mintableCurrencies = first :: others → HasRoom s who first 1 →
    ∀ asset ∈ s.mintableCurrencies, HasRoom s who asset (s.mintableCurrencies.count asset)

variable {currency} {s s' s₁ s₂ : Storage AccountId} {who : AccountId} {asset : AssetId}
  {amount : Nat} {origin : Origin AccountId} {cs : List AssetId}

/-! ## Deposits -/

theorem deposit_ok (h : deposit currency who amount s asset = .ok s') :
    s' = { s with ledger := s.ledger.mint asset who amount } := by
  unfold deposit at h
  cases hd : currency.deposit asset who amount s.ledger with
  | error error =>
      rw [hd] at h
      cases h
  | ok l =>
      rw [hd] at h
      cases h
      rw [currency.deposit_ok hd]

/-- What a sequence of deposits has changed: only the ledger, and of every currency as much was
issued and credited as it occurs. -/
structure Deposited (s s' : Storage AccountId) (who : AccountId) (cs : List AssetId) : Prop where
  state_eq : s' = { s with ledger := s'.ledger }
  issuance : ∀ c, s'.ledger.issuance c = s.ledger.issuance c + mintAmount * cs.count c
  free : ∀ c, s'.ledger.free c who = s.ledger.free c who + mintAmount * cs.count c

theorem deposited_of_foldlM (h : cs.foldlM (deposit currency who mintAmount) s = .ok s') :
    Deposited s s' who cs := by
  induction cs generalizing s with
  | nil =>
      have hs : s = s' := Fallible.foldlM_nil_eq_ok.mp h
      subst hs
      exact ⟨rfl, fun c => by simp, fun c => by simp⟩
  | cons c cs ih =>
      obtain ⟨s₁, hdeposit, h⟩ := Fallible.foldlM_cons_eq_ok.mp h
      have hs₁ := deposit_ok hdeposit
      have hrest := ih h
      have hissuance : ∀ c', s₁.ledger.issuance c'
          = s.ledger.issuance c' + if c' = c then mintAmount else 0 := by
        intro c'
        rw [hs₁]
        show (s.ledger.mint c who mintAmount).issuance c' = _
        rw [Ledger.mint_issuance]
        split_ifs with hc
        · rw [hc]
        · rfl
      have hfree : ∀ c', s₁.ledger.free c' who
          = s.ledger.free c' who + if c' = c then mintAmount else 0 := by
        intro c'
        rw [hs₁]
        exact Ledger.mint_free_self c'
      have hcount : ∀ c', mintAmount * (c :: cs).count c'
          = (if c' = c then mintAmount else 0) + mintAmount * cs.count c' := by
        intro c'
        by_cases hc : c' = c
        · subst hc
          rw [if_pos rfl, List.count_cons_self, Nat.mul_succ, Nat.add_comm]
        · rw [if_neg hc, List.count_cons_of_ne (Ne.symm hc), Nat.zero_add]
      refine ⟨?_, ?_, ?_⟩
      · rw [hrest.state_eq, hs₁]
      · intro c'
        rw [hrest.issuance, hissuance, hcount, Nat.add_assoc]
      · intro c'
        rw [hrest.free, hfree, hcount, Nat.add_assoc]

/-! ## One call -/

/-- What a call of `mint` does. It is refused; or all deposits are made and it is counted; or a
deposit fails, and those before it stay. -/
inductive Minting (currency : Currency AccountId) (s : Storage AccountId)
    (origin : Origin AccountId) : Except Failure Unit → Storage AccountId → Prop where
  | refused (e : Failure) : Minting currency s origin (.error e) s
  | counted {who : AccountId} {s₁ : Storage AccountId} (limit : s.minted < s.mintLimit)
      (deposits : s.mintableCurrencies.foldlM (deposit currency who mintAmount) s = .ok s₁) :
      Minting currency s origin (.ok ())
        ({ s₁ with minted := s₁.minted + 1 }.depositEvent (.Mint who))
  | broken {who : AccountId} {s₁ : Storage AccountId} {made rest : List AssetId}
      {asset : AssetId} {e : Failure} (signed : origin = .Signed who)
      (limit : s.minted < s.mintLimit) (split : s.mintableCurrencies = made ++ asset :: rest)
      (deposits : made.foldlM (deposit currency who mintAmount) s = .ok s₁)
      (fails : deposit currency who mintAmount s₁ asset = .error e) :
      Minting currency s origin (.error e) s₁

theorem mint_cases (currency : Currency AccountId) (s : Storage AccountId)
    (origin : Origin AccountId) :
    Minting currency s origin (exec (mint currency origin) s).1
      (exec (mint currency origin) s).2 := by
  unfold mint
  cases origin with
  | Root => exact .refused _
  | None => exact .refused _
  | Signed who =>
      rw [exec_lift_bind_of_ok (Payment.Origin.signedOr_signed _ who), exec_get_bind]
      by_cases hlimit : s.minted < s.mintLimit
      · rw [exec_ensure_bind_of_pos hlimit]
        rcases forM_atomic_cases (deposit currency who mintAmount) s.mintableCurrencies s with
          ⟨s₁, hfold, hloop⟩ | ⟨made, asset, rest, s₁, e, hsplit, hfold, hfail, hloop⟩
        · rw [exec_bind_of_ok hloop]
          exact .counted hlimit hfold
        · rw [exec_bind_of_error hloop]
          exact .broken rfl hlimit hsplit hfold hfail
      · rw [exec_ensure_bind_of_neg hlimit]
        exact .refused _

/-- A deposit that fails after others ends the call, and the others stay. -/
theorem mint_broken {made rest : List AssetId} {e : Failure} (hlimit : s.minted < s.mintLimit)
    (hsplit : s.mintableCurrencies = made ++ asset :: rest)
    (hmade : made.foldlM (deposit currency who mintAmount) s = .ok s₁)
    (hfails : deposit currency who mintAmount s₁ asset = .error e) :
    exec (mint currency (.Signed who)) s = (.error e, s₁) := by
  unfold mint
  rw [exec_lift_bind_of_ok (Payment.Origin.signedOr_signed _ who), exec_get_bind,
    exec_ensure_bind_of_pos hlimit, hsplit]
  exact exec_bind_of_error (forM_atomic_of_error hmade hfails)

omit [DecidableEq AccountId] in
/-- Something was credited if a deposit was made. -/
theorem Deposited.free_ne (h : Deposited s s' who cs) (hcs : cs ≠ []) :
    s'.ledger.free ≠ s.ledger.free := by
  intro heq
  obtain ⟨c, cs, rfl⟩ := List.exists_cons_of_ne_nil hcs
  have hfree := h.free c
  rw [heq, List.count_cons_self] at hfree
  have hpos : 0 < mintAmount * (cs.count c + 1) := Nat.mul_pos (by decide) (Nat.succ_pos _)
  omega

/-- A call whose deposits fail together does nothing, or makes all of them and is counted. -/
theorem mint_together (h : DepositsTogether currency s origin) :
    (∃ e, exec (mint currency origin) s = (.error e, s)) ∨
    (∃ who s₁, s.minted < s.mintLimit ∧
      s.mintableCurrencies.foldlM (deposit currency who mintAmount) s = .ok s₁ ∧
      exec (mint currency origin) s =
        (.ok (), { s₁ with minted := s₁.minted + 1 }.depositEvent (.Mint who))) := by
  have hcases := mint_cases currency s origin
  rcases hx : exec (mint currency origin) s with ⟨result, s'⟩
  rw [hx] at hcases
  cases hcases with
  | refused e => exact Or.inl ⟨e, rfl⟩
  | counted limit deposits => exact Or.inr ⟨_, _, limit, deposits, rfl⟩
  | @broken who _ made rest asset e signed limit split deposits fails =>
      by_cases hmade : made = []
      · subst hmade
        have hs : s = s' := Fallible.foldlM_nil_eq_ok.mp deposits
        exact Or.inl ⟨e, by rw [hs]⟩
      · obtain ⟨s₂, hs₂⟩ := h who signed limit made asset rest s' split hmade deposits
        rw [hs₂] at fails
        cases fails

/-- **A call that fails leaves the balances as they are** exactly when its deposits fail
together. -/
theorem failed_iff_together :
    (∀ e s', exec (mint currency origin) s = (.error e, s') →
      s'.ledger.free = s.ledger.free) ↔ DepositsTogether currency s origin := by
  constructor
  · intro hclean who hwho hlimit made asset rest s₁ hsplit hne hmade
    subst hwho
    cases hd : deposit currency who mintAmount s₁ asset with
    | ok s₂ => exact ⟨s₂, rfl⟩
    | error e =>
        have hfree := hclean e s₁ (mint_broken hlimit hsplit hmade hd)
        exact absurd hfree ((deposited_of_foldlM hmade).free_ne hne)
  · intro htogether e s' hx
    rcases mint_together htogether with ⟨e', he⟩ | ⟨who, s₁, -, -, hok⟩
    · rw [he] at hx
      cases hx
      rfl
    · rw [hok] at hx
      cases hx

/-! ## A block -/

/-- What the calls of a block leave as it is. -/
structure SameLimits (s s' : Storage AccountId) : Prop where
  mintLimit : s'.mintLimit = s.mintLimit
  mintableCurrencies : s'.mintableCurrencies = s.mintableCurrencies

/-- A call whose deposits fail together creates nothing, or the full amount and is counted. -/
theorem mint_counts (h : DepositsTogether currency s origin) :
    let s' := (exec (mint currency origin) s).2
    SameLimits s s' ∧
    ((s'.minted = s.minted ∧ s'.ledger = s.ledger) ∨
      (s'.minted.toNat = s.minted.toNat + 1 ∧ s'.minted.toNat ≤ s.mintLimit.toNat ∧
        ∀ c, s'.ledger.issuance c
          = s.ledger.issuance c + mintAmount * s.mintableCurrencies.count c)) := by
  intro s'
  rcases mint_together h with ⟨e, he⟩ | ⟨who, s₁, hlimit, hfold, hok⟩
  · have hs' : s' = s := by
      show (exec (mint currency origin) s).2 = s
      rw [he]
    rw [hs']
    exact ⟨⟨rfl, rfl⟩, Or.inl ⟨rfl, rfl⟩⟩
  · have hd := deposited_of_foldlM hfold
    have hs' : s' = { s₁ with minted := s₁.minted + 1 }.depositEvent (.Mint who) := by
      show (exec (mint currency origin) s).2 = _
      rw [hok]
    have hlt : s.minted.toNat < s.mintLimit.toNat := UInt8.lt_iff_toNat_lt.mp hlimit
    have hbound : s.mintLimit.toNat < 256 := s.mintLimit.toNat_lt
    -- the counter is below the limit, so it does not wrap
    have hminted : s'.minted.toNat = s.minted.toNat + 1 := by
      rw [hs', hd.state_eq]
      show (s.minted + 1).toNat = s.minted.toNat + 1
      rw [UInt8.toNat_add, UInt8.toNat_one]
      omega
    refine ⟨⟨?_, ?_⟩, Or.inr ⟨hminted, by omega, ?_⟩⟩
    · rw [hs', hd.state_eq]
      rfl
    · rw [hs', hd.state_eq]
      rfl
    · intro c
      rw [hs']
      exact hd.issuance c

/-- A rampage mint is not counted. -/
theorem rampageMint_frame (currency : Currency AccountId) (s : Storage AccountId)
    (origin : Origin AccountId) (asset : AssetId) (amount : Nat) :
    let s' := (exec (rampageMint currency origin asset amount) s).2
    SameLimits s s' ∧ s'.minted = s.minted := by
  unfold rampageMint
  cases origin with
  | Root => exact ⟨⟨rfl, rfl⟩, rfl⟩
  | None => exact ⟨⟨rfl, rfl⟩, rfl⟩
  | Signed who =>
      rw [exec_lift_bind_of_ok (Payment.Origin.signedOr_signed _ who), exec_get_bind]
      by_cases hrampage : s.rampage = true
      · rw [exec_ensure_bind_of_pos hrampage]
        cases hd : deposit currency who amount s asset with
        | error e =>
            rw [exec_bind_of_error (exec_atomic_of_error hd)]
            exact ⟨⟨rfl, rfl⟩, rfl⟩
        | ok s₁ =>
            rw [exec_bind_of_ok (exec_atomic_of_ok hd), deposit_ok hd]
            exact ⟨⟨rfl, rfl⟩, rfl⟩
      · rw [exec_ensure_bind_of_neg hrampage]
        exact ⟨⟨rfl, rfl⟩, rfl⟩

/-- The condition on a call of a block. -/
def TogetherIfMint (currency : Currency AccountId) (s : Storage AccountId)
    (x : Origin AccountId × Call) : Prop :=
  x.2 = .mint → DepositsTogether currency s x.1

/-- **What is left of the limit bounds what the rest of the block creates.** -/
theorem createdByMint_le {calls : List (Origin AccountId × Call)}
    (h : Each (after currency) (TogetherIfMint currency) s calls) (c : AssetId) :
    createdByMint currency c s calls
      ≤ (s.mintLimit.toNat - s.minted.toNat) * (mintAmount * s.mintableCurrencies.count c) := by
  induction calls generalizing s with
  | nil => exact Nat.zero_le _
  | cons x calls ih =>
      obtain ⟨origin, call⟩ := x
      have hrest := ih h.2
      unfold createdByMint
      cases call with
      | rampageMint asset amount =>
          obtain ⟨hsame, hminted⟩ := rampageMint_frame currency s origin asset amount
          rw [if_neg nofun, Nat.zero_add]
          rw [after, show Call.dispatch currency origin (.rampageMint asset amount)
            = rampageMint currency origin asset amount from rfl] at hrest ⊢
          rw [hsame.mintLimit, hsame.mintableCurrencies, hminted] at hrest
          exact hrest
      | mint =>
          obtain ⟨hsame, hcount⟩ := mint_counts (h.1 rfl)
          rw [if_pos rfl]
          rw [after, show Call.dispatch currency origin .mint = mint currency origin from rfl]
            at hrest ⊢
          rw [hsame.mintLimit, hsame.mintableCurrencies] at hrest
          generalize (exec (mint currency origin) s).2 = s' at hcount hrest ⊢
          rcases hcount with ⟨hminted, hledger⟩ | ⟨hminted, hle, hissuance⟩
          · rw [hminted] at hrest
            rw [hledger, Nat.sub_self, Nat.zero_add]
            exact hrest
          · -- one of the calls that were left has been made
            have hleft : s.mintLimit.toNat - s.minted.toNat
                = (s.mintLimit.toNat - s'.minted.toNat) + 1 := by omega
            rw [hissuance c, hleft, Nat.succ_mul]
            omega

/-- The limit is kept exactly when no deposit of a call of `mint` fails after another one of that
call has been made, whatever the currency refuses. -/
theorem capped_iff_together (currency : Currency AccountId) (s : Storage AccountId)
    (hs : s.minted = 0) (calls : List (Origin AccountId × Call)) :
    Capped currency s calls ↔ Each (after currency) (TogetherIfMint currency) s calls := by
  have hfailed : Each (after currency) (fun s x => x.2 = .mint → ∀ e s',
      exec (mint currency x.1) s = (.error e, s') → s'.ledger.free = s.ledger.free) s calls ↔
      Each (after currency) (TogetherIfMint currency) s calls := by
    apply each_congr
    intro s x
    exact imp_congr_right fun _ => failed_iff_together
  constructor
  · intro h
    exact hfailed.mp h.failed
  · intro h
    refine ⟨hfailed.mpr h, fun c => ?_⟩
    have hle := createdByMint_le h c
    rw [hs] at hle
    calc createdByMint currency c s calls
        ≤ s.mintLimit.toNat * (mintAmount * s.mintableCurrencies.count c) := hle
      _ = s.mintLimit.toNat * mintAmount * s.mintableCurrencies.count c := by ring

/-! ## Room for the deposits -/

theorem exists_deposit_iff (hrefuses : RefusesOverflow currency) :
    (∃ s', deposit currency who mintAmount s asset = .ok s') ↔ HasRoom s who asset 1 := by
  unfold HasRoom
  rw [Nat.mul_one, ← hrefuses asset who mintAmount s.ledger]
  unfold deposit
  cases currency.deposit asset who mintAmount s.ledger with
  | ok l => simp
  | error e => simp

omit [DecidableEq AccountId] in
/-- The room that deposits have left. -/
theorem Deposited.hasRoom_iff (h : Deposited s s' who cs) (n : Nat) :
    HasRoom s' who asset n ↔ HasRoom s who asset (cs.count asset + n) := by
  unfold HasRoom
  rw [h.free, h.issuance, Nat.mul_add, Nat.add_assoc, Nat.add_assoc]

omit [DecidableEq AccountId] in
theorem HasRoom.mono {m n : Nat} (h : HasRoom s who asset n) (hmn : m ≤ n) :
    HasRoom s who asset m := by
  have hle : mintAmount * m ≤ mintAmount * n := Nat.mul_le_mul_left mintAmount hmn
  have hfree := h.1
  have hissuance := h.2
  exact ⟨by omega, by omega⟩

/-- **All deposits are made** exactly if there is room for them. -/
theorem exists_foldlM_iff (hrefuses : RefusesOverflow currency) :
    (∃ s₁, cs.foldlM (deposit currency who mintAmount) s = .ok s₁) ↔
      ∀ c ∈ cs, HasRoom s who c (cs.count c) := by
  -- the last deposit needs room on top of those before it
  induction cs using List.reverseRecOn with
  | nil => exact iff_of_true ⟨s, rfl⟩ nofun
  | append_singleton cs last ih =>
      have hlast : (cs ++ [last]).count last = cs.count last + 1 := by simp
      constructor
      · rintro ⟨s', hs'⟩ c hc
        obtain ⟨s₁, s₂, hcs, hdeposit, -⟩ := Fallible.foldlM_split hs'
        by_cases he : c = last
        · subst he
          rw [hlast, ← (deposited_of_foldlM hcs).hasRoom_iff, ← exists_deposit_iff hrefuses]
          exact ⟨s₂, hdeposit⟩
        · have hmem : c ∈ cs := by
            rw [List.mem_append, List.mem_singleton] at hc
            exact hc.resolve_right he
          have hcount : (cs ++ [last]).count c = cs.count c := by
            rw [List.count_append, List.count_cons_of_ne (Ne.symm he), List.count_nil, Nat.add_zero]
          rw [hcount]
          exact ih.mp ⟨s₁, hcs⟩ c hmem
      · intro h
        obtain ⟨s₁, hcs⟩ := ih.mpr fun c hc => by
          refine (h c (List.mem_append_left [last] hc)).mono ?_
          rw [List.count_append]
          exact Nat.le_add_right _ _
        have hroom := h last (List.mem_append_right cs (List.mem_singleton_self last))
        rw [hlast, ← (deposited_of_foldlM hcs).hasRoom_iff, ← exists_deposit_iff hrefuses] at hroom
        obtain ⟨s₂, hs₂⟩ := hroom
        exact ⟨s₂, Fallible.foldlM_append_eq_ok.mpr ⟨s₁, hcs,
          Fallible.foldlM_cons_eq_ok.mpr ⟨s₂, hs₂, rfl⟩⟩⟩

/-- Deposits do not fail one after another exactly if there is room for all, or not even for the
first. -/
theorem together_iff_room (hrefuses : RefusesOverflow currency) :
    DepositsTogether currency s origin ↔ RoomForAll s origin := by
  constructor
  · intro h who first others hwho hlimit hlist hfirst
    rw [← exists_foldlM_iff hrefuses]
    rcases forM_atomic_cases (deposit currency who mintAmount) s.mintableCurrencies s with
      ⟨s₁, hfold, -⟩ | ⟨made, asset, rest, s₁, e, hsplit, hmade, hfail, -⟩
    · exact ⟨s₁, hfold⟩
    · by_cases hne : made = []
      · -- the first deposit has room
        subst hne
        have hs : s = s₁ := Fallible.foldlM_nil_eq_ok.mp hmade
        subst hs
        have hasset : first = asset := (List.cons.inj (hlist.symm.trans hsplit)).1
        subst hasset
        obtain ⟨s₂, hs₂⟩ := (exists_deposit_iff hrefuses).mpr hfirst
        rw [hs₂] at hfail
        cases hfail
      · obtain ⟨s₂, hs₂⟩ := h who hwho hlimit made asset rest s₁ hsplit hne hmade
        rw [hs₂] at hfail
        cases hfail
  · intro h who hwho hlimit made asset rest s₁ hsplit hne hmade
    obtain ⟨first, made, rfl⟩ := List.exists_cons_of_ne_nil hne
    obtain ⟨s₂, hfirst, -⟩ := Fallible.foldlM_cons_eq_ok.mp hmade
    have hall := h who first (made ++ asset :: rest) hwho hlimit hsplit
      ((exists_deposit_iff hrefuses).mp ⟨s₂, hfirst⟩)
    obtain ⟨s', hs'⟩ := (exists_foldlM_iff hrefuses).mpr hall
    rw [hsplit] at hs'
    obtain ⟨t, t', ht, ht', -⟩ := Fallible.foldlM_split hs'
    rw [hmade] at ht
    cases ht
    exact ⟨t', ht'⟩

/-- **The faucet keeps its limit in a block** exactly when every call of `mint` within the limit
finds room for all of its deposits, or not even for the first. The block begins with what
`on_finalize` has left of the one before. -/
theorem capped_iff (currency : Currency AccountId) (hrefuses : RefusesOverflow currency)
    (s : Storage AccountId) (calls : List (Origin AccountId × Call)) :
    Capped currency (onFinalize s) calls ↔
      Each (after currency) (fun s x => x.2 = .mint → RoomForAll s x.1) (onFinalize s) calls := by
  rw [capped_iff_together currency (onFinalize s) rfl]
  apply each_congr
  intro s x
  exact imp_congr_right fun _ => together_iff_room hrefuses

/-- The token ledger, with a check of the balance that is deposited to. -/
def checkedTokens : Currency AccountId :=
  { Currency.tokens with
    deposit := fun asset who amount l => do
      ensure (l.free asset who + amount < balanceBound) .BalanceOverflow
      ensure (l.issuance asset + amount < balanceBound) .TotalIssuanceOverflow
      return l.mint asset who amount
    deposit_ok := by
      intro asset who amount l l' h
      obtain ⟨-, h⟩ := Fallible.ensure_bind_eq_ok.mp h
      obtain ⟨-, h⟩ := Fallible.ensure_bind_eq_ok.mp h
      cases h
      rfl }

theorem checkedTokens_refuses : RefusesOverflow (checkedTokens : Currency AccountId) := by
  intro asset who amount l
  constructor
  · rintro ⟨l', h⟩
    obtain ⟨hfree, h⟩ := Fallible.ensure_bind_eq_ok.mp h
    obtain ⟨hissuance, -⟩ := Fallible.ensure_bind_eq_ok.mp h
    exact ⟨hfree, hissuance⟩
  · rintro ⟨hfree, hissuance⟩
    exact ⟨_, Fallible.ensure_bind_eq_ok.mpr
      ⟨hfree, Fallible.ensure_bind_eq_ok.mpr ⟨hissuance, rfl⟩⟩⟩

/-- One mint in a block, of the currencies `2000` and `3000`; of the second `issued` is there. -/
def twoCurrencies (issued : Nat) : Storage Dev.AccountId :=
  GenesisConfig.build { mintLimit := 1, rampage := false, mintableCurrencies := [2000, 3000] }
    (Dev.genesis [(3000, [1], issued)]).ledger

/-- With room for both currencies the second call of the block is refused. -/
theorem capped_twoCurrencies :
    Capped checkedTokens (onFinalize (twoCurrencies 0))
      [(.Signed [2], .mint), (.Signed [2], .mint)] := by
  rw [capped_iff checkedTokens checkedTokens_refuses (twoCurrencies 0)]
  have hfirst : ∀ asset ∈ (twoCurrencies 0).mintableCurrencies,
      HasRoom (twoCurrencies 0) [2] asset
        ((twoCurrencies 0).mintableCurrencies.count asset) := by
    intro asset hasset
    have hlisted : asset = 2000 ∨ asset = 3000 := by
      simpa [twoCurrencies, GenesisConfig.build] using hasset
    rcases hlisted with rfl | rfl
    · exact ⟨by decide +kernel, by decide +kernel⟩
    · exact ⟨by decide +kernel, by decide +kernel⟩
  have hsecond : ¬ (after checkedTokens (twoCurrencies 0) (.Signed [2], .mint)).minted
      < (after checkedTokens (twoCurrencies 0) (.Signed [2], .mint)).mintLimit := by
    decide +kernel
  refine ⟨fun _ => ?_, fun _ => ?_, trivial⟩
  · intro who first others hwho _ _ _
    cases hwho
    exact hfirst
  · intro who first others _ hlimit
    exact absurd hlimit hsecond

/-- Without room for the second currency every call fails, none is counted, and each creates the
first currency: two calls in a block with a limit of one. -/
theorem not_capped_without_room :
    ¬ Capped checkedTokens (onFinalize (twoCurrencies (2 ^ 128 - 1)))
      [(.Signed [2], .mint), (.Signed [2], .mint)] := by
  have hcreated : createdByMint checkedTokens 2000 (onFinalize (twoCurrencies (2 ^ 128 - 1)))
      [(.Signed [2], .mint), (.Signed [2], .mint)] = 2 * mintAmount := by
    decide +kernel
  have hcount : (onFinalize (twoCurrencies (2 ^ 128 - 1))).mintableCurrencies.count 2000 = 1 := by
    decide
  have hlimit : (onFinalize (twoCurrencies (2 ^ 128 - 1))).mintLimit.toNat = 1 := rfl
  intro h
  have hle := h.created 2000
  rw [hcreated, hcount, hlimit] at hle
  exact absurd hle (by decide)

end HydraDX.Faucet
