import HydraDX.Faucet

set_option autoImplicit false

/-! # The log of the faucet

`pallets/faucet/src/lib.rs`. The storage of the faucet over many blocks: calls of any accounts in
any order, and `on_finalize` after each block. The events are all that says who was given what.

They account for the balances and the issuance throughout a run exactly if no call of `mint` fails
between two of its deposits (`reported_throughout_iff`): such a call leaves what it has deposited,
and deposits no event. Without rampage mints a currency then grows by what the limit allows in
each block (`issuance_le_of_blocks`). -/

namespace HydraDX.Faucet

open Payment (Origin)
open Dispatch Histories

variable {AccountId : Type} [DecidableEq AccountId]

/-! ## Blocks -/

/-- A step of the chain: a call, or the end of a block. -/
inductive Step (AccountId : Type) where
  | call (origin : Origin AccountId) (call : Call)
  | endBlock
  deriving DecidableEq

def Step.next (currency : Currency AccountId) (s : Storage AccountId) :
    Step AccountId → Storage AccountId
  | .call origin c => after currency s (origin, c)
  | .endBlock => onFinalize s

/-- No call of `mint` fails between two of its deposits. -/
def Step.Together (currency : Currency AccountId) (s : Storage AccountId) :
    Step AccountId → Prop
  | .call origin c => TogetherIfMint currency s (origin, c)
  | .endBlock => True

def Step.ended : Step AccountId → Nat
  | .call _ _ => 0
  | .endBlock => 1

/-- How many blocks the steps end. -/
def blocksEnded (steps : List (Step AccountId)) : Nat := (steps.map Step.ended).sum

omit [DecidableEq AccountId] in
@[simp] theorem blocksEnded_cons (x : Step AccountId) (steps : List (Step AccountId)) :
    blocksEnded (x :: steps) = x.ended + blocksEnded steps := rfl

/-! ## What the events say -/

def Event.who : Event AccountId → AccountId
  | .RampageMint who _ _ => who
  | .Mint who => who

/-- How much of the currency an event says was created, where these currencies are mintable. -/
def Event.created (mintable : List AssetId) (asset : AssetId) : Event AccountId → Nat
  | .RampageMint _ c amount => if asset = c then amount else 0
  | .Mint _ => mintAmount * mintable.count asset

def Event.credited (mintable : List AssetId) (asset : AssetId) (who : AccountId)
    (event : Event AccountId) : Nat :=
  if who = event.who then event.created mintable asset else 0

def Event.isMint : Event AccountId → Bool
  | .RampageMint _ _ _ => false
  | .Mint _ => true

section EventFields

variable {mintable : List AssetId} {asset c : AssetId} {who w : AccountId} {amount : Nat}

@[simp] theorem Event.credited_mint : (Event.Mint w).credited mintable asset who
    = if who = w then mintAmount * mintable.count asset else 0 := rfl

@[simp] theorem Event.credited_rampageMint :
    (Event.RampageMint w c amount).credited mintable asset who
      = if who = w then if asset = c then amount else 0 else 0 := rfl

omit [DecidableEq AccountId]

@[simp] theorem Event.isMint_mint : (Event.Mint w).isMint = true := rfl

@[simp] theorem Event.isMint_rampageMint : (Event.RampageMint w c amount).isMint = false := rfl

end EventFields

/-- The events account for what has become of the ledger `l`. -/
structure Reported (l : Ledger AssetId AccountId) (s : Storage AccountId) : Prop where
  free : ∀ asset who, s.ledger.free asset who = l.free asset who
    + (s.events.map (Event.credited s.mintableCurrencies asset who)).sum
  issuance : ∀ asset, s.ledger.issuance asset = l.issuance asset
    + (s.events.map (Event.created s.mintableCurrencies asset)).sum

variable {currency : Currency AccountId} {s s' s₁ : Storage AccountId} {who : AccountId}
  {l : Ledger AssetId AccountId} {origin : Origin AccountId} {cs : List AssetId}

theorem reported_build (g : GenesisConfig) (l : Ledger AssetId AccountId) :
    Reported l (g.build l) :=
  ⟨fun _ _ => rfl, fun _ => rfl⟩

/-- A call that credits an account with what its event says. -/
theorem Reported.depositEvent (h : Reported l s) (event : Event AccountId)
    (hmintable : s'.mintableCurrencies = s.mintableCurrencies) (hevents : s'.events = s.events)
    (hfree : ∀ asset who, s'.ledger.free asset who
      = s.ledger.free asset who + event.credited s.mintableCurrencies asset who)
    (hissuance : ∀ asset, s'.ledger.issuance asset
      = s.ledger.issuance asset + event.created s.mintableCurrencies asset) :
    Reported l (s'.depositEvent event) := by
  have hlog : (s'.depositEvent event).events = s.events ++ [event] := by
    show s'.events ++ [event] = _
    rw [hevents]
  have hlist : (s'.depositEvent event).mintableCurrencies = s.mintableCurrencies := hmintable
  refine ⟨fun asset who => ?_, fun asset => ?_⟩
  · rw [hlog, hlist, List.map_append, List.sum_append, List.map_singleton, List.sum_singleton,
      ← Nat.add_assoc, ← h.free]
    exact hfree asset who
  · rw [hlog, hlist, List.map_append, List.sum_append, List.map_singleton, List.sum_singleton,
      ← Nat.add_assoc, ← h.issuance]
    exact hissuance asset

/-! ## One call -/

/-- The deposits of a call credit one account. -/
theorem free_of_foldlM_of_ne {other : AccountId} (hne : other ≠ who)
    (h : cs.foldlM (deposit currency who mintAmount) s = .ok s') (c : AssetId) :
    s'.ledger.free c other = s.ledger.free c other := by
  induction cs generalizing s with
  | nil =>
      have hs : s = s' := Fallible.foldlM_nil_eq_ok.mp h
      rw [hs]
  | cons first cs ih =>
      obtain ⟨s₁, hdeposit, h⟩ := Fallible.foldlM_cons_eq_ok.mp h
      have hs₁ := deposit_ok hdeposit
      have hfirst : s₁.ledger.free c other = s.ledger.free c other := by
        rw [hs₁]
        exact Ledger.mint_free_of_ne (Or.inr hne)
      rw [ih h, hfirst]

/-- What a call of `mint` credits if it is counted. -/
theorem Reported.counted (h : Reported l s)
    (hdeposits : s.mintableCurrencies.foldlM (deposit currency who mintAmount) s = .ok s₁) :
    Reported l ({ s₁ with minted := s₁.minted + 1 }.depositEvent (.Mint who)) := by
  have hd := deposited_of_foldlM hdeposits
  apply h.depositEvent
  · show s₁.mintableCurrencies = _
    rw [hd.state_eq]
  · show s₁.events = _
    rw [hd.state_eq]
  · intro asset other
    show s₁.ledger.free asset other = _
    rw [Event.credited_mint]
    by_cases hother : other = who
    · subst hother
      rw [hd.free, if_pos rfl]
    · rw [free_of_foldlM_of_ne hother hdeposits, if_neg hother, Nat.add_zero]
  · intro asset
    exact hd.issuance asset

/-- A call of `mint` keeps the account exactly if its deposits fail together. -/
theorem Reported.mint_iff (h : Reported l s) :
    Reported l (exec (mint currency origin) s).2 ↔ DepositsTogether currency s origin := by
  constructor
  · intro h'
    rw [← failed_iff_together]
    intro e s' hx
    have hcases := mint_cases currency s origin
    rw [hx] at hcases h'
    dsimp only at hcases h'
    -- the call has failed, so there is no new event
    have hsame : s'.events = s.events ∧ s'.mintableCurrencies = s.mintableCurrencies := by
      cases hcases with
      | refused e => exact ⟨rfl, rfl⟩
      | broken signed limit split deposits fails =>
          have hd := deposited_of_foldlM deposits
          exact ⟨by rw [hd.state_eq], by rw [hd.state_eq]⟩
    funext asset who
    have hfree : s'.ledger.free asset who = _ := h'.free asset who
    rw [hfree, hsame.1, hsame.2]
    exact (h.free asset who).symm
  · intro htogether
    rcases mint_together htogether with ⟨e, he⟩ | ⟨who, s₁, -, hdeposits, hok⟩
    · rw [he]
      exact h
    · rw [hok]
      exact h.counted hdeposits

/-- A rampage mint is refused, or it credits the amount that its event names. -/
theorem rampageMint_cases (currency : Currency AccountId) (s : Storage AccountId)
    (origin : Origin AccountId) (asset : AssetId) (amount : Nat) :
    (exec (rampageMint currency origin asset amount) s).2 = s ∨
    (s.rampage = true ∧ ∃ who, (exec (rampageMint currency origin asset amount) s).2 =
      { s with ledger := s.ledger.mint asset who amount }.depositEvent
        (.RampageMint who asset amount)) := by
  unfold rampageMint
  cases origin with
  | Root => exact Or.inl rfl
  | None => exact Or.inl rfl
  | Signed who =>
      rw [exec_lift_bind_of_ok (Payment.Origin.signedOr_signed _ who), exec_get_bind]
      by_cases hrampage : s.rampage = true
      · rw [exec_ensure_bind_of_pos hrampage]
        cases hd : deposit currency who amount s asset with
        | error e =>
            rw [exec_bind_of_error (exec_atomic_of_error hd)]
            exact Or.inl rfl
        | ok s₁ =>
            rw [exec_bind_of_ok (exec_atomic_of_ok hd), deposit_ok hd]
            exact Or.inr ⟨hrampage, who, rfl⟩
      · rw [exec_ensure_bind_of_neg hrampage]
        exact Or.inl rfl

theorem Reported.rampageMint (h : Reported l s) (asset : AssetId) (amount : Nat) :
    Reported l (exec (Faucet.rampageMint currency origin asset amount) s).2 := by
  rcases rampageMint_cases currency s origin asset amount with hs | ⟨-, who, hs⟩
  · rw [hs]
    exact h
  · rw [hs]
    apply h.depositEvent
    · rfl
    · rfl
    · intro c other
      show (s.ledger.mint asset who amount).free c other = _
      rw [Event.credited_rampageMint]
      by_cases hother : other = who
      · subst hother
        rw [Ledger.mint_free_self, if_pos rfl]
      · rw [Ledger.mint_free_of_ne (Or.inr hother), if_neg hother, Nat.add_zero]
    · intro c
      show (s.ledger.mint asset who amount).issuance c = _
      rw [Ledger.mint_issuance, Event.created]
      split_ifs with hc
      · rw [hc]
      · rfl

/-! ## Runs -/

theorem Reported.next_iff (h : Reported l s) (x : Step AccountId) :
    Reported l (x.next currency s) ↔ x.Together currency s := by
  cases x with
  | call origin call =>
      cases call with
      | rampageMint asset amount => exact iff_of_true (h.rampageMint asset amount) nofun
      | mint => exact h.mint_iff.trans ⟨fun h _ => h, fun h => h rfl⟩
  | endBlock => exact iff_of_true ⟨h.free, h.issuance⟩ trivial

/-- **The events account for the balances throughout a run** exactly if none of its calls of `mint`
fails between two of its deposits. -/
theorem reported_throughout_iff (currency : Currency AccountId) (g : GenesisConfig)
    (l : Ledger AssetId AccountId) (steps : List (Step AccountId)) :
    Throughout (Step.next currency) (Reported l) (g.build l) steps ↔
      Each (Step.next currency) (Step.Together currency) (g.build l) steps := by
  apply throughout_iff_each
  · intro s x h
    exact h.next_iff x
  · exact reported_build g l

/-! ## The rate -/

/-- What holds after so many blocks, and within the next. The counter is the number of mints that
the events of the block name. -/
structure Rated (g : GenesisConfig) (blocks : Nat) (s : Storage AccountId) : Prop where
  mintLimit : s.mintLimit = g.mintLimit
  mintableCurrencies : s.mintableCurrencies = g.mintableCurrencies
  rampage : s.rampage = g.rampage
  minted : s.minted.toNat ≤ g.mintLimit.toNat
  mints : s.events.countP Event.isMint ≤ blocks * g.mintLimit.toNat + s.minted.toNat
  onlyMints : g.rampage = false → ∀ event ∈ s.events, event.isMint = true

variable {g : GenesisConfig} {blocks : Nat}

omit [DecidableEq AccountId] in
theorem rated_build (g : GenesisConfig) (l : Ledger AssetId AccountId) :
    Rated g 0 (g.build l) where
  mintLimit := rfl
  mintableCurrencies := rfl
  rampage := rfl
  minted := Nat.zero_le _
  mints := Nat.zero_le _
  onlyMints := fun _ => nofun

omit [DecidableEq AccountId] in
/-- The rate does not depend on the balances. -/
theorem Rated.of_ledger (h : Rated g blocks s) (hs : s₁ = { s with ledger := s₁.ledger }) :
    Rated g blocks s₁ := by
  rw [hs]
  exact ⟨h.mintLimit, h.mintableCurrencies, h.rampage, h.minted, h.mints, h.onlyMints⟩

theorem Rated.mint (h : Rated g blocks s) :
    Rated g blocks (exec (mint currency origin) s).2 := by
  have hcases := mint_cases currency s origin
  generalize (exec (Faucet.mint currency origin) s).1 = result at hcases
  generalize (exec (Faucet.mint currency origin) s).2 = s' at hcases
  cases hcases with
  | refused e => exact h
  | broken signed limit split deposits fails =>
      exact h.of_ledger (deposited_of_foldlM deposits).state_eq
  | @counted who s₁ limit deposits =>
      have h₁ : Rated g blocks s₁ := h.of_ledger (deposited_of_foldlM deposits).state_eq
      have hminted₁ : s₁.minted = s.minted := by rw [(deposited_of_foldlM deposits).state_eq]
      have hlt : s.minted.toNat < g.mintLimit.toNat := by
        rw [← h.mintLimit]
        exact UInt8.lt_iff_toNat_lt.mp limit
      have hbound : g.mintLimit.toNat < 256 := g.mintLimit.toNat_lt
      -- the counter is below the limit, so it does not wrap
      have hminted : (s₁.minted + 1).toNat = s.minted.toNat + 1 := by
        rw [hminted₁, UInt8.toNat_add, UInt8.toNat_one]
        omega
      refine ⟨h₁.mintLimit, h₁.mintableCurrencies, h₁.rampage, ?_, ?_, ?_⟩
      · show (s₁.minted + 1).toNat ≤ _
        omega
      · show (s₁.events ++ [Event.Mint who]).countP Event.isMint
          ≤ blocks * g.mintLimit.toNat + (s₁.minted + 1).toNat
        have hmints := h₁.mints
        rw [hminted₁] at hmints
        simp only [List.countP_append, List.countP_singleton, Event.isMint_mint, if_true]
        omega
      · intro hrampage event hevent
        rcases List.mem_append.mp hevent with hevent | hevent
        · exact h₁.onlyMints hrampage event hevent
        · rw [List.mem_singleton.mp hevent]
          rfl

theorem Rated.rampageMint (h : Rated g blocks s) (asset : AssetId) (amount : Nat) :
    Rated g blocks (exec (Faucet.rampageMint currency origin asset amount) s).2 := by
  rcases rampageMint_cases currency s origin asset amount with hs | ⟨hrampage, who, hs⟩
  · rw [hs]
    exact h
  · rw [hs]
    refine ⟨h.mintLimit, h.mintableCurrencies, h.rampage, h.minted, ?_, ?_⟩
    · show (s.events ++ [Event.RampageMint who asset amount]).countP Event.isMint
        ≤ blocks * g.mintLimit.toNat + s.minted.toNat
      rw [List.countP_append, List.countP_singleton, Event.isMint_rampageMint,
        if_neg Bool.false_ne_true, Nat.add_zero]
      exact h.mints
    · intro hoff
      rw [h.rampage, hoff] at hrampage
      cases hrampage

omit [DecidableEq AccountId] in
/-- The mints of a block are added to those before it. -/
theorem Rated.onFinalize (h : Rated g blocks s) : Rated g (blocks + 1) (onFinalize s) := by
  refine ⟨h.mintLimit, h.mintableCurrencies, h.rampage, Nat.zero_le _, ?_, h.onlyMints⟩
  have hmints := h.mints
  have hminted := h.minted
  show s.events.countP Event.isMint ≤ (blocks + 1) * g.mintLimit.toNat + 0
  rw [Nat.succ_mul]
  omega

theorem Rated.next (h : Rated g blocks s) (x : Step AccountId) :
    Rated g (blocks + x.ended) (x.next currency s) := by
  cases x with
  | call origin c =>
      cases c with
      | rampageMint asset amount => exact h.rampageMint asset amount
      | mint => exact h.mint
  | endBlock => exact h.onFinalize

theorem Rated.run (h : Rated g blocks s) (steps : List (Step AccountId)) :
    Rated g (blocks + blocksEnded steps) (Histories.run (Step.next currency) s steps) := by
  induction steps generalizing s blocks with
  | nil => exact h
  | cons x steps ih =>
      rw [blocksEnded_cons, ← Nat.add_assoc]
      exact ih (h.next x)

omit [DecidableEq AccountId] in
/-- Without rampage mints, what was created is counted by the mints. -/
theorem sum_created_of_onlyMints {mintable : List AssetId} {asset : AssetId}
    {events : List (Event AccountId)} (h : ∀ event ∈ events, event.isMint = true) :
    (events.map (Event.created mintable asset)).sum
      = events.countP Event.isMint * (mintAmount * mintable.count asset) := by
  induction events with
  | nil =>
      rw [List.countP_nil, Nat.zero_mul]
      rfl
  | cons event events ih =>
      have hrest := ih fun e he => h e (List.mem_cons_of_mem event he)
      cases event with
      | RampageMint who c amount => exact absurd (h _ List.mem_cons_self) nofun
      | Mint who =>
          rw [List.map_cons, List.sum_cons, hrest, List.countP_cons_of_pos rfl, Nat.succ_mul,
            Nat.add_comm, Event.created]

/-- Nothing is credited that was not created. -/
theorem sum_credited_le (mintable : List AssetId) (asset : AssetId) (who : AccountId)
    (events : List (Event AccountId)) :
    (events.map (Event.credited mintable asset who)).sum
      ≤ (events.map (Event.created mintable asset)).sum := by
  apply List.sum_le_sum
  intro event _
  unfold Event.credited
  split_ifs with hwho
  · exact le_rfl
  · exact Nat.zero_le _

/-- There is room in the ledger for all that so many blocks may mint. -/
def Ample (g : GenesisConfig) (l : Ledger AssetId AccountId) (blocks : Nat) : Prop :=
  ∀ c, l.issuance c + blocks * (g.mintLimit.toNat * mintAmount * g.mintableCurrencies.count c)
      < balanceBound ∧
    ∀ who, l.free c who
      + blocks * (g.mintLimit.toNat * mintAmount * g.mintableCurrencies.count c) < balanceBound

omit [DecidableEq AccountId] in
theorem Ample.mono {m n : Nat} (h : Ample g l n) (hmn : m ≤ n) : Ample g l m := by
  intro c
  have hle : m * (g.mintLimit.toNat * mintAmount * g.mintableCurrencies.count c)
      ≤ n * (g.mintLimit.toNat * mintAmount * g.mintableCurrencies.count c) :=
    Nat.mul_le_mul_right _ hmn
  obtain ⟨hissuance, hfree⟩ := h c
  refine ⟨by omega, fun who => ?_⟩
  have hfree := hfree who
  omega

omit [DecidableEq AccountId] in
/-- What the events name was created, and within the limit. -/
theorem Rated.created_le (h : Rated g blocks s) (hoff : g.rampage = false) (c : AssetId) :
    (s.events.map (Event.created s.mintableCurrencies c)).sum
      ≤ (blocks * g.mintLimit.toNat + s.minted.toNat)
        * (mintAmount * g.mintableCurrencies.count c) := by
  rw [h.mintableCurrencies, sum_created_of_onlyMints (h.onlyMints hoff)]
  exact Nat.mul_le_mul_right _ h.mints

/-- A call within the limit finds room for all of its deposits. -/
theorem Rated.roomForAll (h : Rated g blocks s) (hreported : Reported l s)
    (hoff : g.rampage = false) (hample : Ample g l (blocks + 1)) : RoomForAll s origin := by
  intro who _ _ _ hlimit _ _ c _
  have hlt : s.minted.toNat + 1 ≤ g.mintLimit.toNat := by
    rw [← h.mintLimit]
    exact UInt8.lt_iff_toNat_lt.mp hlimit
  -- with the deposits of this call, it is still what the blocks may mint
  have hnext : (blocks * g.mintLimit.toNat + s.minted.toNat)
        * (mintAmount * g.mintableCurrencies.count c) + mintAmount * g.mintableCurrencies.count c
      ≤ (blocks + 1) * (g.mintLimit.toNat * mintAmount * g.mintableCurrencies.count c) := by
    calc (blocks * g.mintLimit.toNat + s.minted.toNat)
          * (mintAmount * g.mintableCurrencies.count c) + mintAmount * g.mintableCurrencies.count c
        = (blocks * g.mintLimit.toNat + (s.minted.toNat + 1))
          * (mintAmount * g.mintableCurrencies.count c) := by ring
      _ ≤ (blocks * g.mintLimit.toNat + g.mintLimit.toNat)
          * (mintAmount * g.mintableCurrencies.count c) :=
          Nat.mul_le_mul_right _ (Nat.add_le_add_left hlt _)
      _ = (blocks + 1) * (g.mintLimit.toNat * mintAmount * g.mintableCurrencies.count c) := by ring
  have hcreated := h.created_le hoff c
  have hcredited := sum_credited_le s.mintableCurrencies c who s.events
  obtain ⟨hissuance, hfree⟩ := hample c
  have hfree := hfree who
  unfold HasRoom
  rw [hreported.free, hreported.issuance, h.mintableCurrencies]
  rw [h.mintableCurrencies] at hcreated hcredited
  exact ⟨by omega, by omega⟩

/-- **All calls of `mint` are all or nothing** in a run that the ledger has room for. -/
theorem together_of_ample (hrefuses : RefusesOverflow currency) (hoff : g.rampage = false)
    {steps : List (Step AccountId)} (hreported : Reported l s) (h : Rated g blocks s)
    (hample : Ample g l (blocks + blocksEnded steps + 1)) :
    Each (Step.next currency) (Step.Together currency) s steps := by
  induction steps generalizing s blocks with
  | nil => trivial
  | cons x steps ih =>
      have hx : x.Together currency s := by
        cases x with
        | endBlock => trivial
        | call origin c =>
            intro _
            rw [together_iff_room hrefuses]
            refine h.roomForAll hreported hoff (hample.mono ?_)
            omega
      rw [blocksEnded_cons, ← Nat.add_assoc] at hample
      exact ⟨hx, ih ((hreported.next_iff x).mpr hx) (h.next x) hample⟩

/-- **The rate of the faucet.** Where rampage mints are not allowed and the ledger has room for what
the blocks may mint, the events account for the balances throughout, and no block creates more of
a currency than its limit allows. -/
theorem issuance_le_of_blocks (currency : Currency AccountId) (hrefuses : RefusesOverflow currency)
    (g : GenesisConfig) (hoff : g.rampage = false) (l : Ledger AssetId AccountId)
    (steps : List (Step AccountId)) (hample : Ample g l (blocksEnded steps + 1)) :
    Throughout (Step.next currency) (Reported l) (g.build l) steps ∧
    ∀ asset, (run (Step.next currency) (g.build l) steps).ledger.issuance asset ≤ l.issuance asset
      + (blocksEnded steps + 1)
        * (g.mintLimit.toNat * mintAmount * g.mintableCurrencies.count asset) := by
  have hrun : Throughout (Step.next currency) (Reported l) (g.build l) steps := by
    apply Each.throughout (fun s x h hx => (h.next_iff x).mpr hx) (reported_build g l)
    apply together_of_ample hrefuses hoff (reported_build g l) (rated_build g l)
    rw [Nat.zero_add]
    exact hample
  refine ⟨hrun, fun asset => ?_⟩
  have hreported : Reported l (run (Step.next currency) (g.build l) steps) :=
    hrun steps (List.prefix_refl steps)
  have hrated : Rated g (0 + blocksEnded steps) (run (Step.next currency) (g.build l) steps) :=
    (rated_build g l).run steps
  rw [Nat.zero_add] at hrated
  rw [hreported.issuance]
  apply Nat.add_le_add_left
  calc _ ≤ (blocksEnded steps * g.mintLimit.toNat + _)
          * (mintAmount * g.mintableCurrencies.count asset) := hrated.created_le hoff asset
    _ ≤ (blocksEnded steps * g.mintLimit.toNat + g.mintLimit.toNat)
          * (mintAmount * g.mintableCurrencies.count asset) :=
        Nat.mul_le_mul_right _ (Nat.add_le_add_left hrated.minted _)
    _ = (blocksEnded steps + 1)
          * (g.mintLimit.toNat * mintAmount * g.mintableCurrencies.count asset) := by ring

/-- Two accounts mint the currencies `2000` and `3000`, one of them twice in its block. -/
def mintingBlocks : List (Step Dev.AccountId) :=
  [.call (.Signed [2]) .mint, .call (.Signed [2]) .mint, .endBlock, .call (.Signed [1]) .mint]

/-- The second call is refused, so the two blocks have room for two calls. -/
theorem issuance_le_of_blocks_minting :
    (run (Step.next checkedTokens)
      (GenesisConfig.build { mintLimit := 1, rampage := false, mintableCurrencies := [2000, 3000] }
        (Dev.genesis []).ledger) mintingBlocks).ledger.issuance 2000
      ≤ (Dev.genesis []).ledger.issuance 2000
        + (blocksEnded mintingBlocks + 1) * (1 * mintAmount * 1) := by
  refine (issuance_le_of_blocks checkedTokens checkedTokens_refuses
    { mintLimit := 1, rampage := false, mintableCurrencies := [2000, 3000] } rfl
    (Dev.genesis []).ledger mintingBlocks ?_).2 2000
  intro c
  have hcount : List.count c [2000, 3000] ≤ 2 := List.count_le_length
  have hblocks : blocksEnded mintingBlocks = 1 := rfl
  have hlimit : UInt8.toNat 1 = 1 := rfl
  have hroom : 0 + (1 + 1) * (1 * mintAmount * List.count c [2000, 3000]) < balanceBound := by
    rw [show mintAmount = 1000000000000000 from rfl, show balanceBound = 2 ^ 128 from rfl]
    omega
  exact ⟨hroom, fun _ => hroom⟩

end HydraDX.Faucet
