import HydraDX.Actions
import HydraDX.Lib.Decimal

set_option autoImplicit false

/-! # The runtime API of the pools

`get_pool_balances` of the pallet and of the runtime, and the text form of an amount in
`pallets/xyk/rpc/runtime-api/src/lib.rs`. A node answers for any account: with the two reserves if it
is the account of a pool, and with an empty list otherwise (`getPoolBalances_run`). Amounts do not
fit into a number of JSON and travel as text, which is read back as it was written
(`amount_text`). -/

namespace HydraDX.XYK

variable {AccountId Hash : Type} [DecidableEq AccountId]

/-! ## The queries -/

def getPoolAssets (s : State AccountId Hash) (poolAccountId : AccountId) : Option (List AssetId) :=
  match s.poolAssets poolAccountId with
  | some assets => some [assets.1, assets.2]
  | none => none

def getPoolBalances (s : State AccountId Hash) (poolAddress : AccountId) :
    Option (List (AssetId × Nat)) :=
  match getPoolAssets s poolAddress with
  | some assets => some (assets.map fun item => (item, s.ledger.free item poolAddress))
  | none => some []

structure BalanceInfo (Balance : Type) where
  amount : Balance
  asset : Option AssetId
  deriving DecidableEq, Repr

namespace Runtime

/-- `get_pool_balances` of the runtime, with its `unwrap`. -/
def getPoolBalances (s : State AccountId Hash) (poolAddress : AccountId) :
    Except Panic (List (BalanceInfo Nat)) :=
  match XYK.getPoolBalances s poolAddress with
  | some poolBalances => .ok (poolBalances.map fun b => ⟨b.2, some b.1⟩)
  | none => .error .expectFailed

end Runtime

/-! ## The text of an amount -/

open Decimal

def serializeAsString (amount : Nat) : List UInt8 := numeral amount

/-- `char::to_digit` -/
def toDigit (c : UInt8) : Option Nat := if IsDigit c then some (c.toNat - 48) else none

/-- The body of the loop of `u128::from_str`. -/
def pushDigit (result : Nat) (c : UInt8) : Option Nat := do
  let result ← checkedMul result 10
  let x ← toDigit c
  checkedAdd result x

def parseDigits (digits : List UInt8) : Option Nat := digits.foldlM pushDigit 0

/-- `u128::from_str`. A sign alone is no number, and a minus is no sign of an unsigned number. -/
def parse : List UInt8 → Option Nat
  | [] => none
  | c :: rest =>
      if (c = 43 ∨ c = 45) ∧ rest = [] then none
      else if c = 43 then parseDigits rest
      else parseDigits (c :: rest)

def deserializeFromString (text : List UInt8) : Option Nat := parse text

/-- The text of an amount: digits, after a plus or not. -/
inductive Denotes : List UInt8 → Nat → Prop where
  | digits {text : List UInt8} (hne : text ≠ []) (hdigits : ∀ c ∈ text, IsDigit c) :
      Denotes text (value text)
  | plus {text : List UInt8} (hne : text ≠ []) (hdigits : ∀ c ∈ text, IsDigit c) :
      Denotes (43 :: text) (value text)

theorem pushDigit_eq_some {result n : Nat} {c : UInt8} :
    pushDigit result c = some n ↔
      IsDigit c ∧ n = 10 * result + (c.toNat - 48) ∧ n < balanceBound := by
  unfold pushDigit toDigit
  simp only [Option.bind_eq_bind, Option.bind_eq_some_iff, checkedMul_eq_some, checkedAdd_eq_some]
  constructor
  · rintro ⟨_, ⟨-, rfl⟩, _, hx, hlt, rfl⟩
    split_ifs at hx with hc
    cases hx
    exact ⟨hc, by omega, hlt⟩
  · rintro ⟨hc, rfl, hlt⟩
    exact ⟨result * 10, ⟨by omega, rfl⟩, _, if_pos hc, by omega, by omega⟩

/-- **What the loop reads**: digits, of a number that fits. -/
theorem foldlM_digits {result n : Nat} {digits : List UInt8} (hresult : result < balanceBound) :
    digits.foldlM pushDigit result = some n ↔
      (∀ c ∈ digits, IsDigit c) ∧ n = valueFrom result digits ∧ n < balanceBound := by
  induction digits generalizing result with
  | nil =>
      constructor
      · intro h
        cases h
        exact ⟨fun _ hc => absurd hc List.not_mem_nil, rfl, hresult⟩
      · rintro ⟨-, rfl, -⟩
        rfl
  | cons c digits ih =>
      rw [List.foldlM_cons, Option.bind_eq_bind, Option.bind_eq_some_iff]
      simp only [pushDigit_eq_some]
      constructor
      · rintro ⟨next, ⟨hc, rfl, hnext⟩, hrest⟩
        obtain ⟨hdigits, hvalue, hlt⟩ := (ih hnext).mp hrest
        exact ⟨List.forall_mem_cons.mpr ⟨hc, hdigits⟩, hvalue, hlt⟩
      · rintro ⟨hdigits, hvalue, hlt⟩
        obtain ⟨hc, hdigits⟩ := List.forall_mem_cons.mp hdigits
        rw [valueFrom_cons] at hvalue
        -- what is read so far is no more than the whole number
        have hnext := le_valueFrom (10 * result + (c.toNat - 48)) digits
        refine ⟨_, ⟨hc, rfl, by omega⟩, ?_⟩
        exact (ih (by omega)).mpr ⟨hdigits, hvalue, hlt⟩

theorem parseDigits_eq_some {n : Nat} {digits : List UInt8} :
    parseDigits digits = some n ↔
      (∀ c ∈ digits, IsDigit c) ∧ n = value digits ∧ n < balanceBound :=
  foldlM_digits (by decide)

/-- A text whose first character is no digit and no plus denotes nothing. -/
theorem not_denotes_of_head {c : UInt8} {rest : List UInt8} {n : Nat} (hc : ¬ IsDigit c)
    (hplus : c = 43 → rest = []) : ¬ Denotes (c :: rest) n := by
  intro h
  cases h with
  | digits hne hdigits => exact hc (hdigits c List.mem_cons_self)
  | plus hne hdigits => exact hne (hplus rfl)

theorem denotes_cons_iff {c : UInt8} {rest : List UInt8} {n : Nat} (hc : c ≠ 43) :
    Denotes (c :: rest) n ↔ (∀ d ∈ c :: rest, IsDigit d) ∧ n = value (c :: rest) := by
  constructor
  · intro h
    cases h with
    | digits hne hdigits => exact ⟨hdigits, rfl⟩
    | plus hne hdigits => exact absurd rfl hc
  · rintro ⟨hdigits, rfl⟩
    exact .digits (List.cons_ne_nil _ _) hdigits

theorem denotes_plus_iff {rest : List UInt8} {n : Nat} (hrest : rest ≠ []) :
    Denotes (43 :: rest) n ↔ (∀ d ∈ rest, IsDigit d) ∧ n = value rest := by
  constructor
  · intro h
    cases h with
    | digits hne hdigits => exact absurd (hdigits 43 List.mem_cons_self) (by decide)
    | plus hne hdigits => exact ⟨hdigits, rfl⟩
  · rintro ⟨hdigits, rfl⟩
    exact .plus hrest hdigits

/-- **What is read as an amount.** -/
theorem parse_eq_some {text : List UInt8} {n : Nat} :
    parse text = some n ↔ Denotes text n ∧ n < balanceBound := by
  cases text with
  | nil =>
      constructor
      · intro h
        cases h
      · rintro ⟨h, -⟩
        cases h with
        | digits hne => exact absurd rfl hne
  | cons c rest =>
      simp only [parse]
      split_ifs with hsign hplus
      · -- a sign alone
        have hnot : ¬ Denotes (c :: rest) n := by
          refine not_denotes_of_head ?_ fun _ => hsign.2
          rcases hsign.1 with rfl | rfl
          · decide
          · decide
        constructor
        · intro h
          cases h
        · rintro ⟨h, -⟩
          exact absurd h hnot
      · subst hplus
        have hrest : rest ≠ [] := fun he => hsign ⟨Or.inl rfl, he⟩
        rw [parseDigits_eq_some, denotes_plus_iff hrest, and_assoc]
      · rw [parseDigits_eq_some, denotes_cons_iff hplus, and_assoc]

/-- **The text format of amounts**: a text is read as an amount exactly if it denotes the amount and
the amount is a `u128`, and every amount is read back from the text it is written as. -/
theorem amount_text :
    (∀ text n, deserializeFromString text = some n ↔ Denotes text n ∧ n < balanceBound) ∧
    ∀ n, n < balanceBound → deserializeFromString (serializeAsString n) = some n := by
  refine ⟨fun _ _ => parse_eq_some, fun n hn => parse_eq_some.mpr ⟨?_, hn⟩⟩
  have hdenotes := Denotes.digits (numeral_ne_nil n) fun _ hc => isDigit_of_mem_numeral hc
  rwa [value_numeral] at hdenotes

theorem amount_text_max :
    deserializeFromString (serializeAsString (balanceBound - 1)) = some (balanceBound - 1) :=
  amount_text.2 _ (by decide)

/-! ## What a node answers -/

variable {cfg : Config AccountId Hash} {s s' : State AccountId Hash}

/-- An account has the entries of a pool of two assets whose account it is, or none. -/
def Registered (cfg : Config AccountId Hash) (s : State AccountId Hash) : Prop :=
  ∀ account, (s.shareToken account = none ∧ s.poolAssets account = none) ∨
    ∃ assets : AssetPair, account = getPairId cfg assets ∧ (s.shareToken account).isSome ∧
      s.poolAssets account = some (assets.assetIn, assets.assetOut)

theorem Registered.congr (hs : Registered cfg s) (htoken : s'.shareToken = s.shareToken)
    (hassets : s'.poolAssets = s.poolAssets) : Registered cfg s' := by
  intro account
  rw [htoken, hassets]
  exact hs account

theorem Registered.action (hs : Registered cfg s) {action : Action AccountId}
    (h : action.dispatch cfg s = .ok s') : Registered cfg s' := by
  rcases Action.cases h with hq | ⟨_, a, b, _, _, hc⟩ | ⟨_, a, b, _, _, hc⟩ | ⟨_, a, b, _, hc⟩
  · exact hs.congr hq.shareToken hq.poolAssets
  · obtain ⟨_, _, _, hc⟩ := createPool_ok hc
    rw [hc.state_eq]
    intro account
    by_cases haccount : account = getPairId cfg ⟨a, b⟩
    · right
      refine ⟨⟨a, b⟩, haccount, ?_, ?_⟩
      · rw [haccount]
        simp only [Function.update_self, Option.isSome_some]
      · rw [haccount]
        exact Function.update_self _ _ _
    · simp only [Function.update_of_ne haccount]
      exact hs account
  · obtain ⟨_, _, hc⟩ := addLiquidity_ok hc
    rw [hc.state_eq]
    exact hs.congr rfl rfl
  · obtain ⟨_, _, hc⟩ := removeLiquidity_ok hc
    intro account
    rw [hc.shareToken_eq, hc.poolAssets_eq]
    split_ifs
    · by_cases haccount : account = getPairId cfg ⟨a, b⟩
      · left
        rw [haccount, Function.update_self, Function.update_self]
        exact ⟨rfl, rfl⟩
      · rw [Function.update_of_ne haccount, Function.update_of_ne haccount]
        exact hs account
    · exact hs account

/-- **What a node answers about pools**, in every state of the chain and for every account: it does
not panic; for the account of a pool it gives the two assets with what the pool holds of them, in
the order in which the pool was created; for any other account it gives nothing. -/
theorem getPoolBalances_run (hinj : SeedsInjective cfg) {s₀ : State AccountId Hash} (h₀ : NoPools s₀)
    (run : ChainRuns cfg s₀ s) (account : AccountId) :
    ∃ infos, Runtime.getPoolBalances s account = .ok infos ∧
      (∀ assets : AssetPair, account = getPairId cfg assets → poolExists cfg s assets = true →
        infos = [⟨reserveOf cfg s assets assets.assetIn, some assets.assetIn⟩,
            ⟨reserveOf cfg s assets assets.assetOut, some assets.assetOut⟩] ∨
          infos = [⟨reserveOf cfg s assets assets.assetOut, some assets.assetOut⟩,
            ⟨reserveOf cfg s assets assets.assetIn, some assets.assetIn⟩]) ∧
      ((∀ assets : AssetPair, account = getPairId cfg assets → poolExists cfg s assets = false) →
        infos = []) := by
  have hregistered : Registered cfg s := run.invariant (I := Registered cfg)
    (fun _ _ _ hs _ h => hs.action h)
    fun account => Or.inl ⟨h₀.shareToken account, h₀.poolAssets account⟩
  unfold Runtime.getPoolBalances XYK.getPoolBalances getPoolAssets
  rcases hregistered account with ⟨htoken, hassets⟩ | ⟨stored, rfl, htoken, hassets⟩
  · rw [hassets]
    refine ⟨[], rfl, ?_, fun _ => rfl⟩
    rintro assets rfl hpool
    rw [poolExists, htoken] at hpool
    cases hpool
  · rw [hassets]
    refine ⟨_, rfl, ?_, fun hnone => ?_⟩
    · intro assets haccount _
      rcases hinj.eq_or_swap haccount with rfl | rfl
      · exact Or.inl rfl
      · right
        unfold reserveOf
        rw [← getPairId_swap assets]
        rfl
    · have hpool := hnone stored rfl
      rw [poolExists, htoken] at hpool
      cases hpool

open Fallible

/-- Two pools are created, and one of them is drained. -/
def drained : Except Exchange.Failure (State Dev.AccountId Dev.Hash) :=
  [.extrinsic (.xyk (.createPool [1] 1 0 1000 (10 ^ 18))),
    .extrinsic (.xyk (.createPool [1] 1 2 500 (10 ^ 18))),
    .extrinsic (.xyk (.removeLiquidity [1] 0 1 1000)), .finalize, .nextBlock].foldlM
      (Action.dispatch Dev.cfg) (Dev.genesis [(0, [1], 4000), (1, [1], 9000), (2, [1], 4000)])

theorem getPoolBalances_run_drained :
    Succeeds drained fun s =>
      Runtime.getPoolBalances s (getPairId Dev.cfg ⟨0, 1⟩) = .ok [] ∧
      (Runtime.getPoolBalances s (getPairId Dev.cfg ⟨1, 2⟩)
          = .ok [⟨500, some 1⟩, ⟨500, some 2⟩] ∨
        Runtime.getPoolBalances s (getPairId Dev.cfg ⟨1, 2⟩)
          = .ok [⟨500, some 2⟩, ⟨500, some 1⟩]) := by
  obtain ⟨s, hs, hnone, hpool, hfirst, hsecond⟩ : Succeeds drained fun s =>
      poolExists Dev.cfg s ⟨0, 1⟩ = false ∧ poolExists Dev.cfg s ⟨1, 2⟩ = true ∧
      reserveOf Dev.cfg s ⟨1, 2⟩ 1 = 500 ∧ reserveOf Dev.cfg s ⟨1, 2⟩ 2 = 500 := by
    decide +kernel
  have key := getPoolBalances_run Dev.seedsInjective (Dev.noPools _)
    (Runs.of_foldlM (fun _ _ => trivial) hs)
  obtain ⟨empty, hempty, -, hnothing⟩ := key (getPairId Dev.cfg ⟨0, 1⟩)
  obtain ⟨infos, hinfos, hpools, -⟩ := key (getPairId Dev.cfg ⟨1, 2⟩)
  have hnil := hnothing fun assets hassets => by rwa [poolExists, ← hassets]
  have hboth := hpools ⟨1, 2⟩ rfl hpool
  rw [hfirst, hsecond] at hboth
  rw [hnil] at hempty
  exact ⟨s, hs, hempty, hboth.imp (fun h => by rw [hinfos, h]) fun h => by rw [hinfos, h]⟩

end HydraDX.XYK
