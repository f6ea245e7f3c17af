import HydraDX.Exchange.Book
import HydraDX.Exchange.Log

set_option autoImplicit false

/-! # The order of submission does not matter

Two blocks with the same book, finalized side by side. The ids of the intentions and the events
differ, and neither is ever looked at: sorting makes the groups the same up to ids, and every
function that the loops of `onFinalize` call takes states with the same ledger to states with
the same ledger (`pallet_related`). -/

namespace HydraDX.Exchange

open Fallible

variable {AccountId Hash : Type} [DecidableEq AccountId] {cfg : Config AccountId Hash}

/-- The intentions differ at most in their ids. -/
def SameUpToId (i j : Intention AccountId Hash) : Prop := ∃ id, j = { i with intentionId := id }

/-- The trades differ at most in the ids of their intentions. -/
def SameTrade (dt dt' : DirectTradeData AccountId Hash) : Prop :=
  ∃ idA idB, dt' = { dt with
    intentionA := { dt.intentionA with intentionId := idA }
    intentionB := { dt.intentionB with intentionId := idB } }

/-- `s` has the storage of `u`, `t` that of `v`, and both have the same ledger. -/
structure Beside (u v s t : State AccountId Hash) : Prop where
  left : State.SameStorage u s
  right : State.SameStorage v t
  ledger : t.ledger = s.ledger

/-- What two blocks have to have in common: the pools, the counters, and the groups of
intentions up to ids, in the order in which they are processed. -/
structure Counterparts (u v : State AccountId Hash) : Prop where
  shareToken : v.shareToken = u.shareToken
  count : ∀ key, v.intentionCount.lookup key = u.intentionCount.lookup key
  groups : ∀ key, List.Forall₂ SameUpToId (sortByAmountIn (u.intentions key))
    (sortByAmountIn (v.intentions key))

section Beside

variable {u v s t : State AccountId Hash}
  {i j copy copy' matched matched' : Intention AccountId Hash}
  {dt dt' : DirectTradeData AccountId Hash} {pairAccount : AccountId}

omit [DecidableEq AccountId] in
theorem Beside.setLedger (h : Beside u v s t) (l : Ledger AssetId AccountId) :
    Beside u v (s.setLedger l) (t.setLedger l) :=
  ⟨h.left.trans rfl, h.right.trans rfl, rfl⟩

omit [DecidableEq AccountId] in
theorem Beside.depositEvent (h : Beside u v s t) (e e' : Event AccountId Hash) :
    Beside u v (s.depositEvent e) (t.depositEvent e') :=
  ⟨h.left.trans rfl, h.right.trans rfl, h.ledger⟩

omit [DecidableEq AccountId] in
theorem Beside.shareToken (h : Beside u v s t) (huv : Counterparts u v) :
    t.shareToken = s.shareToken := by
  rw [h.left, h.right]
  exact huv.shareToken

/-! ## AMM trades -/

theorem validateSell_congr (hledger : t.ledger = s.ledger) (htoken : t.shareToken = s.shareToken) :
    XYK.validateSell cfg t = XYK.validateSell cfg s := by
  obtain ⟨⟩ := s
  obtain ⟨⟩ := t
  simp only at hledger htoken
  subst hledger htoken
  rfl

theorem validateBuy_congr (hledger : t.ledger = s.ledger) (htoken : t.shareToken = s.shareToken) :
    XYK.validateBuy cfg t = XYK.validateBuy cfg s := by
  obtain ⟨⟩ := s
  obtain ⟨⟩ := t
  simp only at hledger htoken
  subst hledger htoken
  rfl

theorem validateIntention_beside (huv : Counterparts u v) (h : Beside u v s t)
    (hij : SameUpToId i j) : validateIntention cfg j t = validateIntention cfg i s := by
  obtain ⟨id, rfl⟩ := hij
  unfold validateIntention
  rw [validateSell_congr h.ledger (h.shareToken huv), validateBuy_congr h.ledger (h.shareToken huv)]

variable (cfg) in
theorem validateRest_beside (huv : Counterparts u v) (h : Beside u v s t)
    (hm : SameUpToId matched matched') (restIn restOut restLimit : Nat) :
    validateRest cfg matched' restIn restOut restLimit t
      = validateRest cfg matched restIn restOut restLimit s := by
  obtain ⟨id, rfl⟩ := hm
  unfold validateRest
  rw [validateSell_congr h.ledger (h.shareToken huv), validateBuy_congr h.ledger (h.shareToken huv)]

theorem executeSell_beside (h : Beside u v s t) (transfer : AMMTransfer AccountId) :
    Matches (Beside u v) (XYK.executeSell cfg transfer s) (XYK.executeSell cfg transfer t) := by
  unfold XYK.executeSell
  rw [h.ledger]
  refine Matches.refl.bind ?_
  rintro l₁ _ rfl
  refine Matches.refl.bind ?_
  rintro l₂ _ rfl
  refine Matches.refl.bind ?_
  rintro l₃ _ rfl
  exact (h.setLedger l₃).depositEvent _ _

theorem executeBuy_beside (h : Beside u v s t) (transfer : AMMTransfer AccountId) :
    Matches (Beside u v) (XYK.executeBuy cfg transfer s) (XYK.executeBuy cfg transfer t) := by
  unfold XYK.executeBuy
  rw [h.ledger]
  refine Matches.refl.bind ?_
  rintro l₁ _ rfl
  refine Matches.refl.bind ?_
  rintro l₂ _ rfl
  refine Matches.refl.bind ?_
  rintro l₃ _ rfl
  exact (h.setLedger l₃).depositEvent _ _

variable (cfg) in
theorem executeAmmTransfer_beside (h : Beside u v s t) (intentionType : IntentionType)
    (id id' : Hash) (transfer : AMMTransfer AccountId) :
    Matches (Beside u v) (executeAmmTransfer cfg intentionType id transfer s)
      (executeAmmTransfer cfg intentionType id' transfer t) := by
  unfold executeAmmTransfer
  cases intentionType with
  | SELL => exact (executeSell_beside h transfer).bind fun _ _ h' => h'.depositEvent _ _
  | BUY => exact (executeBuy_beside h transfer).bind fun _ _ h' => h'.depositEvent _ _

theorem resolveSingleIntention_beside (huv : Counterparts u v) (h : Beside u v s t)
    (hij : SameUpToId i j) :
    Beside u v (resolveSingleIntention cfg i s) (resolveSingleIntention cfg j t) := by
  unfold resolveSingleIntention
  rw [validateIntention_beside huv h hij]
  obtain ⟨id, rfl⟩ := hij
  cases validateIntention cfg i s with
  | error e => exact h.depositEvent _ _
  | ok transfer =>
      simp only
      have hx := executeAmmTransfer_beside cfg h i.sellOrBuy i.intentionId id transfer
      rcases hx.cases with ⟨e, hs, ht⟩ | ⟨s', t', hs, ht, h'⟩
      · rw [hs, ht]
        exact h.depositEvent _ _
      · rw [hs, ht]
        exact h'

/-! ## Direct trades -/

variable (cfg) in
theorem reserveIfCan_beside (h : Beside u v s t) (asset : AssetId) (who : AccountId) (amount : Nat) :
    (DirectTradeData.reserveIfCan cfg asset who amount s = none ∧
      DirectTradeData.reserveIfCan cfg asset who amount t = none) ∨
    ∃ s' t', DirectTradeData.reserveIfCan cfg asset who amount s = some s' ∧
      DirectTradeData.reserveIfCan cfg asset who amount t = some t' ∧ Beside u v s' t' := by
  unfold DirectTradeData.reserveIfCan
  rw [h.ledger]
  cases cfg.currency.reserve asset who amount s.ledger with
  | error e => exact Or.inl ⟨rfl, rfl⟩
  | ok l => exact Or.inr ⟨_, _, rfl, rfl, h.setLedger l⟩

/-- The two preparations end alike. -/
def PreparedAlike (u v : State AccountId Hash)
    (p q : Bool × DirectTradeData AccountId Hash × State AccountId Hash) : Prop :=
  p.1 = q.1 ∧ SameTrade p.2.1 q.2.1 ∧ Beside u v p.2.2 q.2.2

omit [DecidableEq AccountId] in
theorem SameTrade.push (h : SameTrade dt dt') (transfer : Transfer AccountId) :
    SameTrade (dt.push transfer) (dt'.push transfer) := by
  obtain ⟨idA, idB, rfl⟩ := h
  exact ⟨idA, idB, rfl⟩

variable (cfg pairAccount) in
theorem reserveFees_beside (h : Beside u v s t) (hdt : SameTrade dt dt')
    (feeA feeB : FeePayment AccountId) :
    PreparedAlike u v (DirectTradeData.reserveFees cfg dt pairAccount feeA feeB s)
      (DirectTradeData.reserveFees cfg dt' pairAccount feeA feeB t) := by
  unfold DirectTradeData.reserveFees
  rcases reserveIfCan_beside cfg h feeA.asset feeA.who feeA.amount with
    ⟨hs, ht⟩ | ⟨s₁, t₁, hs, ht, h₁⟩
  · rw [hs, ht]
    exact ⟨rfl, hdt, h⟩
  · rw [hs, ht]
    simp only
    rcases reserveIfCan_beside cfg h₁ feeB.asset feeB.who feeB.amount with
      ⟨hs', ht'⟩ | ⟨s₂, t₂, hs', ht', h₂⟩
    · rw [hs', ht']
      exact ⟨rfl, hdt, h₁⟩
    · rw [hs', ht']
      exact ⟨rfl, (hdt.push _).push _, h₂⟩

theorem prepareFees_beside (h : Beside u v s t) (hdt : SameTrade dt dt') :
    PreparedAlike u v (DirectTradeData.prepareFees cfg dt pairAccount s)
      (DirectTradeData.prepareFees cfg dt' pairAccount t) := by
  have hfees := fun feeA feeB => reserveFees_beside cfg pairAccount h hdt
    (dt.feePayments feeA feeB).1 (dt.feePayments feeA feeB).2
  obtain ⟨idA, idB, rfl⟩ := hdt
  unfold DirectTradeData.prepareFees
  simp only
  cases justFee dt.amountFromA Fee.default with
  | none => exact ⟨rfl, ⟨idA, idB, rfl⟩, h⟩
  | some feeA =>
      cases justFee dt.amountFromB Fee.default with
      | none => exact ⟨rfl, ⟨idA, idB, rfl⟩, h⟩
      | some feeB => exact hfees feeA feeB

variable (cfg pairAccount) in
theorem prepare_beside (h : Beside u v s t) (hdt : SameTrade dt dt') :
    PreparedAlike u v (dt.prepare cfg pairAccount s) (dt'.prepare cfg pairAccount t) := by
  have hpushed := (hdt.push dt.transferA).push dt.transferB
  obtain ⟨idA, idB, rfl⟩ := hdt
  unfold DirectTradeData.prepare
  simp only
  rw [h.ledger]
  split_ifs
  · exact ⟨rfl, ⟨idA, idB, rfl⟩, h.depositEvent _ _⟩
  · exact ⟨rfl, ⟨idA, idB, rfl⟩, h.depositEvent _ _⟩
  · -- the ledgers are equal, so a reservation is refused on both sides or on neither
    rcases reserveIfCan_beside cfg h dt.intentionA.assets.assetIn dt.intentionA.who
      dt.amountFromA with ⟨hs, ht⟩ | ⟨s₁, t₁, hs, ht, h₁⟩
    · rw [hs, ht]
      exact ⟨rfl, ⟨idA, idB, rfl⟩, h⟩
    · rw [hs, ht]
      simp only
      rcases reserveIfCan_beside cfg h₁ dt.intentionA.assets.assetOut dt.intentionB.who
        dt.amountFromB with ⟨hs', ht'⟩ | ⟨s₂, t₂, hs', ht', h₂⟩
      · rw [hs', ht']
        exact ⟨rfl, ⟨idA, idB, rfl⟩, h₁⟩
      · rw [hs', ht']
        exact prepareFees_beside h₂ hpushed

theorem executeTransfer_beside (h : Beside u v s t) (transfer : Transfer AccountId) :
    Matches (Beside u v) (DirectTradeData.executeTransfer cfg dt s transfer)
      (DirectTradeData.executeTransfer cfg dt' t transfer) := by
  unfold DirectTradeData.executeTransfer
  rw [h.ledger]
  cases cfg.currency.repatriateReserved transfer.asset transfer.source transfer.dest
      transfer.amount s.ledger with
  | error e => rfl
  | ok r =>
      obtain ⟨rest, l⟩ := r
      simp only
      by_cases hf : transfer.feeTransfer = true
      · rw [if_pos hf, if_pos hf]
        exact (h.setLedger l).depositEvent _ _
      · rw [if_neg hf, if_neg hf]
        exact h.setLedger l

theorem execute_beside (h : Beside u v s t) (hdt : SameTrade dt dt') :
    Matches (Beside u v) (dt.execute cfg s) (dt'.execute cfg t) := by
  obtain ⟨idA, idB, rfl⟩ := hdt
  exact Matches.foldlM (S := Eq)
    (fun s t transfer _ hst he => he ▸ executeTransfer_beside hst transfer)
    (List.forall₂_eq_eq_eq ▸ rfl) (h.depositEvent _ _)

theorem revert_beside (h : Beside u v s t) (hdt : SameTrade dt dt') :
    Beside u v (dt.revert cfg s) (dt'.revert cfg t) := by
  obtain ⟨idA, idB, rfl⟩ := hdt
  refine foldl_related (S := Eq) (fun s t transfer _ hst he => ?_) (List.forall₂_eq_eq_eq ▸ rfl) h
  subst he
  rw [hst.ledger]
  exact hst.setLedger _

/-! ## The calls of a block -/

/-- The states and the copies of the main intention after an iteration. -/
def IteratedAlike (u v : State AccountId Hash)
    (p q : State AccountId Hash × Intention AccountId Hash) : Prop :=
  Beside u v p.1 q.1 ∧ SameUpToId p.2 q.2

variable (cfg) in
theorem restOfMain_alike (hcopy : SameUpToId copy copy') (hm : SameUpToId matched matched') :
    Matches SameUpToId (restOfMain cfg copy matched) (restOfMain cfg copy' matched') := by
  obtain ⟨id, rfl⟩ := hcopy
  obtain ⟨id', rfl⟩ := hm
  unfold restOfMain
  refine Matches.refl.bind ?_
  rintro amountIn _ rfl
  refine Matches.refl.bind ?_
  rintro amountOut _ rfl
  simp only
  cases copy.sellOrBuy with
  | SELL => exact ⟨id, rfl⟩
  | BUY =>
      refine Matches.refl.bind ?_
      rintro tradeLimit _ rfl
      exact ⟨id, rfl⟩

variable (cfg pairAccount) in
/-- Preparing the direct trade of two pairs of intentions, with the cases told apart. -/
theorem prepare_alike (h : Beside u v s t) (hcopy : SameUpToId copy copy')
    (hm : SameUpToId matched matched') (fromA fromB : Nat) :
    ∃ ok dt dt' s₁ t₁,
      (directTrade copy matched fromA fromB).prepare cfg pairAccount s = (ok, dt, s₁) ∧
      (directTrade copy' matched' fromA fromB).prepare cfg pairAccount t = (ok, dt', t₁) ∧
      SameTrade dt dt' ∧ Beside u v s₁ t₁ := by
  obtain ⟨id, rfl⟩ := hcopy
  obtain ⟨id', rfl⟩ := hm
  have hdt : SameTrade (directTrade copy matched fromA fromB)
      (directTrade { copy with intentionId := id } { matched with intentionId := id' } fromA fromB) :=
    ⟨id, id', rfl⟩
  have hp := prepare_beside cfg pairAccount h hdt
  generalize DirectTradeData.prepare cfg _ pairAccount s = p at hp ⊢
  generalize DirectTradeData.prepare cfg _ pairAccount t = q at hp ⊢
  obtain ⟨ok, dt, s₁⟩ := p
  obtain ⟨ok', dt', t₁⟩ := q
  obtain ⟨rfl, hdt₁, h₁⟩ : ok = ok' ∧ SameTrade dt dt' ∧ Beside u v s₁ t₁ := hp
  exact ⟨ok, dt, dt', s₁, t₁, rfl, rfl, hdt₁, h₁⟩

theorem resolveScenario1_alike (h : Beside u v s t) (hcopy : SameUpToId copy copy')
    (hm : SameUpToId matched matched') :
    Matches (IteratedAlike u v) (resolveScenario1 cfg pairAccount copy matched s)
      (resolveScenario1 cfg pairAccount copy' matched' t) := by
  have hrest := restOfMain_alike cfg hcopy hm
  obtain ⟨ok, dt, dt', s₁, t₁, hs, ht, hdt, h₁⟩ :=
    prepare_alike cfg pairAccount h hcopy hm matched.amountOut matched.amountIn
  unfold directTrade at hs ht
  obtain ⟨id, rfl⟩ := hcopy
  obtain ⟨id', rfl⟩ := hm
  unfold resolveScenario1
  simp only at ht ⊢
  rw [hs, ht]
  split_ifs
  · exact ⟨h.depositEvent _ _, id, rfl⟩
  · cases ok with
    | false => exact ⟨revert_beside h₁ hdt, id, rfl⟩
    | true => exact (execute_beside h₁ hdt).bind fun _ _ h₂ => hrest.bind fun _ _ hc => ⟨h₂, hc⟩

variable (cfg pairAccount) in
theorem executeScenario2_alike (h : Beside u v s t) (hcopy : SameUpToId copy copy')
    (hm : SameUpToId matched matched') (fromA fromB : Nat) (ammTransfer : AMMTransfer AccountId) :
    Matches (IteratedAlike u v)
      (executeScenario2 cfg pairAccount (directTrade copy matched fromA fromB) ammTransfer s)
      (executeScenario2 cfg pairAccount (directTrade copy' matched' fromA fromB) ammTransfer t) := by
  obtain ⟨ok, dt, dt', s₁, t₁, hs, ht, hdt, h₁⟩ :=
    prepare_alike cfg pairAccount h hcopy hm fromA fromB
  obtain ⟨id, rfl⟩ := hcopy
  obtain ⟨id', rfl⟩ := hm
  have hamm := executeAmmTransfer_beside cfg h₁ matched.sellOrBuy matched.intentionId id' ammTransfer
  unfold executeScenario2
  rw [hs, ht]
  refine Matches.refl.bind ?_
  rintro limitLeft _ rfl
  simp only [directTrade]
  -- the limits do not depend on ids: both iterations are turned away here, or neither
  rcases Bool.eq_false_or_eq_true (exceedsLimit matched.sellOrBuy fromB limitLeft) with
    hlimit | hlimit
  · simp only [hlimit, if_true]
    exact ⟨h.depositEvent _ _, id, rfl⟩
  · simp only [hlimit, Bool.false_eq_true, if_false]
    cases ok with
    | false => exact ⟨revert_beside h₁ hdt, id, rfl⟩
    | true =>
        simp only
        rcases hamm.cases with ⟨e, hs₂, ht₂⟩ | ⟨s₂, t₂, hs₂, ht₂, h₂⟩
        · rw [hs₂, ht₂]
          exact ⟨revert_beside (h₁.depositEvent _ _) hdt, id, rfl⟩
        · rw [hs₂, ht₂]
          exact (execute_beside h₂ hdt).bind fun _ _ h₃ => ⟨h₃, id, rfl⟩

theorem resolveScenario2_alike (huv : Counterparts u v) (h : Beside u v s t)
    (hcopy : SameUpToId copy copy') (hm : SameUpToId matched matched') :
    Matches (IteratedAlike u v) (resolveScenario2 cfg pairAccount copy matched s)
      (resolveScenario2 cfg pairAccount copy' matched' t) := by
  have hvalid := validateRest_beside cfg huv h hm
  have hexecute := executeScenario2_alike cfg pairAccount h hcopy hm
  obtain ⟨id, rfl⟩ := hcopy
  obtain ⟨id', rfl⟩ := hm
  unfold resolveScenario2
  simp only
  -- nothing up to the validation looks at an id
  cases checkedSub matched.amountIn copy.amountOut with
  | none => exact ⟨h.depositEvent _ _, id, rfl⟩
  | some restIn =>
      cases checkedSub matched.amountOut copy.amountIn with
      | none => exact ⟨h.depositEvent _ _, id, rfl⟩
      | some restOut =>
          refine Matches.refl.bind ?_
          rintro fromB _ rfl
          simp only [hvalid]
          cases validateRest cfg matched restIn restOut (matched.tradeLimit - copy.amountIn) s with
          | error e => exact ⟨h.depositEvent _ _, id, rfl⟩
          | ok ammTransfer => exact hexecute copy.amountIn fromB ammTransfer

theorem resolveScenario3_alike (h : Beside u v s t) (hij : SameUpToId i j)
    (hcopy : SameUpToId copy copy') (hm : SameUpToId matched matched') :
    Matches (IteratedAlike u v) (resolveScenario3 cfg pairAccount i copy matched s)
      (resolveScenario3 cfg pairAccount j copy' matched' t) := by
  obtain ⟨ok, dt, dt', s₁, t₁, hs, ht, hdt, h₁⟩ :=
    prepare_alike cfg pairAccount h hcopy hm copy.amountIn matched.amountIn
  unfold directTrade at hs ht
  obtain ⟨id, rfl⟩ := hcopy
  obtain ⟨id', rfl⟩ := hm
  obtain ⟨id'', rfl⟩ := hij
  unfold resolveScenario3
  simp only at ht ⊢
  rw [hs, ht]
  split_ifs
  · exact ⟨h.depositEvent _ _, id, rfl⟩
  · exact ⟨h.depositEvent _ _, id, rfl⟩
  · cases ok with
    | false => exact ⟨revert_beside h₁ hdt, id, rfl⟩
    | true => exact (execute_beside h₁ hdt).bind fun _ _ h₂ => ⟨h₂, id, rfl⟩

theorem resolveMatched_alike (huv : Counterparts u v) (h : Beside u v s t) (hij : SameUpToId i j)
    (hcopy : SameUpToId copy copy') (hm : SameUpToId matched matched') :
    Matches (IteratedAlike u v) (resolveMatched cfg pairAccount i (s, copy) matched)
      (resolveMatched cfg pairAccount j (t, copy') matched') := by
  have hin : copy'.amountIn = copy.amountIn := by
    obtain ⟨id, rfl⟩ := hcopy
    rfl
  have hout : matched'.amountOut = matched.amountOut := by
    obtain ⟨id, rfl⟩ := hm
    rfl
  unfold resolveMatched
  simp only [hin, hout]
  split_ifs
  · exact resolveScenario1_alike h hcopy hm
  · exact resolveScenario2_alike huv h hcopy hm
  · exact resolveScenario3_alike h hij hcopy hm

theorem resolveMatchedIntentions_alike (huv : Counterparts u v) (h : Beside u v s t)
    (hij : SameUpToId i j) {bvec bvec' : List (Intention AccountId Hash)}
    (hbvec : List.Forall₂ SameUpToId bvec bvec') :
    Matches (Beside u v) (resolveMatchedIntentions cfg pairAccount i bvec s)
      (resolveMatchedIntentions cfg pairAccount j bvec' t) := by
  unfold resolveMatchedIntentions
  refine (Matches.foldlM (R := IteratedAlike u v) (S := SameUpToId) (fun p q m m' hpq hm => ?_) hbvec
    ⟨h, hij⟩).bind fun p q hpq => ?_
  · exact resolveMatched_alike huv hpq.1 hij hpq.2 hm
  · obtain ⟨s₁, copy⟩ := p
    obtain ⟨t₁, copy'⟩ := q
    obtain ⟨h₁, hcopy⟩ := hpq
    have hin : copy'.amountIn = copy.amountIn := by
      obtain ⟨id, rfl⟩ := hcopy
      rfl
    show Beside u v (if copy.amountIn > 0 then _ else _) (if copy'.amountIn > 0 then _ else _)
    rw [hin]
    split_ifs
    · exact resolveSingleIntention_beside huv h₁ hcopy
    · exact h₁

variable (cfg) in
/-- **The pallet does not look at ids or events.** -/
theorem pallet_related (huv : Counterparts u v) :
    Handlers.Related (Beside u v) SameUpToId (Handlers.pallet cfg) (Handlers.pallet cfg) where
  amountIn := by
    rintro i _ ⟨id, rfl⟩
    rfl
  count := by
    intro s t h key
    show (s.intentionCount.lookup key).getD 0 = (t.intentionCount.lookup key).getD 0
    rw [h.left, h.right]
    exact congrArg (·.getD 0) (huv.count key).symm
  groups := by
    intro s t h key
    show List.Forall₂ SameUpToId (sortByAmountIn (s.intentions key))
      (sortByAmountIn (t.intentions key))
    rw [h.left.intentions, h.right.intentions]
    exact huv.groups key
  verify := by
    intro s t i j h hij
    show (verifyIntention cfg i s).1 = (verifyIntention cfg j t).1 ∧
      Beside u v (verifyIntention cfg i s).2 (verifyIntention cfg j t).2
    unfold verifyIntention
    rw [validateIntention_beside huv h hij]
    cases validateIntention cfg i s with
    | error e => exact ⟨rfl, h.depositEvent _ _⟩
    | ok transfer => exact ⟨rfl, h⟩
  resolveMatched := fun _ h hij hbvec => resolveMatchedIntentions_alike huv h hij hbvec
  resolveSingle := fun h hij => resolveSingleIntention_beside huv h hij

end Beside

/-! ## Sorting -/

section Sorting

omit [DecidableEq AccountId] in
theorem sameUpToId_of_anonymous {i j : Intention AccountId Hash} (h : anonymous i = anonymous j) :
    SameUpToId i j := by
  obtain ⟨who, assets, amountIn, amountOut, tradeLimit, discount, sellOrBuy, id⟩ := i
  obtain ⟨_, _, _, _, _, _, _, id'⟩ := j
  cases h
  exact ⟨id', rfl⟩

omit [DecidableEq AccountId] in
/-- Sorting does not look at ids. -/
theorem map_anonymous_sort (l : List (Intention AccountId Hash)) :
    (sortByAmountIn l).map anonymous = sortByAmountIn (l.map anonymous) :=
  List.map_insertionSort _ _ _ _ fun _ _ _ _ => Iff.rfl

/-- A list is sorted in one way only, if no two elements of it are equivalent. -/
theorem insertionSort_eq_of_perm {α : Type} {r : α → α → Prop} [DecidableRel r] [Std.Total r]
    [IsTrans α r] {l l' : List α} (hperm : l.Perm l')
    (hanti : ∀ a ∈ l, ∀ b ∈ l, r a b → r b a → a = b) :
    l.insertionSort r = l'.insertionSort r := by
  have hsort := ((List.perm_insertionSort r l).trans hperm).trans (List.perm_insertionSort r l').symm
  refine hsort.eq_of_pairwise (fun a b ha hb => ?_) (List.pairwise_insertionSort r l)
    (List.pairwise_insertionSort r l')
  exact hanti a ((List.perm_insertionSort r l).mem_iff.mp ha) b
    (hperm.mem_iff.mpr ((List.perm_insertionSort r l').mem_iff.mp hb))

omit [DecidableEq AccountId] in
/-- Intentions with different amounts are sorted in one way only. -/
theorem sortByAmountIn_eq_of_perm {l l' : List (Intention AccountId Hash)} (hperm : l.Perm l')
    (hdistinct : (l.map (·.amountIn)).Nodup) : sortByAmountIn l = sortByAmountIn l' :=
  insertionSort_eq_of_perm hperm fun _ ha _ hb hba hab =>
    List.inj_on_of_nodup_map hdistinct ha hb (le_antisymm hab hba)

end Sorting

/-! ## Two orders of the same calls -/

/-- The keys of a storage map are iterated in an order that does not depend on when they were
inserted. -/
def IterByKeys (cfg : Config AccountId Hash) : Prop :=
  ∀ keys keys', keys.Perm keys' → cfg.iterOrder keys = cfg.iterOrder keys'

omit [DecidableEq AccountId] in
theorem counterparts_of_book {s s' : State AccountId Hash} (hbook : book s' = book s)
    (htoken : s'.shareToken = s.shareToken)
    (hdistinct : ∀ key, ((s.intentions key).map (·.amountIn)).Nodup) : Counterparts s s' := by
  refine ⟨htoken, fun key => congrFun (congrArg Book.count hbook) key, fun key => ?_⟩
  have hperm : ((s.intentions key).map anonymous).Perm ((s'.intentions key).map anonymous) :=
    Multiset.coe_eq_coe.mp (congrFun (congrArg Book.groups hbook) key).symm
  -- the groups are the same up to order and ids, and sorting forgets the order
  have hsort := sortByAmountIn_eq_of_perm hperm (by rw [List.map_map]; exact hdistinct key)
  rw [← map_anonymous_sort, ← map_anonymous_sort] at hsort
  have halike : List.Forall₂ Eq ((sortByAmountIn (s.intentions key)).map anonymous)
      ((sortByAmountIn (s'.intentions key)).map anonymous) := by
    rw [List.forall₂_eq_eq_eq]
    exact hsort
  rw [List.forall₂_map_left_iff, List.forall₂_map_right_iff] at halike
  exact halike.imp fun _ _ => sameUpToId_of_anonymous

omit [DecidableEq AccountId] in
theorem keys_perm_of_book {s s' : State AccountId Hash} (hbook : book s' = book s) :
    s.intentionCount.keys.Perm s'.intentionCount.keys := by
  rw [List.perm_ext_iff_of_nodup s.intentionCount.keys_nodup s'.intentionCount.keys_nodup]
  intro key
  have hlookup : s'.intentionCount.lookup key = s.intentionCount.lookup key :=
    congrFun (congrArg Book.count hbook) key
  rw [← AList.mem_keys, ← AList.mem_keys, ← AList.lookup_isSome, ← AList.lookup_isSome, hlookup]

/-- **The block does not depend on the order of submission.** Calls of the exchange pallet are put
into a block in two orders; the amounts that they register for each directed pair are different.
If the first order is accepted, so is the second, both register the same intentions up to ids,
and if the one block can be finalized, so can the other, with the same balances afterwards. -/
theorem submission_order_irrelevant (cfg : Config AccountId Hash) (hiter : IterByKeys cfg)
    (s₀ s : State AccountId Hash) (calls calls' : List (Call AccountId))
    (hperm : calls.Perm calls') (h : calls.foldlM (Call.submit cfg) s₀ = .ok s)
    (hdistinct : ∀ key, ((s.intentions key).map (·.amountIn)).Nodup) :
    ∃ s', calls'.foldlM (Call.submit cfg) s₀ = .ok s' ∧
      (∀ key, ((s'.intentions key).map anonymous).Perm ((s.intentions key).map anonymous)) ∧
      ∀ t, onFinalize cfg s = .ok t → ∃ t', onFinalize cfg s' = .ok t' ∧
        t'.ledger.free = t.ledger.free ∧ t'.ledger.reserved = t.ledger.reserved := by
  obtain ⟨s', hs', hbook, hledger, htoken⟩ := submit_perm hperm h
  have huv := counterparts_of_book hbook htoken hdistinct
  refine ⟨s', hs', fun key => Multiset.coe_eq_coe.mp (congrFun (congrArg Book.groups hbook) key),
    fun t ht => ?_⟩
  -- The two blocks are finalized side by side.
  have hmatch : Matches (Beside s s')
      ((cfg.iterOrder s.intentionCount.keys).foldlM (finalizePair cfg) s)
      ((cfg.iterOrder s.intentionCount.keys).foldlM (finalizePair cfg) s') := by
    rw [← finalizePairWith_pallet]
    exact (pallet_related cfg huv).finalizePairs ⟨.refl s, .refl s', hledger⟩ _
  obtain ⟨t₁, hloop, ht⟩ := bind_eq_ok.mp ht
  obtain ⟨t₁', hloop', hbeside⟩ := hmatch.of_ok hloop
  cases ht
  rw [hiter _ _ (keys_perm_of_book hbook)] at hloop'
  refine ⟨_, bind_eq_ok.mpr ⟨t₁', hloop', rfl⟩, ?_⟩
  show t₁'.ledger.free = t₁.ledger.free ∧ t₁'.ledger.reserved = t₁.ledger.reserved
  rw [hbeside.ledger]
  exact ⟨rfl, rfl⟩

/-! ## Four calls in two orders -/

/-- A number for each pair of assets. -/
def pairCode (key : AssetId × AssetId) : Nat := key.1.toNat * 2 ^ 32 + key.2.toNat

theorem pairCode_injective {key key' : AssetId × AssetId} (h : pairCode key = pairCode key') :
    key = key' := by
  have h₁ := key.2.toNat_lt
  have h₂ := key'.2.toNat_lt
  unfold pairCode at h
  refine Prod.ext (UInt32.toNat_inj.mp ?_) (UInt32.toNat_inj.mp ?_)
  · omega
  · omega

/-- The development chain with storage maps that are iterated by the numbers of the keys. -/
def orderedCfg : Config Dev.AccountId Dev.Hash :=
  { Dev.cfg with
    iterOrder := fun keys => keys.insertionSort fun a b => pairCode a ≤ pairCode b
    iterOrder_perm := fun keys => List.perm_insertionSort _ keys }

theorem iterByKeys_orderedCfg : IterByKeys orderedCfg := by
  intro keys keys' hperm
  exact insertionSort_eq_of_perm hperm fun a _ b _ hab hba =>
    pairCode_injective (le_antisymm hab hba)

/-- `[2]` sells asset `1`, `[3]` sells asset `0` and buys some more, and `[4]` sells more than it
has. -/
def fourCalls : List (Call Dev.AccountId) :=
  [.sell [2] 1 0 3000 1 false, .sell [3] 0 1 2000 1 false, .buy [3] 1 0 1500 5000 false,
   .sell [4] 0 1 2000 1 false]

/-- A pool of the assets `0` and `1`. -/
def pooledState : Except Failure (State Dev.AccountId Dev.Hash) :=
  ([.xyk (.createPool [1] 0 1 400000 (10 ^ 18))] : List (Extrinsic Dev.AccountId)).foldlM
    (Extrinsic.dispatch orderedCfg)
    (Dev.genesis [(0, [1], 1000000), (1, [1], 1000000), (0, [2], 100), (1, [2], 10000),
      (0, [3], 10000), (1, [3], 100)])

/-- The calls backwards: the ids are others, the balances the same. -/
theorem submission_order_irrelevant_fourCalls :
    Succeeds pooledState fun s₀ => Succeeds (fourCalls.foldlM (Call.submit orderedCfg) s₀) fun s =>
      Succeeds (onFinalize orderedCfg s) fun t => t.ledger.free 0 [2] = 3094 ∧
        ∃ s' t', fourCalls.reverse.foldlM (Call.submit orderedCfg) s₀ = .ok s' ∧
          onFinalize orderedCfg s' = .ok t' ∧ t'.ledger.free = t.ledger.free := by
  obtain ⟨s₀, hs₀, s, hs, hall, t, ht, hfree⟩ : Succeeds pooledState fun s₀ =>
      Succeeds (fourCalls.foldlM (Call.submit orderedCfg) s₀) fun s =>
        ((fourCalls.map Call.pair).all fun key => ((s.intentions key).map (·.amountIn)).Nodup) ∧
        Succeeds (onFinalize orderedCfg s) fun t => t.ledger.free 0 [2] = 3094 := by
    decide +kernel
  have hdistinct : ∀ key, ((s.intentions key).map (·.amountIn)).Nodup := by
    intro key
    by_cases hkey : key ∈ fourCalls.map Call.pair
    · exact of_decide_eq_true (List.all_eq_true.mp hall key hkey)
    · rw [submits_intentions hs hkey,
        intentions_eq_nil (Dev.blockStart _) hs₀ List.not_mem_nil]
      exact List.nodup_nil
  obtain ⟨s', hs', -, hfinal⟩ := submission_order_irrelevant orderedCfg iterByKeys_orderedCfg s₀ s
    fourCalls fourCalls.reverse fourCalls.reverse_perm.symm hs hdistinct
  obtain ⟨t', ht', hfree', -⟩ := hfinal t ht
  exact ⟨s₀, hs₀, s, hs, t, ht, hfree, s', t', hs', ht', hfree'⟩

end HydraDX.Exchange
