import HydraDX.Exchange.Iteration

set_option autoImplicit false

/-! # The loops of `onFinalize`

Finalizing a block is three nested loops: over the pairs of assets, over the main intentions
of a pair, and over the intentions matched with a main one. `EveryIteration cfg P s` says
that `P` holds at every iteration of the innermost loop that finalizing from `s` reaches,
of the state and of the copy of the main intention as they are at that point. It is the
form in which a condition on the resolver is put here: what the three loops do is then a
matter of what one iteration does. -/

namespace HydraDX.Exchange

variable {AccountId Hash : Type} [DecidableEq AccountId] (cfg : Config AccountId Hash)

/-- A condition on one iteration: the account of the pair, the main intention, the state and
the copy of the main intention at the head of the iteration, and the matched intention. -/
abbrev IterationCond (AccountId Hash : Type) :=
  AccountId → Intention AccountId Hash → State AccountId Hash × Intention AccountId Hash →
    Intention AccountId Hash → Prop

/-- `P` holds at every iteration for one main intention, if it is valid and gets matched. -/
def EveryMatched (P : IterationCond AccountId Hash) (pairAccount : AccountId)
    (ss : State AccountId Hash × List (Intention AccountId Hash))
    (intention : Intention AccountId Hash) : Prop :=
  ∀ transfer bvec rest, validateIntention cfg intention ss.1 = .ok transfer →
    popMatched cfg.overflowChecks intention.amountIn 0 ss.2 = .ok (bvec, rest) →
      Fallible.Always (resolveMatched cfg pairAccount intention) (P pairAccount intention)
        (ss.1, intention) bvec

/-- `P` holds at every iteration for the intentions of one pair. -/
def EveryInPair (P : IterationCond AccountId Hash) (s : State AccountId Hash)
    (key : AssetId × AssetId) : Prop :=
  (s.intentionCount.lookup key).getD 0 ≠ 0 →
    Fallible.Always (processMain cfg (XYK.getPairId cfg { assetIn := key.1, assetOut := key.2 }))
      (EveryMatched cfg P (XYK.getPairId cfg { assetIn := key.1, assetOut := key.2 }))
      (s, sortByAmountIn (s.intentions (key.1, key.2)))
      (sortByAmountIn (s.intentions (key.2, key.1)))

/-- `P` holds at every iteration that finalizing the block from `s` reaches. -/
def EveryIteration (P : IterationCond AccountId Hash) (s : State AccountId Hash) : Prop :=
  Fallible.Always (finalizePair cfg) (EveryInPair cfg P) s (cfg.iterOrder s.intentionCount.keys)

variable {cfg} in
/-- What holds of every iteration holds of those that are reached. -/
theorem everyIteration_of_forall {P : IterationCond AccountId Hash}
    (hP : ∀ account i sc m, P account i sc m) (s : State AccountId Hash) :
    EveryIteration cfg P s :=
  Fallible.Always.of_forall (fun _ _ _ => Fallible.Always.of_forall (fun _ _ _ _ _ _ _ =>
    Fallible.Always.of_forall (hP _ _) _ _) _ _) _ _

/-! ## Deciding by running

A condition that can be decided at each iteration can be decided along the loops. -/

section Decide

variable {cfg} {P : IterationCond AccountId Hash} [∀ account i sc m, Decidable (P account i sc m)]

instance decidableEveryMatched (pairAccount : AccountId)
    (ss : State AccountId Hash × List (Intention AccountId Hash))
    (intention : Intention AccountId Hash) :
    Decidable (EveryMatched cfg P pairAccount ss intention) :=
  match hv : validateIntention cfg intention ss.1,
      hp : popMatched cfg.overflowChecks intention.amountIn 0 ss.2 with
  | .error _, _ => isTrue (fun _ _ _ hv' => by rw [hv] at hv'; cases hv')
  | .ok _, .error _ => isTrue (fun _ _ _ _ hp' => by rw [hp] at hp'; cases hp')
  | .ok transfer, .ok (bvec, rest) =>
      decidable_of_iff (Fallible.Always (resolveMatched cfg pairAccount intention)
        (P pairAccount intention) (ss.1, intention) bvec)
        ⟨fun h _ _ _ _ hp' => by rw [hp] at hp'; cases hp'; exact h,
          fun h => h transfer bvec rest hv hp⟩

instance decidableEveryInPair (s : State AccountId Hash) (key : AssetId × AssetId) :
    Decidable (EveryInPair cfg P s key) :=
  inferInstanceAs (Decidable (_ → _))

instance decidableEveryIteration (s : State AccountId Hash) : Decidable (EveryIteration cfg P s) :=
  Fallible.decidableAlways _ _

end Decide

/-! ## Matching -/

section Matching

variable {AccountId Hash : Type} {stack rest bvec : List (Intention AccountId Hash)}

/-- The first intention is popped, and more of them while the running total is below
`amountIn`. -/
theorem popMatched_cons {checks : Bool} {amountIn total : Nat} {m : Intention AccountId Hash}
    (h : popMatched checks amountIn total (m :: stack) = .ok (bvec, rest)) :
    ∃ total', addBalance checks total m.amountIn = .ok total' ∧
      ((amountIn ≤ total' ∧ bvec = [m] ∧ rest = stack) ∨
        (total' < amountIn ∧ ∃ popped, popMatched checks amountIn total' stack = .ok (popped, rest) ∧
          bvec = m :: popped)) := by
  obtain ⟨total', htotal, h⟩ := Fallible.bind_eq_ok.mp h
  refine ⟨total', htotal, ?_⟩
  by_cases hge : total' ≥ amountIn
  · rw [if_pos hge] at h
    cases h
    exact Or.inl ⟨hge, rfl, rfl⟩
  · rw [if_neg hge, Fallible.bind_eq_ok] at h
    obtain ⟨⟨popped, rest'⟩, hpopped, h⟩ := h
    cases h
    exact Or.inr ⟨by omega, popped, hpopped, rfl⟩

/-- Popping splits the stack. -/
theorem popMatched_ok {checks : Bool} {amountIn total : Nat}
    (h : popMatched checks amountIn total stack = .ok (bvec, rest)) : stack = bvec ++ rest := by
  induction stack generalizing total bvec with
  | nil => cases h; rfl
  | cons m stack ih =>
      obtain ⟨total', -, ⟨-, rfl, rfl⟩ | ⟨-, popped, hpopped, rfl⟩⟩ := popMatched_cons h
      · rfl
      · rw [ih hpopped, List.cons_append]

/-- Popping does not overflow where the amounts on the stack add up to a balance. -/
theorem popMatched_ne_error {checks : Bool} {amountIn total : Nat} {e : Panic}
    (h : total + (stack.map (·.amountIn)).sum < balanceBound) :
    popMatched checks amountIn total stack ≠ .error e := by
  induction stack generalizing total with
  | nil => simp [popMatched]
  | cons m stack ih =>
      rw [List.map_cons, List.sum_cons] at h
      rw [popMatched, addBalance_of_lt (by omega)]
      show (if total + m.amountIn ≥ amountIn then _ else _) ≠ _
      split_ifs with hge
      · simp
      · rw [Ne, Fallible.bind_eq_error]
        rintro (he | ⟨p, -, he⟩)
        · exact ih (by omega) he
        · cases he

theorem sortByAmountIn_perm (intentions : List (Intention AccountId Hash)) :
    (sortByAmountIn intentions).Perm intentions :=
  List.perm_insertionSort _ _

end Matching

/-! ## One main intention -/

section Main

variable {cfg} {s s' : State AccountId Hash} {pairAccount : AccountId}
  {intention : Intention AccountId Hash} {stack rest : List (Intention AccountId Hash)}

/-- What processing one main intention can do: report that it is not valid, or match it,
resolve the matched intentions and send what is left to the AMM. -/
theorem processMain_cases (h : processMain cfg pairAccount (s, stack) intention = .ok (s', rest)) :
    (∃ error, validateIntention cfg intention s = .error error ∧
      s' = sendIntentionErrorEvent intention error s ∧ rest = stack) ∨
    (∃ transfer bvec s₁ copy, validateIntention cfg intention s = .ok transfer ∧
      popMatched cfg.overflowChecks intention.amountIn 0 stack = .ok (bvec, rest) ∧
      bvec.foldlM (resolveMatched cfg pairAccount intention) (s, intention) = .ok (s₁, copy) ∧
      s' = if copy.amountIn > 0 then resolveSingleIntention cfg copy s₁ else s₁) := by
  unfold processMain verifyIntention at h
  cases hv : validateIntention cfg intention s with
  | error error =>
      rw [hv] at h
      cases h
      exact Or.inl ⟨error, rfl, rfl, rfl⟩
  | ok transfer =>
      rw [hv] at h
      simp only [Fallible.bind_eq_ok, resolveMatchedIntentions] at h
      obtain ⟨⟨bvec, rest'⟩, hpop, s₂, ⟨⟨s₁, copy⟩, hloop, hs₂⟩, h⟩ := h
      cases h
      cases hs₂
      exact Or.inr ⟨transfer, bvec, s₁, copy, rfl, hpop, hloop, rfl⟩

/-- Processing a main intention ends in a panic exactly when matching or resolving does. -/
theorem processMain_error {e : Panic} :
    processMain cfg pairAccount (s, stack) intention = .error e ↔
      ∃ transfer, validateIntention cfg intention s = .ok transfer ∧
        (popMatched cfg.overflowChecks intention.amountIn 0 stack = .error e ∨
        ∃ bvec rest, popMatched cfg.overflowChecks intention.amountIn 0 stack = .ok (bvec, rest) ∧
          bvec.foldlM (resolveMatched cfg pairAccount intention) (s, intention) = .error e) := by
  unfold processMain verifyIntention
  cases hv : validateIntention cfg intention s with
  | error error => simp
  | ok transfer =>
      simp only [Fallible.bind_eq_error, resolveMatchedIntentions]
      constructor
      · rintro (hpop | ⟨⟨bvec, rest⟩, hpop, (hloop | ⟨p, -, hp⟩) | ⟨s₂, -, h⟩⟩)
        · exact ⟨transfer, rfl, Or.inl hpop⟩
        · exact ⟨transfer, rfl, Or.inr ⟨bvec, rest, hpop, hloop⟩⟩
        · cases hp
        · cases h
      · rintro ⟨_, -, hpop | ⟨bvec, rest, hpop, hloop⟩⟩
        · exact Or.inl hpop
        · exact Or.inr ⟨(bvec, rest), hpop, Or.inl (Or.inl hloop)⟩

end Main

end HydraDX.Exchange
