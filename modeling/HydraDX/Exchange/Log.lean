import HydraDX.Exchange.Outcome
import HydraDX.Lib.Parallel

set_option autoImplicit false

/-! # The calls that finalizing a block makes

The loops of `onFinalize` decide which intentions are verified, matched and resolved, and in
what order. What they call for that is a parameter of the pallet: `T::Resolver` resolves the
matched and the single intentions. Here the loops are written with the callees as a parameter
(`Handlers`); with the functions of the pallet itself they are the loops of `onFinalize`, and
with `Handlers.logging` they also keep a list of the calls they make.

Finalizing is then the sequence of the logged calls (`finalizeLog_spec`), and what is proved
about a single call carries over to a block without going through the loops again. -/

namespace HydraDX.Exchange

variable {AccountId Hash : Type} [DecidableEq AccountId] (cfg : Config AccountId Hash)

/-! ## The loops over given callees -/

/-- The callees, over states `σ` from which the state of the chain can be read. -/
structure Handlers (σ AccountId Hash : Type) where
  state : σ → State AccountId Hash
  verify : Intention AccountId Hash → σ → Bool × σ
  resolveMatched : AccountId → Intention AccountId Hash → List (Intention AccountId Hash) → σ →
    Except Panic σ
  resolveSingle : Intention AccountId Hash → σ → σ

section Loops

variable {σ : Type} (H : Handlers σ AccountId Hash)

def processMainWith (pairAccount : AccountId) (ss : σ × List (Intention AccountId Hash))
    (intention : Intention AccountId Hash) :
    Except Panic (σ × List (Intention AccountId Hash)) :=
  match H.verify intention ss.1 with
  | (false, s) => .ok (s, ss.2)
  | (true, s) => do
      let (bvec, rest) ← popMatched cfg.overflowChecks intention.amountIn 0 ss.2
      let s ← H.resolveMatched pairAccount intention bvec s
      return (s, rest)

def processExchangeIntentionsWith (pairAccount : AccountId)
    (aInIntentions bInIntentions : List (Intention AccountId Hash)) (s : σ) : Except Panic σ := do
  let (s, rest) ← (sortByAmountIn aInIntentions).foldlM (processMainWith cfg H pairAccount)
    (s, sortByAmountIn bInIntentions)
  return rest.foldl (fun s intention => H.resolveSingle intention s) s

def finalizePairWith (s : σ) (key : AssetId × AssetId) : Except Panic σ :=
  if ((H.state s).intentionCount.lookup key).getD 0 = 0 then .ok s
  else
    processExchangeIntentionsWith cfg H (XYK.getPairId cfg { assetIn := key.1, assetOut := key.2 })
      ((H.state s).intentions (key.2, key.1)) ((H.state s).intentions (key.1, key.2)) s

end Loops

/-- The pallet is its own resolver. -/
def Handlers.pallet : Handlers (State AccountId Hash) AccountId Hash where
  state := id
  verify := verifyIntention cfg
  resolveMatched := resolveMatchedIntentions cfg
  resolveSingle := resolveSingleIntention cfg

theorem processMainWith_pallet (pairAccount : AccountId) :
    processMainWith cfg (Handlers.pallet cfg) pairAccount = processMain cfg pairAccount := by
  funext ss intention
  unfold processMainWith processMain Handlers.pallet
  simp only
  generalize verifyIntention cfg intention ss.1 = p
  obtain ⟨ok, s⟩ := p
  cases ok with
  | false => rfl
  | true => rfl

theorem finalizePairWith_pallet :
    finalizePairWith cfg (Handlers.pallet cfg) = finalizePair cfg := by
  funext s key
  unfold finalizePairWith finalizePair processExchangeIntentionsWith processExchangeIntentions
  rw [processMainWith_pallet]
  rfl

/-! ## Related callees -/

/-- Callees that take related states and intentions to related states. Related states have
related groups of intentions, in the order in which they are processed. -/
structure Handlers.Related {σ τ : Type} (R : σ → τ → Prop)
    (S : Intention AccountId Hash → Intention AccountId Hash → Prop)
    (H : Handlers σ AccountId Hash) (H' : Handlers τ AccountId Hash) : Prop where
  amountIn : ∀ {i j}, S i j → i.amountIn = j.amountIn
  count : ∀ {s t}, R s t → ∀ key, ((H.state s).intentionCount.lookup key).getD 0
    = ((H'.state t).intentionCount.lookup key).getD 0
  groups : ∀ {s t}, R s t → ∀ key, List.Forall₂ S (sortByAmountIn ((H.state s).intentions key))
    (sortByAmountIn ((H'.state t).intentions key))
  verify : ∀ {s t i j}, R s t → S i j →
    (H.verify i s).1 = (H'.verify j t).1 ∧ R (H.verify i s).2 (H'.verify j t).2
  resolveMatched : ∀ {s t i j bvec bvec'} (pairAccount : AccountId), R s t → S i j →
    List.Forall₂ S bvec bvec' → Fallible.Matches R (H.resolveMatched pairAccount i bvec s)
      (H'.resolveMatched pairAccount j bvec' t)
  resolveSingle : ∀ {s t i j}, R s t → S i j → R (H.resolveSingle i s) (H'.resolveSingle j t)

section Related

variable {cfg} {σ τ : Type} {R : σ → τ → Prop}
  {S : Intention AccountId Hash → Intention AccountId Hash → Prop}
  {H : Handlers σ AccountId Hash} {H' : Handlers τ AccountId Hash}

omit [DecidableEq AccountId] in
theorem popMatched_related (hS : ∀ {i j}, S i j → i.amountIn = j.amountIn) {checks : Bool}
    {amountIn total : Nat} {stack stack' : List (Intention AccountId Hash)}
    (h : List.Forall₂ S stack stack') :
    Fallible.Matches (fun p q => List.Forall₂ S p.1 q.1 ∧ List.Forall₂ S p.2 q.2)
      (popMatched checks amountIn total stack) (popMatched checks amountIn total stack') := by
  induction h generalizing total with
  | nil => exact ⟨.nil, .nil⟩
  | cons hij htail ih =>
      unfold popMatched
      rw [hS hij]
      refine Fallible.Matches.refl.bind ?_
      rintro t t' rfl
      by_cases hge : t ≥ amountIn
      · rw [if_pos hge, if_pos hge]
        exact ⟨.cons hij .nil, htail⟩
      · rw [if_neg hge, if_neg hge]
        exact ih.bind fun p q hpq => ⟨.cons hij hpq.1, hpq.2⟩

theorem Handlers.Related.processMain (hrel : Handlers.Related R S H H') {pairAccount : AccountId}
    {ss : σ × List (Intention AccountId Hash)} {tt : τ × List (Intention AccountId Hash)}
    {i j : Intention AccountId Hash} (h : R ss.1 tt.1 ∧ List.Forall₂ S ss.2 tt.2) (hij : S i j) :
    Fallible.Matches (fun ss tt => R ss.1 tt.1 ∧ List.Forall₂ S ss.2 tt.2)
      (processMainWith cfg H pairAccount ss i) (processMainWith cfg H' pairAccount tt j) := by
  obtain ⟨hok, hstate⟩ := hrel.verify h.1 hij
  unfold processMainWith
  generalize H.verify i ss.1 = p at hok hstate
  generalize H'.verify j tt.1 = q at hok hstate
  obtain ⟨ok, s⟩ := p
  obtain ⟨ok', t⟩ := q
  obtain rfl : ok = ok' := hok
  cases ok with
  | false => exact ⟨hstate, h.2⟩
  | true =>
      simp only
      rw [hrel.amountIn hij]
      refine (popMatched_related hrel.amountIn h.2).bind fun p q hpq => ?_
      refine (hrel.resolveMatched pairAccount hstate hij hpq.1).bind fun s' t' hs' => ?_
      exact ⟨hs', hpq.2⟩

theorem Handlers.Related.finalizePair (hrel : Handlers.Related R S H H') {s : σ} {t : τ}
    (h : R s t) (key : AssetId × AssetId) :
    Fallible.Matches R (finalizePairWith cfg H s key) (finalizePairWith cfg H' t key) := by
  unfold finalizePairWith
  rw [hrel.count h key]
  split_ifs
  · exact h
  · unfold processExchangeIntentionsWith
    refine Fallible.Matches.bind (R := fun ss tt => R ss.1 tt.1 ∧ List.Forall₂ S ss.2 tt.2) ?_
      fun ss tt hss => ?_
    · refine Fallible.Matches.foldlM (S := S) (fun ss tt i j hss hij => ?_)
        (hrel.groups h (key.2, key.1)) ⟨h, hrel.groups h (key.1, key.2)⟩
      exact hrel.processMain hss hij
    · exact Fallible.foldl_related (S := S) (fun s t i j hst hij => hrel.resolveSingle hst hij)
        hss.2 hss.1

/-- **Related callees make related loops.** -/
theorem Handlers.Related.finalizePairs (hrel : Handlers.Related R S H H') {s : σ} {t : τ}
    (h : R s t) (keys : List (AssetId × AssetId)) :
    Fallible.Matches R (keys.foldlM (finalizePairWith cfg H) s)
      (keys.foldlM (finalizePairWith cfg H') t) :=
  Fallible.Matches.foldlM (S := Eq) (fun _ _ k _ hst hk => hk ▸ hrel.finalizePair hst k)
    (List.forall₂_eq_eq_eq ▸ rfl) h

end Related

/-! ## Logging -/

/-- A call that finalizing makes: a main intention is verified, with the result; a main
intention is resolved with those matched with it; an intention is resolved by itself. -/
inductive Work (AccountId Hash : Type) where
  | verify (intention : Intention AccountId Hash) (ok : Bool)
  | matched (pairAccount : AccountId) (intention : Intention AccountId Hash)
      (bvec : List (Intention AccountId Hash))
  | single (intention : Intention AccountId Hash)

/-- The callees `H`, with a list of the calls. -/
def Handlers.logging {σ : Type} (H : Handlers σ AccountId Hash) :
    Handlers (σ × List (Work AccountId Hash)) AccountId Hash where
  state := fun p => H.state p.1
  verify := fun intention p =>
    ((H.verify intention p.1).1,
      (H.verify intention p.1).2, p.2 ++ [.verify intention (H.verify intention p.1).1])
  resolveMatched := fun pairAccount intention bvec p => do
    let s ← H.resolveMatched pairAccount intention bvec p.1
    return (s, p.2 ++ [.matched pairAccount intention bvec])
  resolveSingle := fun intention p =>
    (H.resolveSingle intention p.1, p.2 ++ [.single intention])

/-- Resolve all registered intentions, as `onFinalize` does before it clears the storage, and
log the calls. -/
def finalizeLog (s : State AccountId Hash) :
    Except Panic (State AccountId Hash × List (Work AccountId Hash)) :=
  (cfg.iterOrder s.intentionCount.keys).foldlM
    (finalizePairWith cfg (Handlers.pallet cfg).logging) (s, [])

namespace Work

/-- Make the call. -/
def run (s : State AccountId Hash) : Work AccountId Hash → Except Panic (State AccountId Hash)
  | verify intention _ => .ok (verifyIntention cfg intention s).2
  | matched pairAccount intention bvec => resolveMatchedIntentions cfg pairAccount intention bvec s
  | single intention => .ok (resolveSingleIntention cfg intention s)

/-- The main intention that is verified. -/
def verified : Work AccountId Hash → Option (Intention AccountId Hash)
  | verify intention _ => some intention
  | _ => none

/-- The main intention that is verified and valid. -/
def valid : Work AccountId Hash → Option (Intention AccountId Hash)
  | verify intention true => some intention
  | _ => none

/-- The main intention that is resolved. -/
def main : Work AccountId Hash → Option (Intention AccountId Hash)
  | matched _ intention _ => some intention
  | _ => none

/-- The intentions of the second group that are resolved. -/
def others : Work AccountId Hash → List (Intention AccountId Hash)
  | verify _ _ => []
  | matched _ _ bvec => bvec
  | single intention => [intention]

/-- The intentions of which the call decides what becomes of them. A main intention that is
found valid is yet to be resolved. -/
def intentions : Work AccountId Hash → List (Intention AccountId Hash)
  | verify _ true => []
  | verify intention false => [intention]
  | matched _ intention bvec => intention :: bvec
  | single intention => [intention]

/-- The call is about a main intention of the first list and intentions of the second, and
uses the given account. -/
def Within (pairAccount : AccountId) (mains others : List (Intention AccountId Hash)) :
    Work AccountId Hash → Prop
  | verify intention _ => intention ∈ mains
  | matched account intention bvec =>
      account = pairAccount ∧ intention ∈ mains ∧ ∀ m ∈ bvec, m ∈ others
  | single intention => intention ∈ others

/-- What was logged is what the call finds: the result of the verification, and a main
intention that is valid. -/
def Faithful (s : State AccountId Hash) : Work AccountId Hash → Prop
  | verify intention ok => (verifyIntention cfg intention s).1 = ok
  | matched _ intention _ => (verifyIntention cfg intention s).1 = true
  | single _ => True

/-- The iterations of the call meet `P`. -/
def Meets (P : IterationCond AccountId Hash) (s : State AccountId Hash) :
    Work AccountId Hash → Prop
  | matched pairAccount intention bvec =>
      Fallible.Always (resolveMatched cfg pairAccount intention) (P pairAccount intention)
        (s, intention) bvec
  | _ => True

end Work

/-- The calls `works` lead from `s` to `s'`. They verify the main intentions `mains`, resolve
those that are valid, and resolve the intentions `others`, each list in its order; all of them
are of the kind `W`, and all of their iterations meet `P`. -/
structure Logs (P : IterationCond AccountId Hash) (W : Work AccountId Hash → Prop)
    (mains others : List (Intention AccountId Hash)) (s : State AccountId Hash)
    (works : List (Work AccountId Hash)) (s' : State AccountId Hash) : Prop where
  run : works.foldlM (Work.run cfg) s = .ok s'
  verified : works.filterMap Work.verified = mains
  resolved : works.filterMap Work.main = works.filterMap Work.valid
  others : works.flatMap Work.others = others
  kind : ∀ w ∈ works, W w
  faithful : Fallible.Always (Work.run cfg) (Work.Faithful cfg) s works
  meets : Fallible.Always (Work.run cfg) (Work.Meets cfg P) s works

section Logs

variable {cfg} {P : IterationCond AccountId Hash} {W W' : Work AccountId Hash → Prop}
  {mains others mains' others' : List (Intention AccountId Hash)}
  {works works' : List (Work AccountId Hash)} {s s' s'' : State AccountId Hash}

theorem Logs.nil : Logs cfg P W [] [] s [] s :=
  ⟨rfl, rfl, rfl, rfl, fun _ h => absurd h List.not_mem_nil, trivial, trivial⟩

theorem Logs.append (h : Logs cfg P W mains others s works s')
    (h' : Logs cfg P W mains' others' s' works' s'') :
    Logs cfg P W (mains ++ mains') (others ++ others') s (works ++ works') s'' where
  run := Fallible.foldlM_append_eq_ok.mpr ⟨s', h.run, h'.run⟩
  verified := by rw [List.filterMap_append, h.verified, h'.verified]
  resolved := by rw [List.filterMap_append, List.filterMap_append, h.resolved, h'.resolved]
  others := by rw [List.flatMap_append, h.others, h'.others]
  kind := fun w hw => (List.mem_append.mp hw).elim (h.kind w) (h'.kind w)
  faithful := h.faithful.append h.run h'.faithful
  meets := h.meets.append h.run h'.meets

omit [DecidableEq AccountId] in
/-- Every intention is decided by one call: those verified and those of the second group. -/
theorem intentions_perm (works : List (Work AccountId Hash))
    (hresolved : works.filterMap Work.main = works.filterMap Work.valid) :
    (works.flatMap Work.intentions).Perm
      (works.filterMap Work.verified ++ works.flatMap Work.others) := by
  -- the main intentions that are found invalid
  have key : ∀ works : List (Work AccountId Hash), ∃ refused,
      (works.flatMap Work.intentions).Perm
        (refused ++ works.filterMap Work.main ++ works.flatMap Work.others) ∧
      (refused ++ works.filterMap Work.valid).Perm (works.filterMap Work.verified) := by
    intro works
    induction works with
    | nil => exact ⟨[], .refl _, .refl _⟩
    | cons w works ih =>
        obtain ⟨refused, h₁, h₂⟩ := ih
        cases w with
        | verify i ok =>
            cases ok with
            | true => exact ⟨refused, h₁, List.perm_middle.trans (h₂.cons i)⟩
            | false => exact ⟨i :: refused, h₁.cons i, h₂.cons i⟩
        | matched pairAccount i bvec =>
            refine ⟨refused, ?_, h₂⟩
            show (i :: (bvec ++ works.flatMap Work.intentions)).Perm
              (refused ++ i :: works.filterMap Work.main ++ (bvec ++ works.flatMap Work.others))
            rw [List.append_assoc, List.cons_append]
            refine (List.Perm.cons i ?_).trans List.perm_middle.symm
            rw [← List.append_assoc]
            exact (h₁.append_left bvec).trans (List.perm_append_comm_assoc _ _ _)
        | single i =>
            refine ⟨refused, ?_, h₂⟩
            exact (h₁.cons i).trans List.perm_middle.symm
  obtain ⟨refused, h₁, h₂⟩ := key works
  rw [hresolved] at h₁
  exact h₁.trans (h₂.append_right _)

theorem Logs.intentions_perm (h : Logs cfg P W mains others s works s') :
    (works.flatMap Work.intentions).Perm (mains ++ others) := by
  have hperm := Exchange.intentions_perm works h.resolved
  rwa [h.verified, h.others] at hperm

theorem Logs.mono (h : Logs cfg P W mains others s works s') (hW : ∀ w, W w → W' w) :
    Logs cfg P W' mains others s works s' :=
  { h with kind := fun w hw => hW w (h.kind w hw) }

/-! ### The loops make logs -/

/-- A main intention is valid if the AMM would accept it; then nothing is reported. -/
theorem verifyIntention_true {i : Intention AccountId Hash}
    (h : (verifyIntention cfg i s).1 = true) :
    ∃ transfer, validateIntention cfg i s = .ok transfer ∧ (verifyIntention cfg i s).2 = s := by
  unfold verifyIntention at h ⊢
  cases hv : validateIntention cfg i s with
  | error error => rw [hv] at h; cases h
  | ok transfer => exact ⟨transfer, rfl, rfl⟩

variable {pairAccount : AccountId} {L L' : List (Work AccountId Hash)}
  {stack rest : List (Intention AccountId Hash)} {i : Intention AccountId Hash}
  {key : AssetId × AssetId}

/-- One main intention: it is verified, and resolved with those popped for it if it is
valid. -/
theorem logs_main (hall : EveryMatched cfg P pairAccount (s, stack) i)
    (h : processMainWith cfg (Handlers.pallet cfg).logging pairAccount ((s, L), stack) i
      = .ok ((s', L'), rest)) :
    processMain cfg pairAccount (s, stack) i = .ok (s', rest) ∧
    ∃ works bvec, L' = L ++ works ∧ stack = bvec ++ rest ∧
      Logs cfg P (Work.Within pairAccount [i] bvec) [i] bvec s works s' := by
  unfold processMainWith Handlers.logging Handlers.pallet at h
  unfold processMain
  simp only at h ⊢
  have hv : verifyIntention cfg i s = ((verifyIntention cfg i s).1, (verifyIntention cfg i s).2) :=
    rfl
  cases hok : (verifyIntention cfg i s).1 with
  | false =>
      rw [hok] at h hv
      cases h
      rw [hv]
      -- invalid: nothing is popped
      refine ⟨rfl, [.verify i false], [], rfl, rfl, rfl, rfl, rfl, rfl, ?_, ?_, ?_⟩
      · rintro w hw
        rw [List.mem_singleton.mp hw]
        exact List.mem_singleton_self i
      · exact ⟨hok, fun _ _ => trivial⟩
      · exact ⟨trivial, fun _ _ => trivial⟩
  | true =>
      -- valid: the verification leaves the state as it is, and the popped ones are resolved
      obtain ⟨transfer, ht, hsame⟩ := verifyIntention_true hok
      rw [hok] at h hv
      rw [hv, hsame]
      rw [hsame] at h
      simp only [Fallible.bind_eq_ok] at h ⊢
      obtain ⟨⟨bvec, rest'⟩, hpop, ⟨s₁, L₁⟩, ⟨s₂, hres, hs₂⟩, h⟩ := h
      cases hs₂
      cases h
      refine ⟨⟨(bvec, rest'), hpop, s', hres, rfl⟩, [.verify i true, .matched pairAccount i bvec],
        bvec, ?_, popMatched_ok hpop, ?_, rfl, rfl, ?_, ?_, ?_, ?_⟩
      · rw [List.append_assoc]
        rfl
      · refine Fallible.foldlM_cons_eq_ok.mpr
          ⟨s, ?_, Fallible.foldlM_cons_eq_ok.mpr ⟨s', hres, rfl⟩⟩
        rw [Work.run, hsame]
      · exact List.append_nil bvec
      · intro w hw
        rcases List.mem_cons.mp hw with rfl | hw
        · exact List.mem_singleton_self i
        · rw [List.mem_singleton.mp hw]
          exact ⟨rfl, List.mem_singleton_self i, fun m hm => hm⟩
      · refine ⟨hok, fun t ht' => ⟨?_, fun _ _ => trivial⟩⟩
        rw [Work.run, hsame] at ht'
        cases ht'
        exact hok
      · refine ⟨trivial, fun t ht' => ⟨?_, fun _ _ => trivial⟩⟩
        rw [Work.run, hsame] at ht'
        cases ht'
        exact hall transfer bvec rest' ht hpop

omit [DecidableEq AccountId] in
theorem Work.Within.mono {w : Work AccountId Hash} (h : w.Within pairAccount mains others)
    (hm : ∀ i ∈ mains, i ∈ mains') (ho : ∀ i ∈ others, i ∈ others') :
    w.Within pairAccount mains' others' := by
  cases w with
  | verify i ok => exact hm i h
  | matched account i bvec => exact ⟨h.1, hm i h.2.1, fun m hmem => ho m (h.2.2 m hmem)⟩
  | single i => exact ho i h

/-- The main intentions of a pair. -/
theorem logs_mains (hall : Fallible.Always (processMain cfg pairAccount)
      (EveryMatched cfg P pairAccount) (s, stack) mains)
    (h : mains.foldlM (processMainWith cfg (Handlers.pallet cfg).logging pairAccount)
      ((s, L), stack) = .ok ((s', L'), rest)) :
    ∃ works popped, L' = L ++ works ∧ stack = popped ++ rest ∧
      Logs cfg P (Work.Within pairAccount mains popped) mains popped s works s' := by
  induction mains generalizing s L stack with
  | nil =>
      rw [Fallible.foldlM_nil_eq_ok] at h
      cases h
      exact ⟨[], [], (List.append_nil _).symm, rfl, .nil⟩
  | cons i mains ih =>
      obtain ⟨⟨⟨s₁, L₁⟩, stack₁⟩, hstep, hrest⟩ := Fallible.foldlM_cons_eq_ok.mp h
      obtain ⟨hmain, works, bvec, rfl, rfl, hlog⟩ := logs_main hall.1 hstep
      obtain ⟨works', popped, rfl, rfl, hlog'⟩ := ih (hall.2 _ hmain) hrest
      refine ⟨works ++ works', bvec ++ popped, by rw [List.append_assoc], by rw [List.append_assoc],
        ?_⟩
      refine (hlog.mono fun w hw => ?_).append (hlog'.mono fun w hw => ?_)
      · exact hw.mono (fun j hj => List.mem_singleton.mp hj ▸ List.mem_cons_self)
          fun j hj => List.mem_append_left _ hj
      · exact hw.mono (fun j hj => List.mem_cons_of_mem i hj) fun j hj => List.mem_append_right _ hj

variable (cfg) in
/-- The intentions that are left of the second group. -/
theorem logs_rest (pairAccount : AccountId) (rest : List (Intention AccountId Hash))
    (s : State AccountId Hash) (L : List (Work AccountId Hash)) :
    ∃ s' works, rest.foldl (fun p intention => (Handlers.pallet cfg).logging.resolveSingle
        intention p) (s, L) = (s', L ++ works) ∧
      Logs cfg P (Work.Within pairAccount [] rest) [] rest s works s' := by
  induction rest generalizing s L with
  | nil => exact ⟨s, [], by rw [List.append_nil]; rfl, .nil⟩
  | cons i rest ih =>
      obtain ⟨s', works, h, hlog⟩ := ih (resolveSingleIntention cfg i s) (L ++ [.single i])
      refine ⟨s', .single i :: works, ?_, ?_⟩
      · rw [List.foldl_cons]
        refine h.trans ?_
        rw [List.append_assoc]
        rfl
      · have hone : Logs cfg P (Work.Within pairAccount [] (i :: rest)) [] [i] s [.single i]
            (resolveSingleIntention cfg i s) := by
          refine ⟨rfl, rfl, rfl, rfl, fun w hw => ?_, ⟨trivial, fun _ _ => trivial⟩,
            ⟨trivial, fun _ _ => trivial⟩⟩
          rw [List.mem_singleton.mp hw]
          exact List.mem_cons_self
        exact hone.append (hlog.mono fun w hw => hw.mono (fun _ hj => hj)
          fun j hj => List.mem_cons_of_mem i hj)

/-- One pair of assets. -/
theorem logs_pair (hall : EveryInPair cfg P s key)
    (h : finalizePairWith cfg (Handlers.pallet cfg).logging (s, L) key = .ok (s', L'))
    (hcount : (s.intentionCount.lookup key).getD 0 ≠ 0) :
    ∃ works, L' = L ++ works ∧
      Logs cfg P (Work.Within (XYK.getPairId cfg ⟨key.1, key.2⟩) (s.intentions (key.2, key.1))
          (s.intentions (key.1, key.2)))
        (sortByAmountIn (s.intentions (key.2, key.1)))
        (sortByAmountIn (s.intentions (key.1, key.2))) s works s' := by
  unfold finalizePairWith at h
  change (if (s.intentionCount.lookup key).getD 0 = 0 then _ else _) = _ at h
  rw [if_neg hcount, processExchangeIntentionsWith, Fallible.bind_eq_ok] at h
  obtain ⟨⟨⟨s₁, L₁⟩, rest⟩, hloop, h⟩ := h
  obtain ⟨works, popped, rfl, hpopped, hlog⟩ := logs_mains (hall hcount) hloop
  obtain ⟨s₂, works', hrest, hlog'⟩ := logs_rest (P := P) cfg
    (XYK.getPairId cfg ⟨key.1, key.2⟩) rest s₁ (L ++ works)
  change Except.ok (rest.foldl _ (s₁, L ++ works)) = _ at h
  rw [hrest] at h
  cases h
  refine ⟨works ++ works', by rw [List.append_assoc], ?_⟩
  -- sorting and popping only say in which order the intentions come
  have hmains : ∀ w : Work AccountId Hash, w.Within (XYK.getPairId cfg ⟨key.1, key.2⟩)
      (sortByAmountIn (s.intentions (key.2, key.1))) popped →
      w.Within (XYK.getPairId cfg ⟨key.1, key.2⟩) (s.intentions (key.2, key.1))
        (s.intentions (key.1, key.2)) := fun w hw =>
    hw.mono (fun j hj => (sortByAmountIn_perm _).mem_iff.mp hj) fun j hj =>
      (sortByAmountIn_perm _).mem_iff.mp (hpopped ▸ List.mem_append_left rest hj)
  have hothers : ∀ w : Work AccountId Hash, w.Within (XYK.getPairId cfg ⟨key.1, key.2⟩) [] rest →
      w.Within (XYK.getPairId cfg ⟨key.1, key.2⟩) (s.intentions (key.2, key.1))
        (s.intentions (key.1, key.2)) := fun w hw =>
    hw.mono (fun j hj => absurd hj List.not_mem_nil) fun j hj =>
      (sortByAmountIn_perm _).mem_iff.mp (hpopped ▸ List.mem_append_right popped hj)
  have hboth := (hlog.mono hmains).append (hlog'.mono hothers)
  rwa [List.append_nil, ← hpopped] at hboth

end Logs

/-! ## A block -/

section Block

variable {cfg}

omit [DecidableEq AccountId] in
/-- Leaving out the log. -/
theorem Handlers.logging_related (H : Handlers (State AccountId Hash) AccountId Hash) :
    Handlers.Related (fun p s => p.1 = s) Eq H.logging H where
  amountIn := by rintro i _ rfl; rfl
  count := by rintro p _ rfl key; rfl
  groups := by
    rintro p _ rfl key
    rw [List.forall₂_eq_eq_eq]
    rfl
  verify := by rintro p _ i _ rfl rfl; exact ⟨rfl, rfl⟩
  resolveMatched := by
    rintro p _ i _ bvec bvec' pairAccount rfl rfl hbvec
    rw [List.forall₂_eq_eq_eq] at hbvec
    subst hbvec
    show Fallible.Matches _ (H.resolveMatched pairAccount i bvec p.1 >>= _) _
    generalize H.resolveMatched pairAccount i bvec p.1 = r
    cases r with
    | error e => rfl
    | ok s => rfl
  resolveSingle := by rintro p _ i _ rfl rfl; rfl

/-- A completed loop over the pairs is a completed loop with a log. -/
theorem foldlM_finalizePair_iff {keys : List (AssetId × AssetId)} {s s' : State AccountId Hash}
    {L : List (Work AccountId Hash)} :
    keys.foldlM (finalizePair cfg) s = .ok s' ↔
      ∃ L', keys.foldlM (finalizePairWith cfg (Handlers.pallet cfg).logging) (s, L)
        = .ok (s', L') := by
  have hmatch : Fallible.Matches (fun p t => p.1 = t)
      (keys.foldlM (finalizePairWith cfg (Handlers.pallet cfg).logging) (s, L))
      (keys.foldlM (finalizePairWith cfg (Handlers.pallet cfg)) s) :=
    (Handlers.logging_related (Handlers.pallet cfg)).finalizePairs rfl keys
  rw [finalizePairWith_pallet] at hmatch
  constructor
  · intro h
    obtain ⟨p, hp, rfl⟩ := hmatch.of_ok_right h
    exact ⟨p.2, hp⟩
  · rintro ⟨L', h⟩
    obtain ⟨_, ht, rfl⟩ := hmatch.of_ok h
    exact ht

/-- **A block is finalized through its calls.** -/
theorem onFinalize_iff_log {s s' : State AccountId Hash} :
    onFinalize cfg s = .ok s' ↔ ∃ t log, finalizeLog cfg s = .ok (t, log) ∧
      s' = { t with intentionCount := ∅, intentions := fun _ => [] } := by
  unfold onFinalize finalizeLog
  rw [Fallible.bind_eq_ok]
  constructor
  · rintro ⟨t, hloop, h⟩
    obtain ⟨log, hlog⟩ := foldlM_finalizePair_iff.mp hloop
    exact ⟨t, log, hlog, (Except.ok.inj h).symm⟩
  · rintro ⟨t, log, hlog, rfl⟩
    exact ⟨t, foldlM_finalizePair_iff.mpr ⟨log, hlog⟩, rfl⟩

/-- The main intentions of a pair, in the order in which they are processed; none if the pair
is not counted. -/
def mainsOf (s : State AccountId Hash) (key : AssetId × AssetId) :
    List (Intention AccountId Hash) :=
  if (s.intentionCount.lookup key).getD 0 = 0 then []
  else sortByAmountIn (s.intentions (key.2, key.1))

/-- The second group of a pair in the same way. -/
def othersOf (s : State AccountId Hash) (key : AssetId × AssetId) :
    List (Intention AccountId Hash) :=
  if (s.intentionCount.lookup key).getD 0 = 0 then []
  else sortByAmountIn (s.intentions (key.1, key.2))

/-- The call is for a pair that is counted. -/
def Work.InBlock (cfg : Config AccountId Hash) (s : State AccountId Hash)
    (w : Work AccountId Hash) : Prop :=
  ∃ key, (s.intentionCount.lookup key).getD 0 ≠ 0 ∧
    w.Within (XYK.getPairId cfg ⟨key.1, key.2⟩) (s.intentions (key.2, key.1))
      (s.intentions (key.1, key.2))

theorem logs_pairs {P : IterationCond AccountId Hash} {s t t' : State AccountId Hash}
    {L L' : List (Work AccountId Hash)} {keys : List (AssetId × AssetId)}
    (hst : State.SameStorage s t)
    (hall : Fallible.Always (finalizePair cfg) (EveryInPair cfg P) t keys)
    (h : keys.foldlM (finalizePairWith cfg (Handlers.pallet cfg).logging) (t, L) = .ok (t', L')) :
    ∃ works, L' = L ++ works ∧
      Logs cfg P (Work.InBlock cfg s) (keys.flatMap (mainsOf s)) (keys.flatMap (othersOf s)) t works
        t' := by
  induction keys generalizing t L with
  | nil =>
      rw [Fallible.foldlM_nil_eq_ok] at h
      cases h
      exact ⟨[], (List.append_nil _).symm, .nil⟩
  | cons key keys ih =>
      obtain ⟨⟨t₁, L₁⟩, hstep, hrest⟩ := Fallible.foldlM_cons_eq_ok.mp h
      -- the loop without a log makes the same step
      have hpair : finalizePair cfg t key = .ok t₁ := by
        have hone : [key].foldlM (finalizePair cfg) t = .ok t₁ :=
          foldlM_finalizePair_iff.mpr ⟨L₁, Fallible.foldlM_cons_eq_ok.mpr ⟨_, hstep, rfl⟩⟩
        obtain ⟨_, hone, hnil⟩ := Fallible.foldlM_cons_eq_ok.mp hone
        rw [hone, Fallible.foldlM_nil_eq_ok.mp hnil]
      obtain ⟨works', rfl, hlog'⟩ := ih (hst.trans (finalizePair_storage hpair)) (hall.2 _ hpair)
        hrest
      have hcount : t.intentionCount = s.intentionCount := by rw [hst]
      by_cases hzero : (s.intentionCount.lookup key).getD 0 = 0
      · unfold finalizePairWith at hstep
        change (if (t.intentionCount.lookup key).getD 0 = 0 then _ else _) = _ at hstep
        rw [hcount, if_pos hzero] at hstep
        cases hstep
        -- a pair that is not counted makes no calls
        refine ⟨works', rfl, ?_⟩
        rw [List.flatMap_cons, List.flatMap_cons, mainsOf, othersOf, if_pos hzero, if_pos hzero]
        exact hlog'
      · obtain ⟨works, rfl, hlog⟩ := logs_pair hall.1 hstep (by rw [hcount]; exact hzero)
        rw [hst.intentions] at hlog
        refine ⟨works ++ works', by rw [List.append_assoc], ?_⟩
        rw [List.flatMap_cons, List.flatMap_cons, mainsOf, othersOf, if_neg hzero, if_neg hzero]
        exact (hlog.mono fun w hw => ⟨key, hzero, hw⟩).append hlog'

/-- **The calls of a block**: every main intention of a counted pair is verified, in order, the
valid ones are resolved, and every other intention is resolved once. -/
theorem finalizeLog_spec {P : IterationCond AccountId Hash} {s t : State AccountId Hash}
    {log : List (Work AccountId Hash)} (hall : EveryIteration cfg P s)
    (h : finalizeLog cfg s = .ok (t, log)) :
    Logs cfg P (Work.InBlock cfg s)
      ((cfg.iterOrder s.intentionCount.keys).flatMap (mainsOf s))
      ((cfg.iterOrder s.intentionCount.keys).flatMap (othersOf s)) s log t := by
  obtain ⟨works, rfl, hlog⟩ := logs_pairs (.refl s) hall h
  exact hlog

/-- The calls of a block, with nothing known about the iterations. -/
theorem finalizeLog_logs {s t : State AccountId Hash} {log : List (Work AccountId Hash)}
    (h : finalizeLog cfg s = .ok (t, log)) :
    Logs cfg (fun _ _ _ _ => True) (Work.InBlock cfg s)
      ((cfg.iterOrder s.intentionCount.keys).flatMap (mainsOf s))
      ((cfg.iterOrder s.intentionCount.keys).flatMap (othersOf s)) s log t :=
  finalizeLog_spec (everyIteration_of_forall (fun _ _ _ _ => trivial) s) h

end Block

end HydraDX.Exchange
