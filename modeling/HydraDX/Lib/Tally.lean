import Mathlib.Algebra.BigOperators.Group.List.Basic
import Mathlib.Tactic

set_option autoImplicit false

/-! # Settling items from a log

Items with an identity are worked on in some order, and every effect on an item is written
to a log. The *tally* of an identity is what the log entries say about it, added up. A piece
of work `Resolves` a list of items if each of them that the log did not mention before ends
with a tally that is `Done`, and if no other tally changes. Pieces of work on different
items compose (`Resolves.append`): each leaves the tallies of the other alone. -/

namespace Tally

variable {Id Entry M : Type} [AddCommMonoid M] (contrib : Id → Entry → M)

/-- What the log says about an identity. -/
def tally (id : Id) (log : List Entry) : M := (log.map (contrib id)).sum

variable {contrib}

theorem tally_append (id : Id) (E F : List Entry) :
    tally contrib id (E ++ F) = tally contrib id E + tally contrib id F := by
  rw [tally, List.map_append, List.sum_append]
  rfl

theorem tally_cons (id : Id) (e : Entry) (E : List Entry) :
    tally contrib id (e :: E) = contrib id e + tally contrib id E := by
  rw [tally, List.map_cons, List.sum_cons]
  rfl

theorem tally_eq_zero {id : Id} {E : List Entry} (h : ∀ e ∈ E, contrib id e = 0) :
    tally contrib id E = 0 := by
  refine List.sum_eq_zero fun x hx => ?_
  obtain ⟨e, he, rfl⟩ := List.mem_map.mp hx
  exact h e he

section Resolves

variable {Item : Type} (contrib) (idOf : Item → Id) (Done : Item → M → Prop)

/-- The items of `L` are settled between the logs `E` and `E'`, and nothing else is. -/
structure Resolves (L : List Item) (E E' : List Entry) : Prop where
  done : ∀ i ∈ L, tally contrib (idOf i) E = 0 → Done i (tally contrib (idOf i) E')
  frame : ∀ id, (∀ i ∈ L, idOf i ≠ id) → tally contrib id E' = tally contrib id E

variable {contrib idOf Done} {L L₁ L₂ : List Item} {E E₁ E₂ : List Entry}

theorem Resolves.nil : Resolves contrib idOf Done [] E E :=
  ⟨fun _ h => absurd h List.not_mem_nil, fun _ _ => rfl⟩

/-- Items that may stay as they are, and a log that does not speak about any item. -/
theorem Resolves.of_silent (hdone : ∀ i ∈ L, Done i 0)
    (hsilent : ∀ id, tally contrib id E₁ = tally contrib id E) :
    Resolves contrib idOf Done L E E₁ :=
  ⟨fun i hi hz => by rw [hsilent, hz]; exact hdone i hi, fun id _ => hsilent id⟩

/-- Only which items there are matters. -/
theorem Resolves.congr (h : Resolves contrib idOf Done L₁ E E₁) (hmem : ∀ i, i ∈ L₁ ↔ i ∈ L₂) :
    Resolves contrib idOf Done L₂ E E₁ :=
  ⟨fun i hi => h.done i ((hmem i).mpr hi), fun id hid => h.frame id fun i hi =>
    hid i ((hmem i).mp hi)⟩

/-- **Work on different items composes.** -/
theorem Resolves.append (h₁ : Resolves contrib idOf Done L₁ E E₁)
    (h₂ : Resolves contrib idOf Done L₂ E₁ E₂)
    (hne : ∀ i ∈ L₁, ∀ j ∈ L₂, idOf i ≠ idOf j) :
    Resolves contrib idOf Done (L₁ ++ L₂) E E₂ := by
  refine ⟨fun i hi hz => ?_, fun id hid => ?_⟩
  · rcases List.mem_append.mp hi with hi | hi
    · rw [h₂.frame (idOf i) fun j hj => (hne i hi j hj).symm]
      exact h₁.done i hi hz
    · refine h₂.done i hi ?_
      rw [h₁.frame (idOf i) fun j hj => hne j hj i hi, hz]
  · rw [h₂.frame id fun j hj => hid j (List.mem_append_right L₁ hj)]
    exact h₁.frame id fun j hj => hid j (List.mem_append_left L₂ hj)

end Resolves

end Tally
