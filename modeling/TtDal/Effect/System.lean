import TtDal.Effect.Procedure
import Mathlib.Data.Nat.Notation

/-!
# Runs of a system

A system starts in some states and makes labelled moves. `Reaches` collects the states of all
runs whose moves meet a condition on the state before the move and its label. An invariant of
every such run is established once, by `Reaches.invariant`. `Inevitable` says that all runs from a
state come to a goal, which follows from an invariant, progress outside of the goal and a measure
that every move lowers.
-/

namespace TtDal.Effect

structure System (State Label : Type) where
  starts : State → Prop
  moves : State → Label → State → Prop

namespace System

variable {State Label : Type} {system : System State Label}
  {condition condition' : State → Label → Prop} {s s' : State} {label : Label}

/-- The states of the runs whose moves all meet the condition. -/
inductive Reaches (system : System State Label) (condition : State → Label → Prop) :
    State → Prop where
  | start {s : State} : system.starts s → Reaches system condition s
  | move {s s' : State} {label : Label} : Reaches system condition s → condition s label →
      system.moves s label s' → Reaches system condition s'

/-- The states of all runs. -/
abbrev Reachable (system : System State Label) : State → Prop :=
  system.Reaches fun _ _ ↦ True

/-- What holds at the start and is kept by every move that meets the condition holds in every
state of the runs that meet it. -/
theorem Reaches.invariant {inv : State → Prop} (hstart : ∀ s, system.starts s → inv s)
    (hmove : ∀ s label s', inv s → condition s label → system.moves s label s' → inv s')
    (h : system.Reaches condition s) : inv s := by
  induction h with
  | start hs => exact hstart _ hs
  | move hreach hcondition hmoves ih => exact hmove _ _ _ ih hcondition hmoves

theorem Reaches.mono (himp : ∀ s label, condition s label → condition' s label)
    (h : system.Reaches condition s) : system.Reaches condition' s := by
  induction h with
  | start hs => exact .start hs
  | move hreach hcondition hmoves ih => exact .move ih (himp _ _ hcondition) hmoves

/-- Every run from the state reaches the goal, and none gets stuck before. -/
inductive Inevitable (system : System State Label) (goal : State → Prop) : State → Prop where
  | here {s : State} : goal s → Inevitable system goal s
  | next {s : State} : (∃ label s', system.moves s label s') →
      (∀ label s', system.moves s label s' → Inevitable system goal s') →
      Inevitable system goal s

section Inevitable

variable {goal inv : State → Prop}

theorem inevitable_of_measure (measure : State → ℕ)
    (hmove : ∀ s label s', inv s → system.moves s label s' → inv s')
    (hless : ∀ s label s', inv s → system.moves s label s' → measure s' < measure s)
    (hprogress : ∀ s, inv s → ¬goal s → ∃ label s', system.moves s label s') (h : inv s) :
    system.Inevitable goal s := by
  induction hmeasure : measure s using Nat.strongRecOn generalizing s with
  | ind bound ih =>
    by_cases hgoal : goal s
    · exact .here hgoal
    · apply Inevitable.next (hprogress s h hgoal)
      intro label s' hmoves
      exact ih (measure s') (hmeasure ▸ hless s label s' h hmoves) (hmove s label s' h hmoves) rfl

/-- Some run reaches the goal. -/
theorem Inevitable.reaches (h : system.Inevitable goal s) (hreach : system.Reachable s) :
    ∃ s', system.Reachable s' ∧ goal s' := by
  induction h with
  | here hgoal => exact ⟨_, hreach, hgoal⟩
  | next hprogress hrest ih =>
    obtain ⟨label, s', hmoves⟩ := hprogress
    exact ih label s' hmoves (.move hreach trivial hmoves)

end Inevitable

end System

end TtDal.Effect
