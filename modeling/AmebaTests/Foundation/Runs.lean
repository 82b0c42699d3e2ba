/-
Finite runs of a system whose successor is a partial function of the event.

A run keeps each state it left together with the event taken there, newest
first.  A statement about the past of a system is then a statement about one
list, and a condition on every step is a condition on every entry of it.
-/

import Mathlib.Data.List.Basic

namespace AmebaTests.Foundation

variable {State Event : Type}

/-- The steps of a run, newest first: the state left and the event taken. -/
abbrev History (State Event : Type) := List (State × Event)

inductive Run (step : State → Event → Option State) (start : State) :
    History State Event → State → Prop
  | start : Run step start [] start
  | next {history : History State Event} {state successor : State} {event : Event} :
      Run step start history state →
      step state event = some successor →
      Run step start ((state, event) :: history) successor

namespace Run

variable {step : State → Event → Option State} {start : State}

/-- The invariant rule.  What is shown may mention the history, and each step
may use that the run so far is a run. -/
theorem invariant (holds : History State Event → State → Prop)
    (initial : holds [] start)
    (preserved : ∀ history state event successor,
      Run step start history state → holds history state →
      step state event = some successor →
      holds ((state, event) :: history) successor)
    {history : History State Event} {state : State}
    (run : Run step start history state) : holds history state := by
  induction run with
  | start => exact initial
  | next earlier taken ih => exact preserved _ _ _ _ earlier ih taken

theorem invariant_of_allowed (allowed : State → Event → Prop)
    (holds : History State Event → State → Prop)
    (initial : holds [] start)
    (preserved : ∀ history state event successor,
      holds history state → allowed state event →
      step state event = some successor →
      holds ((state, event) :: history) successor)
    {history : History State Event} {state : State}
    (run : Run step start history state)
    (everyStep : ∀ entry ∈ history, allowed entry.1 entry.2) :
    holds history state := by
  induction run with
  | start => exact initial
  | next earlier taken ih =>
      have head := everyStep _ List.mem_cons_self
      have tail := ih (fun entry member =>
        everyStep entry (List.mem_cons_of_mem _ member))
      exact preserved _ _ _ _ tail head taken

theorem of_entry {history : History State Event} {state : State}
    (run : Run step start history state) {entry : State × Event} (member : entry ∈ history) :
    ∃ earlier, Run step start earlier entry.1 := by
  induction run with
  | start => exact absurd member List.not_mem_nil
  | next earlier _taken ih =>
      rcases List.mem_cons.mp member with newest | older
      · rw [newest]
        exact ⟨_, earlier⟩
      · exact ih older

theorem append {first second : History State Event} {middle final : State}
    (before : Run step start first middle)
    (after : Run step middle second final) :
    Run step start (second ++ first) final := by
  induction after with
  | start => exact before
  | next _ taken ih => exact ih.next taken

/-- The simulation rule: a system each of whose steps is an allowed step of
another, seen through an abstraction, has only runs of the other. -/
theorem simulate {Concrete Label : Type} {concreteStep : Concrete → Label → Option Concrete}
    (abstraction : Concrete → State) (allowed : Event → Prop)
    (simulates : ∀ state label successor, concreteStep state label = some successor →
      ∃ event, allowed event ∧
        step (abstraction state) event = some (abstraction successor))
    {initial final : Concrete} {steps : History Concrete Label}
    (run : Run concreteStep initial steps final) :
    ∃ history, Run step (abstraction initial) history (abstraction final) ∧
      ∀ entry ∈ history, allowed entry.2 := by
  induction run with
  | start => exact ⟨[], Run.start, fun entry member => absurd member List.not_mem_nil⟩
  | next _ taken ih =>
      obtain ⟨history, earlier, every⟩ := ih
      obtain ⟨event, permitted, simulated⟩ := simulates _ _ _ taken
      exact ⟨_, earlier.next simulated, List.forall_mem_cons.mpr ⟨permitted, every⟩⟩

end Run

/-- A property of every state of a run, each with the history it was reached by. -/
def Throughout (holds : History State Event → State → Prop) :
    History State Event → State → Prop
  | [], state => holds [] state
  | (earlier, event) :: history, state =>
      holds ((earlier, event) :: history) state ∧ Throughout holds history earlier

theorem Throughout.now {holds : History State Event → State → Prop}
    {history : History State Event} {state : State} (always : Throughout holds history state) :
    holds history state := by
  cases history with
  | nil => exact always
  | cons entry history => exact always.1

/-- Perform a list of events in order; a disabled event refuses the list. -/
def execute (step : State → Event → Option State) :
    State → List Event → Option State
  | state, [] => some state
  | state, event :: rest =>
      match step state event with
      | none => none
      | some successor => execute step successor rest

section Execute

variable {step : State → Event → Option State}

@[simp] theorem execute_nil (state : State) :
    execute step state [] = some state := rfl

theorem execute_cons {state successor : State} {event : Event} (rest : List Event)
    (taken : step state event = some successor) :
    execute step state (event :: rest) = execute step successor rest := by
  simp only [execute, taken]

theorem execute_cons_reached {state final : State} {event : Event} {rest : List Event}
    (reached : execute step state (event :: rest) = some final) :
    ∃ successor, step state event = some successor ∧ execute step successor rest = some final := by
  cases taken : step state event with
  | none => simp only [execute, taken, reduceCtorEq] at reached
  | some successor =>
      rw [execute_cons rest taken] at reached
      exact ⟨successor, rfl, reached⟩

theorem execute_append {state middle : State} {first : List Event}
    (second : List Event) (reached : execute step state first = some middle) :
    execute step state (first ++ second) = execute step middle second := by
  induction first generalizing state with
  | nil =>
      rw [execute_nil, Option.some.injEq] at reached
      rw [List.nil_append, reached]
  | cons event rest ih =>
      obtain ⟨successor, taken, reached⟩ := execute_cons_reached reached
      rw [List.cons_append, execute_cons _ taken, ih reached]

theorem Run.of_execute {state final : State} {events : List Event}
    (reached : execute step state events = some final) :
    ∃ history, Run step state history final ∧
      history.map Prod.snd = events.reverse := by
  induction events generalizing state with
  | nil =>
      rw [execute_nil, Option.some.injEq] at reached
      subst reached
      exact ⟨[], Run.start, rfl⟩
  | cons event rest ih =>
      obtain ⟨successor, taken, reached⟩ := execute_cons_reached reached
      obtain ⟨history, run, events⟩ := ih reached
      refine ⟨history ++ [(state, event)], ?_, ?_⟩
      · exact Run.append (Run.start.next taken) run
      · rw [List.map_append, events, List.reverse_cons]
        rfl

end Execute

/-- Offer a list of events in order; a disabled event passes without effect. -/
def follow (step : State → Event → Option State) (state : State) (events : List Event) : State :=
  events.foldl (fun current event => (step current event).getD current) state

theorem follow_of_execute {step : State → Event → Option State} {state final : State}
    {events : List Event} (reached : execute step state events = some final) :
    follow step state events = final := by
  induction events generalizing state with
  | nil => exact Option.some.inj reached
  | cons event rest ih =>
      obtain ⟨successor, taken, reached⟩ := execute_cons_reached reached
      rw [follow, List.foldl_cons, taken]
      exact ih reached

theorem follow_append (step : State → Event → Option State) (state : State)
    (first second : List Event) :
    follow step state (first ++ second) = follow step (follow step state first) second :=
  List.foldl_append

theorem follow_of_disabled {step : State → Event → Option State} {state : State}
    {events : List Event} (disabled : ∀ event ∈ events, step state event = none) :
    follow step state events = state := by
  induction events with
  | nil => rfl
  | cons event rest ih =>
      rw [follow, List.foldl_cons, disabled event List.mem_cons_self]
      exact ih fun other member => disabled other (List.mem_cons_of_mem event member)

theorem follow_invariant {step : State → Event → Option State} (holds : State → Prop)
    (preserved : ∀ state event successor, holds state →
      step state event = some successor → holds successor)
    {state : State} (initial : holds state) (events : List Event) :
    holds (follow step state events) := by
  induction events generalizing state with
  | nil => exact initial
  | cons event rest ih =>
      rw [follow, List.foldl_cons]
      apply ih
      cases taken : step state event with
      | none => exact initial
      | some successor => exact preserved state event successor initial taken

end AmebaTests.Foundation
