/-
Programs that are a list of fallible operations with one way out.

Each stage says something, performs an operation on the state, and goes on if it
succeeds.  The first operation that fails ends the program: the stage adds its
message, and the state stays as the operations before have left it.
-/

import Mathlib.Data.List.Basic

namespace AmebaTests.Foundation

structure Stage (State Line : Type) where
  announce : List Line
  operate : State → Option State
  failure : List Line

/-- `completed` is false if an operation has failed. -/
structure Ended (State Line : Type) where
  state : State
  lines : List Line
  completed : Bool

variable {State Line : Type}

def runStages : List (Stage State Line) → State → Ended State Line
  | [], state => { state := state, lines := [], completed := true }
  | stage :: rest, state =>
      match stage.operate state with
      | none =>
          { state := state, lines := stage.announce ++ stage.failure, completed := false }
      | some next =>
          let ended := runStages rest next
          { ended with lines := stage.announce ++ ended.lines }

/-- An operation that may be made to fail succeeds only undisturbed. -/
theorem disturbed_eq_some {faulty : Bool} {result : Option State} {next : State} :
    (if faulty then none else result) = some next ↔ faulty = false ∧ result = some next := by
  cases faulty with
  | false => simp
  | true => simp

theorem runStages_of_failure {stage : Stage State Line} {state : State}
    (failed : stage.operate state = none) (rest : List (Stage State Line)) :
    runStages (stage :: rest) state =
      { state := state, lines := stage.announce ++ stage.failure, completed := false } := by
  rw [runStages, failed]

theorem runStages_of_success {stage : Stage State Line} {state next : State}
    (operated : stage.operate state = some next) (rest : List (Stage State Line)) :
    runStages (stage :: rest) state =
      { state := (runStages rest next).state
        lines := stage.announce ++ (runStages rest next).lines
        completed := (runStages rest next).completed } := by
  rw [runStages, operated]

/-- A property that no operation destroys holds where the program ends. -/
theorem runStages_invariant (holds : State → Prop) {stages : List (Stage State Line)}
    (preserved : ∀ stage ∈ stages, ∀ state next, holds state →
      stage.operate state = some next → holds next)
    {state : State} (initial : holds state) : holds (runStages stages state).state := by
  induction stages generalizing state with
  | nil => exact initial
  | cons stage rest ih =>
      cases operated : stage.operate state with
      | none =>
          rw [runStages_of_failure operated]
          exact initial
      | some next =>
          rw [runStages_of_success operated]
          apply ih
          · intro later member
            exact preserved later (List.mem_cons_of_mem stage member)
          · exact preserved stage List.mem_cons_self state next initial operated

/-- The same operation with other lines. -/
def Stage.relabel {Other : Type} (stage : Stage State Line) (lines : List Other) :
    Stage State Other where
  announce := lines
  operate := stage.operate
  failure := []

theorem exists_stage_of_mem_lines {stages : List (Stage State Line)} {state : State} {line : Line}
    (member : line ∈ (runStages stages state).lines) :
    ∃ stage ∈ stages, line ∈ stage.announce ∨ line ∈ stage.failure := by
  induction stages generalizing state with
  | nil => exact absurd member List.not_mem_nil
  | cons stage rest ih =>
      cases operated : stage.operate state with
      | none =>
          rw [runStages_of_failure operated] at member
          exact ⟨stage, List.mem_cons_self, List.mem_append.mp member⟩
      | some next =>
          rw [runStages_of_success operated] at member
          rcases List.mem_append.mp member with here | later
          · exact ⟨stage, List.mem_cons_self, Or.inl here⟩
          · obtain ⟨other, among, line⟩ := ih later
            exact ⟨other, List.mem_cons_of_mem stage among, line⟩

/-- Lines put in front of the operations of a program come from one of them. -/
theorem exists_of_mem_lines_relabel {Operation Other : Type} {operations : List Operation}
    {stage : Operation → Stage State Line} {lines : Operation → List Other} {state : State}
    {line : Other}
    (member : line ∈ (runStages (operations.map fun operation =>
      (stage operation).relabel (lines operation)) state).lines) :
    ∃ operation ∈ operations, line ∈ lines operation := by
  obtain ⟨relabelled, among, announced | failed⟩ := exists_stage_of_mem_lines member
  · obtain ⟨operation, listed, rfl⟩ := List.mem_map.mp among
    exact ⟨operation, listed, announced⟩
  · obtain ⟨operation, _listed, rfl⟩ := List.mem_map.mp among
    cases failed

def Completes (stages : List (Stage State Line)) (state final : State) : Prop :=
  (runStages stages state).completed = true ∧ (runStages stages state).state = final

theorem completes_nil (state final : State) :
    Completes ([] : List (Stage State Line)) state final ↔ state = final := by
  constructor
  · intro completes
    exact completes.2
  · intro same
    exact ⟨rfl, same⟩

theorem completes_cons (stage : Stage State Line) (rest : List (Stage State Line))
    (state final : State) :
    Completes (stage :: rest) state final ↔
      ∃ next, stage.operate state = some next ∧ Completes rest next final := by
  unfold Completes
  cases operated : stage.operate state with
  | none =>
      rw [runStages_of_failure operated]
      constructor
      · intro completes
        cases completes.1
      · intro completes
        obtain ⟨next, impossible, _rest⟩ := completes
        cases impossible
  | some next =>
      rw [runStages_of_success operated]
      constructor
      · intro completes
        exact ⟨next, rfl, completes⟩
      · intro completes
        obtain ⟨_next, same, rest⟩ := completes
        cases same
        exact rest

/-- A program that stops in its first part never reaches the second. -/
theorem runStages_append_of_stopped {first second : List (Stage State Line)} {state : State}
    (stopped : (runStages first state).completed = false) :
    runStages (first ++ second) state = runStages first state := by
  induction first generalizing state with
  | nil => cases stopped
  | cons stage rest ih =>
      cases operated : stage.operate state with
      | none =>
          rw [List.cons_append, runStages_of_failure operated, runStages_of_failure operated]
      | some next =>
          rw [runStages_of_success operated] at stopped
          rw [List.cons_append, runStages_of_success operated, runStages_of_success operated,
            ih stopped]

theorem completes_append (first second : List (Stage State Line)) (state final : State) :
    Completes (first ++ second) state final ↔
      ∃ middle, Completes first state middle ∧ Completes second middle final := by
  induction first generalizing state with
  | nil =>
      simp only [List.nil_append, completes_nil, exists_eq_left']
  | cons stage rest ih =>
      simp only [List.cons_append, completes_cons, ih]
      constructor
      · intro completes
        obtain ⟨next, operated, middle, front, back⟩ := completes
        exact ⟨middle, ⟨next, operated, front⟩, back⟩
      · intro completes
        obtain ⟨middle, ⟨next, operated, front⟩, back⟩ := completes
        exact ⟨next, operated, middle, front, back⟩

theorem state_append_of_completes {first second : List (Stage State Line)}
    {state middle : State} (completes : Completes first state middle) :
    (runStages (first ++ second) state).state = (runStages second middle).state := by
  induction first generalizing state with
  | nil =>
      rw [completes_nil] at completes
      rw [completes]
      rfl
  | cons stage rest ih =>
      rw [completes_cons] at completes
      obtain ⟨next, operated, rest⟩ := completes
      rw [List.cons_append, runStages_of_success operated]
      exact ih rest

/-- If only the last operation destroys a property, a program that ends without
it has completed. -/
theorem completes_of_lost (holds : State → Prop) {first : List (Stage State Line)}
    (preserved : ∀ stage ∈ first, ∀ state next, holds state →
      stage.operate state = some next → holds next)
    {last : Stage State Line} {state : State} (initial : holds state)
    (lost : ¬ holds (runStages (first ++ [last]) state).state) :
    ∃ final, Completes (first ++ [last]) state final := by
  have kept := runStages_invariant holds preserved initial
  cases ended : (runStages first state).completed with
  | false =>
      rw [runStages_append_of_stopped ended] at lost
      exact absurd kept lost
  | true =>
      have front : Completes first state (runStages first state).state := ⟨ended, rfl⟩
      cases operated : last.operate (runStages first state).state with
      | none =>
          rw [state_append_of_completes front, runStages_of_failure operated] at lost
          exact absurd kept lost
      | some final =>
          refine ⟨final, (completes_append _ _ _ _).mpr ⟨_, front, ?_⟩⟩
          exact (completes_cons _ _ _ _).mpr ⟨final, operated, (completes_nil _ _).mpr rfl⟩

theorem lines_of_completes {stages : List (Stage State Line)} {state final : State}
    (completes : Completes stages state final) :
    (runStages stages state).lines = stages.flatMap Stage.announce := by
  induction stages generalizing state with
  | nil => rfl
  | cons stage rest ih =>
      rw [completes_cons] at completes
      obtain ⟨next, operated, rest⟩ := completes
      rw [runStages_of_success operated, List.flatMap_cons, ih rest]

end AmebaTests.Foundation
