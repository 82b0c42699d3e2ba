/-
The cyclic test on a correct DMA engine.

The engine accepts every configuration.  Each issued descriptor copies its
periods in turn, one after the other and round again, from `buf_src` to
`buf_dst`, and runs the callback after each period.  The descriptors of earlier
rounds go on cycling.  A period is half the buffer, while the callback compares
all of it.
-/

import AmebaTests.Dmac.Rounds

namespace AmebaTests.Dmac

open Foundation

/-- The test together with the engine: for each issued descriptor the period it
is at, and whether that period is copied and its callback still to run. -/
structure EngineState where
  test : State
  period : Nat → Nat
  copied : Nat → Bool

inductive EngineEvent
  | main
  | slaveConfig
  | copy (index : Nat)
  | complete (index : Nat)

def engineStart (nextHandle loop : Nat) : EngineState where
  test := enter .success nextHandle loop
  period := fun _ => 0
  copied := fun _ => false

def copyPeriod (descriptor : Descriptor) (period : Nat) (src dst : Words) : Words :=
  fun i =>
    if period * descriptor.periodLen / 4 ≤ i ∧ i < (period + 1) * descriptor.periodLen / 4 then
      src i
    else
      dst i

def engineStep (e : EngineState) : EngineEvent → Option EngineState
  | .main => (step e.test .main).map fun test => { e with test := test }
  | .slaveConfig => (step e.test (.slaveConfig 0)).map fun test => { e with test := test }
  | .copy index =>
      match e.test.issued[index]? with
      | none => none
      | some descriptor =>
          if e.copied index then none
          else
            (step e.test (.engine
              (copyPeriod descriptor (e.period index) e.test.src e.test.dst))).map
                fun test => { e with test := test, copied := Function.update e.copied index true }
  | .complete index =>
      match e.test.issued[index]? with
      | none => none
      | some descriptor =>
          if e.copied index then
            (step e.test .callback).map fun test =>
              { test := test
                period := Function.update e.period index
                  ((e.period index + 1) % (descriptor.bufLen / descriptor.periodLen))
                copied := Function.update e.copied index false }
          else none

def Accepted : Event → Prop
  | .slaveConfig ret => ret = 0
  | _ => True

theorem engineStep_simulates {e successor : EngineState} {label : EngineEvent}
    (taken : engineStep e label = some successor) :
    ∃ event, Accepted event ∧ step e.test event = some successor.test := by
  cases label with
  | main =>
      obtain ⟨test, moved, rfl⟩ := Option.map_eq_some_iff.mp taken
      exact ⟨.main, trivial, moved⟩
  | slaveConfig =>
      obtain ⟨test, moved, rfl⟩ := Option.map_eq_some_iff.mp taken
      exact ⟨.slaveConfig 0, rfl, moved⟩
  | copy index =>
      simp only [engineStep] at taken
      split at taken
      · cases taken
      · split at taken
        · cases taken
        · obtain ⟨test, moved, rfl⟩ := Option.map_eq_some_iff.mp taken
          exact ⟨.engine _, trivial, moved⟩
  | complete index =>
      simp only [engineStep] at taken
      split at taken
      · cases taken
      · split at taken
        · obtain ⟨test, moved, rfl⟩ := Option.map_eq_some_iff.mp taken
          exact ⟨.callback, trivial, moved⟩
        · cases taken

theorem run_engine_projects {nextHandle loop : Nat}
    {steps : History EngineState EngineEvent} {e : EngineState}
    (run : Run engineStep (engineStart nextHandle loop) steps e) :
    ∃ history, Run step (enter .success nextHandle loop) history e.test ∧
      ∀ entry ∈ history, Accepted entry.2 :=
  Run.simulate EngineState.test Accepted (fun _ _ _ taken => engineStep_simulates taken) run

/-! ### A single round cannot fail -/

/-- With one round to go the chain reads only the status left at entry. -/
def SingleRound (s : State) : Prop :=
  match s.point with
  | .loopTest => s.dmaTestTimes = 0 → s.dmaCyclicStatus = .success ∧ s.issued = []
  | .pollFail => s.dmaCyclicStatus = .success ∧ s.issued = []
  | .pollWait => s.dmaCyclicStatus = .success ∧ s.issued = []
  | .pollSuccess => s.dmaCyclicStatus = .success ∧ s.issued = []
  | .setWait => s.issued = []
  | .prepare => s.issued = []
  | .fill _ => s.issued = []
  | .increment => s.issued = []
  | .requestChan => s.dmaTestTimes = 1
  | .slaveConfig => s.dmaTestTimes = 1 ∧ s.config.isSome = true
  | .submit => s.dmaTestTimes = 1
  | .tailPoll => True
  | .endFail => False
  | .endSuccess => True
  | .returned verdict => verdict = .success
  | .undefined => False

/-- A callback finds the chain behind its last look at the status, or it would have
nothing to be called for. -/
theorem callback_singleRound {s : State} (single : SingleRound s) (active : s.active = true) :
    SingleRound (rtkDmaTestCyclicCallback s) := by
  have busy := active_issued active
  rw [SingleRound] at single
  rw [SingleRound, callback_point, callback_dmaTestTimes, callback_issued, callback_config]
  cases point : s.point with
  | loopTest =>
      rw [point] at single
      exact fun none => absurd (single none).2 busy
  | pollFail =>
      rw [point] at single
      exact absurd single.2 busy
  | pollWait =>
      rw [point] at single
      exact absurd single.2 busy
  | pollSuccess =>
      rw [point] at single
      exact absurd single.2 busy
  | _ =>
      rw [point] at single
      exact single

theorem moves_singleRound {s successor : State} {event : Event} (one : s.loop = 1)
    (located : s.Located) (single : SingleRound s) (accepted : Accepted event)
    (moved : Moves s event successor) : SingleRound successor := by
  have atPoint := single
  rw [SingleRound] at atPoint
  rw [State.Located] at located
  cases moved with
  | enterLoop point below =>
      rw [point] at atPoint
      exact atPoint (by omega)
  | leaveLoop point above => trivial
  | sawFail point status =>
      rw [point] at atPoint
      rw [atPoint.1] at status
      cases status
  | passedFail point status =>
      rw [point] at atPoint
      exact atPoint
  | sawWait point status =>
      rw [point] at atPoint
      rw [atPoint.1] at status
      cases status
  | passedWait point status =>
      rw [point] at atPoint
      exact atPoint
  | sawSuccess point status =>
      rw [point] at atPoint
      exact atPoint.2
  | passedSuccess point status =>
      rw [point] at atPoint
      exact absurd atPoint.1 status
  | setWait point =>
      rw [point] at atPoint
      exact atPoint
  | prepare point =>
      rw [point] at atPoint
      rw [SingleRound, prepareStep_point]
      exact (prepareStep_issued s).trans atPoint
  | fillOne i point below =>
      rw [point] at atPoint
      exact atPoint
  | filled i point above =>
      rw [point] at atPoint
      exact atPoint
  | increment point =>
      rw [point] at located
      change s.dmaTestTimes + 1 = 1
      omega
  | requestChan point =>
      rw [point] at atPoint
      rw [SingleRound, requestChanStep_point, requestChanStep_dmaTestTimes]
      refine ⟨atPoint, ?_⟩
      unfold requestChanStep
      rw [if_pos atPoint]
      rfl
  | unassigned ret point missing =>
      rw [point, missing] at atPoint
      cases atPoint.2
  | rejected ret point assigned refused => exact absurd accepted refused
  | accepted ret point assigned answered =>
      rw [point] at atPoint
      exact atPoint.1
  | submit point =>
      rw [point] at atPoint
      intro none
      change s.dmaTestTimes = 0 at none
      omega
  | tailWait point status =>
      rw [SingleRound, point]
      trivial
  | tailDone point status => trivial
  | endFail point =>
      rw [point] at atPoint
      exact atPoint.elim
  | endSuccess point => rfl
  | engine contents active =>
      rw [SingleRound]
      exact atPoint
  | callback active => exact callback_singleRound single active

theorem run_singleRound {nextHandle : Nat} {history : History State Event} {s : State}
    (run : Run step (enter .success nextHandle 1) history s)
    (accepted : ∀ entry ∈ history, Accepted entry.2) : SingleRound s := by
  have holds : (s.Located ∧ s.loop = 1) ∧ SingleRound s := by
    apply Run.invariant_of_allowed (fun _ event => Accepted event)
      (fun _ s => (s.Located ∧ s.loop = 1) ∧ SingleRound s) ?_ ?_ run accepted
    · exact ⟨⟨Nat.zero_le 1, rfl⟩, fun _ => ⟨rfl, rfl⟩⟩
    · intro history s event successor holds allowed taken
      have moved := step_moves taken
      obtain ⟨⟨located, one⟩, single⟩ := holds
      exact ⟨⟨moves_located located moved, (moves_loop moved).trans one⟩,
        moves_singleRound one located single allowed moved⟩
  exact holds.2

/-! ### The first period of a longer test -/

def toEngineEvent : Event → EngineEvent
  | .slaveConfig _ => .slaveConfig
  | _ => .main

theorem execute_beside_engine {s final : State} {events : List Event}
    (quiet : ∀ event ∈ events, event = .main ∨ event = .slaveConfig 0)
    (period : Nat → Nat) (copied : Nat → Bool)
    (reached : execute step s events = some final) :
    execute engineStep { test := s, period := period, copied := copied }
        (events.map toEngineEvent) =
      some { test := final, period := period, copied := copied } := by
  induction events generalizing s with
  | nil =>
      rw [execute_nil, Option.some.injEq] at reached
      rw [reached]
      rfl
  | cons event rest ih =>
      have restQuiet := fun other member => quiet other (List.mem_cons_of_mem event member)
      cases taken : step s event with
      | none => simp only [execute, taken, reduceCtorEq] at reached
      | some successor =>
          rw [execute_cons rest taken] at reached
          have lifted : engineStep { test := s, period := period, copied := copied }
              (toEngineEvent event) =
                some { test := successor, period := period, copied := copied } := by
            rcases quiet event List.mem_cons_self with main | config
            · subst main
              simp only [toEngineEvent, engineStep, taken, Option.map_some]
            · subst config
              simp only [toEngineEvent, engineStep, taken, Option.map_some]
          rw [List.map_cons, execute_cons _ lifted]
          exact ih restQuiet reached

theorem firstRoundEvents_quiet :
    ∀ event ∈ firstRoundEvents, event = .main ∨ event = .slaveConfig 0 := by
  intro event member
  simp only [firstRoundEvents, issueEvents, mains, List.mem_append, List.mem_replicate,
    List.mem_cons, List.not_mem_nil, or_false] at member
  tauto

def halfRound (nextHandle loop : Nat) : State :=
  { firstRound nextHandle loop with
    dst := copyPeriod
      { bufAddr := some (nextHandle + 1)
        bufLen := memSize .cyclic
        periodLen := memSize .cyclic / 2 }
      0 (firstRound nextHandle loop).src (fun _ => 0) }

theorem halfRound_differs (nextHandle loop : Nat) :
    (halfRound nextHandle loop).buffersEqual = false := by
  cases compared : (halfRound nextHandle loop).buffersEqual with
  | false => rfl
  | true =>
      have source : (halfRound nextHandle loop).src = rtkPrepareTestBuf (fun _ => 0) 0 .cyclic := rfl
      have equal := (bufCompare_eq_true_iff _ _ _).mp compared 128
        (by simp [halfRound, firstRound, memSize])
      rw [source, rtkPrepareTestBuf_apply, if_pos (by decide)] at equal
      simp only [halfRound, copyPeriod, memSize] at equal
      rw [if_neg (by decide)] at equal
      exact absurd equal (by decide)

theorem engine_fails (nextHandle : Nat) {loop : Nat} (more : 2 ≤ loop) :
    ∃ steps e, Run engineStep (engineStart nextHandle loop) steps e ∧
      e.test.point = .returned .fail := by
  have first : execute engineStep (engineStart nextHandle loop)
      (firstRoundEvents.map toEngineEvent) =
        some
          { test := firstRound nextHandle loop
            period := fun _ => 0
            copied := fun _ => false } :=
    execute_beside_engine firstRoundEvents_quiet _ _ (execute_firstRound (by omega))
  obtain ⟨steps, run, _events⟩ := Run.of_execute first
  have copy : engineStep
      { test := firstRound nextHandle loop
        period := fun _ => 0
        copied := fun _ => false } (.copy 0) =
      some
        { test := halfRound nextHandle loop
          period := fun _ => 0
          copied := Function.update (fun _ => false) 0 true } := rfl
  have called : step (halfRound nextHandle loop) .callback =
      some { halfRound nextHandle loop with dmaCyclicStatus := .fail } :=
    step_callback_different rfl (halfRound_differs nextHandle loop)
  have complete : engineStep
      { test := halfRound nextHandle loop
        period := fun _ => 0
        copied := Function.update (fun _ => false) 0 true } (.complete 0) =
      some
        { test := { halfRound nextHandle loop with dmaCyclicStatus := .fail }
          period := Function.update (fun _ => 0) 0 1
          copied := Function.update (Function.update (fun _ => false) 0 true) 0 false } := by
    have listed : (halfRound nextHandle loop).issued[0]? =
        some
          { bufAddr := some (nextHandle + 1)
            bufLen := memSize .cyclic
            periodLen := memSize .cyclic / 2 } := rfl
    simp only [engineStep, listed, Function.update_self, if_true, called, Option.map_some]
    rfl
  have rejected : execute step { halfRound nextHandle loop with dmaCyclicStatus := .fail }
      (mains 3) = some (rtkDmacTestEnd
        { halfRound nextHandle loop with dmaCyclicStatus := .fail, point := .endFail }
        (.returned .fail)) :=
    execute_sawFail rfl more rfl
  have ended := execute_beside_engine
    (fun event member => Or.inl (List.eq_of_mem_replicate member))
    (Function.update (fun _ => 0) 0 1)
    (Function.update (Function.update (fun _ => false) 0 true) 0 false) rejected
  obtain ⟨lastSteps, finish, _events⟩ := Run.of_execute ended
  exact ⟨_, _, ((run.next copy).next complete).append finish, rfl⟩

/-- On a correct engine the test returns SUCCESS whatever the interleaving
exactly when it has a single round. -/
theorem correct_engine_success_iff {loop : Nat} (positive : 1 ≤ loop) :
    (∀ nextHandle steps e verdict,
        Run engineStep (engineStart nextHandle loop) steps e →
        e.test.point = .returned verdict → verdict = .success) ↔
      loop = 1 := by
  constructor
  · intro succeeds
    by_contra several
    have more : 2 ≤ loop := by omega
    obtain ⟨steps, e, run, returned⟩ := engine_fails 0 more
    cases succeeds 0 steps e .fail run returned
  · intro single nextHandle steps e verdict run returned
    subst single
    obtain ⟨history, projected, accepted⟩ := run_engine_projects run
    have single := run_singleRound projected accepted
    rw [SingleRound, returned] at single
    exact single

theorem correct_engine_success_one_round :
    (∀ nextHandle steps e verdict, Run engineStep (engineStart nextHandle 1) steps e →
        e.test.point = .returned verdict → verdict = .success) ↔ 1 = 1 :=
  correct_engine_success_iff (Nat.le_refl 1)

/-- The five rounds `rtk_dma_test_probe` asks for can fail on a correct engine. -/
theorem correct_engine_fails_five_rounds :
    ∃ steps e, Run engineStep (engineStart 0 5) steps e ∧
      e.test.point = .returned .fail :=
  engine_fails 0 (by decide)

end AmebaTests.Dmac
