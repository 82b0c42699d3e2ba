/-
Where the counter stands at each control point, and what an undisturbed round
does: the events of the function alone, from the polling chain to the refilled
source buffer.
-/

import AmebaTests.Dmac.Cyclic

namespace AmebaTests.Dmac

open Foundation

/-! ### The round counter -/

/-- The range of `dma_test_times` at each control point. -/
def State.Located (s : State) : Prop :=
  match s.point with
  | .loopTest => s.dmaTestTimes ≤ s.loop
  | .pollFail => s.dmaTestTimes < s.loop
  | .pollWait => s.dmaTestTimes < s.loop
  | .pollSuccess => s.dmaTestTimes < s.loop
  | .setWait => s.dmaTestTimes < s.loop
  | .prepare => s.dmaTestTimes < s.loop
  | .fill _ => s.dmaTestTimes < s.loop
  | .increment => s.dmaTestTimes < s.loop
  | .requestChan => s.dmaTestTimes ≤ s.loop
  | .slaveConfig => s.dmaTestTimes ≤ s.loop
  | .submit => s.dmaTestTimes ≤ s.loop
  | .tailPoll => s.dmaTestTimes = s.loop
  | .endFail => s.dmaTestTimes < s.loop
  | .endSuccess => s.dmaTestTimes = s.loop
  | .returned _ => True
  | .undefined => True

theorem moves_located {s successor : State} {event : Event}
    (located : s.Located) (moved : Moves s event successor) : successor.Located := by
  cases moved with
  | enterLoop point below => exact below
  | leaveLoop point above =>
      rw [State.Located, point] at located
      exact Nat.le_antisymm located above
  | sawFail point status => simpa [State.Located, point] using located
  | passedFail point status => simpa [State.Located, point] using located
  | sawWait point status =>
      rw [State.Located, point] at located
      exact Nat.le_of_lt located
  | passedWait point status => simpa [State.Located, point] using located
  | sawSuccess point status => simpa [State.Located, point] using located
  | passedSuccess point status =>
      rw [State.Located, point] at located
      exact Nat.le_of_lt located
  | setWait point => simpa [State.Located, point] using located
  | prepare point => simpa [State.Located, point] using located
  | fillOne i point below => simpa [State.Located, point] using located
  | filled i point above => simpa [State.Located, point] using located
  | increment point =>
      rw [State.Located, point] at located
      exact located
  | requestChan point => simpa [State.Located, point] using located
  | unassigned ret point missing => trivial
  | rejected ret point assigned refused => trivial
  | accepted ret point assigned answered => simpa [State.Located, point] using located
  | submit point => simpa [State.Located, point] using located
  | tailWait point status => exact located
  | tailDone point status => simpa [State.Located, point] using located
  | endFail point => trivial
  | endSuccess point => trivial
  | engine contents active => exact located
  | callback active => simpa [State.Located] using located

theorem moves_loop {s successor : State} {event : Event}
    (moved : Moves s event successor) : successor.loop = s.loop := by
  cases moved <;> simp [rtkDmacTestEnd]

theorem run_located {status : TestResult} {nextHandle loop : Nat}
    {history : History State Event} {s : State}
    (run : Run step (enter status nextHandle loop) history s) :
    s.Located ∧ s.loop = loop := by
  apply Run.invariant (fun _ s => s.Located ∧ s.loop = loop) ?_ ?_ run
  · exact ⟨Nat.zero_le loop, rfl⟩
  · intro history s event successor _ holds taken
    have moved := step_moves taken
    exact ⟨moves_located holds.1 moved, (moves_loop moved).trans holds.2⟩

/-! ### An undisturbed round -/

def mains (count : Nat) : List Event :=
  List.replicate count .main

theorem execute_begin {s : State} (point : s.point = .loopTest)
    (below : s.dmaTestTimes < s.loop) (status : s.dmaCyclicStatus = .success) :
    execute step s (mains 5) =
      some { s with dmaCyclicStatus := .wait, point := .prepare } := by
  simp [mains, List.replicate, execute, step, mainStep, point, below, status]

theorem execute_fill (s : State) (base : Words) (i count : Nat)
    (within : i + count ≤ s.testAddr.memSizeSrc / 4) :
    execute step
        { s with src := fillWords s.dmaTestTimes base i, point := .fill i }
        (mains count) =
      some
        { s with
          src := fillWords s.dmaTestTimes base (i + count)
          point := .fill (i + count) } := by
  induction count generalizing i with
  | zero => rfl
  | succ count ih =>
      have here : i < s.testAddr.memSizeSrc / 4 := by omega
      have taken :
          step { s with src := fillWords s.dmaTestTimes base i, point := .fill i } .main =
            some
              { s with
                src := fillWords s.dmaTestTimes base (i + 1)
                point := .fill (i + 1) } := by
        simp only [step, mainStep, here, if_true]
        rfl
      have later := ih (i + 1) (by omega)
      rw [mains, List.replicate_succ, execute_cons _ taken]
      rw [mains] at later
      rw [later, Nat.add_right_comm i 1 count]
      rfl

def prepared (s : State) : State :=
  { prepareStep s with
    src := rtkPrepareTestBuf (prepareStep s).src s.dmaTestTimes .cyclic
    dmaTestTimes := s.dmaTestTimes + 1
    point := .requestChan }

theorem execute_prepared {s : State} (point : s.point = .prepare) :
    execute step s (mains 259) = some (prepared s) := by
  have allocated : execute step s (mains 1) = some (prepareStep s) := by
    simp [mains, execute, step, mainStep, point]
  have written :
      execute step (prepareStep s) (mains 256) =
        some
          { prepareStep s with
            src := rtkPrepareTestBuf (prepareStep s).src s.dmaTestTimes .cyclic
            point := .fill 256 } := by
    have filled := execute_fill (prepareStep s) (prepareStep s).src 0 256 (by simp [memSize])
    have same : { prepareStep s with
        src := fillWords (prepareStep s).dmaTestTimes (prepareStep s).src 0
        point := .fill 0 } = prepareStep s := by
      rw [fillWords, ← prepareStep_point s]
    rw [same] at filled
    rw [filled]
    simp [rtkPrepareTestBuf, memSize]
  have counted :
      execute step
          { prepareStep s with
            src := rtkPrepareTestBuf (prepareStep s).src s.dmaTestTimes .cyclic
            point := .fill 256 } (mains 2) =
        some (prepared s) := by
    simp [mains, List.replicate, execute, step, mainStep, memSize, prepared]
  have split : mains 259 = mains 1 ++ (mains 256 ++ mains 2) := by
    simp only [mains, List.replicate_append_replicate]
  rw [split, execute_append _ allocated, execute_append _ written, counted]

theorem execute_sawFail {s : State} (point : s.point = .loopTest)
    (below : s.dmaTestTimes < s.loop) (status : s.dmaCyclicStatus = .fail) :
    execute step s (mains 3) =
      some (rtkDmacTestEnd { s with point := .endFail } (.returned .fail)) := by
  simp [mains, List.replicate, execute, step, mainStep, point, below, status]

theorem execute_counted (nextHandle : Nat) {loop : Nat} (positive : 1 ≤ loop) :
    execute step (enter .success nextHandle loop) (mains 5 ++ mains 259) =
      some (prepared { enter .success nextHandle loop with
        dmaCyclicStatus := .wait, point := .prepare }) := by
  have polled : execute step (enter .success nextHandle loop) (mains 5) =
      some { enter .success nextHandle loop with
        dmaCyclicStatus := .wait, point := .prepare } :=
    execute_begin rfl positive rfl
  rw [execute_append _ polled, execute_prepared rfl]

def issueEvents : List Event :=
  mains 259 ++ [.main, .slaveConfig 0, .main]

def firstRoundEvents : List Event :=
  mains 5 ++ issueEvents

/-- The state after an undisturbed first round, with one descriptor issued. -/
def firstRound (nextHandle loop : Nat) : State where
  loop := loop
  dmaCyclicStatus := .wait
  point := .loopTest
  dmaTestTimes := 1
  testAddr :=
    { bufSrc := some nextHandle
      dmaHandleSrc := some nextHandle
      memSizeSrc := memSize .cyclic
      bufDst := some (nextHandle + 1)
      dmaHandleDst := some (nextHandle + 1)
      memSizeDst := memSize .cyclic }
  chan := some (nextHandle + 2)
  config := some { dstAddr := some (nextHandle + 1), srcAddr := some nextHandle }
  src := rtkPrepareTestBuf (fun _ => 0) 0 .cyclic
  dst := fun _ => 0
  issued :=
    [{ bufAddr := some (nextHandle + 1)
       bufLen := memSize .cyclic
       periodLen := memSize .cyclic / 2 }]
  nextHandle := nextHandle + 3
  acquired := [.coherent nextHandle, .coherent (nextHandle + 1), .channel (nextHandle + 2)]
  released := []

theorem execute_firstRound {nextHandle loop : Nat} (positive : 1 ≤ loop) :
    execute step (enter .success nextHandle loop) firstRoundEvents =
      some (firstRound nextHandle loop) := by
  rw [firstRoundEvents, issueEvents, ← List.append_assoc,
    execute_append _ (execute_counted nextHandle positive)]
  rfl

theorem callback_not_mem_mains (count : Nat) : Event.callback ∉ mains count := by
  intro member
  have main := List.eq_of_mem_replicate member
  cases main

theorem run_of_quiet {s final : State} {events : List Event}
    (reached : execute step s events = some final) (quiet : Event.callback ∉ events) :
    ∃ history, Run step s history final ∧ ∀ mid, (mid, Event.callback) ∉ history := by
  obtain ⟨history, run, listed⟩ := Run.of_execute reached
  refine ⟨history, run, ?_⟩
  intro mid member
  have found : Event.callback ∈ events.reverse := by
    rw [← listed]
    exact List.mem_map.mpr ⟨_, member, rfl⟩
  exact quiet (List.mem_reverse.mp found)

theorem run_firstRound (nextHandle : Nat) {loop : Nat} (positive : 1 ≤ loop) :
    ∃ history, Run step (enter .success nextHandle loop) history (firstRound nextHandle loop) ∧
      ∀ mid, (mid, Event.callback) ∉ history :=
  run_of_quiet (execute_firstRound positive)
    (by simp [firstRoundEvents, issueEvents, callback_not_mem_mains])

theorem firstRound_differs (nextHandle loop : Nat) :
    (firstRound nextHandle loop).buffersEqual = false := by
  cases compared : (firstRound nextHandle loop).buffersEqual with
  | false => rfl
  | true =>
      have equal := (bufCompare_eq_true_iff (rtkPrepareTestBuf (fun _ => 0) 0 .cyclic)
        (fun _ => 0) (memSize .cyclic)).mp compared 0 (by decide)
      rw [rtkPrepareTestBuf_apply, if_pos (by decide)] at equal
      exact absurd equal (by decide)

theorem step_callback_equal {s : State} (active : s.active = true)
    (equal : s.buffersEqual = true) :
    step s .callback = some { s with dmaCyclicStatus := .success } := by
  simp only [step, active, if_true, rtkDmaTestCyclicCallback, equal]

theorem step_callback_different {s : State} (active : s.active = true)
    (different : s.buffersEqual = false) :
    step s .callback = some { s with dmaCyclicStatus := .fail } := by
  simp only [step, active, if_true, rtkDmaTestCyclicCallback, different,
    Bool.false_eq_true, if_false]

theorem buffersEqual_of_copied {s : State} (copied : s.dst = s.src) :
    s.buffersEqual = true := by
  refine (bufCompare_eq_true_iff _ _ _).mpr ?_
  intro offset _below
  rw [copied]

def copiedRound (nextHandle loop : Nat) : State :=
  { firstRound nextHandle loop with dst := (firstRound nextHandle loop).src }

theorem copiedRound_dst_zero (nextHandle loop : Nat) :
    (copiedRound nextHandle loop).dst 0 = testWord 0 0 := by
  have source : (copiedRound nextHandle loop).dst =
      rtkPrepareTestBuf (fun _ => 0) 0 .cyclic := rfl
  rw [source, rtkPrepareTestBuf_apply, if_pos (by decide)]

theorem run_copiedRound (nextHandle loop : Nat) :
    Run step (firstRound nextHandle loop)
      [(copiedRound nextHandle loop, .callback),
        (firstRound nextHandle loop, .engine (firstRound nextHandle loop).src)]
      { copiedRound nextHandle loop with dmaCyclicStatus := .success } :=
  (Run.start.next rfl).next (step_callback_equal rfl (buffersEqual_of_copied rfl))

theorem run_tail {s : State} (point : s.point = .loopTest)
    (last : s.loop ≤ s.dmaTestTimes) (status : s.dmaCyclicStatus ≠ .wait) :
    Run step s
      [({ s with point := .endSuccess }, .main), ({ s with point := .tailPoll }, .main),
        (s, .main)]
      (rtkDmacTestEnd { s with point := .endSuccess } (.returned .success)) := by
  have leave : step s .main = some { s with point := .tailPoll } := by
    simp [step, mainStep, point, last]
  have pass : step { s with point := .tailPoll } .main =
      some { s with point := .endSuccess } := by
    simp [step, mainStep, status]
  exact ((Run.start.next leave).next pass).next rfl

/-- A single round whose only callback finds the copied buffer equal. -/
theorem run_goodRound :
    ∃ history s, Run step (enter .success 0 1) history s ∧
      s.point = .returned .success ∧ s.loop = 1 ∧
      ∀ mid, (mid, Event.callback) ∈ history →
        mid.buffersEqual = true ∧ mid.point = .loopTest := by
  obtain ⟨history, first, quiet⟩ := run_firstRound 0 (Nat.le_refl 1)
  have whole := (first.append (run_copiedRound 0 1)).append
    (run_tail rfl (Nat.le_refl 1) (by decide))
  refine ⟨_, _, whole, rfl, rfl, ?_⟩
  intro mid member
  simp only [List.cons_append, List.nil_append, List.mem_cons, Prod.mk.injEq,
    reduceCtorEq, and_false, and_true, false_or, quiet, or_false] at member
  subst member
  exact ⟨buffersEqual_of_copied rfl, rfl⟩

end AmebaTests.Dmac
