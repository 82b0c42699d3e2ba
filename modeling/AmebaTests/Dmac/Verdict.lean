/-
What the verdict of the cyclic test says about the callbacks that ran.

The verdict travels through `dma_cyclic_status` alone.  A FAIL that a callback
stores there reaches the caller only if the polling chain reads it before the
status is stored to again, and nothing reads it as FAIL after the last round has
begun: the final wait only tests for WAIT.
-/

import AmebaTests.Dmac.Rounds

namespace AmebaTests.Dmac

open Foundation

/-! ### No observed difference is lost -/

/-- The function still has a test for FAIL ahead of its next store to the status. -/
def State.stillPolled (s : State) : Bool :=
  match s.point with
  | .loopTest => s.dmaTestTimes < s.loop
  | .pollFail => true
  | .pollWait => true
  | .pollSuccess => true
  | .setWait => false
  | .prepare => s.dmaTestTimes + 1 < s.loop
  | .fill _ => s.dmaTestTimes + 1 < s.loop
  | .increment => s.dmaTestTimes + 1 < s.loop
  | .requestChan => s.dmaTestTimes < s.loop
  | .slaveConfig => s.dmaTestTimes < s.loop
  | .submit => s.dmaTestTimes < s.loop
  | .tailPoll => false
  | .endFail => true
  | .endSuccess => false
  | .returned _ => false
  | .undefined => false

/-- A callback that finds a difference runs while the status is still polled, and
one that finds none does not overwrite a FAIL. -/
def VerdictSeen (s : State) : Event → Prop
  | .callback =>
      if s.buffersEqual then s.dmaCyclicStatus ≠ .fail else s.stillPolled = true
  | _ => True

def State.Doomed (s : State) : Prop :=
  (s.dmaCyclicStatus = .fail ∧ s.stillPolled = true) ∨
    s.point = .endFail ∨ s.point = .returned .fail ∨ s.point = .undefined

theorem callback_doomed {s : State} (different : s.buffersEqual = false)
    (seen : VerdictSeen s .callback) : (rtkDmaTestCyclicCallback s).Doomed := by
  rw [VerdictSeen, different, if_neg Bool.false_ne_true] at seen
  refine Or.inl ⟨by simp [different], ?_⟩
  simpa [State.stillPolled] using seen

theorem moves_doomed {s successor : State} {event : Event}
    (located : s.Located) (doomed : s.Doomed) (seen : VerdictSeen s event)
    (moved : Moves s event successor) : successor.Doomed := by
  rcases doomed with ⟨status, polled⟩ | atEndFail | atReturned | atUndefined
  · rw [State.Located] at located
    rw [State.stillPolled] at polled
    cases moved with
    | enterLoop point below => exact Or.inl ⟨status, rfl⟩
    | leaveLoop point above =>
        rw [point, decide_eq_true_eq] at polled
        omega
    | sawFail point read => exact Or.inr (Or.inl rfl)
    | passedFail point read => exact absurd status read
    | sawWait point read => rw [status] at read; cases read
    | passedWait point read => exact Or.inl ⟨status, rfl⟩
    | sawSuccess point read => rw [status] at read; cases read
    | passedSuccess point read =>
        rw [point] at located
        exact Or.inl ⟨status, decide_eq_true located⟩
    | setWait point => rw [point] at polled; cases polled
    | prepare point =>
        rw [point] at polled
        exact Or.inl ⟨by simpa using status, by simpa [State.stillPolled] using polled⟩
    | fillOne i point below =>
        rw [point] at polled
        exact Or.inl ⟨status, polled⟩
    | filled i point above =>
        rw [point] at polled
        exact Or.inl ⟨status, polled⟩
    | increment point =>
        rw [point] at polled
        exact Or.inl ⟨status, polled⟩
    | requestChan point =>
        rw [point] at polled
        exact Or.inl ⟨by simpa using status, by simpa [State.stillPolled] using polled⟩
    | unassigned ret point missing => exact Or.inr (Or.inr (Or.inr rfl))
    | rejected ret point assigned refused => exact Or.inr (Or.inr (Or.inl rfl))
    | accepted ret point assigned answered =>
        rw [point] at polled
        exact Or.inl ⟨status, polled⟩
    | submit point =>
        rw [point] at polled
        exact Or.inl ⟨status, polled⟩
    | tailWait point read => rw [status] at read; cases read
    | tailDone point read => rw [point] at polled; cases polled
    | endFail point => exact Or.inr (Or.inr (Or.inl rfl))
    | endSuccess point => rw [point] at polled; cases polled
    | engine contents active => exact Or.inl ⟨status, polled⟩
    | callback active =>
        cases compared : s.buffersEqual with
        | false => exact callback_doomed compared seen
        | true =>
            rw [VerdictSeen, compared, if_pos rfl] at seen
            exact absurd status seen
  · cases moved with
    | endFail point => exact Or.inr (Or.inr (Or.inl rfl))
    | engine contents active => exact Or.inr (Or.inl atEndFail)
    | callback active => exact Or.inr (Or.inl (by simpa using atEndFail))
    | _ => simp_all
  · cases moved with
    | engine contents active => exact Or.inr (Or.inr (Or.inl atReturned))
    | callback active => exact Or.inr (Or.inr (Or.inl (by simpa using atReturned)))
    | _ => simp_all
  · cases moved with
    | engine contents active => exact Or.inr (Or.inr (Or.inr atUndefined))
    | callback active => exact Or.inr (Or.inr (Or.inr (by simpa using atUndefined)))
    | _ => simp_all

theorem run_doomed {nextHandle loop : Nat} {history : History State Event} {s mid : State}
    (run : Run step (enter .success nextHandle loop) history s)
    (seen : ∀ entry ∈ history, VerdictSeen entry.1 entry.2)
    (ran : (mid, Event.callback) ∈ history) (different : mid.buffersEqual = false) :
    s.Doomed := by
  have kept : s.Located ∧ ((mid, Event.callback) ∈ history → s.Doomed) := by
    apply Run.invariant_of_allowed VerdictSeen
      (fun history s =>
        s.Located ∧ ((mid, Event.callback) ∈ history → s.Doomed)) ?_ ?_ run seen
    · exact ⟨Nat.zero_le loop, fun member => absurd member List.not_mem_nil⟩
    · intro history s event successor holds allowed taken
      have moved := step_moves taken
      refine ⟨moves_located holds.1 moved, ?_⟩
      intro member
      rcases List.mem_cons.mp member with newest | older
      · cases newest
        cases moved
        exact callback_doomed different allowed
      · exact moves_doomed holds.1 (holds.2 older) allowed moved
  exact kept.2 ran

theorem moves_status_ne_fail {s successor : State} {event : Event}
    (status : s.dmaCyclicStatus ≠ .fail)
    (equal : event = .callback → s.buffersEqual = true)
    (moved : Moves s event successor) : successor.dmaCyclicStatus ≠ .fail := by
  cases moved with
  | setWait point => exact fun impossible => by cases impossible
  | callback active => simp [equal rfl]
  | prepare point => simpa using status
  | requestChan point => simpa using status
  | _ => exact status

theorem run_status_ne_fail {nextHandle loop : Nat} {history : History State Event} {s : State}
    (run : Run step (enter .success nextHandle loop) history s)
    (equal : ∀ mid, (mid, Event.callback) ∈ history → mid.buffersEqual = true) :
    ∀ entry ∈ history, entry.1.dmaCyclicStatus ≠ .fail := by
  have kept : s.dmaCyclicStatus ≠ .fail ∧
      ∀ entry ∈ history, entry.1.dmaCyclicStatus ≠ .fail := by
    apply Run.invariant_of_allowed
      (fun s event => event = .callback → s.buffersEqual = true)
      (fun history s => s.dmaCyclicStatus ≠ .fail ∧
        ∀ entry ∈ history, entry.1.dmaCyclicStatus ≠ .fail)
      ?_ ?_ run ?_
    · exact ⟨by simp [enter], fun entry member => absurd member List.not_mem_nil⟩
    · intro history s event successor holds allowed taken
      refine ⟨moves_status_ne_fail holds.1 allowed (step_moves taken), ?_⟩
      exact List.forall_mem_cons.mpr holds
    · intro entry member isCallback
      obtain ⟨mid, event⟩ := entry
      cases isCallback
      exact equal mid member
  exact kept.2

/-- A run that returns SUCCESS has had no callback that found the buffers
different exactly when every callback came where its verdict could be seen. -/
theorem returned_success_no_difference_iff {nextHandle loop : Nat}
    {history : History State Event} {s : State}
    (run : Run step (enter .success nextHandle loop) history s)
    (returned : s.point = .returned .success) :
    (∀ mid, (mid, Event.callback) ∈ history → mid.buffersEqual = true) ↔
      ∀ entry ∈ history, VerdictSeen entry.1 entry.2 := by
  constructor
  · intro equal entry member
    obtain ⟨mid, event⟩ := entry
    cases event with
    | callback =>
        have notFail := run_status_ne_fail run equal _ member
        simpa only [VerdictSeen, equal mid member, if_true] using notFail
    | main => trivial
    | slaveConfig ret => trivial
    | engine contents => trivial
  · intro seen mid member
    cases compared : mid.buffersEqual with
    | true => rfl
    | false =>
        have doomed := run_doomed run seen member compared
        simp [State.Doomed, State.stillPolled, returned] at doomed

theorem returned_success_no_difference_one_round :
    ∃ history s, Run step (enter .success 0 1) history s ∧
      s.point = .returned .success ∧
      ((∀ mid, (mid, Event.callback) ∈ history → mid.buffersEqual = true) ↔
        ∀ entry ∈ history, VerdictSeen entry.1 entry.2) := by
  obtain ⟨history, s, run, returned, _loop, _good⟩ := run_goodRound
  exact ⟨history, s, run, returned, returned_success_no_difference_iff run returned⟩

/-- The only callback of a single round finds a difference, and the final wait
turns its FAIL into SUCCESS. -/
theorem returned_success_with_difference :
    ∃ history s mid, Run step (enter .success 0 1) history s ∧
      s.point = .returned .success ∧
      (mid, Event.callback) ∈ history ∧ mid.buffersEqual = false := by
  obtain ⟨history, first, _quiet⟩ := run_firstRound 0 (Nat.le_refl 1)
  have called := step_callback_different rfl (firstRound_differs 0 1)
  have whole := (first.next called).append (run_tail rfl (Nat.le_refl 1) (by decide))
  refine ⟨_, _, firstRound 0 1, whole, rfl, ?_, firstRound_differs 0 1⟩
  exact List.mem_append_right _ List.mem_cons_self

/-! ### Every counted round was verified -/

def PatternWritten (t : Nat) (history : History State Event) : Prop :=
  ∃ mid, (mid, Event.main) ∈ history ∧
    mid.point = .fill (memSize .cyclic / 4 - 1) ∧ mid.dmaTestTimes + 1 = t

/-- A callback ran after the pattern of round `t` was complete and found
`buf_dst` equal to it. -/
def RoundVerified (t : Nat) (history : History State Event) : Prop :=
  ∃ later mid earlier, history = later ++ (mid, Event.callback) :: earlier ∧
    PatternWritten t earlier ∧ mid.buffersEqual = true ∧
    ∀ i < memSize .cyclic / 4, mid.dst i = testWord (t - 1) i

/-- The function starts round `t + 1`, or has returned SUCCESS after the last. -/
def LeavesRound (s : State) (t : Nat) : Prop :=
  (s.point = .setWait ∧ s.dmaTestTimes = t ∧ 1 ≤ t) ∨
    (s.point = .returned .success ∧ t = s.loop)

def State.refilling (s : State) : Bool :=
  match s.point with
  | .prepare => true
  | .fill i => i < memSize .cyclic / 4
  | _ => false

/-- No callback finds the buffers equal while the source is being refilled, and
the final wait does not end on a FAIL. -/
def RoundKept (s : State) : Event → Prop
  | .callback => s.buffersEqual = true → s.refilling = false
  | .main => s.point = .tailPoll → s.dmaCyclicStatus ≠ .fail
  | _ => True

theorem PatternWritten.mono {t : Nat} {history : History State Event}
    (written : PatternWritten t history) (entry : State × Event) :
    PatternWritten t (entry :: history) := by
  obtain ⟨mid, member, point, times⟩ := written
  exact ⟨mid, List.mem_cons_of_mem entry member, point, times⟩

theorem RoundVerified.mono {t : Nat} {history : History State Event}
    (verified : RoundVerified t history) (entry : State × Event) :
    RoundVerified t (entry :: history) := by
  obtain ⟨later, mid, earlier, split, found⟩ := verified
  exact ⟨entry :: later, mid, earlier, by rw [split, List.cons_append], found⟩

/-- The source holds the whole pattern of round `t`, and a SUCCESS status speaks
of that round. -/
structure Credited (history : History State Event) (s : State) (t : Nat) : Prop where
  size : s.testAddr.memSizeDst = memSize .cyclic
  source : ∀ i < memSize .cyclic / 4, s.src i = testWord (t - 1) i
  written : PatternWritten t history
  verified : s.dmaCyclicStatus = .success → RoundVerified t history

theorem Credited.carry {history : History State Event} {s successor : State} {t : Nat}
    {entry : State × Event} (credited : Credited history s t)
    (sameAddr : successor.testAddr = s.testAddr) (sameSrc : successor.src = s.src)
    (sameStatus : successor.dmaCyclicStatus = s.dmaCyclicStatus) :
    Credited (entry :: history) successor t where
  size := by rw [sameAddr]; exact credited.size
  source := by rw [sameSrc]; exact credited.source
  written := credited.written.mono entry
  verified := by
    rw [sameStatus]
    exact fun status => (credited.verified status).mono entry

theorem Credited.callback {history : History State Event} {s : State} {t : Nat}
    (credited : Credited history s t) :
    Credited ((s, .callback) :: history) (rtkDmaTestCyclicCallback s) t where
  size := by simpa using credited.size
  source := by simpa using credited.source
  written := credited.written.mono _
  verified := by
    intro status
    have equal : s.buffersEqual = true := by
      cases compared : s.buffersEqual with
      | true => rfl
      | false => simp [compared] at status
    refine ⟨[], s, history, rfl, credited.written, equal, ?_⟩
    intro i below
    have same := (bufCompare_eq_true_iff _ _ _).mp equal i (by rw [credited.size]; exact below)
    rw [← same]
    exact credited.source i below

/-- What is known of the current round at each control point. -/
def Tracked (history : History State Event) (s : State) : Prop :=
  match s.point with
  | .loopTest => s.dmaTestTimes ≠ 0 → Credited history s s.dmaTestTimes
  | .pollFail => s.dmaTestTimes ≠ 0 → Credited history s s.dmaTestTimes
  | .pollWait => s.dmaTestTimes ≠ 0 → Credited history s s.dmaTestTimes
  | .pollSuccess => s.dmaTestTimes ≠ 0 → Credited history s s.dmaTestTimes
  | .setWait => s.dmaTestTimes ≠ 0 → RoundVerified s.dmaTestTimes history
  | .prepare => s.dmaCyclicStatus ≠ .success
  | .fill i =>
      s.testAddr.memSizeSrc = memSize .cyclic ∧
        s.testAddr.memSizeDst = memSize .cyclic ∧
        (∀ j < i, s.src j = testWord s.dmaTestTimes j) ∧
        (i < memSize .cyclic / 4 → s.dmaCyclicStatus ≠ .success) ∧
        (memSize .cyclic / 4 ≤ i → Credited history s (s.dmaTestTimes + 1))
  | .increment => Credited history s (s.dmaTestTimes + 1)
  | .requestChan => s.dmaTestTimes ≠ 0 → Credited history s s.dmaTestTimes
  | .slaveConfig => s.dmaTestTimes ≠ 0 → Credited history s s.dmaTestTimes
  | .submit => s.dmaTestTimes ≠ 0 → Credited history s s.dmaTestTimes
  | .tailPoll => s.dmaTestTimes ≠ 0 → Credited history s s.dmaTestTimes
  | .endFail => True
  | .endSuccess => s.loop ≠ 0 → RoundVerified s.loop history
  | .returned verdict => verdict = .success → s.loop ≠ 0 → RoundVerified s.loop history
  | .undefined => True

theorem fillWord_source {s : State} {i : Nat}
    (source : ∀ j < i, s.src j = testWord s.dmaTestTimes j) :
    ∀ j < i + 1, fillWord s.dmaTestTimes s.src i j = testWord s.dmaTestTimes j := by
  intro j below
  by_cases here : j = i
  · subst here
    exact Function.update_self ..
  · rw [fillWord, Function.update_of_ne here]
    exact source j (by omega)

theorem fillOne_tracked {history : History State Event} {s : State} {i : Nat}
    (tracked : Tracked history s) (point : s.point = .fill i)
    (below : i < s.testAddr.memSizeSrc / 4) :
    Tracked ((s, .main) :: history)
      { s with src := fillWord s.dmaTestTimes s.src i, point := .fill (i + 1) } := by
  rw [Tracked, point] at tracked
  obtain ⟨sizeSrc, sizeDst, source, pending, _complete⟩ := tracked
  rw [sizeSrc] at below
  have filled := fillWord_source source
  refine ⟨sizeSrc, sizeDst, filled, fun _ => pending below, ?_⟩
  intro complete
  have last : i = memSize .cyclic / 4 - 1 := by omega
  exact
    { size := sizeDst
      source := fun j inside => filled j (by omega)
      written := ⟨s, List.mem_cons_self, by rw [point, last], rfl⟩
      verified := fun status => absurd status (pending below) }

/-- What is known carries over to a state that differs in the destination and the
status only, where the status may become SUCCESS only outside a refill. -/
theorem Tracked.carry {history : History State Event} {s successor : State}
    {entry : State × Event} (tracked : Tracked history s)
    (samePoint : successor.point = s.point) (sameLoop : successor.loop = s.loop)
    (sameTimes : successor.dmaTestTimes = s.dmaTestTimes)
    (sameAddr : successor.testAddr = s.testAddr) (sameSrc : successor.src = s.src)
    (credited : ∀ t, Credited history s t → Credited (entry :: history) successor t)
    (pending : s.refilling = true → s.dmaCyclicStatus ≠ .success →
      successor.dmaCyclicStatus ≠ .success) :
    Tracked (entry :: history) successor := by
  rw [Tracked] at tracked ⊢
  rw [samePoint, sameLoop, sameTimes, sameAddr, sameSrc]
  cases point : s.point with
  | prepare =>
      rw [point] at tracked
      exact pending (by rw [State.refilling, point]) tracked
  | fill i =>
      rw [point] at tracked
      obtain ⟨sizeSrc, sizeDst, source, waiting, complete⟩ := tracked
      refine ⟨sizeSrc, sizeDst, source, ?_, fun above => credited _ (complete above)⟩
      intro below
      have during : s.refilling = true := by
        rw [State.refilling, point]
        exact decide_eq_true below
      exact pending during (waiting below)
  | increment =>
      rw [point] at tracked
      exact credited _ tracked
  | setWait =>
      rw [point] at tracked
      exact fun counted => (tracked counted).mono _
  | endSuccess =>
      rw [point] at tracked
      exact fun positive => (tracked positive).mono _
  | returned verdict =>
      rw [point] at tracked
      exact fun success positive => (tracked success positive).mono _
  | endFail => trivial
  | undefined => trivial
  | _ =>
      rw [point] at tracked
      exact fun counted => credited _ (tracked counted)

theorem callback_tracked {history : History State Event} {s : State}
    (tracked : Tracked history s) (kept : RoundKept s .callback) :
    Tracked ((s, .callback) :: history) (rtkDmaTestCyclicCallback s) := by
  apply tracked.carry
  · rw [callback_point]
  · rw [callback_loop]
  · rw [callback_dmaTestTimes]
  · rw [callback_testAddr]
  · rw [callback_src]
  · exact fun t credited => credited.callback
  · intro during _waiting
    have different : s.buffersEqual = false := by
      cases compared : s.buffersEqual with
      | false => rfl
      | true => rw [kept compared] at during; cases during
    simp [different]

theorem engine_tracked {history : History State Event} {s : State}
    (tracked : Tracked history s) (contents : Words) :
    Tracked ((s, .engine contents) :: history) { s with dst := contents } :=
  tracked.carry rfl rfl rfl rfl rfl (fun _ credited => credited.carry rfl rfl rfl)
    (fun _ waiting => waiting)

theorem moves_tracked {history : History State Event} {s successor : State} {event : Event}
    (located : s.Located) (tracked : Tracked history s) (kept : RoundKept s event)
    (moved : Moves s event successor) : Tracked ((s, event) :: history) successor := by
  cases moved with
  | enterLoop point below =>
      rw [Tracked, point] at tracked
      exact fun counted => (tracked counted).carry rfl rfl rfl
  | leaveLoop point above =>
      rw [Tracked, point] at tracked
      exact fun counted => (tracked counted).carry rfl rfl rfl
  | sawFail point status => trivial
  | passedFail point status =>
      rw [Tracked, point] at tracked
      exact fun counted => (tracked counted).carry rfl rfl rfl
  | sawWait point status =>
      rw [Tracked, point] at tracked
      exact fun counted => (tracked counted).carry rfl rfl rfl
  | passedWait point status =>
      rw [Tracked, point] at tracked
      exact fun counted => (tracked counted).carry rfl rfl rfl
  | sawSuccess point status =>
      rw [Tracked, point] at tracked
      exact fun counted => ((tracked counted).verified status).mono _
  | passedSuccess point status =>
      rw [Tracked, point] at tracked
      exact fun counted => (tracked counted).carry rfl rfl rfl
  | setWait point => exact fun impossible => by cases impossible
  | prepare point =>
      rw [Tracked, point] at tracked
      rw [Tracked, prepareStep_point]
      refine ⟨prepareStep_memSizeSrc s, prepareStep_memSizeDst s, ?_, ?_, ?_⟩
      · intro j below
        exact absurd below (Nat.not_lt_zero j)
      · intro _
        simpa using tracked
      · intro impossible
        exact absurd impossible (by decide)
  | fillOne i point below => exact fillOne_tracked tracked point below
  | filled i point above =>
      rw [Tracked, point] at tracked
      obtain ⟨sizeSrc, _sizeDst, _source, _pending, complete⟩ := tracked
      rw [sizeSrc] at above
      exact (complete above).carry rfl rfl rfl
  | increment point =>
      rw [Tracked, point] at tracked
      exact fun _ => tracked.carry rfl rfl rfl
  | requestChan point =>
      rw [Tracked, point] at tracked
      rw [Tracked, requestChanStep_point, requestChanStep_dmaTestTimes]
      intro counted
      exact (tracked counted).carry (requestChanStep_testAddr s) (requestChanStep_src s)
        (requestChanStep_status s)
  | unassigned ret point missing => trivial
  | rejected ret point assigned refused => exact fun impossible => by cases impossible
  | accepted ret point assigned answered =>
      rw [Tracked, point] at tracked
      exact fun counted => (tracked counted).carry rfl rfl rfl
  | submit point =>
      rw [Tracked, point] at tracked
      exact fun counted => (tracked counted).carry rfl rfl rfl
  | tailWait point status =>
      rw [Tracked, point] at tracked ⊢
      exact fun counted => (tracked counted).carry rfl rfl rfl
  | tailDone point status =>
      rw [Tracked, point] at tracked
      rw [State.Located, point] at located
      have success : s.dmaCyclicStatus = .success := by
        have notFail := kept point
        cases read : s.dmaCyclicStatus with
        | success => rfl
        | fail => exact absurd read notFail
        | wait => exact absurd read status
      intro positive
      rw [← located] at positive ⊢
      exact ((tracked positive).verified success).mono _
  | endFail point => exact fun impossible => by cases impossible
  | endSuccess point =>
      rw [Tracked, point] at tracked
      exact fun _ positive => (tracked positive).mono _
  | engine contents active => exact engine_tracked tracked contents
  | callback active => exact callback_tracked tracked kept

/-- In every run that keeps callbacks out of the refill and does not end the
final wait on a FAIL, a round is left as successful only once it was verified. -/
theorem leaves_only_verified_rounds {nextHandle loop : Nat} (positive : 1 ≤ loop)
    {history : History State Event} {s : State}
    (run : Run step (enter .success nextHandle loop) history s)
    (kept : ∀ entry ∈ history, RoundKept entry.1 entry.2)
    (t : Nat) (leaves : LeavesRound s t) : RoundVerified t history := by
  have holds : s.Located ∧ Tracked history s := by
    apply Run.invariant_of_allowed RoundKept
      (fun history s => s.Located ∧ Tracked history s) ?_ ?_ run kept
    · exact ⟨Nat.zero_le loop, fun counted => absurd rfl counted⟩
    · intro history s event successor holds allowed taken
      have moved := step_moves taken
      exact ⟨moves_located holds.1 moved, moves_tracked holds.1 holds.2 allowed moved⟩
  have tracked := holds.2
  have sameLoop := (run_located run).2
  rw [Tracked] at tracked
  rcases leaves with ⟨point, times, counted⟩ | ⟨point, last⟩
  · rw [point, times] at tracked
    exact tracked (by omega)
  · rw [point, ← last] at tracked
    exact tracked rfl (by omega)

theorem leaves_verified_one_round :
    ∃ history s, Run step (enter .success 0 1) history s ∧
      (∀ entry ∈ history, RoundKept entry.1 entry.2) ∧
      LeavesRound s 1 ∧ RoundVerified 1 history := by
  obtain ⟨history, s, run, returned, loop, good⟩ := run_goodRound
  have notFail := run_status_ne_fail run fun mid member => (good mid member).1
  have kept : ∀ entry ∈ history, RoundKept entry.1 entry.2 := by
    intro entry member
    obtain ⟨mid, event⟩ := entry
    cases event with
    | main => exact fun _ => notFail _ member
    | callback =>
        intro _
        rw [State.refilling, (good mid member).2]
    | slaveConfig ret => trivial
    | engine contents => trivial
  have leaves : LeavesRound s 1 := Or.inr ⟨returned, loop.symm⟩
  exact ⟨history, s, run, kept, leaves,
    leaves_only_verified_rounds (Nat.le_refl 1) run kept 1 leaves⟩

/-- A late callback of round one runs between the reset of the status and the
refill, and round two is counted without any callback after its pattern. -/
theorem late_callback_counts_round :
    ∃ history s, Run step (enter .success 0 2) history s ∧
      LeavesRound s 2 ∧ ¬ RoundVerified 2 history := by
  obtain ⟨history, first, firstQuiet⟩ := run_firstRound 0 (Nat.le_succ 1)
  have polling : execute step { copiedRound 0 2 with dmaCyclicStatus := .success } (mains 5) =
      some { copiedRound 0 2 with dmaCyclicStatus := .wait, point := .prepare } :=
    execute_begin rfl (by decide) rfl
  obtain ⟨polls, polled, pollQuiet⟩ := run_of_quiet polling (callback_not_mem_mains 5)
  have late : step { copiedRound 0 2 with dmaCyclicStatus := .wait, point := .prepare }
      .callback = some { copiedRound 0 2 with dmaCyclicStatus := .success, point := .prepare } :=
    step_callback_equal rfl (buffersEqual_of_copied rfl)
  have refill : ∃ issued,
      execute step { copiedRound 0 2 with dmaCyclicStatus := .success, point := .prepare }
        issueEvents = some issued ∧
      issued.point = .loopTest ∧ issued.loop = 2 ∧ issued.dmaTestTimes = 2 ∧
      issued.dmaCyclicStatus = .success := by
    rw [issueEvents, execute_append _ (execute_prepared rfl)]
    exact ⟨_, rfl, rfl, rfl, rfl, rfl⟩
  obtain ⟨issued, reached, point, loop, times, status⟩ := refill
  obtain ⟨refills, refilled, refillQuiet⟩ := run_of_quiet reached
    (by simp [issueEvents, callback_not_mem_mains])
  have whole := ((((first.append (run_copiedRound 0 2)).append polled).next late).append
    refilled).append (run_tail point (by omega) (by rw [status]; decide))
  refine ⟨_, _, whole, Or.inr ⟨rfl, loop.symm⟩, ?_⟩
  intro verified
  obtain ⟨later, mid, earlier, split, _written, _equal, pattern⟩ := verified
  have member : (mid, Event.callback) ∈ later ++ (mid, Event.callback) :: earlier :=
    List.mem_append_right later List.mem_cons_self
  rw [← split] at member
  simp only [List.cons_append, List.nil_append, List.mem_cons, List.mem_append, Prod.mk.injEq,
    reduceCtorEq, and_false, and_true, false_or, or_false, firstQuiet, pollQuiet,
    refillQuiet] at member
  have old : mid.dst = (copiedRound 0 2).dst := by
    rcases member with same | same <;> rw [same]
  have new := pattern 0 (by decide)
  rw [old, copiedRound_dst_zero] at new
  exact absurd new (by decide)

end AmebaTests.Dmac
