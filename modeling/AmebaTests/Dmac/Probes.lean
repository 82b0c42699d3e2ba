/-
Sequences of invocations of `rtk_dma_test_cyclic`, one for each probe of the
device.

Between invocations only `dma_cyclic_status` and the kernel's supply of handles
persist.  A descriptor that an earlier invocation left issued may still call
back; its callback reads a stack frame that is gone, so what it finds is
arbitrary.
-/

import AmebaTests.Dmac.Resources

namespace AmebaTests.Dmac

open Foundation

/-- `current` is the invocation in progress or the last one that returned. -/
structure Session where
  current : Option State
  outstanding : Bool

inductive SessionEvent
  | invoke (loop : Nat)
  | inside (event : Event)
  | lateCallback (equal : Bool)

/-- The static status is initialised to SUCCESS when the module is loaded. -/
def moduleLoad : Session where
  current := none
  outstanding := false

namespace Session

def status (session : Session) : TestResult :=
  match session.current with
  | none => .success
  | some s => s.dmaCyclicStatus

def nextHandle (session : Session) : Nat :=
  match session.current with
  | none => 0
  | some s => s.nextHandle

def idle (session : Session) : Bool :=
  match session.current with
  | none => true
  | some s =>
      match s.point with
      | .returned _ => true
      | _ => false

def issued (session : Session) : Bool :=
  match session.current with
  | none => false
  | some s => !s.issued.isEmpty

end Session

def verdictOf (equal : Bool) : TestResult :=
  if equal then .success else .fail

def sessionStep (session : Session) : SessionEvent → Option Session
  | .invoke loop =>
      if session.idle then
        some
          { current := some (enter session.status session.nextHandle loop)
            outstanding := session.outstanding || session.issued }
      else none
  | .inside event =>
      match session.current with
      | none => none
      | some s => (step s event).map fun next => { session with current := some next }
  | .lateCallback equal =>
      match session.current with
      | none => none
      | some s =>
          if session.outstanding || (session.idle && session.issued) then
            some { session with current := some { s with dmaCyclicStatus := verdictOf equal } }
          else none

theorem sessionStep_cases {session successor : Session} {event : SessionEvent}
    (taken : sessionStep session event = some successor) :
    (∃ loop, event = .invoke loop ∧
        successor.current = some (enter session.status session.nextHandle loop)) ∨
      (∃ inner s next, event = .inside inner ∧ session.current = some s ∧
        step s inner = some next ∧ successor.current = some next) ∨
      (∃ equal s, event = .lateCallback equal ∧ session.current = some s ∧
        successor.current = some { s with dmaCyclicStatus := verdictOf equal }) := by
  cases event with
  | invoke loop =>
      simp only [sessionStep] at taken
      split at taken
      · cases taken
        exact Or.inl ⟨loop, rfl, rfl⟩
      · cases taken
  | inside inner =>
      simp only [sessionStep] at taken
      split at taken
      · cases taken
      · rename_i s current
        obtain ⟨next, moved, rfl⟩ := Option.map_eq_some_iff.mp taken
        exact Or.inr (Or.inl ⟨inner, s, next, rfl, current, moved, rfl⟩)
  | lateCallback equal =>
      simp only [sessionStep] at taken
      split at taken
      · cases taken
      · rename_i s current
        split at taken
        · cases taken
          exact Or.inr (Or.inr ⟨equal, s, rfl, current, rfl⟩)
        · cases taken

/-! ### Resources over any sequence of probes -/

def thisInvocation : History Session SessionEvent → History Session SessionEvent
  | [] => []
  | (_, .invoke _) :: _ => []
  | (session, .inside event) :: rest => (session, .inside event) :: thisInvocation rest
  | (session, .lateCallback equal) :: rest =>
      (session, .lateCallback equal) :: thisInvocation rest

def SessionReleases (session : Session) : SessionEvent → Prop
  | .inside event => ∀ s, session.current = some s → Releases s event
  | _ => True

def Positive : SessionEvent → Prop
  | .invoke loop => 1 ≤ loop
  | _ => True

def Accounted (history : History Session SessionEvent) (session : Session) : Prop :=
  ∀ s, session.current = some s →
    1 ≤ s.loop ∧
      ((∀ entry ∈ thisInvocation history, SessionReleases entry.1 entry.2) → Held s) ∧
      ((∃ entry ∈ thisInvocation history, ¬ SessionReleases entry.1 entry.2) → Leaky s)

theorem enter_held (status : TestResult) (nextHandle loop : Nat) :
    Held (enter status nextHandle loop) :=
  ⟨fun _ => ⟨rfl, rfl, rfl, rfl⟩, fun counted => absurd rfl counted⟩

theorem verdictOf_ne_wait (equal : Bool) : verdictOf equal ≠ .wait := by
  cases equal <;> decide

theorem sessionStep_accounted {history : History Session SessionEvent}
    {session successor : Session} {event : SessionEvent}
    (accounted : Accounted history session) (positive : Positive event)
    (taken : sessionStep session event = some successor) :
    Accounted ((session, event) :: history) successor := by
  intro final after
  rcases sessionStep_cases taken with
    ⟨loop, rfl, entered⟩ | ⟨inner, s, next, rfl, before, moved, stepped⟩ |
      ⟨equal, s, rfl, before, called⟩
  · rw [entered, Option.some.injEq] at after
    subst after
    refine ⟨positive, fun _ => enter_held _ _ _, ?_⟩
    intro broken
    obtain ⟨entry, member, _broken⟩ := broken
    exact absurd member List.not_mem_nil
  · rw [stepped, Option.some.injEq] at after
    subst after
    obtain ⟨loop, held, leaky⟩ := accounted s before
    have move := step_moves moved
    refine ⟨by rw [moves_loop move]; exact loop, ?_, ?_⟩
    · intro every
      have here := every _ List.mem_cons_self s before
      exact moves_held loop (held fun entry member =>
        every entry (List.mem_cons_of_mem _ member)) here move
    · intro lapse
      obtain ⟨entry, member, broken⟩ := lapse
      by_cases earlier : ∃ entry ∈ thisInvocation history, ¬ SessionReleases entry.1 entry.2
      · exact moves_leaky (leaky earlier) move
      · have every : ∀ entry ∈ thisInvocation history, SessionReleases entry.1 entry.2 := by
          intro entry member
          by_contra broken
          exact earlier ⟨entry, member, broken⟩
        rcases List.mem_cons.mp member with newest | older
        · subst newest
          refine moves_broken (held every) ?_ move
          intro releases
          refine broken fun other same => ?_
          rw [before, Option.some.injEq] at same
          subst same
          exact releases
        · exact absurd (every entry older) broken
  · rw [called, Option.some.injEq] at after
    subst after
    obtain ⟨loop, held, leaky⟩ := accounted s before
    refine ⟨loop, ?_, ?_⟩
    · intro every
      exact Held.status (held fun entry member =>
        every entry (List.mem_cons_of_mem _ member)) (verdictOf_ne_wait equal)
    · intro lapse
      obtain ⟨entry, member, broken⟩ := lapse
      rcases List.mem_cons.mp member with newest | older
      · subst newest
        exact absurd trivial broken
      · exact Leaky.status (leaky ⟨entry, older, broken⟩) _

/-- Over any sequence of probes, an invocation that has returned released
exactly what it acquired if and only if each of its steps kept the discipline. -/
theorem returned_disciplined_iff {history : History Session SessionEvent} {session : Session}
    (run : Run sessionStep moduleLoad history session)
    (positive : ∀ entry ∈ history, Positive entry.2)
    {s : State} (current : session.current = some s)
    {verdict : TestResult} (returned : s.point = .returned verdict) :
    Disciplined s ↔
      ∀ entry ∈ thisInvocation history, SessionReleases entry.1 entry.2 := by
  have accounted : Accounted history session :=
    Run.invariant_of_allowed (fun _ event => Positive event) Accounted
      (fun s none => by cases none)
      (fun _ _ _ _ holds allowed taken => sessionStep_accounted holds allowed taken)
      run positive
  obtain ⟨_loop, held, leaky⟩ := accounted s current
  constructor
  · intro disciplined entry member
    by_contra broken
    have lost := leaky ⟨entry, member, broken⟩
    rw [Leaky, returned] at lost
    exact lost disciplined
  · intro every
    have kept := held every
    rw [Held, returned] at kept
    exact kept

theorem run_inside (outstanding : Bool) {start final : State} {history : History State Event}
    (run : Run step start history final) :
    Run sessionStep { current := some start, outstanding := outstanding }
      (history.map fun entry =>
        ({ current := some entry.1, outstanding := outstanding }, .inside entry.2))
      { current := some final, outstanding := outstanding } := by
  induction run with
  | start => exact Run.start
  | next _ taken ih =>
      refine ih.next ?_
      simp only [sessionStep, taken, Option.map_some]

theorem run_first {loop : Nat} {final : State} {history : History State Event}
    (run : Run step (enter .success 0 loop) history final) :
    Run sessionStep moduleLoad
      ((history.map fun entry =>
          ({ current := some entry.1, outstanding := false }, .inside entry.2)) ++
        [(moduleLoad, .invoke loop)])
      { current := some final, outstanding := false } :=
  (Run.start.next rfl).append (run_inside false run)

theorem returned_disciplined_one_round :
    ∃ history session s, Run sessionStep moduleLoad history session ∧
      (∀ entry ∈ history, Positive entry.2) ∧ session.current = some s ∧
      s.point = .returned .success ∧
      (Disciplined s ↔
        ∀ entry ∈ thisInvocation history, SessionReleases entry.1 entry.2) := by
  obtain ⟨inner, s, run, returned, _loop, _good⟩ := run_goodRound
  have whole := run_first run
  have positive : ∀ entry ∈ (inner.map fun entry =>
      ({ current := some entry.1, outstanding := false }, SessionEvent.inside entry.2)) ++
        [(moduleLoad, .invoke 1)], Positive entry.2 := by
    intro entry member
    rcases List.mem_append.mp member with inside | invoked
    · obtain ⟨origin, _member, rfl⟩ := List.mem_map.mp inside
      trivial
    · rw [List.mem_singleton.mp invoked]
      exact Nat.le_refl 1
  exact ⟨_, _, s, whole, positive, rfl, returned,
    returned_disciplined_iff whole positive rfl returned⟩

theorem refused_config_leaks :
    ∃ history session s, Run sessionStep moduleLoad history session ∧
      session.current = some s ∧ s.point = .returned .fail ∧ ¬ Disciplined s := by
  have refused : ∃ s, execute step (enter .success 0 1)
      ((mains 5 ++ mains 259) ++ [.main, .slaveConfig 1]) = some s ∧
      s.point = .returned .fail ∧ s.released = [] ∧
      s.acquired = [.coherent 0, .coherent 1, .channel 2] := by
    rw [execute_append _ (execute_counted 0 (Nat.le_refl 1))]
    exact ⟨_, rfl, rfl, rfl, rfl⟩
  obtain ⟨s, reached, returned, released, acquired⟩ := refused
  obtain ⟨history, run, _events⟩ := Run.of_execute reached
  have member : .channel 2 ∈ s.acquired := by
    rw [acquired]
    decide
  exact ⟨_, _, s, run_first run, rfl, returned, undisciplined_of_acquired member released⟩

/-! ### Independence of earlier invocations -/

/-- What a caller sees of an invocation: the rounds counted, and the verdict. -/
def observe (s : State) : Nat × Option TestResult :=
  (s.dmaTestTimes,
    match s.point with
    | .returned verdict => some verdict
    | _ => none)

theorem observe_fst (s : State) : (observe s).1 = s.dmaTestTimes := rfl

/-- The last store to the status, read off the events of earlier invocations. -/
def leftBehind : History Session SessionEvent → TestResult
  | [] => .success
  | (session, .inside .callback) :: _ =>
      verdictOf (session.current.any State.buffersEqual)
  | (session, .inside .main) :: rest =>
      if session.current.any (fun s => s.point = .setWait) then .wait else leftBehind rest
  | (_, .lateCallback equal) :: _ => verdictOf equal
  | (_, .inside (.slaveConfig _)) :: rest => leftBehind rest
  | (_, .inside (.engine _)) :: rest => leftBehind rest
  | (_, .invoke _) :: rest => leftBehind rest

theorem moves_main_status {s successor : State} (moved : Moves s .main successor) :
    successor.dmaCyclicStatus =
      if s.point = .setWait then .wait else s.dmaCyclicStatus := by
  cases moved with
  | setWait point => rw [if_pos point]
  | prepare point => rw [point, if_neg (by decide)]; exact prepareStep_status s
  | requestChan point => rw [point, if_neg (by decide)]; exact requestChanStep_status s
  | fillOne i point below => rw [point, if_neg (fun impossible => by cases impossible)]
  | filled i point above => rw [point, if_neg (fun impossible => by cases impossible)]
  | endFail point => rw [point, if_neg (by decide)]; rfl
  | endSuccess point => rw [point, if_neg (by decide)]; rfl
  | _ point => rw [point, if_neg (by decide)]

theorem moves_slaveConfig_status {s successor : State} {ret : BitVec 32}
    (moved : Moves s (.slaveConfig ret) successor) :
    successor.dmaCyclicStatus = s.dmaCyclicStatus := by
  cases moved <;> rfl

theorem run_leftBehind {history : History Session SessionEvent} {session : Session}
    (run : Run sessionStep moduleLoad history session) :
    session.status = leftBehind history := by
  apply Run.invariant (fun history session => session.status = leftBehind history) rfl ?_ run
  intro history session event successor _ same taken
  rcases sessionStep_cases taken with
    ⟨loop, rfl, entered⟩ | ⟨inner, s, next, rfl, before, moved, stepped⟩ |
      ⟨equal, s, rfl, before, called⟩
  · rw [leftBehind, ← same, Session.status, entered]
    rfl
  · have move := step_moves moved
    have old : session.status = s.dmaCyclicStatus := by rw [Session.status, before]
    have new : successor.status = next.dmaCyclicStatus := by rw [Session.status, stepped]
    rw [new]
    cases inner with
    | main =>
        rw [leftBehind, before, moves_main_status move, ← same, old]
        simp
    | slaveConfig ret => rw [leftBehind, moves_slaveConfig_status move, ← same, old]
    | engine contents =>
        cases move
        rw [leftBehind, ← same, old]
    | callback =>
        cases move
        rw [leftBehind, before, callback_status]
        rfl
  · rw [leftBehind, Session.status, called]

/-- Entered with a status other than SUCCESS and left alone, the function never
gets past its polling chain. -/
def Stalled (s : State) : Prop :=
  s.dmaTestTimes = 0 ∧ s.dmaCyclicStatus ≠ .success ∧ s.issued = [] ∧
    match s.point with
    | .loopTest => 1 ≤ s.loop
    | .pollFail => 1 ≤ s.loop
    | .pollWait => 1 ≤ s.loop ∧ s.dmaCyclicStatus = .wait
    | .endFail => True
    | .returned _ => True
    | _ => False

theorem step_stalled {s successor : State} {event : Event} (stalled : Stalled s)
    (taken : step s event = some successor) : Stalled successor := by
  obtain ⟨times, status, issued, atPoint⟩ := stalled
  cases step_moves taken with
  | enterLoop point below =>
      rw [point] at atPoint
      exact ⟨times, status, issued, atPoint⟩
  | leaveLoop point above =>
      rw [point] at atPoint
      change 1 ≤ s.loop at atPoint
      omega
  | sawFail point read => exact ⟨times, status, issued, trivial⟩
  | passedFail point read =>
      rw [point] at atPoint
      refine ⟨times, status, issued, atPoint, ?_⟩
      cases stored : s.dmaCyclicStatus with
      | fail => exact absurd stored read
      | success => exact absurd stored status
      | wait => rfl
  | sawWait point read =>
      rw [point] at atPoint
      exact ⟨times, status, issued, atPoint.1⟩
  | passedWait point read =>
      rw [point] at atPoint
      exact absurd atPoint.2 read
  | endFail point => exact ⟨times, status, issued, trivial⟩
  | engine contents active => exact absurd issued (active_issued active)
  | callback active => exact absurd issued (active_issued active)
  | fillOne i point below =>
      rw [point] at atPoint
      exact atPoint.elim
  | filled i point above =>
      rw [point] at atPoint
      exact atPoint.elim
  | unassigned ret point missing =>
      rw [point] at atPoint
      exact atPoint.elim
  | rejected ret point assigned refused =>
      rw [point] at atPoint
      exact atPoint.elim
  | accepted ret point assigned answered =>
      rw [point] at atPoint
      exact atPoint.elim
  | _ point =>
      rw [point] at atPoint
      exact atPoint.elim

/-- A further invocation goes through the same rounds to the same verdict as the
first one after loading, on every schedule, exactly when the last store to the
status in the past was made by a callback that found the buffers equal, or there
was none. -/
theorem further_invocation_independent_iff {history : History Session SessionEvent}
    {session further : Session} (run : Run sessionStep moduleLoad history session)
    {loop : Nat} (positive : 1 ≤ loop)
    (invoked : sessionStep session (.invoke loop) = some further)
    {s : State} (current : further.current = some s) :
    (∀ schedule, observe (follow step s schedule) =
        observe (follow step (enter .success session.nextHandle loop) schedule)) ↔
      leftBehind history = .success := by
  have entered : s = enter session.status session.nextHandle loop := by
    rcases sessionStep_cases invoked with ⟨_, same, started⟩ | ⟨_, _, _, other, _⟩ | ⟨_, _, other, _⟩
    · cases same
      rw [current, Option.some.injEq] at started
      exact started
    · cases other
    · cases other
  rw [← run_leftBehind run]
  subst entered
  constructor
  · intro same
    by_contra other
    have stalled : Stalled (follow step (enter session.status session.nextHandle loop)
        (mains 5 ++ mains 259)) :=
      follow_invariant Stalled (fun _ _ _ holds taken => step_stalled holds taken)
        ⟨rfl, other, rfl, positive⟩ _
    have counted : (follow step (enter .success session.nextHandle loop)
        (mains 5 ++ mains 259)).dmaTestTimes = 1 := by
      rw [follow_of_execute (execute_counted _ positive)]
      rfl
    have rounds := congrArg Prod.fst (same (mains 5 ++ mains 259))
    rw [observe_fst, observe_fst, stalled.1, counted] at rounds
    cases rounds
  · intro success schedule
    rw [success]

theorem run_differingRound :
    ∃ history s, Run step (enter .success 0 1) history s ∧
      s.point = .returned .success ∧ s.dmaCyclicStatus = .fail := by
  obtain ⟨history, first, _quiet⟩ := run_firstRound 0 (Nat.le_refl 1)
  have called := step_callback_different rfl (firstRound_differs 0 1)
  have whole := (first.next called).append (run_tail rfl (Nat.le_refl 1) (by decide))
  exact ⟨_, _, whole, rfl, rfl⟩

theorem invoke_after_return {s : State} {verdict : TestResult}
    (returned : s.point = .returned verdict) (outstanding : Bool) (loop : Nat) :
    ∃ further, sessionStep { current := some s, outstanding := outstanding } (.invoke loop) =
        some further ∧
      further.current = some (enter s.dmaCyclicStatus s.nextHandle loop) := by
  simp only [sessionStep, Session.idle, returned, if_true]
  exact ⟨_, rfl, rfl⟩

theorem further_invocation_after_one_round :
    ∃ history session further s, Run sessionStep moduleLoad history session ∧
      sessionStep session (.invoke 1) = some further ∧ further.current = some s ∧
      ((∀ schedule, observe (follow step s schedule) =
          observe (follow step (enter .success session.nextHandle 1) schedule)) ↔
        leftBehind history = .success) := by
  obtain ⟨inner, s, run, returned, _loop, _good⟩ := run_goodRound
  have whole := run_first run
  obtain ⟨further, started, current⟩ := invoke_after_return returned false 1
  exact ⟨_, _, further, _, whole, started, current,
    further_invocation_independent_iff whole (Nat.le_refl 1) started current⟩

/-- A difference in the last round is returned as SUCCESS, and the invocation
after it fails before its first round. -/
theorem further_invocation_after_difference :
    ∃ history session further s schedule, Run sessionStep moduleLoad history session ∧
      sessionStep session (.invoke 1) = some further ∧ further.current = some s ∧
      observe (follow step s schedule) = (0, some .fail) ∧
      observe (follow step (enter .success session.nextHandle 1) schedule) = (1, none) := by
  obtain ⟨inner, s, run, returned, status⟩ := run_differingRound
  have whole := run_first run
  obtain ⟨further, started, current⟩ := invoke_after_return returned false 1
  rw [status] at current
  refine ⟨_, _, further, _, mains 5 ++ mains 259, whole, started, current, ?_, ?_⟩
  · have failed := execute_sawFail (s := enter .fail s.nextHandle 1) rfl (Nat.lt_succ_self 0) rfl
    have split : mains 5 ++ mains 259 = mains 3 ++ mains 261 := by
      simp only [mains, List.replicate_append_replicate]
    rw [split, follow_append, follow_of_execute failed, follow_of_disabled fun event member => by
      rw [List.eq_of_mem_replicate member]
      rfl]
    rfl
  · rw [follow_of_execute (execute_counted _ (Nat.le_refl 1))]
    rfl

end AmebaTests.Dmac
