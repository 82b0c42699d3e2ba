/-
Pausing and resuming the worker threads.

The control thread sets the status under a lock that readers share, and meets
the workers at a barrier whenever a pause begins or ends.  A worker that leaves
early makes the barrier smaller while it keeps the status from changing.
-/

import Mathlib.Algebra.BigOperators.Ring.Finset
import Mathlib.Algebra.Order.BigOperators.Group.Finset
import AmebaTests.Foundation.Runs
import AmebaTests.Foundation.Census

namespace AmebaTests.Stressapptest

open Foundation

inductive Status
  | run
  | pause
  | stop
  deriving DecidableEq, Repr

/-- `pthread_barrier_t`: the threads it waits for, those that wait, and how often it
has let all of them go. -/
structure Barrier where
  count : Nat
  waiting : Nat
  round : Nat
  deriving DecidableEq, Repr

namespace Barrier

/-- The last thread to come opens the barrier. -/
def settle (barrier : Barrier) : Barrier :=
  if barrier.waiting = barrier.count then ⟨barrier.count, 0, barrier.round + 1⟩ else barrier

def arrive (barrier : Barrier) : Barrier :=
  { barrier with waiting := barrier.waiting + 1 }.settle

end Barrier

/-- Where a worker stands.  Outside it knows what `ContinueRunning` returned and
stored in `paused`; in the loops of `ContinueRunning` and `RemoveSelf` it looks at the
status and waits at the barrier twice; it leaves with the status locked. -/
inductive Place
  | working (ready paused : Bool)
  | looking (leaves paused : Bool)
  | arriving (leaves : Bool)
  | entering (leaves : Bool) (round : Nat)
  | paused (leaves : Bool)
  | resuming (leaves : Bool) (round : Nat)
  | leaving
  | gone
  deriving DecidableEq, Repr

/-- The control thread in `PauseWorkers`, `ResumeWorkers` or `StopWorkers`. -/
inductive Control
  | idle
  | arriving
  | waiting (round : Nat)
  deriving DecidableEq, Repr

structure WorkerStatus (Worker : Type) where
  status : Status
  /-- The read locks on the status that outlast a step. -/
  readers : Nat
  numWorkers : Nat
  barrier : Barrier
  places : Worker → Place
  control : Control

/-- What happens: the control thread calls one of its three functions, or goes on in
it; a worker calls `ContinueRunning` or `RemoveSelf`, or goes on in it. -/
inductive WorkerEvent (Worker : Type)
  | set (status : Status)
  | control
  | call (worker : Worker) (leaves : Bool)
  | proceed (worker : Worker)

/-- Whether `PauseWorkers`, `ResumeWorkers` or `StopWorkers` waits, by the status it found. -/
def waitsAfter : Status → Status → Bool
  | .pause, previous => previous != .pause
  | .run, previous | .stop, previous => previous == .pause

namespace WorkerStatus

variable {Worker : Type}

/-- `Initialize`, after `AddWorkers` for each worker. -/
def initialized (workers : Nat) : WorkerStatus Worker :=
  ⟨.run, 0, workers, ⟨workers + 1, 0, 0⟩, fun _ => .working true false, .idle⟩

variable [DecidableEq Worker]

def setPlace (state : WorkerStatus Worker) (worker : Worker) (place : Place) :
    WorkerStatus Worker :=
  { state with places := Function.update state.places worker place }

/-- What a worker does after its look at the status. -/
def look (state : WorkerStatus Worker) (worker : Worker) (leaves paused : Bool) :
    WorkerStatus Worker :=
  match state.status, leaves with
  | .pause, _ => state.setPlace worker (.arriving leaves)
  | .run, false => state.setPlace worker (.working true paused)
  | .stop, false => state.setPlace worker (.working false paused)
  | .run, true | .stop, true =>
      -- The read lock is kept, so the status cannot become `pause` meanwhile.
      { state with readers := state.readers + 1 }.setPlace worker .leaving

def proceed (state : WorkerStatus Worker) (worker : Worker) : Option (WorkerStatus Worker) :=
  match state.places worker with
  | .working _ _ | .gone => none
  | .looking leaves paused => some (state.look worker leaves paused)
  | .arriving leaves =>
      some ({ state with barrier := state.barrier.arrive }.setPlace worker
        (.entering leaves state.barrier.round))
  | .entering leaves round =>
      if round < state.barrier.round then some (state.setPlace worker (.paused leaves)) else none
  | .paused leaves =>
      some ({ state with barrier := state.barrier.arrive }.setPlace worker
        (.resuming leaves state.barrier.round))
  | .resuming leaves round =>
      if round < state.barrier.round then some (state.setPlace worker (.looking leaves true))
      else none
  | .leaving =>
      -- `pthread_barrier_destroy` fails on a barrier in use, and the assertion with it.
      if state.barrier.waiting = 0 then
        some ({ state with
          readers := state.readers - 1
          numWorkers := state.numWorkers - 1
          barrier := ⟨state.numWorkers, 0, state.barrier.round⟩ }.setPlace worker .gone)
      else none

def step (state : WorkerStatus Worker) : WorkerEvent Worker → Option (WorkerStatus Worker)
  | .set status =>
      if state.control = .idle ∧ state.readers = 0 then
        some { state with
          status := status
          control := if waitsAfter status state.status then .arriving else .idle }
      else none
  | .control =>
      match state.control with
      | .idle => none
      | .arriving =>
          some { state with
            barrier := state.barrier.arrive
            control := .waiting state.barrier.round }
      | .waiting round =>
          if round < state.barrier.round then some { state with control := .idle } else none
  | .call worker leaves =>
      match state.places worker with
      | .working _ _ => some (state.setPlace worker (.looking leaves false))
      | _ => none
  | .proceed worker => state.proceed worker

end WorkerStatus

/-! ### Moves -/

section Moves

variable {Worker : Type} [DecidableEq Worker]

/-- What a step can do, with the test that chose it. -/
inductive WorkerStatus.Move (state : WorkerStatus Worker) :
    WorkerEvent Worker → WorkerStatus Worker → Prop
  | set {status} (idle : state.control = .idle) (unread : state.readers = 0) :
      Move state (.set status) { state with
        status := status
        control := if waitsAfter status state.status then .arriving else .idle }
  | meet (here : state.control = .arriving) :
      Move state .control { state with
        barrier := state.barrier.arrive
        control := .waiting state.barrier.round }
  | met {round} (here : state.control = .waiting round) (opened : round < state.barrier.round) :
      Move state .control { state with control := .idle }
  | call {worker leaves ready paused} (here : state.places worker = .working ready paused) :
      Move state (.call worker leaves) (state.setPlace worker (.looking leaves false))
  | obey {worker leaves paused} (here : state.places worker = .looking leaves paused)
      (pause : state.status = .pause) :
      Move state (.proceed worker) (state.setPlace worker (.arriving leaves))
  | work {worker paused} (here : state.places worker = .looking false paused)
      (unpaused : state.status ≠ .pause) :
      Move state (.proceed worker)
        (state.setPlace worker (.working (decide (state.status = .run)) paused))
  | leave {worker paused} (here : state.places worker = .looking true paused)
      (unpaused : state.status ≠ .pause) :
      Move state (.proceed worker)
        ({ state with readers := state.readers + 1 }.setPlace worker .leaving)
  | enter {worker leaves} (here : state.places worker = .arriving leaves) :
      Move state (.proceed worker)
        ({ state with barrier := state.barrier.arrive }.setPlace worker
          (.entering leaves state.barrier.round))
  | entered {worker leaves round} (here : state.places worker = .entering leaves round)
      (opened : round < state.barrier.round) :
      Move state (.proceed worker) (state.setPlace worker (.paused leaves))
  | resume {worker leaves} (here : state.places worker = .paused leaves) :
      Move state (.proceed worker)
        ({ state with barrier := state.barrier.arrive }.setPlace worker
          (.resuming leaves state.barrier.round))
  | resumed {worker leaves round} (here : state.places worker = .resuming leaves round)
      (opened : round < state.barrier.round) :
      Move state (.proceed worker) (state.setPlace worker (.looking leaves true))
  | part {worker} (here : state.places worker = .leaving) (unused : state.barrier.waiting = 0) :
      Move state (.proceed worker)
        ({ state with
          readers := state.readers - 1
          numWorkers := state.numWorkers - 1
          barrier := ⟨state.numWorkers, 0, state.barrier.round⟩ }.setPlace worker .gone)

variable {state successor : WorkerStatus Worker}

theorem WorkerStatus.look_pause {worker : Worker} {leaves paused : Bool}
    (pause : state.status = .pause) :
    state.look worker leaves paused = state.setPlace worker (.arriving leaves) := by
  simp only [look, pause]

theorem WorkerStatus.look_work {worker : Worker} {paused : Bool}
    (unpaused : state.status ≠ .pause) :
    state.look worker false paused =
      state.setPlace worker (.working (decide (state.status = .run)) paused) := by
  cases status : state.status with
  | pause => exact absurd status unpaused
  | run | stop => simp [look, status]

theorem WorkerStatus.look_leave {worker : Worker} {paused : Bool}
    (unpaused : state.status ≠ .pause) :
    state.look worker true paused =
      { state with readers := state.readers + 1 }.setPlace worker .leaving := by
  cases status : state.status with
  | pause => exact absurd status unpaused
  | run | stop => simp only [look, status]

theorem WorkerStatus.Move.of_look {worker : Worker} {leaves paused : Bool}
    (here : state.places worker = .looking leaves paused) :
    state.Move (.proceed worker) (state.look worker leaves paused) := by
  by_cases pause : state.status = .pause
  · rw [look_pause pause]
    exact .obey here pause
  · cases leaves with
    | false =>
        rw [look_work pause]
        exact .work here pause
    | true =>
        rw [look_leave pause]
        exact .leave here pause

theorem WorkerStatus.Move.of_proceed {worker : Worker}
    (taken : state.proceed worker = some successor) : state.Move (.proceed worker) successor := by
  unfold proceed at taken
  cases here : state.places worker with
  | working | gone => simp [here] at taken
  | looking leaves paused =>
      rw [here] at taken
      cases taken
      exact .of_look here
  | arriving leaves =>
      rw [here] at taken
      cases taken
      exact .enter here
  | paused leaves =>
      rw [here] at taken
      cases taken
      exact .resume here
  | entering leaves round =>
      simp only [here] at taken
      split at taken
      · cases taken
        exact .entered here ‹_›
      · cases taken
  | resuming leaves round =>
      simp only [here] at taken
      split at taken
      · cases taken
        exact .resumed here ‹_›
      · cases taken
  | leaving =>
      simp only [here] at taken
      split at taken
      · cases taken
        exact .part here ‹_›
      · cases taken

theorem WorkerStatus.Move.of_step {event : WorkerEvent Worker}
    (taken : state.step event = some successor) : state.Move event successor := by
  cases event with
  | set status =>
      rw [step] at taken
      split at taken
      · rename_i allowed
        cases taken
        exact .set allowed.1 allowed.2
      · cases taken
  | control =>
      rw [step] at taken
      cases here : state.control with
      | idle => simp [here] at taken
      | arriving =>
          rw [here] at taken
          cases taken
          exact .meet here
      | waiting round =>
          simp only [here] at taken
          split at taken
          · cases taken
            exact .met here ‹_›
          · cases taken
  | call worker leaves =>
      rw [step] at taken
      cases here : state.places worker with
      | working ready paused =>
          rw [here] at taken
          cases taken
          exact .call here
      | looking | arriving | entering | paused | resuming | leaving | gone =>
          simp [here] at taken
  | proceed worker => exact .of_proceed taken

end Moves

/-! ### The invariant -/

section Invariant

namespace Place

def present : Place → Bool
  | .gone => false
  | _ => true

def isLeaving : Place → Bool
  | .leaving => true
  | _ => false

/-- A worker that waits in this round of the barrier. -/
def waits (round : Nat) : Place → Bool
  | .entering _ other | .resuming _ other => other == round
  | _ => false

/-- A worker between its look at `PAUSE` and the end of the pause. -/
def inPause : Place → Bool
  | .entering _ _ | .paused _ | .resuming _ _ => true
  | _ => false

/-- Where a worker can be, by whether the status is `PAUSE` and whether the control
thread is still expected at the barrier or waits there. -/
def Fits (pause busy : Bool) (round : Nat) : Place → Prop
  | .gone => True
  | .working _ _ | .looking _ _ => pause = busy
  | .arriving _ => pause = true ∧ busy = true
  | .entering _ other =>
      pause = true ∧ busy = true ∧ other = round ∨ pause ≠ busy ∧ other < round
  | .paused _ => pause ≠ busy
  | .resuming _ other => pause ≠ busy ∧ other = round ∨ pause = busy ∧ other < round
  | .leaving => pause = false ∧ busy = false

end Place

namespace Control

def waits (round : Nat) : Control → Bool
  | .waiting other => other == round
  | .idle | .arriving => false

/-- Not yet through the barrier. -/
def busy (round : Nat) : Control → Bool
  | .idle => false
  | .arriving => true
  | .waiting other => decide (round ≤ other)

end Control

namespace WorkerStatus

variable {Worker : Type}

def pausing (state : WorkerStatus Worker) : Bool := state.status == .pause

def busy (state : WorkerStatus Worker) : Bool := state.control.busy state.barrier.round

/-- The invariant, also between the arrival of the last thread and the opening. -/
structure Counted [Fintype Worker] (state : WorkerStatus Worker) : Prop where
  count : state.barrier.count = state.numWorkers + 1
  present : state.numWorkers = census state.places Place.present
  readers : state.readers = census state.places Place.isLeaving
  waiting : state.barrier.waiting = census state.places (Place.waits state.barrier.round) +
    (state.control.waits state.barrier.round).toNat
  past : ∀ round, state.control = .waiting round → round ≤ state.barrier.round
  places : ∀ worker,
    (state.places worker).Fits state.pausing state.busy state.barrier.round

structure Ordered [Fintype Worker] (state : WorkerStatus Worker) : Prop extends
    state.Counted where
  shut : state.barrier.waiting < state.barrier.count

end WorkerStatus

end Invariant

/-! ### The barrier opens -/

section Settling

variable {Worker : Type} [Fintype Worker] {state : WorkerStatus Worker}

theorem Place.present_of_waits {place : Place} {round : Nat} (waits : place.waits round = true) :
    place.present = true := by
  cases place <;> first | rfl | exact absurd waits Bool.false_ne_true

/-- A worker that has come opens with the others. -/
theorem Place.Fits.opened {place : Place} {pause : Bool} {round : Nat}
    (fits : place.Fits pause true round) (come : place.present = true → place.waits round = true) :
    place.Fits pause false (round + 1) ∧ place.waits (round + 1) = false := by
  cases place with
  | gone => exact ⟨trivial, rfl⟩
  | entering leaves other =>
      obtain rfl : other = round := beq_iff_eq.mp (come rfl)
      rcases fits with ⟨paused, _, _⟩ | ⟨_, past⟩
      · exact ⟨.inr ⟨by rw [paused]; decide, Nat.lt_succ_self _⟩, beq_false_of_ne (by omega)⟩
      · exact absurd past (Nat.lt_irrefl _)
  | resuming leaves other =>
      obtain rfl : other = round := beq_iff_eq.mp (come rfl)
      rcases fits with ⟨unpaused, _⟩ | ⟨_, past⟩
      · refine ⟨.inr ⟨?_, Nat.lt_succ_self _⟩, beq_false_of_ne (by omega)⟩
        cases pause with
        | true => exact absurd rfl unpaused
        | false => rfl
      · exact absurd past (Nat.lt_irrefl _)
  | working | looking | arriving | paused | leaving => exact absurd (come rfl) Bool.false_ne_true

/-- After the last arrival the barrier opens for all, and nobody waits in the next round. -/
theorem WorkerStatus.Counted.settle (counted : state.Counted)
    (most : state.barrier.waiting ≤ state.barrier.count) :
    WorkerStatus.Ordered { state with barrier := state.barrier.settle } := by
  unfold Barrier.settle
  by_cases full : state.barrier.waiting = state.barrier.count
  · rw [if_pos full]
    have some : census state.places (Place.waits state.barrier.round) ≤
        census state.places Place.present :=
      census_mono fun _ => Place.present_of_waits
    have count := counted.count
    have present := counted.present
    have waiting := counted.waiting
    have control : state.control.waits state.barrier.round = true := by
      cases waits : state.control.waits state.barrier.round with
      | true => rfl
      | false =>
          rw [waits, Bool.toNat_false] at waiting
          omega
    rw [control, Bool.toNat_true] at waiting
    have come := of_census_le (fun _ => Place.present_of_waits)
      (by omega : census state.places Place.present ≤
        census state.places (Place.waits state.barrier.round))
    obtain ⟨other, here⟩ : ∃ other, state.control = .waiting other := by
      cases here : state.control with
      | waiting other => exact ⟨other, rfl⟩
      | idle | arriving =>
          rw [here] at control
          exact absurd control Bool.false_ne_true
    obtain rfl : other = state.barrier.round := by
      rw [here] at control
      exact beq_iff_eq.mp control
    have busy : state.busy = true := by
      rw [WorkerStatus.busy, here]
      exact decide_eq_true le_rfl
    have opened : ∀ worker, _ := fun worker =>
      Place.Fits.opened (busy ▸ counted.places worker) (come worker)
    refine ⟨⟨counted.count, counted.present, counted.readers, ?_, ?_, ?_⟩, ?_⟩
    · change 0 = census state.places (Place.waits (state.barrier.round + 1)) +
        (state.control.waits (state.barrier.round + 1)).toNat
      rw [census_eq_zero.mpr fun worker => (opened worker).2, here]
      change 0 = 0 + (state.barrier.round == state.barrier.round + 1).toNat
      rw [beq_false_of_ne (by omega)]
      rfl
    · intro round same
      exact Nat.le_succ_of_le (counted.past round same)
    · intro worker
      have free : Control.busy (state.barrier.round + 1) state.control = false := by
        rw [here]
        exact decide_eq_false (by omega)
      change (state.places worker).Fits state.pausing
        (Control.busy (state.barrier.round + 1) state.control) (state.barrier.round + 1)
      rw [free]
      exact (opened worker).1
    · change 0 < state.barrier.count
      omega
  · rw [if_neg full]
    exact ⟨counted, Nat.lt_of_le_of_ne most full⟩

end Settling

/-! ### Steps -/

section Steps

variable {Worker : Type} [Fintype Worker] [DecidableEq Worker]
  {state after successor : WorkerStatus Worker}

/-- One worker comes to another place, and the counts follow. -/
theorem WorkerStatus.Counted.update (counted : state.Counted) {worker : Worker} {place : Place}
    (places : after.places = Function.update state.places worker place)
    (status : after.status = state.status) (control : after.control = state.control)
    (round : after.barrier.round = state.barrier.round)
    (count : after.barrier.count = after.numWorkers + 1)
    (present : after.numWorkers + (state.places worker).present.toNat =
      state.numWorkers + place.present.toNat)
    (readers : after.readers + (state.places worker).isLeaving.toNat =
      state.readers + place.isLeaving.toNat)
    (waiting : after.barrier.waiting +
        ((state.places worker).waits state.barrier.round).toNat =
      state.barrier.waiting + (place.waits state.barrier.round).toNat)
    (fits : place.Fits state.pausing state.busy state.barrier.round) : after.Counted := by
  have moved := fun holds => @census_update Worker Place _ state.places holds _ worker place
  have presentMoved := moved Place.present
  have readersMoved := moved Place.isLeaving
  have waitingMoved := moved (Place.waits state.barrier.round)
  have presentBefore := counted.present
  have readersBefore := counted.readers
  have waitingBefore := counted.waiting
  refine ⟨count, ?_, ?_, ?_, ?_, ?_⟩
  · rw [places]
    omega
  · rw [places]
    omega
  · rw [places, round, control]
    omega
  · rw [control, round]
    exact counted.past
  · intro other
    rw [WorkerStatus.pausing, WorkerStatus.busy, places, status, control, round]
    by_cases same : other = worker
    · rw [same, Function.update_self]
      exact fits
    · rw [Function.update_of_ne same]
      exact counted.places other

theorem WorkerStatus.Ordered.setPlace (ordered : state.Ordered) {worker : Worker} {place : Place}
    (present : place.present = (state.places worker).present)
    (leaving : place.isLeaving = (state.places worker).isLeaving)
    (waits : place.waits state.barrier.round =
      (state.places worker).waits state.barrier.round)
    (fits : place.Fits state.pausing state.busy state.barrier.round) :
    (state.setPlace worker place).Ordered := by
  refine ⟨ordered.toCounted.update rfl rfl rfl rfl ordered.count ?_ ?_ ?_ fits, ordered.shut⟩
  · rw [present]
    rfl
  · rw [leaving]
    rfl
  · rw [waits]
    rfl

/-- A worker comes to the barrier. -/
theorem WorkerStatus.Ordered.arrive (ordered : state.Ordered) {worker : Worker} {place : Place}
    (here : (state.places worker).present = true ∧ (state.places worker).isLeaving = false ∧
      (state.places worker).waits state.barrier.round = false)
    (there : place.present = true ∧ place.isLeaving = false ∧
      place.waits state.barrier.round = true)
    (fits : place.Fits state.pausing state.busy state.barrier.round) :
    ({ state with barrier := state.barrier.arrive }.setPlace worker place).Ordered := by
  have come : WorkerStatus.Counted { state with
      barrier := { state.barrier with waiting := state.barrier.waiting + 1 }
      places := Function.update state.places worker place } := by
    refine ordered.toCounted.update rfl rfl rfl rfl ordered.count ?_ ?_ ?_ fits
    · rw [here.1, there.1]
    · rw [here.2.1, there.2.1]
    · rw [here.2.2, there.2.2]
      rfl
  exact come.settle ordered.shut

omit [Fintype Worker] [DecidableEq Worker] in
theorem WorkerStatus.busy_of_control (control : state.control = .idle) : state.busy = false := by
  rw [busy, control]
  rfl

omit [DecidableEq Worker] in
/-- The control thread sets the status: it is expected at the barrier if a pause
begins or ends. -/
theorem WorkerStatus.Ordered.set (ordered : state.Ordered) {status : Status}
    (idle : state.control = .idle) (unread : state.readers = 0) :
    WorkerStatus.Ordered { state with
      status := status
      control := if waitsAfter status state.status then .arriving else .idle } := by
  have free := WorkerStatus.busy_of_control idle
  have nobody : ∀ worker, (state.places worker).isLeaving = false :=
    census_eq_zero.mp (ordered.readers.symm.trans unread)
  have control : ∀ round, (if waitsAfter status state.status then Control.arriving
      else Control.idle).waits round = false := by
    intro round
    split <;> rfl
  have changed : (if waitsAfter status state.status then Control.arriving
      else Control.idle).busy state.barrier.round = ((status == .pause) != state.pausing) := by
    rw [WorkerStatus.pausing]
    cases status <;> cases state.status <;> rfl
  refine ⟨⟨ordered.count, ordered.present, ordered.readers, ?_, ?_, ?_⟩, ordered.shut⟩
  · have waiting := ordered.waiting
    rw [idle] at waiting
    change _ = _ + Bool.toNat (Control.waits _ _)
    rw [control]
    exact waiting
  · intro round same
    change (if waitsAfter status state.status then Control.arriving else Control.idle) =
      .waiting round at same
    split at same <;> cases same
  · intro worker
    have fits := ordered.places worker
    have stays := nobody worker
    change (state.places worker).Fits (status == .pause) (Control.busy _ _) _
    rw [changed]
    rw [free] at fits
    cases here : state.places worker with
    | gone => trivial
    | leaving =>
        rw [here] at stays
        exact absurd stays (by decide)
    | working | looking =>
        rw [here] at fits
        have running : state.pausing = false := fits
        rw [running]
        change (status == .pause) = ((status == .pause) != false)
        cases status == .pause <;> rfl
    | arriving =>
        rw [here] at fits
        exact absurd fits.2 Bool.false_ne_true
    | paused =>
        rw [here] at fits
        rw [eq_true_of_ne_false fits]
        change (status == .pause) ≠ ((status == .pause) != true)
        cases status == .pause <;> decide
    | entering leaves round =>
        rw [here] at fits
        rcases fits with ⟨_, busy, _⟩ | ⟨pausing, past⟩
        · exact absurd busy Bool.false_ne_true
        · refine .inr ⟨?_, past⟩
          rw [eq_true_of_ne_false pausing]
          cases status == .pause <;> decide
    | resuming leaves round =>
        rw [here] at fits
        rcases fits with ⟨pausing, same⟩ | ⟨running, past⟩
        · refine .inl ⟨?_, same⟩
          rw [eq_true_of_ne_false pausing]
          cases status == .pause <;> decide
        · refine .inr ⟨?_, past⟩
          rw [running]
          cases status == .pause <;> rfl

end Steps

/-! ### Runs -/

section Runs

variable {Worker : Type} [Fintype Worker] [DecidableEq Worker]
  {state successor : WorkerStatus Worker}

omit [DecidableEq Worker] in
/-- With the status locked by a worker that leaves, nobody waits at the barrier. -/
theorem WorkerStatus.Ordered.unused (ordered : state.Ordered) {worker : Worker}
    (here : state.places worker = .leaving) : state.barrier.waiting = 0 := by
  have fits := ordered.places worker
  rw [here] at fits
  obtain ⟨running, free⟩ : state.pausing = false ∧ state.busy = false := fits
  rw [ordered.waiting, census_eq_zero.mpr]
  · cases control : state.control with
    | idle | arriving => rfl
    | waiting round =>
        rw [WorkerStatus.busy, control] at free
        have past : ¬ state.barrier.round ≤ round := of_decide_eq_false free
        change 0 + (round == state.barrier.round).toNat = 0
        rw [beq_false_of_ne (by omega)]
        rfl
  · intro other
    have place := ordered.places other
    rw [running, free] at place
    cases there : state.places other with
    | entering leaves round =>
        rw [there] at place
        rcases place with ⟨paused, _, _⟩ | ⟨differ, _⟩
        · exact absurd paused Bool.false_ne_true
        · exact absurd rfl differ
    | resuming leaves round =>
        rw [there] at place
        rcases place with ⟨differ, _⟩ | ⟨_, past⟩
        · exact absurd rfl differ
        · exact beq_false_of_ne (by omega)
    | working | looking | arriving | paused | leaving | gone => rfl

theorem WorkerStatus.Ordered.move (ordered : state.Ordered) {event : WorkerEvent Worker}
    (moved : state.Move event successor) : successor.Ordered := by
  cases moved with
  | set idle unread => exact ordered.set idle unread
  | meet here =>
      have come : WorkerStatus.Counted { state with
          barrier := { state.barrier with waiting := state.barrier.waiting + 1 }
          control := .waiting state.barrier.round } := by
        have busy : state.busy = true := by
          rw [WorkerStatus.busy, here]
          rfl
        have waiting := ordered.waiting
        rw [here] at waiting
        refine ⟨ordered.count, ordered.present, ordered.readers, ?_, ?_, ?_⟩
        · change state.barrier.waiting + 1 = _ + (state.barrier.round == state.barrier.round).toNat
          rw [waiting, beq_self_eq_true]
          rfl
        · intro round same
          cases same
          exact le_rfl
        · intro worker
          have fits := ordered.places worker
          rw [busy] at fits
          change (state.places worker).Fits _ (decide (state.barrier.round ≤ state.barrier.round)) _
          rw [decide_eq_true le_rfl]
          exact fits
      exact come.settle ordered.shut
  | @met round here opened =>
      have free : state.busy = false := by
        rw [WorkerStatus.busy, here]
        exact decide_eq_false (by omega)
      have waiting := ordered.waiting
      rw [here] at waiting
      refine ⟨⟨ordered.count, ordered.present, ordered.readers, ?_, ?_, ?_⟩, ordered.shut⟩
      · rw [waiting]
        change _ + (round == state.barrier.round).toNat = _ + 0
        rw [beq_false_of_ne (by omega)]
        rfl
      · intro other same
        cases same
      · intro worker
        have fits := ordered.places worker
        rw [free] at fits
        exact fits
  | @call worker leaves ready paused here =>
      have fits := ordered.places worker
      rw [here] at fits
      exact ordered.setPlace (by rw [here]; rfl) (by rw [here]; rfl) (by rw [here]; rfl) fits
  | @obey worker leaves paused here pause =>
      have fits := ordered.places worker
      rw [here] at fits
      have pausing : state.pausing = true := beq_iff_eq.mpr pause
      have same : state.pausing = state.busy := fits
      exact ordered.setPlace (by rw [here]; rfl) (by rw [here]; rfl) (by rw [here]; rfl)
        ⟨pausing, same ▸ pausing⟩
  | @work worker paused here unpaused =>
      have fits := ordered.places worker
      rw [here] at fits
      exact ordered.setPlace (by rw [here]; rfl) (by rw [here]; rfl) (by rw [here]; rfl) fits
  | @leave worker paused here unpaused =>
      have fits := ordered.places worker
      rw [here] at fits
      have running : state.pausing = false := beq_false_of_ne unpaused
      have same : state.pausing = state.busy := fits
      refine ⟨ordered.toCounted.update rfl rfl rfl rfl ordered.count ?_ ?_ ?_
        ⟨running, same ▸ running⟩, ordered.shut⟩
      · rw [here]
        rfl
      · rw [here]
        rfl
      · rw [here]
        rfl
  | @enter worker leaves here =>
      have fits := ordered.places worker
      rw [here] at fits
      refine ordered.arrive ?_ ⟨rfl, rfl, beq_self_eq_true _⟩ (.inl ⟨fits.1, fits.2, rfl⟩)
      rw [here]
      exact ⟨rfl, rfl, rfl⟩
  | @entered worker leaves round here opened =>
      have fits := ordered.places worker
      rw [here] at fits
      refine ordered.setPlace (by rw [here]; rfl) (by rw [here]; rfl) ?_ ?_
      · rw [here]
        exact (beq_false_of_ne (by omega)).symm
      · rcases fits with ⟨_, _, same⟩ | ⟨differ, _⟩
        · omega
        · exact differ
  | @resume worker leaves here =>
      have fits := ordered.places worker
      rw [here] at fits
      refine ordered.arrive ?_ ⟨rfl, rfl, beq_self_eq_true _⟩ (.inl ⟨fits, rfl⟩)
      rw [here]
      exact ⟨rfl, rfl, rfl⟩
  | @resumed worker leaves round here opened =>
      have fits := ordered.places worker
      rw [here] at fits
      refine ordered.setPlace (by rw [here]; rfl) (by rw [here]; rfl) ?_ ?_
      · rw [here]
        exact (beq_false_of_ne (by omega)).symm
      · rcases fits with ⟨_, same⟩ | ⟨running, _⟩
        · omega
        · exact running
  | @part worker here unused =>
      have some : 0 < state.numWorkers := by
        rw [ordered.present]
        refine Nat.pos_of_ne_zero fun none => ?_
        have absent := census_eq_zero.mp none worker
        rw [here] at absent
        exact Bool.false_ne_true absent.symm
      have read : 0 < state.readers := by
        rw [ordered.readers]
        refine Nat.pos_of_ne_zero fun none => ?_
        have absent := census_eq_zero.mp none worker
        rw [here] at absent
        exact Bool.false_ne_true absent.symm
      refine ⟨ordered.toCounted.update rfl rfl rfl rfl ?_ ?_ ?_ ?_ trivial, some⟩
      · change state.numWorkers = state.numWorkers - 1 + 1
        omega
      · rw [here]
        change state.numWorkers - 1 + 1 = state.numWorkers + 0
        omega
      · rw [here]
        change state.readers - 1 + 1 = state.readers + 0
        omega
      · rw [here, unused]
        rfl

omit [DecidableEq Worker] in
theorem WorkerStatus.initialized_ordered :
    (initialized (Fintype.card Worker) : WorkerStatus Worker).Ordered := by
  refine ⟨⟨rfl, ?_, ?_, ?_, ?_, fun _ => rfl⟩, Nat.succ_pos _⟩
  · exact (Finset.card_eq_iff_eq_univ _).mpr (Finset.filter_true_of_mem fun _ _ => rfl) |>.symm
  · exact (census_eq_zero.mpr fun _ => rfl).symm
  · exact (census_eq_zero.mpr fun _ => rfl).symm
  · intro round same
    cases same

theorem WorkerStatus.run_ordered {history : History (WorkerStatus Worker) (WorkerEvent Worker)}
    (run : Run WorkerStatus.step (initialized (Fintype.card Worker)) history state) :
    state.Ordered := by
  refine run.invariant (fun _ reached => reached.Ordered) initialized_ordered ?_
  exact fun _ _ _ _ _ ordered taken => ordered.move (.of_step taken)

/-- Between the return of `PauseWorkers` and the next call of the control thread every
worker that has not left is in the pause, after the return of `ResumeWorkers` or
`StopWorkers` every worker is out of it or let out, and the barrier a worker replaces
when it leaves is not in use. -/
structure WorkerStatus.Obeyed (state : WorkerStatus Worker) : Prop where
  paused : state.status = .pause → state.control = .idle →
    ∀ worker, state.places worker = .gone ∨ (state.places worker).inPause = true
  resumed : state.status ≠ .pause → state.control = .idle →
    ∀ worker, (state.places worker).inPause = true →
      ∃ out, state.step (.proceed worker) = some out ∧ (out.places worker).inPause = false
  leaves : ∀ worker, state.places worker = .leaving →
    ∃ out, state.step (.proceed worker) = some out ∧ out.places worker = .gone

theorem WorkerStatus.Ordered.obeyed (ordered : state.Ordered) : state.Obeyed := by
  refine ⟨?_, ?_, ?_⟩
  · intro pause idle worker
    have fits := ordered.places worker
    have pausing : state.pausing = true := beq_iff_eq.mpr pause
    rw [WorkerStatus.busy_of_control idle, pausing] at fits
    cases here : state.places worker with
    | gone => exact .inl rfl
    | entering | paused | resuming => exact .inr rfl
    | working | looking =>
        rw [here] at fits
        exact absurd fits.symm Bool.false_ne_true
    | arriving =>
        rw [here] at fits
        exact absurd fits.2 Bool.false_ne_true
    | leaving =>
        rw [here] at fits
        exact absurd fits.1.symm Bool.false_ne_true
  · intro unpaused idle worker inside
    have fits := ordered.places worker
    have running : state.pausing = false := beq_false_of_ne unpaused
    rw [WorkerStatus.busy_of_control idle, running] at fits
    cases here : state.places worker with
    | resuming leaves round =>
        rw [here] at fits
        rcases fits with ⟨differ, _⟩ | ⟨_, past⟩
        · exact absurd rfl differ
        · refine ⟨state.setPlace worker (.looking leaves true), ?_, ?_⟩
          · simp [step, proceed, here, past]
          · exact congrArg Place.inPause (Function.update_self worker _ state.places)
    | entering leaves round =>
        rw [here] at fits
        rcases fits with ⟨paused, _, _⟩ | ⟨differ, _⟩
        · exact absurd paused Bool.false_ne_true
        · exact absurd rfl differ
    | paused =>
        rw [here] at fits
        exact absurd rfl fits
    | working | looking | arriving | leaving | gone =>
        rw [here] at inside
        exact absurd inside Bool.false_ne_true
  · intro worker here
    have unused := ordered.unused here
    refine ⟨_, by simp [step, proceed, here, unused]; rfl, ?_⟩
    exact Function.update_self _ _ _

/-- In every interleaving of the control thread, whatever it calls, with workers that
call `ContinueRunning` and leave when they like. -/
theorem workers_obey_pauses {history : History (WorkerStatus Worker) (WorkerEvent Worker)}
    (run : Run WorkerStatus.step (WorkerStatus.initialized (Fintype.card Worker)) history state) :
    state.Obeyed :=
  (WorkerStatus.run_ordered run).obeyed

/-- A pause of two workers, one of which is on its way out. -/
def pauseOfTwo : List (WorkerEvent Bool) :=
  [.set .pause, .call true false, .proceed true, .proceed true, .call false true, .proceed false,
    .proceed false, .control, .control]

theorem two_workers_obey : ∃ history, ∃ state : WorkerStatus Bool,
    Run WorkerStatus.step (WorkerStatus.initialized (Fintype.card Bool)) history state ∧
      state.status = .pause ∧ state.control = .idle ∧ state.Obeyed := by
  obtain ⟨state, reached, pause, idle⟩ : ∃ state,
      execute WorkerStatus.step (WorkerStatus.initialized (Fintype.card Bool)) pauseOfTwo =
          some state ∧ state.status = .pause ∧ state.control = .idle := ⟨_, rfl, rfl, rfl⟩
  obtain ⟨history, run, _⟩ := Run.of_execute reached
  exact ⟨history, state, run, pause, idle, workers_obey_pauses run⟩

end Runs

/-! ### The way to a pause -/

section Waiting

variable {Worker : Type}

/-- The own steps of a worker until it waits at the barrier, in a pause that begins
or in one that ends. -/
def Place.toGo : Bool → Place → Nat
  | true, .working _ _ | true, .resuming _ _ => 3
  | true, .looking _ _ => 2
  | true, .arriving _ => 1
  | false, .entering _ _ => 2
  | false, .paused _ => 1
  | _, _ => 0

theorem Place.toGo_le (pause : Bool) (place : Place) : place.toGo pause ≤ 3 * place.present.toNat := by
  cases pause <;> cases place <;> simp [Place.toGo, Place.present]

def WorkerEvent.ofWorker : WorkerEvent Worker → Bool
  | .call _ _ | .proceed _ => true
  | .set _ | .control => false

def WorkerEvent.isSet : WorkerEvent Worker → Bool
  | .set _ => true
  | .control | .call _ _ | .proceed _ => false

/-- The steps of the workers. -/
def workerSteps (history : History (WorkerStatus Worker) (WorkerEvent Worker)) : Nat :=
  history.countP fun entry => entry.2.ofWorker

variable [Fintype Worker] {state successor called : WorkerStatus Worker}

def WorkerStatus.toGo (state : WorkerStatus Worker) : Nat :=
  ∑ worker, (state.places worker).toGo state.pausing

theorem WorkerStatus.Ordered.toGo_le (ordered : state.Ordered) :
    state.toGo ≤ 3 * state.numWorkers := by
  rw [ordered.present, census_eq_sum, Finset.mul_sum]
  exact Finset.sum_le_sum fun worker _ => Place.toGo_le _ _

variable [DecidableEq Worker]

theorem WorkerStatus.toGo_update {after : WorkerStatus Worker} {worker : Worker} {place : Place}
    (places : after.places = Function.update state.places worker place)
    (status : after.status = state.status)
    (fewer : place.toGo state.pausing + 1 = (state.places worker).toGo state.pausing) :
    1 + after.toGo = state.toGo := by
  have moved := @sum_change Worker _ Finset.univ
    (fun other => (state.places other).toGo state.pausing)
    (fun other => (after.places other).toGo state.pausing) worker (Finset.mem_univ worker)
    fun other _ differs => by rw [places, Function.update_of_ne differs]
  simp only [places, Function.update_self] at moved
  rw [toGo, toGo, pausing, status, places]
  simp only [pausing] at moved fewer ⊢
  omega

/-- While the control thread is not through the barrier, a step of a worker brings it
nearer. -/
theorem WorkerStatus.Ordered.nearer (ordered : state.Ordered) (busy : state.busy = true)
    {event : WorkerEvent Worker} (moved : state.Move event successor) :
    (if event.ofWorker then 1 else 0) + successor.toGo = state.toGo := by
  have fits := ordered.places
  rw [busy] at fits
  cases moved with
  | set idle unread => exact absurd (WorkerStatus.busy_of_control idle ▸ busy) Bool.false_ne_true
  | meet here | met here => exact Nat.zero_add _
  | @call worker leaves ready paused here =>
      have pausing : state.pausing = true := by
        have place := fits worker
        rwa [here] at place
      refine toGo_update rfl rfl ?_
      rw [here, pausing]
      rfl
  | @obey worker leaves paused here pause =>
      have pausing : state.pausing = true := beq_iff_eq.mpr pause
      refine toGo_update rfl rfl ?_
      rw [here, pausing]
      rfl
  | @work worker paused here unpaused | @leave worker paused here unpaused =>
      have place := fits worker
      rw [here] at place
      exact absurd (beq_iff_eq.mp place) unpaused
  | @enter worker leaves here =>
      have place := fits worker
      rw [here] at place
      refine toGo_update rfl rfl ?_
      rw [here, place.1]
      rfl
  | @entered worker leaves round here opened =>
      have place := fits worker
      rw [here] at place
      have pausing : state.pausing = false := by
        rcases place with ⟨_, _, same⟩ | ⟨differ, _⟩
        · omega
        · exact Bool.eq_false_iff.mpr differ
      refine toGo_update rfl rfl ?_
      rw [here, pausing]
      rfl
  | @resume worker leaves here =>
      have place := fits worker
      rw [here] at place
      have pausing : state.pausing = false := Bool.eq_false_iff.mpr place
      refine toGo_update rfl rfl ?_
      rw [here, pausing]
      rfl
  | @resumed worker leaves round here opened =>
      have place := fits worker
      rw [here] at place
      have pausing : state.pausing = true := by
        rcases place with ⟨_, same⟩ | ⟨same, _⟩
        · omega
        · exact same
      refine toGo_update rfl rfl ?_
      rw [here, pausing]
      rfl
  | @part worker here unused =>
      have place := fits worker
      rw [here] at place
      exact absurd place.2.symm Bool.false_ne_true

/-- While the control thread is not through the barrier, somebody can go on. -/
theorem WorkerStatus.Ordered.goes (ordered : state.Ordered) (busy : state.busy = true) :
    ∃ event successor, event.isSet = false ∧ state.step event = some successor := by
  by_contra stuck
  have none : ∀ event : WorkerEvent Worker, event.isSet = false → state.step event = none := by
    intro event kind
    cases taken : state.step event with
    | none => rfl
    | some successor => exact absurd ⟨event, successor, kind, taken⟩ stuck
  have here : state.control = .waiting state.barrier.round := by
    have enabled := none .control rfl
    cases control : state.control with
    | idle => exact absurd (WorkerStatus.busy_of_control control ▸ busy) Bool.false_ne_true
    | arriving => simp [step, control] at enabled
    | waiting round =>
        have past := ordered.past round control
        rw [WorkerStatus.busy, control] at busy
        have waits : state.barrier.round ≤ round := of_decide_eq_true busy
        rw [Nat.le_antisymm past waits]
  have all : ∀ worker, (state.places worker).present = true →
      (state.places worker).waits state.barrier.round = true := by
    intro worker present
    have proceeds := none (.proceed worker) rfl
    have place := ordered.places worker
    rw [busy] at place
    cases there : state.places worker with
    | working => simpa [step, there] using none (.call worker false) rfl
    | looking | arriving | paused => simp [step, proceed, there] at proceeds
    | entering leaves round =>
        rw [there] at place
        have late : ¬ round < state.barrier.round := by
          simpa [step, proceed, there] using proceeds
        rcases place with ⟨_, _, same⟩ | ⟨_, past⟩
        · exact beq_iff_eq.mpr same
        · exact absurd past late
    | resuming leaves round =>
        rw [there] at place
        have late : ¬ round < state.barrier.round := by
          simpa [step, proceed, there] using proceeds
        rcases place with ⟨_, same⟩ | ⟨_, past⟩
        · exact beq_iff_eq.mpr same
        · exact absurd past late
    | leaving =>
        rw [there] at place
        exact absurd place.2.symm Bool.false_ne_true
    | gone =>
        rw [there] at present
        exact absurd present Bool.false_ne_true
  have come : census state.places Place.present ≤
      census state.places (Place.waits state.barrier.round) := census_mono all
  have count := ordered.count
  have present := ordered.present
  have waiting := ordered.waiting
  have shut := ordered.shut
  rw [here, Control.waits, beq_self_eq_true, Bool.toNat_true] at waiting
  omega

/-- A call of `PauseWorkers`, `ResumeWorkers` or `StopWorkers` is through the barrier
after at most three steps of each worker, and until then somebody can go on. -/
theorem pauses_come_about
    {before history : History (WorkerStatus Worker) (WorkerEvent Worker)}
    (reached : Run WorkerStatus.step (WorkerStatus.initialized (Fintype.card Worker)) before called)
    (run : Run WorkerStatus.step called history state)
    (during : ∀ entry ∈ history, entry.1.busy = true) :
    workerSteps history ≤ 3 * called.numWorkers ∧
      (state.busy = true →
        ∃ event successor, event.isSet = false ∧ state.step event = some successor) ∧
      (state.busy = false →
        state.control = .idle ∨ ∃ successor, state.step .control = some successor) := by
  have first := WorkerStatus.run_ordered reached
  have kept : state.Ordered ∧ workerSteps history + state.toGo ≤ called.toGo := by
    refine run.invariant_of_allowed (fun earlier _ => earlier.busy = true)
      (fun past now => now.Ordered ∧ workerSteps past + now.toGo ≤ called.toGo)
      ⟨first, ?_⟩ ?_ during
    · rw [workerSteps, List.countP_nil, Nat.zero_add]
    · rintro past earlier event successor ⟨ordered, spent⟩ busy taken
      refine ⟨ordered.move (.of_step taken), ?_⟩
      have nearer := ordered.nearer busy (.of_step taken)
      rw [workerSteps, List.countP_cons]
      change workerSteps past + (if event.ofWorker then 1 else 0) + _ ≤ _
      omega
  obtain ⟨ordered, spent⟩ := kept
  refine ⟨?_, ordered.goes, ?_⟩
  · have most := first.toGo_le
    omega
  · intro free
    cases control : state.control with
    | idle => exact .inl rfl
    | arriving =>
        rw [WorkerStatus.busy, control] at free
        exact absurd free.symm Bool.false_ne_true
    | waiting round =>
        rw [WorkerStatus.busy, control] at free
        have opened : round < state.barrier.round := by
          have late : ¬ state.barrier.round ≤ round := of_decide_eq_false free
          omega
        exact .inr ⟨_, by simp [WorkerStatus.step, control, opened]; rfl⟩

theorem one_worker_sees_the_pause : ∃ before history, ∃ called state : WorkerStatus Bool,
    Run WorkerStatus.step (WorkerStatus.initialized (Fintype.card Bool)) before called ∧
      Run WorkerStatus.step called history state ∧ workerSteps history = 2 ∧
      (workerSteps history ≤ 3 * called.numWorkers ∧
        (state.busy = true →
          ∃ event successor, event.isSet = false ∧ state.step event = some successor) ∧
        (state.busy = false →
          state.control = .idle ∨ ∃ successor, state.step .control = some successor)) := by
  obtain ⟨called, looking, arriving, set, call, proceed, busy, stillBusy⟩ :
      ∃ called looking arriving : WorkerStatus Bool,
        (WorkerStatus.initialized (Fintype.card Bool)).step (.set .pause) = some called ∧
          called.step (.call true false) = some looking ∧
          looking.step (.proceed true) = some arriving ∧ called.busy = true ∧
          looking.busy = true := ⟨_, _, _, rfl, rfl, rfl, rfl, rfl⟩
  have reached := Run.start.next set
  have run := (Run.start.next call).next proceed
  refine ⟨_, _, _, _, reached, run, rfl, pauses_come_about reached run ?_⟩
  intro entry member
  rcases List.mem_pair.mp member with rfl | rfl
  · exact stillBusy
  · exact busy

end Waiting

end AmebaTests.Stressapptest
