/-
The work loops go on.

A thread in an iteration can take its next step, whatever the others do with the
queue and however memory fails, unless it waits for a random lock that another
thread gives back soon.  The own steps that an iteration can still take are known
from where the thread stands, and each own step makes them fewer.
-/

import AmebaTests.Stressapptest.Searching
import AmebaTests.Stressapptest.Balance

namespace AmebaTests.Stressapptest

open Foundation

variable {Thread : Type}

/-- The steps of `PutValid` and `PutEmpty`. -/
def Phase.putting {Ref : Type} : Phase Ref → Bool
  | .storing _ _ | .clearing _ | .releasing _ => true
  | .outside _ | .drawing _ _ _ | .seeding _ _ _ | .drawn _ _ _ _ | .probing _ | .examining _ _
  | .matching _ _ | .locking _ _ | .rechecking _ _ | .unlocking _ _ => false

/-- A thread in a call that comes to an end. -/
def Phase.Goes {Ref : Type} (queue : Queue) (phase : Phase Ref) : Prop :=
  phase.putting = true ∨ ∃ wanted tag pages, phase.Looking queue wanted tag pages

/-- The own steps a call can still take. -/
def Phase.left {Ref : Type} (queue : Queue) : Phase Ref → Nat
  | .storing _ _ => 3
  | .clearing _ => 2
  | .releasing _ => 1
  | phase => phase.stepsLeft queue

/-- The own steps a call of an iteration can take, with the return from it. -/
def Instruction.cost (queue : Queue) : Instruction → Nat
  | .getValid | .getEmpty => 6 * queue.qSize + 10
  | .putValid _ | .putEmpty _ => 5
  | .check | .copy | .warmCopy | .invertUp | .invertDown => 1

def cost (queue : Queue) (rest : List Instruction) : Nat := (rest.map (·.cost queue)).sum

/-- The own steps an iteration can still take. -/
def Job.left {Ref : Type} (queue : Queue) (phase : Phase Ref) : Job → Nat
  | .idle | .stopped => 0
  | .running rest => cost queue rest + 1
  | .calling rest => phase.left queue + cost queue rest + 2

/-! ### Steps of a call -/

section Calls

variable {queue : Queue}

theorem Phase.Goes.outside {Ref : Type} (result : Bool) : (Phase.outside result : Phase Ref).Goes
    queue :=
  .inr ⟨.valid, 0, [], fun _ => rfl⟩

theorem Phase.Looking.left_eq {Ref : Type} {phase : Phase Ref} {wanted : Wanted}
    {tag : BitVec 32} {pages : List Nat} (looking : phase.Looking queue wanted tag pages) :
    phase.left queue = phase.stepsLeft queue := by
  cases phase with
  | storing | clearing | releasing => exact absurd looking id
  | outside | drawing | seeding | drawn | probing | examining | matching | locking | rechecking
  | unlocking => rfl

variable {Ref : Type} [DecidableEq Thread] {system successor : System Ref Thread}
  {thread : Thread}

/-- A step of a call leaves it fewer steps, in a call that comes to an end. -/
theorem Move.goes (made : makeGenerator queue.qSize = some queue.generator)
    (bound : queue.qSize + 8 ≤ 2 ^ 32) (moved : Move queue system thread .proceed successor)
    (goes : (system.workers thread).phase.Goes queue) :
    (successor.workers thread).phase.Goes queue ∧
      (successor.workers thread).phase.left queue < (system.workers thread).phase.left queue := by
  rcases goes with putting | ⟨wanted, tag, pages, looking⟩
  · cases moved with
    | @store kind entry here =>
        rw [here, System.setPhase_self]
        cases kind with
        | valid => exact ⟨.inl rfl, by simp [Phase.left]⟩
        | empty => exact ⟨.inl rfl, by simp [Phase.left]⟩
    | clear here =>
        rw [here, System.setPhase_self]
        exact ⟨.inl rfl, by simp [Phase.left]⟩
    | release here =>
        rw [here, System.setPhase_self]
        exact ⟨.outside true, by simp [Phase.left, Phase.stepsLeft]⟩
    | randBusy here | randLock here | seed here | randUnlock here | exhausted here | probe here
    | examined here | unwanted here | matched here | untagged here | busy here | lock here
    | taken here | changed here | unlock here =>
        rw [here] at putting
        exact absurd putting Bool.false_ne_true
  · obtain ⟨rest, after, fewer, _⟩ := moved.looking made bound looking
    rw [after.left_eq, looking.left_eq]
    exact ⟨.inr ⟨wanted, tag, rest, after⟩, fewer⟩

end Calls

/-! ### Steps of an iteration -/

section Steps

variable [DecidableEq Thread] {sat : Sat Thread} {state after : sat.State} {thread : Thread}
  {rest : List Instruction}

/-- What one event of the system does to the threads it is not about. -/
def Sat.Spares (state after : sat.State) (thread : Thread) : Prop :=
  ∀ other, other ≠ thread →
    after.system.workers other = state.system.workers other ∧ after.jobs other = state.jobs other

end Steps

/-! ### Runs -/

section Runs

variable [DecidableEq Thread] {sat : Sat Thread} {start state after : sat.State}
  {history : History sat.State (Sat.Event Thread)}

def Sat.Event.starts (thread : Thread) : Sat.Event Thread → Bool
  | .start other _ => other = thread
  | .proceed _ | .stop _ | .fault _ _ _ => false

def Sat.Event.proceeds (thread : Thread) : Sat.Event Thread → Bool
  | .proceed other => other = thread
  | .start _ _ | .stop _ | .fault _ _ _ => false

/-- The iterations a thread has begun. -/
def iterationsBegun {State : Type} (thread : Thread)
    (history : History State (Sat.Event Thread)) : Nat :=
  history.countP fun entry => entry.2.starts thread

/-- The own steps of a thread. -/
def stepsTaken {State : Type} (thread : Thread)
    (history : History State (Sat.Event Thread)) : Nat :=
  history.countP fun entry => entry.2.proceeds thread

/-- Every call comes to an end, each random lock has one owner, and the iterations begun
pay for the steps taken and left. -/
structure Sat.Progressing (history : History sat.State (Sat.Event Thread)) (state : sat.State) :
    Prop where
  goes : ∀ thread, (state.system.workers thread).phase.Goes sat.queue
  exclusive : Exclusive state.system.randHoldings
  paid : ∀ thread, stepsTaken thread history +
    (state.jobs thread).left sat.queue (state.system.workers thread).phase ≤
      (12 * sat.queue.qSize + 32) * iterationsBegun thread history

/-- An event that changes the phase and the job of one thread at most. -/
theorem Sat.Progressing.next (progressing : sat.Progressing history state)
    {event : Sat.Event Thread} (thread : Thread) (spares : sat.Spares state after thread)
    (others : ∀ other, other ≠ thread → event.starts other = false ∧ event.proceeds other = false)
    (goes : (after.system.workers thread).phase.Goes sat.queue)
    (exclusive : Exclusive after.system.randHoldings)
    (paid : (if event.proceeds thread then 1 else 0) +
        (after.jobs thread).left sat.queue (after.system.workers thread).phase ≤
      (state.jobs thread).left sat.queue (state.system.workers thread).phase +
        (12 * sat.queue.qSize + 32) * if event.starts thread then 1 else 0) :
    sat.Progressing ((state, event) :: history) after := by
  refine ⟨?_, exclusive, ?_⟩
  · intro other
    by_cases same : other = thread
    · rwa [same]
    · rw [(spares other same).1]
      exact progressing.goes other
  · intro other
    have before := progressing.paid other
    rw [stepsTaken, iterationsBegun, List.countP_cons, List.countP_cons, Nat.mul_add]
    change stepsTaken other history + (if event.proceeds other then 1 else 0) + _ ≤
      _ * iterationsBegun other history + _ * if event.starts other then 1 else 0
    by_cases same : other = thread
    · subst same
      omega
    · obtain ⟨started, proceeded⟩ := others other same
      obtain ⟨worker, job⟩ := spares other same
      rw [worker, job, started, proceeded]
      exact before

theorem Sat.Prepared.progressing (prepared : sat.Prepared start) : sat.Progressing [] start := by
  refine ⟨?_, .of_nothing prepared.randLocked ?_, ?_⟩
  · intro thread
    rw [prepared.workers]
    exact .outside true
  · intro thread
    change (start.system.workers thread).phase.randOwned = []
    rw [prepared.workers]
    rfl
  · intro thread
    rw [prepared.jobs]
    exact Nat.zero_le _

variable [Fintype Thread]

omit [Fintype Thread] [DecidableEq Thread] in
theorem Sat.Agrees.calling {contents : Nat → Content sat.Ref} (agrees : sat.Agrees contents state)
    {thread : Thread} (busy : ¬ ∃ result, (state.system.workers thread).phase = .outside result) :
    ∃ rest, state.jobs thread = .calling rest := by
  have job := (agrees.workers thread).job
  cases here : state.jobs thread with
  | idle | running =>
      rw [here] at job
      exact absurd job.2 busy
  | stopped =>
      rw [here] at job
      exact absurd job busy
  | calling rest => exact ⟨rest, rfl⟩

end Runs

end AmebaTests.Stressapptest
