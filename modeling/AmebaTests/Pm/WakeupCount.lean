/-
The wakeup_count handshake of `pm_wakeup_count.c`.

The kernel is a counter that wakeup events increment at any step, a read of
/sys/power/wakeup_count that may fail, return no bytes or return the counter as
a line of text, and a write that is accepted exactly when the number at the
front of the written text equals the counter.  The program never terminates the
text in `buf`, so it writes back the line and whatever bytes follow it.
-/

import AmebaTests.Foundation.Bytes
import AmebaTests.Foundation.Decimal
import AmebaTests.Foundation.Runs

namespace AmebaTests.Pm.WakeupCount

open Foundation

inductive Point
  | openWakeupCount
  | openState
  | read
  | write
  | suspend
  | exited (code : Int)
  deriving DecidableEq, Repr

/-- An operation on wakeup_count: the count a read returned, if it did, or the
text of a write and whether the kernel accepted it. -/
inductive Operation
  | read (count : Option (BitVec 32))
  | write (text : List UInt8) (accepted : Bool)
  deriving DecidableEq

/-- `buf` is the memory from the first byte of the array on.  `operations` is
newest first, and `powerState` lists what was written to /sys/power/state. -/
structure State where
  counter : BitVec 32
  buf : List UInt8
  nRead : Int
  ret : Int
  point : Point
  operations : List Operation
  powerState : List String

inductive ReadOutcome
  | failed
  | empty
  | count
  deriving DecidableEq, Repr

inductive Event
  | wakeup
  | opened (success : Bool)
  | read (outcome : ReadOutcome)
  | main
  deriving DecidableEq, Repr

/-- `ret`, `n_read` and `buf` are uninitialised locals. -/
def start (counter : BitVec 32) (buf : List UInt8) (nRead ret : Int) : State where
  counter := counter
  buf := buf
  nRead := nRead
  ret := ret
  point := .openWakeupCount
  operations := []
  powerState := []

def countLine (counter : BitVec 32) : List UInt8 :=
  decimal counter.toNat ++ [10]

/-- The test at the end of the do-while loop, which `continue` jumps to. -/
def loopTest (s : State) : State :=
  if s.ret < 0 then { s with point := .read } else { s with point := .suspend }

def readWakeupCount (s : State) : ReadOutcome → State
  | .failed => { s with nRead := -1, operations := .read none :: s.operations }
  | .empty => { s with nRead := 0, operations := .read none :: s.operations }
  | .count =>
      { s with
        buf := overlay ((countLine s.counter).take 64) s.buf
        nRead := ((countLine s.counter).take 64).length
        operations := .read (some s.counter) :: s.operations }

def readStep (s : State) (outcome : ReadOutcome) : State :=
  let returned := readWakeupCount s outcome
  if returned.nRead > 0 then { returned with point := .write } else loopTest returned

def writeStep (s : State) : State :=
  if leadingNumber (cString s.buf) = some s.counter.toNat then
    loopTest
      { s with
        ret := strlen s.buf
        operations := .write (cString s.buf) true :: s.operations }
  else
    loopTest
      { s with
        ret := -1
        operations := .write (cString s.buf) false :: s.operations }

def step (s : State) : Event → Option State
  | .wakeup => some { s with counter := s.counter + 1 }
  | .opened success =>
      match s.point with
      | .openWakeupCount =>
          some { s with point := if success then .openState else .exited (-1) }
      | .openState => some { s with point := if success then .read else .exited (-1) }
      | _ => none
  | .read outcome => if s.point = .read then some (readStep s outcome) else none
  | .main =>
      match s.point with
      | .write => some (writeStep s)
      | .suspend => some { s with powerState := "mem" :: s.powerState, point := .exited 0 }
      | _ => none

/-! ### The text that is written back -/

theorem length_countLine_le (counter : BitVec 32) : (countLine counter).length ≤ 64 := by
  have digits : (decimal counter.toNat).length ≤ 10 := by
    rw [length_decimal_le_iff (by decide)]
    exact lt_trans counter.isLt (by decide)
  rw [countLine, List.length_append, List.length_singleton]
  omega

theorem zero_not_mem_countLine (counter : BitVec 32) : 0 ∉ countLine counter := by
  intro member
  rcases List.mem_append.mp member with digit | newline
  · exact not_mem_decimal rfl _ digit
  · simp at newline

theorem readBack_positive (counter : BitVec 32) :
    (((countLine counter).take 64).length : Int) > 0 := by
  rw [List.take_of_length_le (length_countLine_le counter), countLine, List.length_append,
    List.length_singleton]
  omega

theorem leadingNumber_readBack (counter : BitVec 32) (buf : List UInt8) :
    leadingNumber (cString (overlay ((countLine counter).take 64) buf)) =
      some counter.toNat := by
  rw [List.take_of_length_le (length_countLine_le counter),
    cString_overlay (zero_not_mem_countLine counter)]
  rw [countLine, List.append_assoc, List.singleton_append]
  exact leadingNumber_decimal_append counter.toNat (by decide) _

/-! ### What holds when the program suspends -/

def lastRead : List Operation → Option (BitVec 32)
  | [] => none
  | .read count :: _ => count
  | .write _ _ :: earlier => lastRead earlier

def AcceptedCount (operations : List Operation) : Prop :=
  ∃ text count earlier, operations = .write text true :: earlier ∧
    lastRead earlier = some count ∧ leadingNumber text = some count.toNat

/-- `ret` was negative by chance, or the first read returned a count. -/
def FirstSettled (ret : Int) (operations : List Operation) : Prop :=
  ret < 0 ∨ ∃ count, operations.getLast? = some (.read (some count))

theorem FirstSettled.cons {ret : Int} {operations : List Operation}
    (settled : FirstSettled ret operations) (operation : Operation) :
    FirstSettled ret (operation :: operations) := by
  rcases settled with negative | ⟨count, first⟩
  · exact Or.inl negative
  · refine Or.inr ⟨count, ?_⟩
    rw [List.getLast?_cons, first]
    rfl

def LoopHead (ret : Int) (s : State) : Prop :=
  (s.operations = [] ∧ s.ret = ret) ∨ (s.ret < 0 ∧ FirstSettled ret s.operations)

def Handshake (ret : Int) (s : State) : Prop :=
  match s.point with
  | .openWakeupCount => s.operations = [] ∧ s.ret = ret ∧ s.powerState = []
  | .openState => s.operations = [] ∧ s.ret = ret ∧ s.powerState = []
  | .read => LoopHead ret s ∧ s.powerState = []
  | .write =>
      FirstSettled ret s.operations ∧ s.powerState = [] ∧
        ∃ count, lastRead s.operations = some count ∧
          leadingNumber (cString s.buf) = some count.toNat
  | .suspend =>
      (AcceptedCount s.operations ↔ FirstSettled ret s.operations) ∧ s.powerState = []
  | .exited code =>
      if code = 0 then AcceptedCount s.operations ↔ FirstSettled ret s.operations
      else s.powerState = []

theorem loopTest_handshake_of_no_count {ret nRead : Int} {s : State}
    (holds : LoopHead ret s ∧ s.powerState = []) :
    Handshake ret
      (loopTest { s with nRead := nRead, operations := .read none :: s.operations }) := by
  obtain ⟨head, asleep⟩ := holds
  by_cases negative : s.ret < 0
  · rw [loopTest, if_pos negative]
    refine ⟨Or.inr ⟨negative, ?_⟩, asleep⟩
    rcases head with ⟨_first, same⟩ | ⟨_negative, settled⟩
    · exact Or.inl (by rw [← same]; exact negative)
    · exact settled.cons _
  · rw [loopTest, if_neg negative]
    rcases head with ⟨first, same⟩ | ⟨sentBack, _settled⟩
    · refine ⟨?_, asleep⟩
      constructor
      · intro accepted
        obtain ⟨text, count, earlier, impossible, _last⟩ := accepted
        cases impossible
      · intro settled
        rcases settled with uninitialised | ⟨count, oldest⟩
        · rw [same] at negative
          exact absurd uninitialised negative
        · change (Operation.read none :: s.operations).getLast? = _ at oldest
          rw [first] at oldest
          cases oldest
    · exact absurd sentBack negative

theorem readStep_handshake {ret : Int} {s : State} (outcome : ReadOutcome)
    (holds : LoopHead ret s ∧ s.powerState = []) : Handshake ret (readStep s outcome) := by
  cases outcome with
  | failed =>
      have noBytes : ¬ ((-1 : Int) > 0) := by decide
      rw [readStep, readWakeupCount, if_neg noBytes]
      exact loopTest_handshake_of_no_count holds
  | empty =>
      have noBytes : ¬ ((0 : Int) > 0) := by decide
      rw [readStep, readWakeupCount, if_neg noBytes]
      exact loopTest_handshake_of_no_count holds
  | count =>
      obtain ⟨head, asleep⟩ := holds
      have someBytes := readBack_positive s.counter
      rw [readStep, readWakeupCount, if_pos someBytes]
      refine ⟨?_, asleep, s.counter, rfl, leadingNumber_readBack s.counter s.buf⟩
      rcases head with ⟨first, _same⟩ | ⟨_negative, settled⟩
      · refine Or.inr ⟨s.counter, ?_⟩
        change (Operation.read (some s.counter) :: s.operations).getLast? = _
        rw [first]
        rfl
      · exact settled.cons _

theorem writeStep_handshake {ret : Int} {s : State}
    (settled : FirstSettled ret s.operations) (asleep : s.powerState = [])
    (read : ∃ count, lastRead s.operations = some count ∧
      leadingNumber (cString s.buf) = some count.toNat) : Handshake ret (writeStep s) := by
  unfold writeStep
  split
  · have accepted : ¬ ((strlen s.buf : Int) < 0) := by omega
    rw [loopTest, if_neg accepted]
    obtain ⟨count, last, number⟩ := read
    refine ⟨?_, asleep⟩
    constructor
    · intro _accepted
      exact settled.cons _
    · intro _settled
      exact ⟨_, count, _, rfl, last, number⟩
  · have rejected : (-1 : Int) < 0 := by decide
    rw [loopTest, if_pos rejected]
    exact ⟨Or.inr ⟨rejected, settled.cons _⟩, asleep⟩

theorem step_handshake {ret : Int} {s successor : State} {event : Event}
    (holds : Handshake ret s) (taken : step s event = some successor) :
    Handshake ret successor := by
  cases event with
  | wakeup =>
      cases taken
      exact holds
  | opened success =>
      rw [Handshake] at holds
      simp only [step] at taken
      split at taken
      · rename_i point
        rw [point] at holds
        cases taken
        cases success
        · exact holds.2.2
        · exact holds
      · rename_i point
        rw [point] at holds
        cases taken
        cases success
        · exact holds.2.2
        · exact ⟨Or.inl ⟨holds.1, holds.2.1⟩, holds.2.2⟩
      · cases taken
  | read outcome =>
      rw [Handshake] at holds
      simp only [step] at taken
      split at taken
      · rename_i point
        rw [point] at holds
        cases taken
        exact readStep_handshake outcome holds
      · cases taken
  | main =>
      rw [Handshake] at holds
      simp only [step] at taken
      split at taken
      · rename_i point
        rw [point] at holds
        cases taken
        exact writeStep_handshake holds.1 holds.2.1 holds.2.2
      · rename_i point
        rw [point] at holds
        cases taken
        exact holds.1
      · cases taken

theorem run_handshake {counter : BitVec 32} {buf : List UInt8} {nRead ret : Int}
    {history : History State Event} {s : State}
    (run : Run step (start counter buf nRead ret) history s) : Handshake ret s := by
  apply Run.invariant (fun _ s => Handshake ret s) ?_ ?_ run
  · exact ⟨rfl, rfl, rfl⟩
  · intro history s event successor _run holds taken
    exact step_handshake holds taken

/-- Of every run that has written "mem": its last operation on wakeup_count was
an accepted write of the count last read exactly when the uninitialised `ret`
was negative or the first read returned a count. -/
theorem suspended_accepted_iff {counter : BitVec 32} {buf : List UInt8} {nRead ret : Int}
    {history : History State Event} {s : State}
    (run : Run step (start counter buf nRead ret) history s) (slept : "mem" ∈ s.powerState) :
    AcceptedCount s.operations ↔
      ret < 0 ∨ ∃ count, s.operations.getLast? = some (.read (some count)) := by
  have awake : s.powerState ≠ [] := List.ne_nil_of_mem slept
  have holds := run_handshake run
  rw [Handshake] at holds
  split at holds
  · exact absurd holds.2.2 awake
  · exact absurd holds.2.2 awake
  · exact absurd holds.2 awake
  · exact absurd holds.2.1 awake
  · exact absurd holds.2 awake
  · split at holds
    · exact holds
    · exact absurd holds awake

theorem suspended_accepted_first_read :
    ∃ history s, Run step (start 0 (List.replicate 64 0) 0 0) history s ∧
      "mem" ∈ s.powerState ∧
      (AcceptedCount s.operations ↔
        (0 : Int) < 0 ∨ ∃ count, s.operations.getLast? = some (.read (some count))) := by
  have reached : ∃ s, execute step (start 0 (List.replicate 64 0) 0 0)
      [.opened true, .opened true, .wakeup, .read .count, .main, .main] = some s ∧
      "mem" ∈ s.powerState := ⟨_, rfl, by decide⟩
  obtain ⟨s, reached, slept⟩ := reached
  obtain ⟨history, run, _events⟩ := Run.of_execute reached
  exact ⟨history, s, run, slept, suspended_accepted_iff run slept⟩

/-- `ret` is 0 by chance and the first read fails: nothing was ever written back. -/
theorem suspended_without_write :
    ∃ history s, Run step (start 0 (List.replicate 64 0) 0 0) history s ∧
      "mem" ∈ s.powerState ∧ s.operations = [.read none] ∧ ¬ AcceptedCount s.operations := by
  have reached : execute step (start 0 (List.replicate 64 0) 0 0)
      [.opened true, .opened true, .read .failed, .main] =
      some { start 0 (List.replicate 64 0) (-1) 0 with
        point := .exited 0, operations := [.read none], powerState := ["mem"] } := rfl
  obtain ⟨history, run, _events⟩ := Run.of_execute reached
  refine ⟨history, _, run, List.mem_singleton_self _, rfl, ?_⟩
  intro accepted
  obtain ⟨text, count, earlier, impossible, _last⟩ := accepted
  cases impossible

end AmebaTests.Pm.WakeupCount
