/-
The wakeup_count handshake with the file offset of its one descriptor.

A read starts at the offset, returns what the text of the current count holds
from there on, and advances the offset; the loop never moves it back.  Whether
the kernel takes a text that is written back is a parameter, since nothing here
depends on it.
-/

import AmebaTests.Pm.WakeupCount

namespace AmebaTests.Pm.WakeupOffset

open Foundation
open WakeupCount (Point countLine length_countLine_le)

/-- An operation on wakeup_count: the count at a read and the bytes it returned,
or the text of a write and whether the kernel took it. -/
inductive Transfer
  | read (count : BitVec 32) (bytes : List UInt8)
  | write (text : List UInt8) (accepted : Bool)
  deriving DecidableEq

/-- `transfers` is newest first. -/
structure State where
  counter : BitVec 32
  offset : Nat
  buf : List UInt8
  nRead : Int
  ret : Int
  point : Point
  transfers : List Transfer
  powerState : List String

inductive Event
  | wakeup
  | opened (success : Bool)
  | read (failed : Bool)
  | main
  deriving DecidableEq, Repr

def start (counter : BitVec 32) (buf : List UInt8) (nRead ret : Int) : State where
  counter := counter
  offset := 0
  buf := buf
  nRead := nRead
  ret := ret
  point := .openWakeupCount
  transfers := []
  powerState := []

/-- The bytes a read returns: none at or beyond the end of the text. -/
def readBytes (s : State) : List UInt8 :=
  ((countLine s.counter).drop s.offset).take 64

def loopTest (s : State) : State :=
  if s.ret < 0 then { s with point := .read } else { s with point := .suspend }

def readStep (s : State) (failed : Bool) : State :=
  if failed then
    loopTest { s with nRead := -1, transfers := .read s.counter [] :: s.transfers }
  else
    let bytes := readBytes s
    let returned :=
      { s with
        offset := s.offset + bytes.length
        buf := overlay bytes s.buf
        nRead := bytes.length
        transfers := .read s.counter bytes :: s.transfers }
    if returned.nRead > 0 then { returned with point := .write } else loopTest returned

section Kernel

variable (accepts : List UInt8 → BitVec 32 → Bool)

/-- A write that is taken advances the offset as well. -/
def writeStep (s : State) : State :=
  let text := cString s.buf
  if accepts text s.counter then
    loopTest
      { s with
        offset := s.offset + strlen s.buf
        ret := strlen s.buf
        transfers := .write text true :: s.transfers }
  else loopTest { s with ret := -1, transfers := .write text false :: s.transfers }

def step (s : State) : Event → Option State
  | .wakeup => some { s with counter := s.counter + 1 }
  | .opened success =>
      match s.point with
      | .openWakeupCount =>
          some { s with point := if success then .openState else .exited (-1) }
      | .openState => some { s with point := if success then .read else .exited (-1) }
      | _ => none
  | .read failed => if s.point = .read then some (readStep s failed) else none
  | .main =>
      match s.point with
      | .write => some (writeStep accepts s)
      | .suspend => some { s with powerState := "mem" :: s.powerState, point := .exited 0 }
      | _ => none

end Kernel

@[simp] theorem loopTest_offset (s : State) : (loopTest s).offset = s.offset := by
  unfold loopTest
  split <;> rfl

@[simp] theorem loopTest_transfers (s : State) : (loopTest s).transfers = s.transfers := by
  unfold loopTest
  split <;> rfl

theorem loopTest_point_ne_write (s : State) : (loopTest s).point ≠ .write := by
  unfold loopTest
  split
  · exact Point.noConfusion
  · exact Point.noConfusion

/-! ### A rejected write-back -/

/-- Some write-back so far has been rejected. -/
def Rejected (s : State) : Prop :=
  ∃ text, .write text false ∈ s.transfers

/-- A text is written back only behind a read that has moved the offset. -/
def Moved (s : State) : Prop :=
  (Rejected s → 0 < s.offset) ∧ (s.point = .write → 0 < s.offset)

theorem readStep_moved {s : State} (moved : Moved s) (failed : Bool) :
    Moved (readStep s failed) := by
  have older : ∀ bytes, (∃ text, Transfer.write text false ∈
      Transfer.read s.counter bytes :: s.transfers) → Rejected s := by
    intro bytes rejected
    obtain ⟨text, member⟩ := rejected
    rcases List.mem_cons.mp member with impossible | earlier
    · cases impossible
    · exact ⟨text, earlier⟩
  unfold readStep
  split
  · constructor
    · intro rejected
      unfold Rejected at rejected
      rw [loopTest_transfers] at rejected
      rw [loopTest_offset]
      exact moved.1 (older _ rejected)
    · intro write
      exact absurd write (loopTest_point_ne_write _)
  · dsimp only
    split
    · rename_i positive
      have forward : 0 < s.offset + (readBytes s).length := by omega
      exact ⟨fun _rejected => forward, fun _write => forward⟩
    · constructor
      · intro rejected
        unfold Rejected at rejected
        rw [loopTest_transfers] at rejected
        rw [loopTest_offset]
        have before := moved.1 (older _ rejected)
        exact Nat.lt_of_lt_of_le before (Nat.le_add_right _ _)
      · intro write
        exact absurd write (loopTest_point_ne_write _)

section Rejection

variable {accepts : List UInt8 → BitVec 32 → Bool}

theorem writeStep_moved {s : State} (moved : Moved s) (write : s.point = .write) :
    Moved (writeStep accepts s) := by
  have before := moved.2 write
  unfold writeStep
  dsimp only
  split
  · constructor
    · intro _rejected
      rw [loopTest_offset]
      exact Nat.lt_of_lt_of_le before (Nat.le_add_right _ _)
    · intro again
      exact absurd again (loopTest_point_ne_write _)
  · constructor
    · intro _rejected
      rw [loopTest_offset]
      exact before
    · intro again
      exact absurd again (loopTest_point_ne_write _)

theorem step_moved {s successor : State} {event : Event} (moved : Moved s)
    (taken : step accepts s event = some successor) : Moved successor := by
  cases event with
  | wakeup =>
      cases taken
      exact moved
  | opened success =>
      simp only [step] at taken
      split at taken
      · cases taken
        refine ⟨moved.1, fun write => ?_⟩
        cases success <;> cases write
      · cases taken
        refine ⟨moved.1, fun write => ?_⟩
        cases success <;> cases write
      · cases taken
  | read failed =>
      simp only [step] at taken
      split at taken
      · cases taken
        exact readStep_moved moved failed
      · cases taken
  | main =>
      simp only [step] at taken
      split at taken
      · rename_i write
        cases taken
        exact writeStep_moved moved write
      · cases taken
        exact ⟨moved.1, fun write => by cases write⟩
      · cases taken

theorem run_moved {counter : BitVec 32} {buf : List UInt8} {nRead ret : Int}
    {history : History State Event} {s : State}
    (run : Run (step accepts) (start counter buf nRead ret) history s) : Moved s := by
  apply Run.invariant (fun _ s => Moved s) ?_ ?_ run
  · constructor
    · intro rejected
      obtain ⟨text, member⟩ := rejected
      cases member
    · intro write
      cases write
  · intro history s event successor _run holds taken
    exact step_moved holds taken

theorem readBytes_ne_of_moved {s : State} (moved : 0 < s.offset) :
    readBytes s ≠ countLine s.counter := by
  intro same
  have lengths := congrArg List.length same
  rw [readBytes, List.length_take, List.length_drop] at lengths
  have nonempty : 0 < (countLine s.counter).length := by
    rw [countLine, List.length_append, List.length_singleton]
    exact Nat.succ_pos _
  omega

/-- The iteration that starts here reads the count of this moment, writes it
back, and ends the loop if no wakeup event comes before the write. -/
def Retries (accepts : List UInt8 → BitVec 32 → Bool) (s : State) (failed : Bool) : Prop :=
  (readStep s failed).transfers.head? = some (.read s.counter (countLine s.counter)) ∧
    (readStep s failed).point = .write ∧
    leadingNumber (cString (readStep s failed).buf) = some s.counter.toNat ∧
    (writeStep accepts (readStep s failed)).point = .suspend

theorem readStep_head (s : State) (failed : Bool) :
    (readStep s failed).transfers.head? =
      some (.read s.counter (if failed then [] else readBytes s)) := by
  unfold readStep
  cases failed with
  | true =>
      rw [if_pos rfl, loopTest_transfers]
      rfl
  | false =>
      rw [if_neg Bool.false_ne_true]
      dsimp only
      split
      · rfl
      · rw [loopTest_transfers]
        rfl

theorem not_retries_of_moved {s : State} (moved : 0 < s.offset) (failed : Bool) :
    ¬ Retries accepts s failed := by
  intro retries
  have head := retries.1
  rw [readStep_head, Option.some.injEq, Transfer.read.injEq] at head
  cases failed with
  | true =>
      have length := congrArg List.length head.2
      rw [countLine, List.length_append, List.length_singleton] at length
      cases length
  | false => exact readBytes_ne_of_moved moved head.2

/-- Of every run: each iteration behind a rejected write-back reads the current
count and writes it back exactly when the run has no such iteration. -/
theorem retries_iff {counter : BitVec 32} {buf : List UInt8} {nRead ret : Int}
    {history : History State Event} {s : State}
    (run : Run (step accepts) (start counter buf nRead ret) history s) :
    (∀ entry ∈ history, ∀ failed, entry.2 = .read failed → Rejected entry.1 →
        Retries accepts entry.1 failed) ↔
      ∀ entry ∈ history, ∀ failed, entry.2 = .read failed → ¬ Rejected entry.1 := by
  constructor
  · intro retries entry member failed isRead rejected
    obtain ⟨earlier, reached⟩ := run.of_entry member
    have moved := (run_moved reached).1 rejected
    exact not_retries_of_moved moved failed (retries entry member failed isRead rejected)
  · intro none entry member failed isRead rejected
    exact absurd rejected (none entry member failed isRead)

/-- At the end of the text the loop reads nothing, writes nothing and goes on. -/
theorem stuck {s : State} (head : s.point = .read) (again : s.ret < 0)
    (ended : (countLine s.counter).length ≤ s.offset) (reads : List Bool) :
    ∃ later, execute (step accepts) s (reads.map Event.read) = some later ∧
      later.point = .read ∧ later.powerState = s.powerState := by
  induction reads generalizing s with
  | nil => exact ⟨s, rfl, head, rfl⟩
  | cons failed rest ih =>
      have nothing : readBytes s = [] := by
        rw [readBytes, List.drop_eq_nil_of_le ended]
        rfl
      have taken : step accepts s (.read failed) = some (readStep s failed) := if_pos head
      have kept : (readStep s failed).point = .read ∧ (readStep s failed).ret = s.ret ∧
          (readStep s failed).counter = s.counter ∧ (readStep s failed).offset = s.offset ∧
          (readStep s failed).powerState = s.powerState := by
        unfold readStep loopTest
        cases failed with
        | true =>
            rw [if_pos rfl, if_pos again]
            exact ⟨rfl, rfl, rfl, rfl, rfl⟩
        | false =>
            rw [if_neg Bool.false_ne_true, nothing]
            dsimp only
            rw [if_neg (by decide), if_pos again]
            exact ⟨rfl, rfl, rfl, rfl, rfl⟩
      obtain ⟨point, sameRet, sameCounter, sameOffset, asleep⟩ := kept
      obtain ⟨later, reached, still, laterState⟩ := ih point (by rw [sameRet]; exact again)
        (by rw [sameCounter, sameOffset]; exact ended)
      refine ⟨later, ?_, still, laterState.trans asleep⟩
      rw [List.map_cons, execute_cons _ taken]
      exact reached

end Rejection

/-- The kernel takes a text whose number is the current count. -/
def acceptsCount (text : List UInt8) (counter : BitVec 32) : Bool :=
  leadingNumber text = some counter.toNat

theorem retries_first_attempt :
    ∃ history s, Run (step acceptsCount) (start 5 (List.replicate 64 0) 0 0) history s ∧
      s.point = .suspend ∧
      ((∀ entry ∈ history, ∀ failed, entry.2 = .read failed → Rejected entry.1 →
          Retries acceptsCount entry.1 failed) ↔
        ∀ entry ∈ history, ∀ failed, entry.2 = .read failed → ¬ Rejected entry.1) := by
  have reached : ∃ s, execute (step acceptsCount) (start 5 (List.replicate 64 0) 0 0)
      [.opened true, .opened true, .wakeup, .read false, .main] = some s ∧
      s.point = .suspend := ⟨_, rfl, by decide⟩
  obtain ⟨s, reached, point⟩ := reached
  obtain ⟨history, run, _events⟩ := Run.of_execute reached
  exact ⟨history, s, run, point, retries_iff run⟩

/-- One wakeup event between the first read and its write-back: the write is
rejected, the next iteration reads nothing, and no number of further iterations
leaves the loop although no other event comes. -/
theorem rejected_once_never_retried :
    ∃ history s, Run (step acceptsCount) (start 5 (List.replicate 64 0) 0 0) history s ∧
      history.map Prod.snd = [.main, .wakeup, .read false, .opened true, .opened true] ∧
      Rejected s ∧ s.point = .read ∧ s.counter = 6 ∧
      (readStep s false).transfers.head? = some (.read 6 []) ∧
      ¬ Retries acceptsCount s false ∧
      ∀ reads : List Bool, ∃ later,
        execute (step acceptsCount) s (reads.map Event.read) = some later ∧
          later.point = .read := by
  have reached : ∃ s, execute (step acceptsCount) (start 5 (List.replicate 64 0) 0 0)
      [.opened true, .opened true, .read false, .wakeup, .main] = some s ∧
      s.transfers = [.write [53, 10] false, .read 5 [53, 10]] ∧ s.point = .read ∧
      s.counter = 6 ∧ s.ret = -1 ∧ s.offset = 2 := ⟨_, rfl, rfl, rfl, rfl, rfl, rfl⟩
  obtain ⟨s, reached, transfers, point, counter, ret, offset⟩ := reached
  obtain ⟨history, run, events⟩ := Run.of_execute reached
  have rejected : Rejected s := ⟨[53, 10], by rw [transfers]; exact List.mem_cons_self⟩
  have ended : (countLine s.counter).length ≤ s.offset := by
    rw [counter, offset]
    decide
  have nothing : readBytes s = [] := by
    rw [readBytes, List.drop_eq_nil_of_le ended]
    rfl
  have again : s.ret < 0 := by
    rw [ret]
    decide
  refine ⟨history, s, run, events, rejected, point, counter, ?_, ?_, ?_⟩
  · rw [readStep_head, nothing, counter]
    rfl
  · exact not_retries_of_moved ((run_moved run).1 rejected) false
  · intro reads
    obtain ⟨later, executed, still, _asleep⟩ := stuck point again ended reads
    exact ⟨later, executed, still⟩

/-! ### The handshake without an offset -/

def Transfer.operation : Transfer → WakeupCount.Operation
  | .read count bytes => .read (if bytes = [] then none else some count)
  | .write text accepted => .write text accepted

def State.handshake (s : State) : WakeupCount.State where
  counter := s.counter
  buf := s.buf
  nRead := s.nRead
  ret := s.ret
  point := s.point
  operations := s.transfers.map Transfer.operation
  powerState := s.powerState

/-- A read from here returns the whole text, or nothing of it. -/
def Aligned (s : State) : Prop :=
  s.offset = 0 ∨ (countLine s.counter).length ≤ s.offset

def State.readOutcome (s : State) (failed : Bool) : WakeupCount.ReadOutcome :=
  if failed then .failed else if s.offset = 0 then .count else .empty

def State.event (s : State) : Event → WakeupCount.Event
  | .wakeup => .wakeup
  | .opened success => .opened success
  | .read failed => .read (s.readOutcome failed)
  | .main => .main

theorem loopTest_handshake (s : State) :
    (loopTest s).handshake = WakeupCount.loopTest s.handshake := by
  unfold loopTest WakeupCount.loopTest
  by_cases again : s.ret < 0
  · rw [if_pos again]
    exact (if_pos again).symm
  · rw [if_neg again]
    exact (if_neg again).symm

theorem readStep_handshake {s : State} (aligned : Aligned s) (failed : Bool) :
    (readStep s failed).handshake =
      WakeupCount.readStep s.handshake (s.readOutcome failed) := by
  unfold readStep State.readOutcome WakeupCount.readStep WakeupCount.readWakeupCount
  cases failed with
  | true =>
      rw [if_pos rfl, if_pos rfl, loopTest_handshake]
      rfl
  | false =>
      rw [if_neg Bool.false_ne_true, if_neg Bool.false_ne_true]
      by_cases zero : s.offset = 0
      · have whole : readBytes s = (countLine s.counter).take 64 := by
          rw [readBytes, zero, List.drop_zero]
        have positive := WakeupCount.readBack_positive s.counter
        have nonempty : (countLine s.counter).take 64 ≠ [] := by
          intro empty
          rw [empty] at positive
          exact absurd positive (by decide)
        rw [if_pos zero, whole]
        dsimp only
        rw [if_pos positive]
        refine Eq.trans ?_ (if_pos positive).symm
        unfold State.handshake
        rw [List.map_cons, Transfer.operation, if_neg nonempty]
      · have nothing : readBytes s = [] := by
          rcases aligned with front | behind
          · exact absurd front zero
          · rw [readBytes, List.drop_eq_nil_of_le behind]
            rfl
        have noBytes : ¬ ((0 : Int) > 0) := by decide
        rw [if_neg zero, nothing]
        refine Eq.trans ?_ (if_neg noBytes).symm
        exact loopTest_handshake _

theorem writeStep_handshake (s : State) :
    (writeStep acceptsCount s).handshake = WakeupCount.writeStep s.handshake := by
  unfold writeStep WakeupCount.writeStep
  by_cases accepted : leadingNumber (cString s.buf) = some s.counter.toNat
  · have taken : acceptsCount (cString s.buf) s.counter = true := decide_eq_true accepted
    dsimp only
    rw [if_pos taken, loopTest_handshake]
    exact (if_pos accepted).symm
  · have refused : ¬ acceptsCount (cString s.buf) s.counter = true := by
      unfold acceptsCount
      rw [decide_eq_true_eq]
      exact accepted
    dsimp only
    rw [if_neg refused, loopTest_handshake]
    exact (if_neg accepted).symm

theorem step_handshake {s successor : State} {event : Event}
    (taken : step acceptsCount s event = some successor)
    (aligned : ∀ failed, event = .read failed → Aligned s) :
    WakeupCount.step s.handshake (s.event event) = some successor.handshake := by
  cases event with
  | wakeup =>
      cases taken
      rfl
  | opened success =>
      simp only [step] at taken
      split at taken
      · rename_i point
        cases taken
        simp only [State.event, WakeupCount.step, State.handshake, point]
      · rename_i point
        cases taken
        simp only [State.event, WakeupCount.step, State.handshake, point]
      · cases taken
  | read failed =>
      simp only [step] at taken
      split at taken
      · rename_i point
        cases taken
        rw [readStep_handshake (aligned failed rfl)]
        exact if_pos point
      · cases taken
  | main =>
      simp only [step] at taken
      split at taken
      · rename_i point
        cases taken
        have same : s.handshake.point = .write := point
        simp only [State.event, WakeupCount.step]
        rw [same, writeStep_handshake]
      · rename_i point
        cases taken
        simp only [State.event, WakeupCount.step, State.handshake, point]
      · cases taken

/-- As long as every read starts at the front of the text or behind its end, a
run is a run of the handshake in which a read returns the count or nothing. -/
theorem run_handshake {counter : BitVec 32} {buf : List UInt8} {nRead ret : Int}
    {history : History State Event} {s : State}
    (run : Run (step acceptsCount) (start counter buf nRead ret) history s)
    (aligned : ∀ entry ∈ history, ∀ failed, entry.2 = .read failed → Aligned entry.1) :
    ∃ abstracted, Run WakeupCount.step (WakeupCount.start counter buf nRead ret) abstracted
      s.handshake := by
  induction run with
  | start => exact ⟨[], Run.start⟩
  | next _earlier taken ih =>
      obtain ⟨abstracted, reached⟩ := ih fun entry member =>
        aligned entry (List.mem_cons_of_mem _ member)
      have here := step_handshake taken (aligned _ List.mem_cons_self)
      exact ⟨_, reached.next here⟩

end AmebaTests.Pm.WakeupOffset
