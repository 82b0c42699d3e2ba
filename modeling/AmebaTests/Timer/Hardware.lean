/-
The hardware timer test, a kernel module.

Its parameters, the period and both timestamps are of the type `int`, and the
kernel is built so that signed overflow wraps.  A wrapped period is passed on to
the timer driver all the same; a wrapped timestamp does no harm, because only the
difference of two of them is printed.  The driver is outside the repository, and
may call back at any moment once the timer has been started.
-/

import AmebaTests.Foundation.Runs
import Mathlib.Algebra.Ring.Int.Defs
import Mathlib.Algebra.Ring.Nat

namespace AmebaTests.Timer.Hardware

open Foundation

def EINVAL : Int := 22

/-- A timestamp as `getnstimeofday` stores it, where `long` has 32 bits. -/
structure Timespec where
  tvSec : BitVec 32
  tvNsec : BitVec 32
  normalised : tvNsec.toNat < 1000000000

inductive Message
  | setMs (setTimerMs : BitVec 32)
  | setUs (setTimerUs : BitVec 32)
  | tooShort
  | noTimer
  | notEnough (timerIdx : BitVec 32)
  | requested (timerIdx : BitVec 32)
  | passed (result : BitVec 32)
  | blank
  | exited (timerIdx : BitVec 32)
  deriving DecidableEq, Repr

def Message.text : Message → String
  | .setMs setTimerMs =>
      "Hardware timer test. Set timer for " ++ toString setTimerMs.toInt ++ "ms.\n"
  | .setUs setTimerUs =>
      "Hardware timer test. Set timer for " ++ toString setTimerUs.toInt ++ "us.\n"
  | .tooShort => "Software cannot test timer less than 200us."
  | .noTimer => "Please set timer!\n"
  | .notEnough timerIdx =>
      "No enough timers to use. errno: " ++ toString timerIdx.toInt ++ ".\n"
  | .requested timerIdx => "Requested timer index is " ++ toString timerIdx.toInt ++ ".\n"
  | .passed result => "Test PASS. Sytem time passed " ++ toString result.toInt ++ "ns.\n"
  | .blank => "\n"
  | .exited timerIdx => "Timer test exit: Deint gtimer idx " ++ toString timerIdx.toInt ++ ".\n"

inductive Act
  | print (message : Message)
  | dynamicInit (setTime : BitVec 32)
  | changePeriod (timerIdx setTime : BitVec 32)
  | intConfig (timerIdx : BitVec 32) (on : Bool)
  | start (timerIdx : BitVec 32) (on : Bool)
  | intClear (timerIdx : BitVec 32)
  | deinit (timerIdx : BitVec 32)
  deriving DecidableEq, Repr

/-- `armed` is the moment between the start of the timer and the first timestamp. -/
inductive Point
  | loaded
  | refused (ret : Int)
  | armed
  | running
  | removed
  deriving DecidableEq, Repr

/-- The static variables; `acts` is oldest first. -/
structure State where
  point : Point
  startTime : BitVec 32
  endTime : BitVec 32
  setTime : BitVec 32
  timerIdx : BitVec 32
  setTimerMs : BitVec 32
  setTimerUs : BitVec 32
  acts : List Act

def load (setTimerMs setTimerUs : BitVec 32) : State where
  point := .loaded
  startTime := 0
  endTime := 0
  setTime := 0
  timerIdx := 0
  setTimerMs := setTimerMs
  setTimerUs := setTimerUs
  acts := []

def getSystemTimeNanosecond (timestamp : Timespec) : BitVec 32 :=
  timestamp.tvSec * 1000000000 + timestamp.tvNsec

namespace State

def say (s : State) (message : Message) : State :=
  { s with acts := s.acts ++ [.print message] }

def refuse (s : State) (message : Message) : State :=
  { s.say message with point := .refused (-EINVAL) }

end State

/-- From `rtk_gtimer_dynamic_init` up to the start of the timer; the index is what
that call returns. -/
def requestTimer (s : State) (timerIdx : BitVec 32) : State :=
  let s : State := { s with timerIdx := timerIdx, acts := s.acts ++ [.dynamicInit s.setTime] }
  if timerIdx.toInt < 0 then s.refuse (.notEnough timerIdx)
  else
    { s with
      point := .armed
      acts := s.acts ++
        [.print (.requested timerIdx), .changePeriod timerIdx s.setTime,
          .intConfig timerIdx true, .start timerIdx true] }

def rtkTimerTestInit (s : State) (timerIdx : BitVec 32) : State :=
  if s.setTimerMs ≠ 0 then
    let s : State := { s with setTime := s.setTimerMs * 1000000 }
    requestTimer (s.say (.setMs s.setTimerMs)) timerIdx
  else if s.setTimerUs ≠ 0 then
    let s : State := { s with setTime := s.setTimerUs * 1000 }
    if s.setTime.toInt < 200000 then s.refuse .tooShort
    else requestTimer (s.say (.setUs s.setTimerUs)) timerIdx
  else s.refuse .noTimer

/-- The end of `rtk_timer_test_init`. -/
def recordStart (s : State) (timestamp : Timespec) : State :=
  { s with point := .running, startTime := getSystemTimeNanosecond timestamp }

/-- The variable `result` of the callback. -/
def result (s : State) (timestamp : Timespec) : BitVec 32 :=
  getSystemTimeNanosecond timestamp - s.startTime

def rtkTimerTestCallback (s : State) (timestamp : Timespec) : State :=
  { s with
    endTime := getSystemTimeNanosecond timestamp
    acts := s.acts ++
      [.intClear s.timerIdx, .start s.timerIdx false, .print (.passed (result s timestamp)),
        .print .blank] }

def rtkTimerTestExit (s : State) : State :=
  { s with
    point := .removed
    setTimerMs := 0
    setTimerUs := 0
    timerIdx := 0
    acts := s.acts ++ [.print (.exited s.timerIdx), .intClear s.timerIdx, .deinit s.timerIdx] }

inductive Event
  | init (timerIdx : BitVec 32)
  | record (timestamp : Timespec)
  | interrupt (timestamp : Timespec)
  | exit

def step (s : State) (event : Event) : Option State :=
  match s.point, event with
  | .loaded, .init timerIdx => some (rtkTimerTestInit s timerIdx)
  | .armed, .record timestamp => some (recordStart s timestamp)
  | .armed, .interrupt timestamp => some (rtkTimerTestCallback s timestamp)
  | .running, .interrupt timestamp => some (rtkTimerTestCallback s timestamp)
  | .running, .exit => some (rtkTimerTestExit s)
  | _, _ => none

/-! ### The period -/

/-- The period an act hands to the timer driver. -/
def Act.period : Act → Option (BitVec 32)
  | .dynamicInit setTime => some setTime
  | .changePeriod _ setTime => some setTime
  | _ => none

/-- The nanoseconds that the parameters stand for; the milliseconds come first. -/
def requestedPeriod (setTimerMs setTimerUs : BitVec 32) : Int :=
  if setTimerMs ≠ 0 then setTimerMs.toInt * 10 ^ 6 else setTimerUs.toInt * 10 ^ 3

structure AsRequested (setTimerMs setTimerUs period : BitVec 32) : Prop where
  same : period.toInt = requestedPeriod setTimerMs setTimerUs
  positive : 0 < period.toInt
  long : setTimerMs = 0 → 200000 ≤ period.toInt

/-- The parameters whose period is an `int`. -/
def InRange (setTimerMs setTimerUs : BitVec 32) : Prop :=
  if setTimerMs ≠ 0 then 1 ≤ setTimerMs.toInt ∧ setTimerMs.toInt ≤ 2147
  else 200 ≤ setTimerUs.toInt ∧ setTimerUs.toInt ≤ 2147483

instance (setTimerMs setTimerUs : BitVec 32) : Decidable (InRange setTimerMs setTimerUs) :=
  inferInstanceAs (Decidable (if setTimerMs ≠ 0 then _ ∧ _ else _ ∧ _))

def periods (acts : List Act) : List (BitVec 32) :=
  acts.filterMap Act.period

/-- The period that a call which gets as far as the driver has computed. -/
def Selected (setTimerMs setTimerUs setTime : BitVec 32) : Prop :=
  if setTimerMs ≠ 0 then setTime = setTimerMs * 1000000
  else setTime = setTimerUs * 1000 ∧ 200000 ≤ setTime.toInt

theorem periods_append (first second : List Act) :
    periods (first ++ second) = periods first ++ periods second :=
  List.filterMap_append

/-- The driver is given `set_time` once or twice. -/
theorem mem_periods_requestTimer {s : State} (quiet : periods s.acts = []) (timerIdx : BitVec 32)
    (period : BitVec 32) :
    period ∈ periods (requestTimer s timerIdx).acts ↔ period = s.setTime := by
  unfold requestTimer
  dsimp only
  split
  · simp only [State.refuse, State.say, periods_append, quiet]
    simp [periods, Act.period]
  · simp only [periods_append, quiet]
    simp [periods, Act.period, eq_comm]

theorem init_periods (setTimerMs setTimerUs timerIdx : BitVec 32) :
    periods (rtkTimerTestInit (load setTimerMs setTimerUs) timerIdx).acts = [] ∨
      ∃ setTime, Selected setTimerMs setTimerUs setTime ∧ ∀ period,
        period ∈ periods (rtkTimerTestInit (load setTimerMs setTimerUs) timerIdx).acts ↔
          period = setTime := by
  by_cases given : setTimerMs ≠ 0
  · have loaded : (load setTimerMs setTimerUs).setTimerMs ≠ 0 := given
    rw [rtkTimerTestInit, if_pos loaded]
    refine Or.inr ⟨setTimerMs * 1000000, ?_, mem_periods_requestTimer rfl timerIdx⟩
    rw [Selected, if_pos given]
  · have loaded : ¬ (load setTimerMs setTimerUs).setTimerMs ≠ 0 := given
    rw [rtkTimerTestInit, if_neg loaded]
    split
    · dsimp only
      split
      · exact Or.inl rfl
      · rename_i long
        refine Or.inr ⟨setTimerUs * 1000, ?_, mem_periods_requestTimer rfl timerIdx⟩
        rw [Selected, if_neg given]
        exact ⟨rfl, Int.not_lt.mp long⟩
    · exact Or.inl rfl

theorem toInt_scaled {factor : BitVec 32} {scale : Int} (same : factor.toInt = scale)
    {x : BitVec 32} (lower : -2 ^ 31 ≤ x.toInt * scale) (upper : x.toInt * scale < 2 ^ 31) :
    (x * factor).toInt = x.toInt * scale := by
  rw [BitVec.toInt_mul, same]
  apply Int.bmod_eq_of_le
  · omega
  · omega

theorem asRequested_iff {setTimerMs setTimerUs setTime : BitVec 32}
    (selected : Selected setTimerMs setTimerUs setTime) :
    AsRequested setTimerMs setTimerUs setTime ↔ InRange setTimerMs setTimerUs := by
  have upper := setTime.toInt_lt
  unfold Selected at selected
  unfold InRange
  by_cases given : setTimerMs ≠ 0
  · rw [if_pos given] at selected ⊢
    have product : requestedPeriod setTimerMs setTimerUs = setTimerMs.toInt * 1000000 := if_pos given
    constructor
    · intro requested
      have same := requested.same
      have positive := requested.positive
      omega
    · intro range
      have scaled : setTime.toInt = setTimerMs.toInt * 1000000 := by
        have million : (1000000 : BitVec 32).toInt = 1000000 := rfl
        rw [selected]
        exact toInt_scaled million (by omega) (by omega)
      exact ⟨by rw [scaled, product], by omega, fun none => absurd none given⟩
  · rw [if_neg given] at selected ⊢
    have product : requestedPeriod setTimerMs setTimerUs = setTimerUs.toInt * 1000 := if_neg given
    constructor
    · intro requested
      have same := requested.same
      omega
    · intro range
      have scaled : setTime.toInt = setTimerUs.toInt * 1000 := by
        have thousand : (1000 : BitVec 32).toInt = 1000 := rfl
        rw [selected.1]
        exact toInt_scaled thousand (by omega) (by omega)
      exact ⟨by rw [scaled, product], by omega, fun _ => selected.2⟩

/-- Of a call that gets as far as the driver: every period it hands on is the
requested one if and only if that one is an `int`. -/
theorem period_as_requested_iff {setTimerMs setTimerUs timerIdx setTime : BitVec 32}
    (called : .dynamicInit setTime ∈
      (rtkTimerTestInit (load setTimerMs setTimerUs) timerIdx).acts) :
    (∀ period ∈ periods (rtkTimerTestInit (load setTimerMs setTimerUs) timerIdx).acts,
      AsRequested setTimerMs setTimerUs period) ↔ InRange setTimerMs setTimerUs := by
  have handed : setTime ∈
      periods (rtkTimerTestInit (load setTimerMs setTimerUs) timerIdx).acts :=
    List.mem_filterMap.mpr ⟨_, called, rfl⟩
  rcases init_periods setTimerMs setTimerUs timerIdx with none | ⟨only, selected, members⟩
  · rw [none] at handed
    cases handed
  · rw [← asRequested_iff selected]
    constructor
    · intro every
      exact every only ((members only).mpr rfl)
    · intro requested period member
      rw [(members period).mp member]
      exact requested

/-- `set_timer_us=600`, with the timer of index 2. -/
theorem period_as_requested_600_us :
    periods (rtkTimerTestInit (load 0 600) 2).acts = [600000, 600000] ∧
      ∀ period ∈ periods (rtkTimerTestInit (load 0 600) 2).acts, AsRequested 0 600 period := by
  have called : .dynamicInit 600000 ∈ (rtkTimerTestInit (load 0 600) 2).acts := by decide
  refine ⟨rfl, (period_as_requested_iff called).mpr ?_⟩
  decide

/-- `set_timer_ms=3000`: three seconds become a negative period. -/
theorem period_wraps_3000_ms :
    .dynamicInit (BitVec.ofInt 32 (-1294967296)) ∈ (rtkTimerTestInit (load 3000 0) 2).acts ∧
      requestedPeriod 3000 0 = 3000000000 ∧
      ¬ ∀ period ∈ periods (rtkTimerTestInit (load 3000 0) 2).acts, AsRequested 3000 0 period := by
  have called : .dynamicInit (BitVec.ofInt 32 (-1294967296)) ∈
      (rtkTimerTestInit (load 3000 0) 2).acts := by decide
  refine ⟨called, rfl, ?_⟩
  intro every
  have requested := every _ (List.mem_filterMap.mpr ⟨_, called, rfl⟩)
  exact absurd requested.positive (by decide)

/-! ### The elapsed time -/

/-- An instant as a number of nanoseconds. -/
def Timespec.nanoseconds (timestamp : Timespec) : Int :=
  timestamp.tvSec.toInt * 10 ^ 9 + timestamp.tvNsec.toInt

/-- The timestamp that was stored in `start_time` last. -/
def recordedStart : History State Event → Option Timespec
  | [] => none
  | (_, .record timestamp) :: _ => some timestamp
  | _ :: earlier => recordedStart earlier

/-- The 32 bits of an instant are those of its number of nanoseconds. -/
theorem getSystemTimeNanosecond_eq (timestamp : Timespec) :
    getSystemTimeNanosecond timestamp = BitVec.ofInt 32 timestamp.nanoseconds := by
  have billion : (1000000000 : BitVec 32) = BitVec.ofInt 32 (10 ^ 9) := by decide
  rw [Timespec.nanoseconds, BitVec.ofInt_add, BitVec.ofInt_mul, BitVec.ofInt_toInt,
    BitVec.ofInt_toInt, ← billion]
  rfl

/-- Where both instants have wrapped, their difference has not. -/
theorem toInt_sub_ofInt {start finish : Int} (later : start ≤ finish)
    (near : finish - start < 2 ^ 31) :
    (BitVec.ofInt 32 finish - BitVec.ofInt 32 start).toInt = finish - start := by
  rw [BitVec.toInt_sub, BitVec.toInt_ofInt, BitVec.toInt_ofInt, Int.bmod_sub_bmod,
    Int.sub_bmod_bmod]
  apply Int.bmod_eq_of_le
  · omega
  · omega

section Frames

variable (s : State)

@[simp] theorem say_startTime (message : Message) : (s.say message).startTime = s.startTime := rfl

@[simp] theorem refuse_startTime (message : Message) :
    (s.refuse message).startTime = s.startTime := rfl

@[simp] theorem requestTimer_startTime (timerIdx : BitVec 32) :
    (requestTimer s timerIdx).startTime = s.startTime := by
  unfold requestTimer
  dsimp only
  split
  · rw [refuse_startTime]
  · rfl

@[simp] theorem rtkTimerTestInit_startTime (timerIdx : BitVec 32) :
    (rtkTimerTestInit s timerIdx).startTime = s.startTime := by
  unfold rtkTimerTestInit
  dsimp only
  split
  · rw [requestTimer_startTime, say_startTime]
  · split
    · split
      · rw [refuse_startTime]
      · rw [requestTimer_startTime, say_startTime]
    · rw [refuse_startTime]

@[simp] theorem recordStart_startTime (timestamp : Timespec) :
    (recordStart s timestamp).startTime = getSystemTimeNanosecond timestamp := by
  rw [recordStart]

@[simp] theorem rtkTimerTestCallback_startTime (timestamp : Timespec) :
    (rtkTimerTestCallback s timestamp).startTime = s.startTime := by
  rw [rtkTimerTestCallback]

@[simp] theorem rtkTimerTestExit_startTime : (rtkTimerTestExit s).startTime = s.startTime := by
  rw [rtkTimerTestExit]

end Frames

/-- Only the end of the initialisation stores into `start_time`. -/
theorem step_startTime {s successor : State} {event : Event}
    (taken : step s event = some successor) :
    (∃ timestamp, event = .record timestamp ∧
        successor.startTime = getSystemTimeNanosecond timestamp) ∨
      ((∀ timestamp, event ≠ .record timestamp) ∧ successor.startTime = s.startTime) := by
  unfold step at taken
  split at taken
  · rw [← Option.some.inj taken]
    exact Or.inr ⟨nofun, by simp⟩
  · rw [← Option.some.inj taken]
    exact Or.inl ⟨_, rfl, by simp⟩
  · rw [← Option.some.inj taken]
    exact Or.inr ⟨nofun, by simp⟩
  · rw [← Option.some.inj taken]
    exact Or.inr ⟨nofun, by simp⟩
  · rw [← Option.some.inj taken]
    exact Or.inr ⟨nofun, by simp⟩
  · cases taken

theorem recordedStart_cons {entry : State × Event} {history : History State Event}
    (other : ∀ timestamp, entry.2 ≠ .record timestamp) :
    recordedStart (entry :: history) = recordedStart history := by
  obtain ⟨s, event⟩ := entry
  cases event with
  | record timestamp => exact absurd rfl (other timestamp)
  | init timerIdx => rfl
  | interrupt timestamp => rfl
  | exit => rfl

theorem run_startTime {setTimerMs setTimerUs : BitVec 32} {history : History State Event}
    {s : State} (run : Run step (load setTimerMs setTimerUs) history s) {start : Timespec}
    (recorded : recordedStart history = some start) :
    s.startTime = getSystemTimeNanosecond start := by
  induction run with
  | start => cases recorded
  | @next history earlier successor event _earlier taken ih =>
      rcases step_startTime taken with ⟨timestamp, rfl, stored⟩ | ⟨other, kept⟩
      · cases recorded
        exact stored
      · rw [recordedStart_cons other] at recorded
        rw [kept, ih recorded]

theorem step_interrupt {s successor : State} {timestamp : Timespec}
    (taken : step s (.interrupt timestamp) = some successor) :
    successor = rtkTimerTestCallback s timestamp := by
  cases point : s.point with
  | armed | running =>
      simp only [step, point] at taken
      exact (Option.some.inj taken).symm
  | loaded | refused | removed => simp only [step, point, reduceCtorEq] at taken

theorem rtkTimerTestCallback_result (s : State) (timestamp : Timespec) :
    (rtkTimerTestCallback s timestamp).endTime - (rtkTimerTestCallback s timestamp).startTime =
      result s timestamp := by
  rw [rtkTimerTestCallback_startTime, rtkTimerTestCallback, result]

/-- In every run, a callback less than 2^31 nanoseconds behind the recorded start
leaves and prints the time between the two, wherever the timestamps wrap. -/
theorem result_eq_elapsed {setTimerMs setTimerUs : BitVec 32} {history : History State Event}
    {s successor : State} (run : Run step (load setTimerMs setTimerUs) history s)
    {start finish : Timespec} (recorded : recordedStart history = some start)
    (taken : step s (.interrupt finish) = some successor)
    (later : start.nanoseconds ≤ finish.nanoseconds)
    (near : finish.nanoseconds - start.nanoseconds < 2 ^ 31) :
    (successor.endTime - successor.startTime).toInt = finish.nanoseconds - start.nanoseconds ∧
    ∃ result, result.toInt = finish.nanoseconds - start.nanoseconds ∧
      successor.acts = s.acts ++
        [.intClear s.timerIdx, .start s.timerIdx false, .print (.passed result),
          .print .blank] := by
  have elapsed : (result s finish).toInt = finish.nanoseconds - start.nanoseconds := by
    rw [result, run_startTime run recorded, getSystemTimeNanosecond_eq,
      getSystemTimeNanosecond_eq]
    exact toInt_sub_ofInt later near
  rw [step_interrupt taken, rtkTimerTestCallback_result]
  exact ⟨elapsed, result s finish, elapsed, rfl⟩

def beforeWrap : Timespec where
  tvSec := 2
  tvNsec := 100000000
  normalised := by decide

def behindWrap : Timespec where
  tvSec := 2
  tvNsec := 900000000
  normalised := by decide

/-- The module behind `set_timer_ms=800`, with the start recorded. -/
def started : State :=
  recordStart (rtkTimerTestInit (load 800 0) 2) beforeWrap

theorem run_started :
    Run step (load 800 0)
      [(rtkTimerTestInit (load 800 0) 2, .record beforeWrap), (load 800 0, .init 2)] started :=
  (Run.start.next rfl).next rfl

/-- The start is positive as an `int`, the end is not. -/
theorem result_eq_elapsed_wrapped : ∃ successor,
    step started (.interrupt behindWrap) = some successor ∧
      started.startTime.toInt = 2100000000 ∧ successor.endTime.toInt = -1394967296 ∧
      (successor.endTime - successor.startTime).toInt =
        behindWrap.nanoseconds - beforeWrap.nanoseconds ∧
      ∃ result, result.toInt = behindWrap.nanoseconds - beforeWrap.nanoseconds ∧
        successor.acts = started.acts ++
          [.intClear started.timerIdx, .start started.timerIdx false, .print (.passed result),
            .print .blank] := by
  refine ⟨rtkTimerTestCallback started behindWrap, rfl, by decide, by decide, ?_⟩
  exact result_eq_elapsed run_started rfl rfl (by decide) (by decide)

end AmebaTests.Timer.Hardware
