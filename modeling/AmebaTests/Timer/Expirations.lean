/-
The loop of the system timer test.

Each iteration reads the number of expirations since the last read into `exp`,
without looking at the result of `read`, adds `exp` to the total and prints the
time since the start.  A read that fails leaves `exp` as it was.
-/

import AmebaTests.Foundation.Decimal
import AmebaTests.Foundation.Runs

namespace AmebaTests.Timer

open Foundation

/-- A timestamp as `clock_gettime` delivers it. -/
structure Timespec where
  tvSec : Int
  tvNsec : Int
  nonnegative : 0 ≤ tvNsec
  normalised : tvNsec < 1000000000

/-- What `read` on the timer descriptor does: it waits until the timer has expired
at least once and delivers how often, or it fails. -/
inductive ReadOutcome
  | delivered (count : BitVec 64) (positive : count ≠ 0)
  | failed

structure State where
  exp : BitVec 64
  totExp : BitVec 64
  printed : List (List UInt8)

/-- One iteration: what `read` does and the time behind it. -/
structure Event where
  read : ReadOutcome
  curr : Timespec

def initial : State where
  exp := 0
  totExp := 0
  printed := []

/-- The text of `%d.%03d`, with both differences as an `int`. -/
def elapsedText (start curr : Timespec) : List UInt8 :=
  let secs := Int.bmod (curr.tvSec - start.tvSec) (2 ^ 32)
  let nsecs := Int.bmod (curr.tvNsec - start.tvNsec) (2 ^ 32)
  signedDecimal secs ++ 46 :: paddedDecimal 3 (Int.tdiv nsecs 1000000)

def line (start curr : Timespec) (exp totExp : BitVec 64) : List UInt8 :=
  elapsedText start curr ++ ":read: ".toUTF8.toList ++ decimal exp.toNat ++
    ", total: ".toUTF8.toList ++ decimal totExp.toNat ++ [10]

/-- The variable `exp` behind the read. -/
def readExp (exp : BitVec 64) : ReadOutcome → BitVec 64
  | .delivered count _ => count
  | .failed => exp

def iterate (start : Timespec) (s : State) (event : Event) : State :=
  let exp := readExp s.exp event.read
  let totExp := s.totExp + exp
  { exp := exp
    totExp := totExp
    printed := s.printed ++ [line start event.curr exp totExp] }

/-- `max_exp`, an `int` stored as `uint64_t`. -/
def maxExp (repeatCount : BitVec 32) : BitVec 64 :=
  repeatCount.signExtend 64

def step (start : Timespec) (repeatCount : BitVec 32) (s : State) (event : Event) : Option State :=
  if s.totExp < maxExp repeatCount then some (iterate start s event) else none

/-- The loop is left in this state. -/
def Stopped (start : Timespec) (repeatCount : BitVec 32) (s : State) : Prop :=
  ∀ event, step start repeatCount s event = none

/-! ### The counts -/

def ReadOutcome.count : ReadOutcome → Nat
  | .delivered count _ => count.toNat
  | .failed => 0

/-- The expirations delivered by the successful reads of a run. -/
def delivered : History State Event → Nat
  | [] => 0
  | (_, event) :: earlier => event.read.count + delivered earlier

structure Counted (start : Timespec) (repeatCount : BitVec 32) (history : History State Event)
    (s : State) : Prop where
  total : s.totExp.toNat = delivered history
  stops : Stopped start repeatCount s ↔ repeatCount.toInt ≤ delivered history

/-- A read fails only as long as nothing has been delivered. -/
def FailuresFirst : History State Event → Prop
  | [] => True
  | (_, event) :: earlier =>
      (event.read = .failed → delivered earlier = 0) ∧ FailuresFirst earlier

section Runs

variable {start : Timespec} {repeatCount : BitVec 32}

theorem step_eq_some {s successor : State} {event : Event}
    (taken : step start repeatCount s event = some successor) :
    successor = iterate start s event := by
  unfold step at taken
  split at taken
  · exact (Option.some.inj taken).symm
  · cases taken

theorem stopped_iff (s : State) :
    Stopped start repeatCount s ↔ (maxExp repeatCount).toNat ≤ s.totExp.toNat := by
  unfold Stopped step
  constructor
  · intro stopped
    by_contra below
    have goesOn : s.totExp < maxExp repeatCount := Nat.lt_of_not_le below
    have impossible := stopped ⟨.failed, ⟨0, 0, Int.le_refl 0, by decide⟩⟩
    rw [if_pos goesOn] at impossible
    cases impossible
  · intro reached event
    exact if_neg (Nat.not_lt_of_le reached)

/-- The conversion of the repeat count keeps every number but the negative ones. -/
theorem toNat_maxExp (nonnegative : 0 ≤ repeatCount.toInt) :
    ((maxExp repeatCount).toNat : Int) = repeatCount.toInt := by
  have upper := repeatCount.toInt_lt
  rw [maxExp, BitVec.signExtend, BitVec.toNat_ofInt]
  omega

theorem maxExp_pos_of_negative (negative : repeatCount.toInt < 0) :
    0 < (maxExp repeatCount).toNat := by
  have lower := repeatCount.le_toInt
  rw [maxExp, BitVec.signExtend, BitVec.toNat_ofInt]
  omega

/-- `exp` is zero exactly as long as nothing has been delivered. -/
theorem exp_eq_zero_iff {history : History State Event} {s : State}
    (run : Run (step start repeatCount) initial history s) :
    s.exp = 0 ↔ delivered history = 0 := by
  induction run with
  | start => exact iff_of_true rfl rfl
  | @next history earlier successor event _earlier taken ih =>
      rw [step_eq_some taken]
      cases outcome : event.read with
      | delivered count positive =>
          have counted : 0 < count.toNat := by
            rw [Nat.pos_iff_ne_zero]
            intro zero
            exact positive (BitVec.eq_of_toNat_eq zero)
          simp only [iterate, delivered, outcome, readExp, ReadOutcome.count]
          constructor
          · intro zero
            exact absurd zero positive
          · intro zero
            omega
      | failed =>
          simp only [iterate, delivered, outcome, readExp, ReadOutcome.count, Nat.zero_add]
          exact ih

theorem counted_of_total (nonnegative : 0 ≤ repeatCount.toInt) {history : History State Event}
    {s : State} (total : s.totExp.toNat = delivered history) :
    Counted start repeatCount history s where
  total := total
  stops := by
    have bound := toNat_maxExp nonnegative
    rw [stopped_iff, total]
    omega

/-- One iteration adds what was delivered if `exp` is not left from an earlier one. -/
theorem iterate_total {history : History State Event} {s : State} {event : Event}
    (fresh : event.read = .failed → s.exp = 0) (total : s.totExp.toNat = delivered history)
    (fits : delivered ((s, event) :: history) < 2 ^ 64) :
    (iterate start s event).totExp.toNat = delivered ((s, event) :: history) := by
  cases outcome : event.read with
  | delivered count positive =>
      simp only [delivered, outcome, ReadOutcome.count] at fits
      simp only [iterate, delivered, outcome, readExp, ReadOutcome.count, BitVec.toNat_add, total]
      omega
  | failed =>
      simp only [iterate, delivered, outcome, readExp, ReadOutcome.count, fresh outcome,
        Nat.zero_add]
      change (s.totExp + 0#64).toNat = _
      rw [BitVec.add_zero, total]

/-- The converse: a total that is right before and behind an iteration. -/
theorem fresh_of_total {history : History State Event} {s : State} {event : Event}
    (before : s.totExp.toNat = delivered history)
    (behind : (iterate start s event).totExp.toNat = delivered ((s, event) :: history))
    (failed : event.read = .failed) : s.exp = 0 := by
  simp only [iterate, delivered, failed, readExp, ReadOutcome.count, BitVec.toNat_add,
    Nat.zero_add, ← before] at behind
  have exp := s.exp.isLt
  have totExp := s.totExp.isLt
  apply BitVec.eq_of_toNat_eq
  change s.exp.toNat = 0
  omega

theorem throughout_of_failuresFirst (nonnegative : 0 ≤ repeatCount.toInt)
    {history : History State Event} {s : State}
    (run : Run (step start repeatCount) initial history s) (first : FailuresFirst history)
    (fits : delivered history < 2 ^ 64) : Throughout (Counted start repeatCount) history s := by
  induction run with
  | start => exact counted_of_total nonnegative rfl
  | @next history earlier successor event run taken ih =>
      have shorter : delivered history < 2 ^ 64 := by
        rw [delivered] at fits
        omega
      have always := ih first.2 shorter
      have fresh (failed : event.read = .failed) : earlier.exp = 0 :=
        (exp_eq_zero_iff run).mpr (first.1 failed)
      refine ⟨counted_of_total nonnegative ?_, always⟩
      rw [step_eq_some taken]
      exact iterate_total fresh always.now.total fits

theorem nonnegative_of_throughout {history : History State Event} {s : State}
    (run : Run (step start repeatCount) initial history s)
    (always : Throughout (Counted start repeatCount) history s) : 0 ≤ repeatCount.toInt := by
  induction run with
  | start =>
      by_contra negative
      have more := maxExp_pos_of_negative (Int.not_le.mp negative)
      have stopped := always.stops.mpr (Int.le_of_lt (Int.not_le.mp negative))
      rw [stopped_iff] at stopped
      exact absurd more (Nat.not_lt_of_le stopped)
  | next _earlier _taken ih => exact ih always.2

theorem failuresFirst_of_throughout {history : History State Event} {s : State}
    (run : Run (step start repeatCount) initial history s)
    (always : Throughout (Counted start repeatCount) history s) : FailuresFirst history := by
  induction run with
  | start => exact trivial
  | @next history earlier successor event run taken ih =>
      refine ⟨?_, ih always.2⟩
      intro failed
      have behind := always.1.total
      rw [step_eq_some taken] at behind
      exact (exp_eq_zero_iff run).mp (fresh_of_total always.2.now.total behind failed)

/-- In every state of a run the total is the number of delivered expirations, and
the loop is left there exactly if that number has reached the repeat count, if and
only if the count is not negative, no read fails behind a delivery, and the
expirations can be counted in 64 bits. -/
theorem expirations_counted_once_iff {history : History State Event} {s : State}
    (run : Run (step start repeatCount) initial history s) :
    Throughout (Counted start repeatCount) history s ↔
      0 ≤ repeatCount.toInt ∧ FailuresFirst history ∧ delivered history < 2 ^ 64 := by
  constructor
  · intro always
    refine ⟨nonnegative_of_throughout run always, failuresFirst_of_throughout run always, ?_⟩
    rw [← always.now.total]
    exact s.totExp.isLt
  · intro condition
    exact throughout_of_failuresFirst condition.1 run condition.2.1 condition.2.2

end Runs

def epoch : Timespec where
  tvSec := 0
  tvNsec := 0
  nonnegative := by decide
  normalised := by decide

def deliveredOnce : Event where
  read := .delivered 1 (by decide)
  curr := epoch

def failedRead : Event where
  read := .failed
  curr := epoch

/-- Two iterations, the older one first. -/
def twoIterations (first second : Event) : History State Event :=
  [(iterate epoch initial first, second), (initial, first)]

theorem run_twoIterations (first second : Event) (repeatCount : BitVec 32)
    (positive : initial.totExp < maxExp repeatCount)
    (below : (iterate epoch initial first).totExp < maxExp repeatCount) :
    Run (step epoch repeatCount) initial (twoIterations first second)
      (iterate epoch (iterate epoch initial first) second) :=
  (Run.start.next (if_pos positive)).next (if_pos below)

/-- A read that fails before the first delivery does no harm. -/
theorem expirations_counted_once_late_delivery :
    Throughout (Counted epoch 1) (twoIterations failedRead deliveredOnce)
      (iterate epoch (iterate epoch initial failedRead) deliveredOnce) :=
  (expirations_counted_once_iff
    (run_twoIterations failedRead deliveredOnce 1 (by decide) (by decide))).mpr
    ⟨by decide, ⟨nofun, fun _ => rfl, trivial⟩, by decide⟩

/-- One that fails behind it counts the last delivery again. -/
theorem failed_read_counts_again :
    Run (step epoch 2) initial (twoIterations deliveredOnce failedRead)
        (iterate epoch (iterate epoch initial deliveredOnce) failedRead) ∧
      delivered (twoIterations deliveredOnce failedRead) = 1 ∧
      (iterate epoch (iterate epoch initial deliveredOnce) failedRead).totExp = 2 ∧
      Stopped epoch 2 (iterate epoch (iterate epoch initial deliveredOnce) failedRead) ∧
      ¬ Throughout (Counted epoch 2) (twoIterations deliveredOnce failedRead)
        (iterate epoch (iterate epoch initial deliveredOnce) failedRead) := by
  have run := run_twoIterations deliveredOnce failedRead 2 (by decide) (by decide)
  refine ⟨run, rfl, rfl, (stopped_iff _).mpr (by decide), ?_⟩
  intro always
  exact absurd always.now.total (by decide)

end AmebaTests.Timer
