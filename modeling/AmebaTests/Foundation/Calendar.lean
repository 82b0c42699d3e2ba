/-
Dates, times of day and the seconds between them.

A moment is a date with a time of day, and its instant counts the seconds since
the beginning of the calendar.  Leap seconds do not exist here.
-/

import Mathlib.Algebra.BigOperators.Group.Finset.Basic
import Mathlib.Order.Bounds.Defs

namespace AmebaTests.Foundation.Calendar

def IsLeapYear (year : Nat) : Prop :=
  4 ∣ year ∧ (¬ 100 ∣ year ∨ 400 ∣ year)

instance (year : Nat) : Decidable (IsLeapYear year) :=
  inferInstanceAs (Decidable (_ ∧ _))

/-- January is month 0. -/
def monthDays (year month : Nat) : Nat :=
  match month with
  | 1 => if IsLeapYear year then 29 else 28
  | 3 | 5 | 8 | 10 => 30
  | _ => 31

theorem monthDays_pos (year month : Nat) : 0 < monthDays year month := by
  unfold monthDays
  split
  · split <;> simp
  all_goals simp

structure Date where
  year : Nat
  month : Nat
  day : Nat
  monthLt : month < 12
  dayPos : 0 < day
  dayLe : day ≤ monthDays year month

namespace Date

def tomorrow (date : Date) : Date :=
  if within : date.day < monthDays date.year date.month then
    { date with day := date.day + 1, dayPos := Nat.succ_pos _, dayLe := within }
  else if month : date.month + 1 < 12 then
    { year := date.year
      month := date.month + 1
      day := 1
      monthLt := month
      dayPos := Nat.one_pos
      dayLe := monthDays_pos date.year (date.month + 1) }
  else
    { year := date.year + 1
      month := 0
      day := 1
      monthLt := Nat.zero_lt_succ 11
      dayPos := Nat.one_pos
      dayLe := monthDays_pos (date.year + 1) 0 }

/-- The days of the calendar before this one. -/
def number (date : Date) : Nat :=
  ∑ year ∈ Finset.range date.year, ∑ month ∈ Finset.range 12, monthDays year month +
    ∑ month ∈ Finset.range date.month, monthDays date.year month + (date.day - 1)

theorem number_tomorrow (date : Date) : date.tomorrow.number = date.number + 1 := by
  obtain ⟨year, month, day, monthLt, dayPos, dayLe⟩ := date
  unfold tomorrow
  split_ifs with within sameYear
  · simp only [number]
    omega
  · simp only [number, Finset.sum_range_succ _ month] at *
    omega
  · obtain rfl : month = 11 := by
      simp only at sameYear
      omega
    -- The twelve months of the old year are the eleven before December and December.
    simp only [number, Finset.sum_range_succ _ year, Finset.sum_range_succ _ 11,
      Finset.range_zero, Finset.sum_empty] at *
    omega

end Date

structure TimeOfDay where
  hour : Nat
  minute : Nat
  second : Nat
  hourLt : hour < 24
  minuteLt : minute < 60
  secondLt : second < 60
  deriving DecidableEq

namespace TimeOfDay

def midnight : TimeOfDay where
  hour := 0
  minute := 0
  second := 0
  hourLt := Nat.zero_lt_succ 23
  minuteLt := Nat.zero_lt_succ 59
  secondLt := Nat.zero_lt_succ 59

/-- The seconds since midnight. -/
def seconds (time : TimeOfDay) : Nat :=
  time.hour * 3600 + time.minute * 60 + time.second

theorem seconds_lt (time : TimeOfDay) : time.seconds < 86400 := by
  obtain ⟨hour, minute, second, hourLt, minuteLt, secondLt⟩ := time
  simp only [seconds]
  omega

theorem seconds_injective : Function.Injective seconds := by
  intro left right same
  obtain ⟨hour, minute, second, hourLt, minuteLt, secondLt⟩ := left
  obtain ⟨hour', minute', second', hourLt', minuteLt', secondLt'⟩ := right
  simp only [seconds] at same
  obtain ⟨rfl, rfl, rfl⟩ : hour = hour' ∧ minute = minute' ∧ second = second' := by omega
  rfl

end TimeOfDay

structure Moment where
  date : Date
  time : TimeOfDay

namespace Moment

/-- One second later. -/
def next (now : Moment) : Moment :=
  if second : now.time.second + 1 < 60 then
    { now with time := { now.time with second := now.time.second + 1, secondLt := second } }
  else if minute : now.time.minute + 1 < 60 then
    { now with
      time :=
        { now.time with
          minute := now.time.minute + 1
          minuteLt := minute
          second := 0
          secondLt := Nat.zero_lt_succ 59 } }
  else if hour : now.time.hour + 1 < 24 then
    { now with
      time := { TimeOfDay.midnight with hour := now.time.hour + 1, hourLt := hour } }
  else
    { date := now.date.tomorrow, time := .midnight }

def instant (moment : Moment) : Nat :=
  moment.date.number * 86400 + moment.time.seconds

theorem instant_mod (moment : Moment) : moment.instant % 86400 = moment.time.seconds := by
  have inDay := moment.time.seconds_lt
  simp only [instant]
  omega

theorem instant_next (now : Moment) : now.next.instant = now.instant + 1 := by
  obtain ⟨date, hour, minute, second, hourLt, minuteLt, secondLt⟩ := now
  unfold next
  split_ifs <;>
    simp only [instant, TimeOfDay.seconds, TimeOfDay.midnight, Date.number_tomorrow] at * <;>
    omega

theorem instant_iterate_next (now : Moment) (count : Nat) :
    (next^[count] now).instant = now.instant + count := by
  induction count with
  | zero => simp
  | succ count ih => rw [Function.iterate_succ_apply', instant_next, ih, Nat.add_assoc]

/-- The instants behind `now` at which the clock shows `time`. -/
def Showing (now : Moment) (time : TimeOfDay) : Set Nat :=
  {t | now.instant < t ∧ ∃ moment : Moment, moment.instant = t ∧ moment.time = time}

/-- Within the next day a clock shows each time once. -/
theorem isLeast_showing (now : Moment) {count : Nat} (later : 0 < count) (within : count ≤ 86400) :
    IsLeast (Showing now (next^[count] now).time) (now.instant + count) := by
  have ahead := instant_iterate_next now count
  constructor
  · exact ⟨Nat.lt_add_of_pos_right later, next^[count] now, ahead, rfl⟩
  · rintro t ⟨behind, moment, rfl, shown⟩
    have same : moment.instant % 86400 = (next^[count] now).instant % 86400 := by
      rw [instant_mod, instant_mod, shown]
    omega

end Moment

end AmebaTests.Foundation.Calendar
