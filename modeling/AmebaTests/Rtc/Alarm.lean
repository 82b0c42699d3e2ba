/-
`rtc_set_alarm`.

The program reads the clock, adds ten seconds to its time of day by hand and sets
the alarm with the date it has read.  The driver ignores that date: the alarm
rings when the clock shows its hour, minute and second for the first time.
-/

import AmebaTests.Foundation.Calendar
import AmebaTests.Foundation.Report

namespace AmebaTests.Rtc

open Foundation Report Calendar

structure RtcTime where
  tmSec : Int
  tmMin : Int
  tmHour : Int
  tmMday : Int
  tmMon : Int
  tmYear : Int
  deriving DecidableEq, Repr

/-- What the calls on the device return, and what they store in `*p_tm`. -/
structure Host where
  rdTime : RtcTime → Int × RtcTime
  almSet : RtcTime → Int
  almRead : RtcTime → Int × RtcTime
  aieOn : Int
  read : Int

inductive Line
  | rdTime
  | almSet (tm : RtcTime)
  | almRead
  | aieOn
  | read
  | stdout (text : String)
  deriving DecidableEq, Repr

abbrev Program := Report Line Int

def fail (request : String) (ret : Int) : Program Unit := do
  say (.stdout (request ++ " error: " ++ toString ret ++ "\n"))
  halt (-1)

/-- The assignments between `RTC_RD_TIME` and `RTC_ALM_SET`. -/
def addTenSeconds (tm : RtcTime) : RtcTime :=
  let tm := { tm with tmSec := tm.tmSec + 10 }
  let tm :=
    if tm.tmSec ≥ 60 then { tm with tmSec := tm.tmSec.tmod 60, tmMin := tm.tmMin + 1 } else tm
  let tm := if tm.tmMin = 60 then { tm with tmMin := 0, tmHour := tm.tmHour + 1 } else tm
  if tm.tmHour = 24 then { tm with tmHour := 0 } else tm

def rtcSetAlarm (host : Host) (tm : RtcTime) : Program Int := do
  say .rdTime
  let (ret, tm) := host.rdTime tm
  whenever (ret < 0) (fail "RTC_RD_TIME" ret)
  let tm := addTenSeconds tm
  say (.almSet tm)
  let ret := host.almSet tm
  whenever (ret < 0) (fail "RTC_ALM_SET" ret)
  say .almRead
  let (ret, tm) := host.almRead tm
  whenever (ret < 0) (fail "RTC_ALM_READ" ret)
  say (.stdout ("Set alarm time to " ++ toString tm.tmHour ++ ":" ++ toString tm.tmMin ++ ":" ++
    toString tm.tmSec ++ "\n"))
  say .aieOn
  whenever (host.aieOn = -1) (fail "RTC_AIE_ON" host.aieOn)
  say (.stdout "Wait for 10 seconds for alarm...\n")
  say .read
  whenever (host.read < 0) (fail "RTC read" host.read)
  say (.stdout "RTC alarm triggered\n")
  say (.stdout "RTC test PASS\n")
  pure 0

/-! ### The alarm -/

def Line.alarm : Line → Option RtcTime
  | .almSet tm => some tm
  | _ => none

def alarms (lines : List Line) : List RtcTime :=
  lines.filterMap Line.alarm

/-- What `RTC_RD_TIME` stores. -/
def RtcTime.ofMoment (now : Moment) : RtcTime where
  tmSec := now.time.second
  tmMin := now.time.minute
  tmHour := now.time.hour
  tmMday := now.date.day
  tmMon := now.date.month
  tmYear := (now.date.year : Int) - 1900

structure ValidTime (tm : RtcTime) : Prop where
  hour : 0 ≤ tm.tmHour ∧ tm.tmHour ≤ 23
  minute : 0 ≤ tm.tmMin ∧ tm.tmMin ≤ 59
  second : 0 ≤ tm.tmSec ∧ tm.tmSec ≤ 59

def SameTime (tm : RtcTime) (time : TimeOfDay) : Prop :=
  tm.tmHour = time.hour ∧ tm.tmMin = time.minute ∧ tm.tmSec = time.second

/-- The instants behind `now` at which the clock shows the time of an alarm; it
rings at the first of them. -/
def alarmInstants (now : Moment) (alarm : RtcTime) : Set Nat :=
  {t | now.instant < t ∧ ∃ moment : Moment, moment.instant = t ∧ SameTime alarm moment.time}

def secondOfDay (tm : RtcTime) : Int :=
  tm.tmHour * 3600 + tm.tmMin * 60 + tm.tmSec

theorem validTime_ofMoment (now : Moment) : ValidTime (.ofMoment now) := by
  obtain ⟨date, hour, minute, second, hourLt, minuteLt, secondLt⟩ := now
  constructor <;> simp only [RtcTime.ofMoment] <;> omega

theorem secondOfDay_ofMoment (now : Moment) :
    secondOfDay (.ofMoment now) = now.time.seconds := by
  simp [secondOfDay, RtcTime.ofMoment, TimeOfDay.seconds]

theorem sameTime_iff {tm : RtcTime} (valid : ValidTime tm) (time : TimeOfDay) :
    SameTime tm time ↔ secondOfDay tm = time.seconds := by
  obtain ⟨hour, minute, second, hourLt, minuteLt, secondLt⟩ := time
  obtain ⟨⟨_, _⟩, ⟨_, _⟩, ⟨_, _⟩⟩ := valid
  simp only [SameTime, secondOfDay, TimeOfDay.seconds]
  omega

theorem SameTime.unique {tm : RtcTime} {first second : TimeOfDay} (valid : ValidTime tm)
    (left : SameTime tm first) (right : SameTime tm second) : first = second := by
  rw [sameTime_iff valid] at left right
  exact TimeOfDay.seconds_injective (by omega)

theorem alarmInstants_eq_showing (now : Moment) {alarm : RtcTime} {time : TimeOfDay}
    (valid : ValidTime alarm) (same : SameTime alarm time) :
    alarmInstants now alarm = now.Showing time := by
  ext t
  constructor
  · rintro ⟨later, moment, here, shown⟩
    exact ⟨later, moment, here, SameTime.unique valid shown same⟩
  · rintro ⟨later, moment, here, rfl⟩
    exact ⟨later, moment, here, same⟩

theorem addTenSeconds_valid {tm : RtcTime} (valid : ValidTime tm) :
    ValidTime (addTenSeconds tm) := by
  obtain ⟨⟨_, _⟩, ⟨_, _⟩, ⟨_, _⟩⟩ := valid
  have wrapped := Int.tmod_eq_emod_of_nonneg (b := 60) (show 0 ≤ tm.tmSec + 10 by omega)
  constructor <;> simp only [addTenSeconds, wrapped] <;> split_ifs <;> simp only at * <;> omega

/-- The three tests carry like a clock does. -/
theorem secondOfDay_addTenSeconds {tm : RtcTime} (valid : ValidTime tm) :
    secondOfDay (addTenSeconds tm) = (secondOfDay tm + 10) % 86400 := by
  obtain ⟨⟨_, _⟩, ⟨_, _⟩, ⟨_, _⟩⟩ := valid
  have wrapped := Int.tmod_eq_emod_of_nonneg (b := 60) (show 0 ≤ tm.tmSec + 10 by omega)
  simp only [secondOfDay, addTenSeconds, wrapped]
  split_ifs <;> simp only at * <;> omega

theorem sameTime_addTenSeconds (now : Moment) :
    SameTime (addTenSeconds (.ofMoment now)) (Moment.next^[10] now).time := by
  have valid := validTime_ofMoment now
  have later := Moment.instant_iterate_next now 10
  have today := now.instant_mod
  have shown := (Moment.next^[10] now).instant_mod
  rw [sameTime_iff (addTenSeconds_valid valid), secondOfDay_addTenSeconds valid,
    secondOfDay_ofMoment]
  omega

/-! ### The run -/

@[simp] theorem alarms_nil : alarms [] = [] := rfl

@[simp] theorem alarms_cons (line : Line) (lines : List Line) :
    alarms (line :: lines) = line.alarm.toList ++ alarms lines := by
  cases line <;> simp [alarms, Line.alarm, List.filterMap_cons]

@[simp] theorem alarms_check {Value : Type} (failed : Prop) [Decidable failed] (request : String)
    (ret : Int) (rest : Unit → Program Value) :
    alarms (whenever failed (fail request ret) >>= rest).lines =
      if failed then [] else alarms (rest ()).lines := by
  by_cases yes : failed
  · simp [whenever, yes, fail, halt, bind_of_error, Line.alarm]
  · simp [whenever, yes]

theorem alarms_rtcSetAlarm (host : Host) (tm : RtcTime) (running : 0 ≤ (host.rdTime tm).1) :
    alarms (rtcSetAlarm host tm).lines = [addTenSeconds (host.rdTime tm).2] := by
  have passed : ¬ (host.rdTime tm).1 < 0 := by omega
  simp [rtcSetAlarm, Line.alarm, passed]

/-- Whatever the other calls return, the one alarm that is set rings ten seconds
after the time that was read. -/
theorem rtcSetAlarm_rings_ten_seconds_later (host : Host) (tm : RtcTime) (now : Moment) (ret : Int)
    (running : 0 ≤ ret) (clock : host.rdTime tm = (ret, .ofMoment now)) :
    ∃ alarm, alarms (rtcSetAlarm host tm).lines = [alarm] ∧ ValidTime alarm ∧
      SameTime alarm (Moment.next^[10] now).time ∧
      IsLeast (alarmInstants now alarm) (now.instant + 10) := by
  have valid := addTenSeconds_valid (validTime_ofMoment now)
  have same := sameTime_addTenSeconds now
  refine ⟨addTenSeconds (.ofMoment now), ?_, valid, same, ?_⟩
  · rw [alarms_rtcSetAlarm host tm (by simpa [clock] using running), clock]
  · rw [alarmInstants_eq_showing now valid same]
    exact now.isLeast_showing (by simp) (by simp)

def newYearsEve : Moment where
  date :=
    { year := 2024
      month := 11
      day := 31
      monthLt := Nat.lt_succ_self 11
      dayPos := Nat.zero_lt_succ 30
      dayLe := Nat.le_refl 31 }
  time :=
    { hour := 23
      minute := 59
      second := 55
      hourLt := Nat.lt_succ_self 23
      minuteLt := Nat.lt_succ_self 59
      secondLt := by decide }

/-- A device whose calls succeed, five seconds before a new year. -/
def atNewYearsEve : Host where
  rdTime _ := (0, .ofMoment newYearsEve)
  almSet _ := 0
  almRead tm := (0, tm)
  aieOn := 0
  read := 4

theorem rings_in_the_new_year :
    alarms (rtcSetAlarm atNewYearsEve ⟨0, 0, 0, 0, 0, 0⟩).lines = [⟨5, 0, 0, 31, 11, 124⟩] ∧
      IsLeast (alarmInstants newYearsEve ⟨5, 0, 0, 31, 11, 124⟩) (newYearsEve.instant + 10) := by
  have set : alarms (rtcSetAlarm atNewYearsEve ⟨0, 0, 0, 0, 0, 0⟩).lines =
      [⟨5, 0, 0, 31, 11, 124⟩] := by decide
  obtain ⟨alarm, only, _, _, rings⟩ := rtcSetAlarm_rings_ten_seconds_later atNewYearsEve
    ⟨0, 0, 0, 0, 0, 0⟩ newYearsEve 0 (le_refl 0) rfl
  obtain rfl : alarm = ⟨5, 0, 0, 31, 11, 124⟩ := by simpa [set] using only.symm
  exact ⟨set, rings⟩

end AmebaTests.Rtc
