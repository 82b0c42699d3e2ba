/-
The voltage test, `pm_voltage/voltage.c`.

The program reads the voltage, requests the other one, sends the system to sleep
and reads again.  It tries again as long as both readings are the same, and
passes as soon as they differ, without comparing the second one with the voltage
it has requested.  The two voltages are constants of a header outside the
repository and parameters here.
-/

import AmebaTests.Foundation.Bytes
import AmebaTests.Foundation.Decimal
import AmebaTests.Foundation.Runs

namespace AmebaTests.Pm.Voltage

open Foundation

inductive Cpu
  | cpu0
  | cpu1
  deriving DecidableEq, Repr

inductive Point
  | frequency (cpu : Cpu)
  | openDevice
  | getBefore
  | setVoltage
  | getAfter
  | returned (code : Int)
  deriving DecidableEq, Repr

inductive Message
  | started
  | popenFailed
  | frequencyReached (cpu : Cpu)
  | frequencyMissed (cpu : Cpu) (currentFreq : Int)
  | openFailed
  | getFailed
  | unreadable
  | before (volBefore : BitVec 32)
  | setFailed (toAdjust : BitVec 32)
  | adjusted (val : BitVec 32)
  | retry
  | pass
  deriving DecidableEq, Repr

inductive Act
  | print (message : Message)
  | system (command : String)
  | get (value : BitVec 32)
  | set (value : BitVec 32)
  deriving DecidableEq, Repr

/-- `freqStr` is the string in `freq_str`, and `acts` is oldest first. -/
structure State where
  point : Point
  freqStr : List UInt8
  volBefore : BitVec 32
  toAdjust : BitVec 32
  acts : List Act

/-- What reading the output of a command does: `popen` fails, there is no line, or
`fgets` returns one. -/
inductive CommandOutput
  | popenFails
  | nothing
  | line (text : List UInt8)

/-- The answers of the system, in the order the program asks for them. -/
inductive Event
  | command (output : CommandOutput)
  | opened (fd : Int)
  | get (ret : Int) (value : BitVec 32)
  | set (ret : Int)

def TARGET_FREQ : Int := 660000

def start : State where
  point := .frequency .cpu0
  freqStr := []
  volBefore := 0
  toAdjust := 0
  acts :=
    [.print .started,
      .system "echo userspace > /sys/devices/system/cpu/cpu0/cpufreq/scaling_governor",
      .system "echo 660000 > /sys/devices/system/cpu/cpu0/cpufreq/scaling_setspeed",
      .system "echo 660000 > /sys/devices/system/cpu/cpu1/cpufreq/scaling_setspeed"]

/-- A line of the output replaces `freq_str`; without one it stays as it is. -/
def runCommandAndGetOutput (freqStr : List UInt8) : CommandOutput → Option (List UInt8)
  | .popenFails => none
  | .nothing => some freqStr
  | .line text => some (cString (text.take 127))

def Cpu.next : Cpu → Point
  | .cpu0 => .frequency .cpu1
  | .cpu1 => .openDevice

def checkFrequency (s : State) (cpu : Cpu) (output : CommandOutput) : State :=
  match runCommandAndGetOutput s.freqStr output with
  | none => { s with point := .returned 1, acts := s.acts ++ [.print .popenFailed] }
  | some freqStr =>
      let currentFreq := atoi freqStr
      if currentFreq = TARGET_FREQ then
        { s with
          point := cpu.next
          freqStr := freqStr
          acts := s.acts ++ [.print (.frequencyReached cpu)] }
      else
        { s with
          point := .returned 1
          freqStr := freqStr
          acts := s.acts ++ [.print (.frequencyMissed cpu currentFreq)] }

def openDevice (s : State) (fd : Int) : State :=
  if fd < 0 then { s with point := .returned 1, acts := s.acts ++ [.print .openFailed] }
  else { s with point := .getBefore }

section Constants

variable (vol09 vol10 : BitVec 32)

def Cpu.name : Cpu → String
  | .cpu0 => "CPU0"
  | .cpu1 => "CPU1"

/-- The texts behind the messages, `%s` being one of two for every voltage. -/
def Message.text : Message → String
  | .started => "Voltage test started.\n" ++
      "Please set WAKE_SRC_Timer3 to wake up AP in " ++
      "<sdk>\\sources\\firmware\\source\\component\\soc\\amebasmart\\usrcfg\\ameba_sleepcfg.c\n" ++
      "Please set the NPPLL in SocClk_Info to 920M, div(4) to support the 0.9V for km4 in" ++
      "<sdk>\\sources\\firmware\\source\\component\\soc\\amebasmart\\usrcfg\\ameba_bootcfg.c\n"
  | .popenFailed => "popen failed"
  | .frequencyReached cpu =>
      "[SUCCESS] Current " ++ cpu.name ++ " frequency is " ++ toString TARGET_FREQ ++ " kHz\n"
  | .frequencyMissed cpu currentFreq =>
      "[FAILURE] Current " ++ cpu.name ++ " frequency is " ++ toString currentFreq ++
        " kHz, expected " ++ toString TARGET_FREQ ++ " kHz\n"
  | .openFailed => "Fail to open misc device node.\n"
  | .getFailed => "Fail to get RTK_MISC_IOC_VOLTAGE_GET.\n"
  | .unreadable => "[FAILURE] Cannot get current voltage!"
  | .before volBefore =>
      "Before adjust, voltage is " ++ (if volBefore = vol09 then "0.9V" else "1.0V") ++ ".\n"
  | .setFailed toAdjust =>
      "Fail to set voltage to " ++ (if toAdjust = vol10 then "1.0" else "0.9") ++ "V.\n"
  | .adjusted val =>
      "[SUCCESS] Adjust system voltage to " ++ (if val = vol09 then "0.9V" else "1.0V") ++ "\n"
  | .retry => "[RETRY] CG and Adjust voltage failed, try again!\n"
  | .pass => "Voltage test PASS\n"

/-- The voltage that is requested after a reading. -/
def target (volBefore : BitVec 32) : BitVec 32 :=
  if volBefore = vol10 then vol09 else vol10

/-- From the label `try_again` up to the request. -/
def getBefore (s : State) (ret : Int) (value : BitVec 32) : State :=
  if ret < 0 then { s with point := .returned 1, acts := s.acts ++ [.print .getFailed] }
  else if value = 0 then
    { s with
      point := .returned 1
      volBefore := value
      acts := s.acts ++ [.get value, .print .unreadable] }
  else
    { s with
      point := .setVoltage
      volBefore := value
      toAdjust := target vol09 vol10 value
      acts := s.acts ++ [.get value, .print (.before value)] }

def setVoltage (s : State) (ret : Int) : State :=
  if ret < 0 then
    { s with
      point := .returned 1
      acts := s.acts ++ [.set s.toAdjust, .print (.setFailed s.toAdjust)] }
  else
    { s with
      point := .getAfter
      acts := s.acts ++
        [.set s.toAdjust,
          .system "echo 5000 > /sys/devices/platform/ocp/4200b600.timer/time_ms",
          .system "echo 1 > /sys/devices/platform/ocp/4200b600.timer/enable",
          .system "echo cg > /sys/power/state"] }

def getAfter (s : State) (ret : Int) (value : BitVec 32) : State :=
  if ret < 0 then { s with point := .returned 1, acts := s.acts ++ [.print .getFailed] }
  else if value ≠ s.volBefore then
    { s with
      point := .returned 0
      acts := s.acts ++ [.get value, .print (.adjusted value), .print .pass] }
  else { s with point := .getBefore, acts := s.acts ++ [.get value, .print .retry] }

def step (s : State) (event : Event) : Option State :=
  match s.point, event with
  | .frequency cpu, .command output => some (checkFrequency s cpu output)
  | .openDevice, .opened fd => some (openDevice s fd)
  | .getBefore, .get ret value => some (getBefore vol09 vol10 s ret value)
  | .setVoltage, .set ret => some (setVoltage s ret)
  | .getAfter, .get ret value => some (getAfter s ret value)
  | _, _ => none

end Constants

/-! ### The last reading and the last request -/

def Act.read : Act → Option (BitVec 32)
  | .get value => some value
  | _ => none

def Act.request : Act → Option (BitVec 32)
  | .set value => some value
  | _ => none

def lastRead (acts : List Act) : Option (BitVec 32) :=
  (acts.filterMap Act.read).getLast?

def lastRequest (acts : List Act) : Option (BitVec 32) :=
  (acts.filterMap Act.request).getLast?

theorem lastRead_append_get (acts : List Act) (value : BitVec 32) (message : Message) :
    lastRead (acts ++ [.get value, .print message, .print .pass]) = some value := by
  rw [lastRead, List.filterMap_append, List.getLast?_append]
  rfl

/-- What follows a request leaves it the last one. -/
theorem lastRequest_append {acts others : List Act} (none : others.filterMap Act.request = []) :
    lastRequest (acts ++ others) = lastRequest acts := by
  rw [lastRequest, List.filterMap_append, none, List.append_nil]
  rfl

theorem lastRequest_append_set (acts : List Act) (value : BitVec 32) {others : List Act}
    (none : others.filterMap Act.request = []) :
    lastRequest (acts ++ .set value :: others) = some value := by
  rw [lastRequest, List.filterMap_append, List.filterMap_cons, none, List.getLast?_append]
  rfl

theorem pass_not_mem_append {acts others : List Act} (quiet : .print .pass ∉ acts)
    (silent : others.contains (.print .pass) = false) : .print .pass ∉ acts ++ others := by
  rw [List.mem_append, not_or]
  refine ⟨quiet, ?_⟩
  rw [← List.contains_iff_mem, silent]
  exact Bool.false_ne_true

section Readings

variable {vol09 vol10 : BitVec 32}

/-- The second reading of a round repeats the first, or is one of the two voltages,
and the lower one only behind a first reading that is one of them. -/
def Admitted (vol09 vol10 volBefore value : BitVec 32) : Prop :=
  value = volBefore ∨ value = vol10 ∨ (value = vol09 ∧ (volBefore = vol09 ∨ volBefore = vol10))

/-- Of two different readings the second is the requested voltage exactly if it is
admitted. -/
theorem target_iff_admitted {volBefore value : BitVec 32} (different : value ≠ volBefore) :
    value = target vol09 vol10 volBefore ↔ Admitted vol09 vol10 volBefore value := by
  unfold target Admitted
  by_cases upper : volBefore = vol10
  · rw [if_pos upper]
    constructor
    · intro lower
      exact Or.inr (Or.inr ⟨lower, Or.inr upper⟩)
    · rintro (same | same | lower)
      · exact absurd same different
      · exact absurd (same.trans upper.symm) different
      · exact lower.1
  · rw [if_neg upper]
    constructor
    · intro requested
      exact Or.inr (Or.inl requested)
    · rintro (same | requested | ⟨lower, first | first⟩)
      · exact absurd same different
      · exact requested
      · exact absurd (lower.trans first.symm) different
      · exact absurd first upper

/-- A condition on the answers of a run: every second reading is admitted. -/
def Explained (vol09 vol10 : BitVec 32) (entry : State × Event) : Prop :=
  ∀ ret value, entry.1.point = .getAfter → entry.2 = .get ret value → 0 ≤ ret →
    Admitted vol09 vol10 entry.1.volBefore value

theorem explained_of_point {s : State} {event : Event} (other : s.point ≠ .getAfter) :
    Explained vol09 vol10 (s, event) :=
  fun _ _ here => absurd here other

/-- Before the message: the readings so far are admitted, and the request of the
round is the one that belongs to its first reading. -/
structure Waiting (vol09 vol10 : BitVec 32) (history : History State Event) (s : State) :
    Prop where
  quiet : .print .pass ∉ s.acts
  explained : ∀ entry ∈ history, Explained vol09 vol10 entry
  chosen : s.point = .setVoltage → s.toAdjust = target vol09 vol10 s.volBefore
  requested : s.point = .getAfter → lastRequest s.acts = some (target vol09 vol10 s.volBefore)

/-- Behind it: the readings of the last round differ, and the readings of the run are
admitted exactly if these two are. -/
def Passed (vol09 vol10 : BitVec 32) (history : History State Event) (s : State) : Prop :=
  ∃ volBefore value, s.point = .returned 0 ∧ .print .pass ∈ s.acts ∧ value ≠ volBefore ∧
    lastRead s.acts = some value ∧
    lastRequest s.acts = some (target vol09 vol10 volBefore) ∧
    ((∀ entry ∈ history, Explained vol09 vol10 entry) ↔ Admitted vol09 vol10 volBefore value)

variable {history : History State Event} {s : State}

/-- A step that leads neither into the request nor behind it and does not print the
message. -/
theorem Waiting.next {event : Event} {successor : State} {acts : List Act}
    (waiting : Waiting vol09 vol10 history s) (added : successor.acts = s.acts ++ acts)
    (silent : acts.contains (.print .pass) = false) (explained : Explained vol09 vol10 (s, event))
    (notChosen : successor.point ≠ .setVoltage) (notRequested : successor.point ≠ .getAfter) :
    Waiting vol09 vol10 ((s, event) :: history) successor where
  quiet := by
    rw [added]
    exact pass_not_mem_append waiting.quiet silent
  explained := List.forall_mem_cons.mpr ⟨explained, waiting.explained⟩
  chosen := fun here => absurd here notChosen
  requested := fun here => absurd here notRequested

theorem checkFrequency_waiting {cpu : Cpu} {output : CommandOutput}
    (waiting : Waiting vol09 vol10 history s) (here : s.point = .frequency cpu) :
    Waiting vol09 vol10 ((s, .command output) :: history) (checkFrequency s cpu output) := by
  have explained : Explained vol09 vol10 (s, .command output) :=
    explained_of_point (by rw [here]; exact nofun)
  unfold checkFrequency
  split
  · exact waiting.next rfl rfl explained nofun nofun
  · dsimp only
    split
    · refine waiting.next rfl rfl explained ?_ ?_
      · cases cpu <;> exact nofun
      · cases cpu <;> exact nofun
    · exact waiting.next rfl rfl explained nofun nofun

theorem openDevice_waiting {fd : Int} (waiting : Waiting vol09 vol10 history s)
    (here : s.point = .openDevice) :
    Waiting vol09 vol10 ((s, .opened fd) :: history) (openDevice s fd) := by
  have explained : Explained vol09 vol10 (s, .opened fd) :=
    explained_of_point (by rw [here]; exact nofun)
  unfold openDevice
  split
  · exact waiting.next rfl rfl explained nofun nofun
  · exact waiting.next (List.append_nil _).symm rfl explained nofun nofun

theorem getBefore_waiting {ret : Int} {value : BitVec 32}
    (waiting : Waiting vol09 vol10 history s) (here : s.point = .getBefore) :
    Waiting vol09 vol10 ((s, .get ret value) :: history) (getBefore vol09 vol10 s ret value) := by
  have explained : Explained vol09 vol10 (s, .get ret value) :=
    explained_of_point (by rw [here]; exact nofun)
  unfold getBefore
  split
  · exact waiting.next rfl rfl explained nofun nofun
  · split
    · exact waiting.next rfl rfl explained nofun nofun
    · exact
        { quiet := pass_not_mem_append waiting.quiet rfl
          explained := List.forall_mem_cons.mpr ⟨explained, waiting.explained⟩
          chosen := fun _ => rfl
          requested := nofun }

theorem setVoltage_waiting {ret : Int} (waiting : Waiting vol09 vol10 history s)
    (here : s.point = .setVoltage) :
    Waiting vol09 vol10 ((s, .set ret) :: history) (setVoltage s ret) := by
  have explained : Explained vol09 vol10 (s, .set ret) :=
    explained_of_point (by rw [here]; exact nofun)
  unfold setVoltage
  split
  · exact waiting.next rfl rfl explained nofun nofun
  · exact
      { quiet := pass_not_mem_append waiting.quiet rfl
        explained := List.forall_mem_cons.mpr ⟨explained, waiting.explained⟩
        chosen := nofun
        requested := fun _ =>
          (lastRequest_append_set _ _ rfl).trans (congrArg some (waiting.chosen here)) }

theorem getAfter_sound {ret : Int} {value : BitVec 32}
    (waiting : Waiting vol09 vol10 history s) (here : s.point = .getAfter) :
    Waiting vol09 vol10 ((s, .get ret value) :: history) (getAfter s ret value) ∨
      Passed vol09 vol10 ((s, .get ret value) :: history) (getAfter s ret value) := by
  unfold getAfter
  split
  · rename_i failed
    refine Or.inl (waiting.next rfl rfl ?_ nofun nofun)
    intro other _value _here same succeeded
    cases same
    exact absurd failed (Int.not_lt.mpr succeeded)
  · rename_i succeeded
    split
    · rename_i different
      refine Or.inr ⟨s.volBefore, value, rfl, ?_, different, lastRead_append_get _ _ _, ?_, ?_⟩
      · exact List.mem_append_right _ (List.mem_of_mem_tail (List.mem_of_mem_tail List.mem_cons_self))
      · exact (lastRequest_append rfl).trans (waiting.requested here)
      · rw [List.forall_mem_cons, and_iff_left waiting.explained]
        constructor
        · intro explained
          exact explained ret value here rfl (Int.not_lt.mp succeeded)
        · intro admitted other _value _here same _succeeded
          cases same
          exact admitted
    · rename_i same
      refine Or.inl (waiting.next rfl rfl ?_ nofun nofun)
      intro other _value _here event _succeeded
      cases event
      exact Or.inl (Classical.not_not.mp same)

theorem step_sound {event : Event} {successor : State}
    (waiting : Waiting vol09 vol10 history s)
    (taken : step vol09 vol10 s event = some successor) :
    Waiting vol09 vol10 ((s, event) :: history) successor ∨
      Passed vol09 vol10 ((s, event) :: history) successor := by
  unfold step at taken
  split at taken
  · cases taken
    exact Or.inl (checkFrequency_waiting waiting ‹_›)
  · cases taken
    exact Or.inl (openDevice_waiting waiting ‹_›)
  · cases taken
    exact Or.inl (getBefore_waiting waiting ‹_›)
  · cases taken
    exact Or.inl (setVoltage_waiting waiting ‹_›)
  · cases taken
    exact getAfter_sound waiting ‹_›
  · cases taken

theorem run_sound (run : Run (step vol09 vol10) start history s) :
    Waiting vol09 vol10 history s ∨ Passed vol09 vol10 history s := by
  induction run with
  | start =>
      exact Or.inl
        { quiet := by decide
          explained := nofun
          chosen := nofun
          requested := nofun }
  | next _earlier taken ih =>
      rcases ih with waiting | ⟨_volBefore, _value, returned, _passed⟩
      · exact step_sound waiting taken
      · unfold step at taken
        rw [returned] at taken
        cases taken

/-- In every run, the message is printed only behind a reading of the voltage last
requested, if and only if every second reading of the run is admitted. -/
theorem pass_only_on_request_iff (run : Run (step vol09 vol10) start history s) :
    (.print .pass ∈ s.acts → lastRead s.acts = lastRequest s.acts) ↔
      ∀ entry ∈ history, Explained vol09 vol10 entry := by
  rcases run_sound run with waiting | passed
  · constructor
    · intro _only
      exact waiting.explained
    · intro _explained printed
      exact absurd printed waiting.quiet
  · obtain ⟨volBefore, value, _returned, printed, different, read, request, admitted⟩ := passed
    rw [admitted, ← target_iff_admitted different, read, request, Option.some.injEq]
    constructor
    · intro only
      exact only printed
    · intro same _printed
      exact same

end Readings

/-- Both cores run at 660000 kHz, and the device opens. -/
def prepared : List Event :=
  [.command (.line [54, 54, 48, 48, 48, 48, 10]), .command (.line [54, 54, 48, 48, 48, 48, 10]),
    .opened 3]

/-- With 1 for 0.9 V and 2 for 1.0 V: a round without effect and one that raises the
voltage. -/
theorem pass_behind_retry :
    ∃ history s, Run (step 1 2) start history s ∧ .print .pass ∈ s.acts ∧
      lastRead s.acts = some 2 ∧ ∀ entry ∈ history, Explained 1 2 entry := by
  have reached : ∃ s, execute (step 1 2) start
      (prepared ++ [.get 0 1, .set 0, .get 0 1, .get 0 1, .set 0, .get 0 2]) = some s ∧
      .print .pass ∈ s.acts ∧ lastRead s.acts = some 2 ∧ lastRequest s.acts = some 2 :=
    ⟨_, rfl, by decide, rfl, rfl⟩
  obtain ⟨s, reached, printed, read, request⟩ := reached
  obtain ⟨history, run, _events⟩ := Run.of_execute reached
  refine ⟨history, s, run, printed, read, (pass_only_on_request_iff run).mp ?_⟩
  intro _printed
  rw [read, request]

/-- The voltage was 1.0 V, 0.9 V is requested, and the second reading is the 0 that
the program takes for unreadable in the first one. -/
theorem pass_on_unreadable_voltage :
    ∃ history s, Run (step 1 2) start history s ∧ .print .pass ∈ s.acts ∧
      lastRead s.acts = some 0 ∧ lastRequest s.acts = some 1 := by
  have reached : ∃ s, execute (step 1 2) start
      (prepared ++ [.get 0 2, .set 0, .get 0 0]) = some s ∧
      .print .pass ∈ s.acts ∧ lastRead s.acts = some 0 ∧ lastRequest s.acts = some 1 :=
    ⟨_, rfl, by decide, rfl, rfl⟩
  obtain ⟨s, reached, printed, read, request⟩ := reached
  obtain ⟨history, run, _events⟩ := Run.of_execute reached
  exact ⟨history, s, run, printed, read, request⟩

end AmebaTests.Pm.Voltage
