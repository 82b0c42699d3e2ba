/-
`rtk_pwm_test` on the PWM sysfs class.

The class is modelled as the kernel implements it: a channel has one owner, a
setting with a zero period or a duty cycle above the period is rejected, and the
settings of a channel outlive its owner.  Any operation may be made to fail
besides.  The program has one error exit for each of its eleven operations, and
none of them undoes what came before.
-/

import AmebaTests.Foundation.Stages
import Mathlib.Logic.Function.Basic

namespace AmebaTests.Pwm

open Foundation

structure Channel where
  exported : Bool
  enabled : Bool
  period : Int
  dutyCycle : Int
  deriving DecidableEq, Repr

structure Chip where
  npwm : Nat
  channel : Int → Channel

def boot (npwm : Nat) : Chip where
  npwm := npwm
  channel := fun _ => { exported := false, enabled := false, period := 0, dutyCycle := 0 }

/-- The numbers `atoi` reads from the command line. -/
structure Arguments where
  ch : Int
  periodInNs : Int
  dutyCycleInNs : Int
  deriving DecidableEq, Repr

inductive Operation
  | openExport
  | writeExport
  | openPeriod
  | openDutyCycle
  | openEnable
  | writePeriod
  | writeDutyCycle
  | writeEnable
  | writeDisable
  | openUnexport
  | writeUnexport
  deriving DecidableEq, Repr

def accepts (period dutyCycle : Int) : Prop :=
  period ≠ 0 ∧ dutyCycle ≤ period

instance (period dutyCycle : Int) : Decidable (accepts period dutyCycle) :=
  inferInstanceAs (Decidable (_ ∧ _))

/-- The effect on the channel of the run, unless the kernel rejects it.  A number
with a sign is not an unsigned integer, and the nodes of a channel are there
while it is exported. -/
def Operation.apply (npwm : Nat) (arguments : Arguments) (channel : Channel) :
    Operation → Option Channel
  | .openExport => some channel
  | .writeExport =>
      if 0 ≤ arguments.ch ∧ arguments.ch < npwm ∧ channel.exported = false then
        some { channel with exported := true }
      else none
  | .openPeriod | .openDutyCycle | .openEnable =>
      if channel.exported = true then some channel else none
  | .writePeriod =>
      if 0 ≤ arguments.periodInNs ∧ accepts arguments.periodInNs channel.dutyCycle then
        some { channel with period := arguments.periodInNs }
      else none
  | .writeDutyCycle =>
      if 0 ≤ arguments.dutyCycleInNs ∧ accepts channel.period arguments.dutyCycleInNs then
        some { channel with dutyCycle := arguments.dutyCycleInNs }
      else none
  | .writeEnable =>
      if accepts channel.period channel.dutyCycle then some { channel with enabled := true }
      else none
  | .writeDisable =>
      if accepts channel.period channel.dutyCycle then some { channel with enabled := false }
      else none
  | .openUnexport => some channel
  | .writeUnexport =>
      if channel.exported = true then some { channel with exported := false } else none

/-- What the program prints before an operation. -/
def Operation.announce (arguments : Arguments) : Operation → List String
  | .openExport => ["Open PWM sysfs node\n"]
  | .writeExport => ["Create PWM" ++ toString arguments.ch ++ " sysfs nodes\n"]
  | .openPeriod => []
  | .openDutyCycle => []
  | .openEnable => []
  | .writePeriod => ["Set period to " ++ toString arguments.periodInNs ++ "ns\n"]
  | .writeDutyCycle =>
      ["Set duty cycle to " ++ toString arguments.dutyCycleInNs ++ "ns/" ++
        toString arguments.periodInNs ++ "ns\n"]
  | .writeEnable => ["Enable PWM" ++ toString arguments.ch ++ "\n"]
  | .writeDisable =>
      ["Please check the PWM" ++ toString arguments.ch ++ " output via LA\n",
        "Stop PWM" ++ toString arguments.ch ++ " output\n",
        "Disable PWM" ++ toString arguments.ch ++ "\n"]
  | .openUnexport => []
  | .writeUnexport => ["Delete PWM" ++ toString arguments.ch ++ " sysfs nodes\n"]

/-- What it prints if the operation fails, with -1 as the result of a failed write. -/
def Operation.failure (arguments : Arguments) : Operation → List String
  | .openExport => ["Failed to open pwm device node\n"]
  | .writeExport => ["Failed to creat PWM" ++ toString arguments.ch ++ " node\n"]
  | .openPeriod => ["Failed to open PWM" ++ toString arguments.ch ++ " period node\n"]
  | .openDutyCycle => ["Failed to open PWM" ++ toString arguments.ch ++ " duty_cycle node\n"]
  | .openEnable => ["Failed to open PWM" ++ toString arguments.ch ++ " enable node\n"]
  | .writePeriod => ["Failed to set period: -1\n"]
  | .writeDutyCycle => ["Failed to set duty_cycle: -1\n"]
  | .writeEnable => ["Failed to enable PWM: -1\n"]
  | .writeDisable => ["Failed to disable PWM: -1\n"]
  | .openUnexport => ["Failed to open pwm device node\n"]
  | .writeUnexport => ["Failed to delete PWM" ++ toString arguments.ch ++ " node\n"]

def Operation.stage (npwm : Nat) (arguments : Arguments) (faulty : Operation → Bool)
    (operation : Operation) : Stage Channel String where
  announce := operation.announce arguments
  operate := fun channel =>
    if faulty operation then none else operation.apply npwm arguments channel
  failure := operation.failure arguments

/-- The operations between the opened export node and the last one. -/
def whileExported : List Operation :=
  [.openPeriod, .openDutyCycle, .openEnable, .writePeriod, .writeDutyCycle, .writeEnable,
    .writeDisable, .openUnexport]

def operations : List Operation :=
  .openExport :: .writeExport :: (whileExported ++ [.writeUnexport])

/-- A call of the program: without its three arguments, or with them and with the
operations that are made to fail. -/
inductive Invocation
  | tooFew
  | given (arguments : Arguments) (faulty : Operation → Bool)

structure Exited where
  chip : Chip
  printed : List String
  code : Int

def main (chip : Chip) : Invocation → Exited
  | .tooFew =>
      { chip := chip
        printed := ["Invalid arguments\n",
          "Usage: rtk_pwm_test <channel(0~5)> <period_in_ns> <duty_cycle_in_ns>\n"]
        code := 1 }
  | .given arguments faulty =>
      let ended := runStages (operations.map (Operation.stage chip.npwm arguments faulty))
        (chip.channel arguments.ch)
      { chip := { chip with channel := Function.update chip.channel arguments.ch ended.state }
        printed := ended.lines ++ if ended.completed then ["PWM test done\n"] else []
        code := if ended.completed then 0 else -1 }

def afterRuns (chip : Chip) : List Invocation → Chip
  | [] => chip
  | invocation :: rest => afterRuns (main chip invocation).chip rest

/-- A property of every run of a sequence, each from the state it finds. -/
def EveryRun (holds : Chip → Invocation → Prop) : Chip → List Invocation → Prop
  | _, [] => True
  | chip, invocation :: rest =>
      holds chip invocation ∧ EveryRun holds (main chip invocation).chip rest

/-! ### One run -/

def StopsBeforeExport (npwm : Nat) (arguments : Arguments) (faulty : Operation → Bool) : Prop :=
  faulty .openExport = true ∨ faulty .writeExport = true ∨
    ¬ (0 ≤ arguments.ch ∧ arguments.ch < npwm)

/-- A run that does not get as far as the export, or one that nothing stops.  The
duty cycle the channel was left with must not exceed the new period either. -/
def Harmless (chip : Chip) : Invocation → Prop
  | .tooFew => True
  | .given arguments faulty =>
      StopsBeforeExport chip.npwm arguments faulty ∨
      ((∀ operation, faulty operation = false) ∧ 0 < arguments.periodInNs ∧
        0 ≤ arguments.dutyCycleInNs ∧ arguments.dutyCycleInNs ≤ arguments.periodInNs ∧
        (chip.channel arguments.ch).dutyCycle ≤ arguments.periodInNs)

/-- The run leaves its channel disabled and unexported. -/
def LeavesClean (chip : Chip) : Invocation → Prop
  | .tooFew => True
  | .given arguments faulty =>
      let left := (main chip (.given arguments faulty)).chip.channel arguments.ch
      left.exported = false ∧ left.enabled = false

theorem stage_operate {npwm : Nat} {arguments : Arguments} {faulty : Operation → Bool}
    {operation : Operation} {channel next : Channel} :
    (operation.stage npwm arguments faulty).operate channel = some next ↔
      faulty operation = false ∧ operation.apply npwm arguments channel = some next :=
  disturbed_eq_some

theorem apply_exported {npwm : Nat} {arguments : Arguments} {operation : Operation}
    {channel next : Channel} (other : operation ≠ .writeUnexport)
    (applied : operation.apply npwm arguments channel = some next)
    (exported : channel.exported = true) : next.exported = true := by
  cases operation <;> simp only [Operation.apply, Option.ite_none_right_eq_some,
    Option.some.injEq] at applied
  case writeUnexport => exact absurd rfl other
  case openExport => exact applied ▸ exported
  case openUnexport => exact applied ▸ exported
  case writeExport => exact applied.2 ▸ rfl
  all_goals exact applied.2 ▸ exported

theorem whileExported_completes {npwm : Nat} {arguments : Arguments} {faulty : Operation → Bool}
    {channel final : Channel} (exported : channel.exported = true) :
    Completes (whileExported.map (Operation.stage npwm arguments faulty)) channel final ↔
      (∀ operation ∈ whileExported, faulty operation = false) ∧
        (0 < arguments.periodInNs ∧ channel.dutyCycle ≤ arguments.periodInNs) ∧
        (0 ≤ arguments.dutyCycleInNs ∧ arguments.dutyCycleInNs ≤ arguments.periodInNs) ∧
        final = { exported := true, enabled := false, period := arguments.periodInNs,
                  dutyCycle := arguments.dutyCycleInNs } := by
  simp only [whileExported, List.map_cons, List.map_nil, completes_cons, completes_nil,
    stage_operate, Operation.apply, Option.ite_none_right_eq_some, Option.some.injEq, exported,
    true_and, List.forall_mem_cons]
  unfold accepts
  constructor
  · intro completes
    obtain ⟨_, ⟨openPeriod, rfl⟩, _, ⟨openDuty, _, rfl⟩, _, ⟨openEnable, _, rfl⟩,
      _, ⟨writePeriod, period, rfl⟩, _, ⟨writeDuty, duty, rfl⟩, _, ⟨writeEnable, _, rfl⟩,
      _, ⟨writeDisable, _, rfl⟩, _, ⟨openUnexport, rfl⟩, rfl⟩ := completes
    obtain ⟨notNegative, notZero, leftOver⟩ := period
    have positive : 0 < arguments.periodInNs := by omega
    refine ⟨⟨openPeriod, openDuty, openEnable, writePeriod, writeDuty, writeEnable, writeDisable,
      openUnexport, ?_⟩, ⟨positive, leftOver⟩, ⟨duty.1, duty.2.2⟩, ?_⟩
    · intro operation member
      exact absurd member List.not_mem_nil
    · rw [exported]
  · intro condition
    obtain ⟨⟨openPeriod, openDuty, openEnable, writePeriod, writeDuty, writeEnable, writeDisable,
      openUnexport, _⟩, ⟨positive, leftOver⟩, ⟨notNegative, below⟩, rfl⟩ := condition
    have notZero : arguments.periodInNs ≠ 0 := by omega
    have nonnegative : 0 ≤ arguments.periodInNs := by omega
    refine ⟨_, ⟨openPeriod, rfl⟩, _, ⟨openDuty, exported, rfl⟩, _, ⟨openEnable, exported, rfl⟩,
      _, ⟨writePeriod, ⟨nonnegative, notZero, leftOver⟩, rfl⟩,
      _, ⟨writeDuty, ⟨notNegative, notZero, below⟩, rfl⟩, _, ⟨writeEnable, ⟨notZero, below⟩, rfl⟩,
      _, ⟨writeDisable, ⟨notZero, below⟩, rfl⟩, _, ⟨openUnexport, rfl⟩, ?_⟩
    rw [exported]

/-- Nothing happens to a channel that the run does not export. -/
theorem run_not_exported {npwm : Nat} {arguments : Arguments} {faulty : Operation → Bool}
    (stopped : StopsBeforeExport npwm arguments faulty) (channel : Channel) :
    (runStages (operations.map (Operation.stage npwm arguments faulty)) channel).state =
      channel := by
  rw [operations, List.map_cons, List.map_cons]
  cases opened : faulty .openExport with
  | true =>
      have failed : (Operation.openExport.stage npwm arguments faulty).operate channel = none := by
        simp [Operation.stage, opened]
      rw [runStages_of_failure failed]
  | false =>
      have succeeded : (Operation.openExport.stage npwm arguments faulty).operate channel =
          some channel := stage_operate.mpr ⟨opened, rfl⟩
      have failed : (Operation.writeExport.stage npwm arguments faulty).operate channel =
          none := by
        rw [Option.eq_none_iff_forall_ne_some]
        intro next operated
        obtain ⟨written, applied⟩ := stage_operate.mp operated
        rw [Operation.apply, Option.ite_none_right_eq_some] at applied
        rcases stopped with fault | fault | absent
        · rw [opened] at fault
          cases fault
        · rw [written] at fault
          cases fault
        · exact absent ⟨applied.1.1, applied.1.2.1⟩
      rw [runStages_of_success succeeded, runStages_of_failure failed]

theorem exports_of_not_stopped {npwm : Nat} {arguments : Arguments} {faulty : Operation → Bool}
    (goes : ¬ StopsBeforeExport npwm arguments faulty) :
    faulty .openExport = false ∧ faulty .writeExport = false ∧
      (0 ≤ arguments.ch ∧ arguments.ch < npwm) := by
  unfold StopsBeforeExport at goes
  rw [not_or, not_or, not_not, Bool.not_eq_true, Bool.not_eq_true] at goes
  exact goes

theorem exporting {npwm : Nat} {arguments : Arguments} {faulty : Operation → Bool}
    {channel : Channel} (unexported : channel.exported = false)
    (written : faulty .writeExport = false) (present : 0 ≤ arguments.ch ∧ arguments.ch < npwm) :
    (Operation.writeExport.stage npwm arguments faulty).operate channel =
      some { channel with exported := true } := by
  apply stage_operate.mpr
  exact ⟨written, if_pos ⟨present.1, present.2, unexported⟩⟩

theorem run_completes {npwm : Nat} {arguments : Arguments} {faulty : Operation → Bool}
    {channel final : Channel} (unexported : channel.exported = false) :
    Completes (operations.map (Operation.stage npwm arguments faulty)) channel final ↔
      (0 ≤ arguments.ch ∧ arguments.ch < npwm) ∧ (∀ operation, faulty operation = false) ∧
        (0 < arguments.periodInNs ∧ channel.dutyCycle ≤ arguments.periodInNs) ∧
        (0 ≤ arguments.dutyCycleInNs ∧ arguments.dutyCycleInNs ≤ arguments.periodInNs) ∧
        final = { exported := false, enabled := false, period := arguments.periodInNs,
                  dutyCycle := arguments.dutyCycleInNs } := by
  rw [operations, List.map_cons, List.map_cons, List.map_append, completes_cons]
  simp only [completes_cons, completes_append, List.map_cons, List.map_nil, completes_nil,
    stage_operate]
  constructor
  · intro completes
    obtain ⟨_, ⟨openExport, same⟩, _, ⟨writeExport, applied⟩, _, during, _,
      ⟨writeUnexport, released⟩, rfl⟩ := completes
    cases same
    rw [Operation.apply, Option.ite_none_right_eq_some] at applied
    obtain ⟨present, same⟩ := applied
    cases same
    rw [whileExported_completes rfl] at during
    obtain ⟨quiet, period, duty, rfl⟩ := during
    cases released
    refine ⟨⟨present.1, present.2.1⟩, ?_, period, duty, rfl⟩
    intro operation
    cases operation
    case openExport => exact openExport
    case writeExport => exact writeExport
    case writeUnexport => exact writeUnexport
    all_goals exact quiet _ (by decide)
  · intro condition
    obtain ⟨present, quiet, period, duty, rfl⟩ := condition
    refine ⟨channel, ⟨quiet _, rfl⟩, { channel with exported := true }, ⟨quiet _, ?_⟩,
      { exported := true, enabled := false, period := arguments.periodInNs,
        dutyCycle := arguments.dutyCycleInNs }, ?_, _, ⟨quiet _, rfl⟩, rfl⟩
    · exact if_pos ⟨present.1, present.2, unexported⟩
    · rw [whileExported_completes rfl]
      exact ⟨fun operation _member => quiet operation, period, duty, rfl⟩

theorem whileExported_keeps (npwm : Nat) (arguments : Arguments) (faulty : Operation → Bool) :
    ∀ stage ∈ whileExported.map (Operation.stage npwm arguments faulty),
      ∀ channel next : Channel, channel.exported = true →
        stage.operate channel = some next → next.exported = true := by
  intro stage member channel next exported operated
  obtain ⟨operation, listed, rfl⟩ := List.mem_map.mp member
  have other : operation ≠ .writeUnexport := by
    intro same
    rw [same] at listed
    exact absurd listed (by decide)
  exact apply_exported other (stage_operate.mp operated).2 exported

/-- A run that has exported its channel leaves it exported unless it completes. -/
theorem completes_of_unexported {npwm : Nat} {arguments : Arguments} {faulty : Operation → Bool}
    {channel : Channel} (unexported : channel.exported = false)
    (opened : faulty .openExport = false) (written : faulty .writeExport = false)
    (present : 0 ≤ arguments.ch ∧ arguments.ch < npwm)
    (released : (runStages (operations.map (Operation.stage npwm arguments faulty))
      channel).state.exported = false) :
    ∃ final, Completes (operations.map (Operation.stage npwm arguments faulty)) channel final := by
  have openNode : (Operation.openExport.stage npwm arguments faulty).operate channel =
      some channel := stage_operate.mpr ⟨opened, rfl⟩
  have create := exporting unexported written present
  rw [operations, List.map_cons, List.map_cons, List.map_append, runStages_of_success openNode,
    runStages_of_success create] at released
  obtain ⟨final, completes⟩ := completes_of_lost (fun channel : Channel => channel.exported = true)
    (whileExported_keeps npwm arguments faulty) rfl (Bool.not_eq_true _ ▸ released)
  refine ⟨final, ?_⟩
  rw [operations, List.map_cons, List.map_cons, List.map_append, completes_cons]
  exact ⟨_, openNode, (completes_cons _ _ _ _).mpr ⟨_, create, completes⟩⟩

theorem main_channel (chip : Chip) (arguments : Arguments) (faulty : Operation → Bool) :
    (main chip (.given arguments faulty)).chip.channel arguments.ch =
      (runStages (operations.map (Operation.stage chip.npwm arguments faulty))
        (chip.channel arguments.ch)).state :=
  Function.update_self _ _ _

def Idle (chip : Chip) : Prop :=
  ∀ ch, (chip.channel ch).exported = false ∧ (chip.channel ch).enabled = false

theorem leavesClean_iff_harmless {chip : Chip} (idle : Idle chip) (invocation : Invocation) :
    LeavesClean chip invocation ↔ Harmless chip invocation := by
  cases invocation with
  | tooFew => exact Iff.rfl
  | given arguments faulty =>
      have before := idle arguments.ch
      unfold LeavesClean Harmless
      dsimp only
      rw [main_channel]
      by_cases stopped : StopsBeforeExport chip.npwm arguments faulty
      · rw [run_not_exported stopped]
        exact ⟨fun _clean => Or.inl stopped, fun _harmless => before⟩
      · obtain ⟨opened, written, present⟩ := exports_of_not_stopped stopped
        constructor
        · intro clean
          obtain ⟨final, completes⟩ :=
            completes_of_unexported before.1 opened written present clean.1
          obtain ⟨_present, quiet, period, duty, _final⟩ := (run_completes before.1).mp completes
          exact Or.inr ⟨quiet, period.1, duty.1, duty.2, period.2⟩
        · intro harmless
          rcases harmless with impossible | ⟨quiet, positive, notNegative, below, leftOver⟩
          · exact absurd impossible stopped
          · have completes := (run_completes before.1).mpr
              ⟨present, quiet, ⟨positive, leftOver⟩, ⟨notNegative, below⟩, rfl⟩
            rw [completes.2]
            exact ⟨rfl, rfl⟩

theorem idle_main {chip : Chip} (idle : Idle chip) {invocation : Invocation}
    (clean : LeavesClean chip invocation) : Idle (main chip invocation).chip := by
  cases invocation with
  | tooFew => exact idle
  | given arguments faulty =>
      intro ch
      by_cases same : ch = arguments.ch
      · rw [same]
        exact clean
      · have untouched : (main chip (.given arguments faulty)).chip.channel ch =
            chip.channel ch := Function.update_of_ne same _ _
        rw [untouched]
        exact idle ch

/-! ### Sequences of runs -/

theorem everyRun_clean_iff {chip : Chip} (idle : Idle chip) (runs : List Invocation) :
    EveryRun LeavesClean chip runs ↔ EveryRun Harmless chip runs := by
  induction runs generalizing chip with
  | nil => exact Iff.rfl
  | cons invocation rest ih =>
      unfold EveryRun
      rw [leavesClean_iff_harmless idle]
      constructor
      · intro holds
        have clean := (leavesClean_iff_harmless idle invocation).mpr holds.1
        exact ⟨holds.1, (ih (idle_main idle clean)).mp holds.2⟩
      · intro holds
        have clean := (leavesClean_iff_harmless idle invocation).mpr holds.1
        exact ⟨holds.1, (ih (idle_main idle clean)).mpr holds.2⟩

theorem idle_afterRuns {chip : Chip} (idle : Idle chip) {runs : List Invocation}
    (clean : EveryRun LeavesClean chip runs) : Idle (afterRuns chip runs) := by
  induction runs generalizing chip with
  | nil => exact idle
  | cons invocation rest ih => exact ih (idle_main idle clean.1) clean.2

theorem npwm_afterRuns (chip : Chip) (runs : List Invocation) :
    (afterRuns chip runs).npwm = chip.npwm := by
  induction runs generalizing chip with
  | nil => rfl
  | cons invocation rest ih =>
      rw [afterRuns, ih]
      cases invocation with
      | tooFew => rfl
      | given arguments faulty => rfl

theorem idle_boot (npwm : Nat) : Idle (boot npwm) :=
  fun _ => ⟨rfl, rfl⟩

/-- An existing channel and a duty cycle above zero and within the period. -/
def Valid (npwm : Nat) (arguments : Arguments) : Prop :=
  (0 ≤ arguments.ch ∧ arguments.ch < npwm) ∧
    0 < arguments.dutyCycleInNs ∧ arguments.dutyCycleInNs ≤ arguments.periodInNs

/-- A call on which no operation is made to fail. -/
def undisturbed (arguments : Arguments) : Invocation :=
  .given arguments fun _ => false

/-- The run prints and returns the same as after a boot, and leaves its channel
in the same state. -/
def BehavesAsBooted (chip : Chip) (arguments : Arguments) : Prop :=
  let here := main chip (undisturbed arguments)
  let booted := main (boot chip.npwm) (undisturbed arguments)
  here.printed = booted.printed ∧ here.code = booted.code ∧
    here.chip.channel arguments.ch = booted.chip.channel arguments.ch

theorem main_of_completes (chip : Chip) (arguments : Arguments) (faulty : Operation → Bool)
    {final : Channel}
    (completes : Completes (operations.map (Operation.stage chip.npwm arguments faulty))
      (chip.channel arguments.ch) final) :
    (main chip (.given arguments faulty)).code = 0 ∧
      (main chip (.given arguments faulty)).printed =
        operations.flatMap (Operation.announce arguments) ++ ["PWM test done\n"] ∧
      (main chip (.given arguments faulty)).chip.channel arguments.ch = final := by
  have lines := lines_of_completes completes
  rw [List.flatMap_map] at lines
  refine ⟨?_, ?_, ?_⟩
  · exact if_pos completes.1
  · change _ ++ (if _ then _ else _) = _
    rw [if_pos completes.1, lines]
    rfl
  · rw [main_channel]
    exact completes.2

theorem completes_of_code {chip : Chip} {arguments : Arguments} {faulty : Operation → Bool}
    (zero : (main chip (.given arguments faulty)).code = 0) :
    ∃ final, Completes (operations.map (Operation.stage chip.npwm arguments faulty))
      (chip.channel arguments.ch) final := by
  refine ⟨_, ?_, rfl⟩
  by_contra stopped
  have code : (main chip (.given arguments faulty)).code = -1 := if_neg stopped
  rw [code] at zero
  cases zero

theorem behavesAsBooted_iff {chip : Chip} (idle : Idle chip) {arguments : Arguments}
    (valid : Valid chip.npwm arguments) :
    BehavesAsBooted chip arguments ↔
      (chip.channel arguments.ch).dutyCycle ≤ arguments.periodInNs := by
  obtain ⟨present, positive, below⟩ := valid
  have period : 0 < arguments.periodInNs := by omega
  have notNegative : 0 ≤ arguments.dutyCycleInNs := by omega
  have bootPeriod : 0 ≤ arguments.periodInNs := by omega
  have booted := (run_completes (idle_boot chip.npwm arguments.ch).1).mpr
    ⟨present, fun _ => rfl, ⟨period, bootPeriod⟩, ⟨notNegative, below⟩, rfl⟩
  obtain ⟨bootCode, bootPrinted, bootChannel⟩ := main_of_completes (boot chip.npwm) _ _ booted
  constructor
  · intro same
    have code : (main chip (undisturbed arguments)).code = 0 := same.2.1.trans bootCode
    obtain ⟨final, completes⟩ := completes_of_code code
    exact ((run_completes (idle arguments.ch).1).mp completes).2.2.1.2
  · intro leftOver
    have completes := (run_completes (idle arguments.ch).1).mpr
      ⟨present, fun _ => rfl, ⟨period, leftOver⟩, ⟨notNegative, below⟩, rfl⟩
    obtain ⟨code, printed, channel⟩ := main_of_completes chip _ _ completes
    exact ⟨printed.trans bootPrinted.symm, code.trans bootCode.symm,
      channel.trans bootChannel.symm⟩

/-- After any sequence of runs on a booted system: all of them have left their
channel disabled and unexported and a valid run behaves as after the boot,
exactly when each of them stopped before its export or completed, and the duty
cycle they have left on the channel is not above the new period. -/
theorem runs_leave_no_trace_iff (npwm : Nat) (earlier : List Invocation) (arguments : Arguments)
    (valid : Valid npwm arguments) :
    (EveryRun LeavesClean (boot npwm) earlier ∧
        BehavesAsBooted (afterRuns (boot npwm) earlier) arguments) ↔
      (EveryRun Harmless (boot npwm) earlier ∧
        ((afterRuns (boot npwm) earlier).channel arguments.ch).dutyCycle ≤
          arguments.periodInNs) := by
  have sameSize := npwm_afterRuns (boot npwm) earlier
  have validHere : Valid (afterRuns (boot npwm) earlier).npwm arguments := by
    rw [sameSize]
    exact valid
  rw [← everyRun_clean_iff (idle_boot npwm)]
  constructor
  · intro holds
    have idle := idle_afterRuns (idle_boot npwm) holds.1
    exact ⟨holds.1, (behavesAsBooted_iff idle validHere).mp holds.2⟩
  · intro holds
    have idle := idle_afterRuns (idle_boot npwm) holds.1
    exact ⟨holds.1, (behavesAsBooted_iff idle validHere).mpr holds.2⟩

theorem runs_leave_no_trace_one_run :
    Valid 6 ⟨3, 20000000, 8000000⟩ ∧
      ((EveryRun LeavesClean (boot 6) [undisturbed ⟨3, 20000000, 10000000⟩] ∧
        BehavesAsBooted (afterRuns (boot 6) [undisturbed ⟨3, 20000000, 10000000⟩])
          ⟨3, 20000000, 8000000⟩) ↔
      (EveryRun Harmless (boot 6) [undisturbed ⟨3, 20000000, 10000000⟩] ∧
        ((afterRuns (boot 6) [undisturbed ⟨3, 20000000, 10000000⟩]).channel 3).dutyCycle ≤
          20000000)) := by
  have valid : Valid 6 ⟨3, 20000000, 8000000⟩ := by
    unfold Valid
    decide
  exact ⟨valid, runs_leave_no_trace_iff 6 _ ⟨3, 20000000, 8000000⟩ valid⟩

/-- A duty cycle above the period ends the first run with its channel exported,
and the valid run that follows cannot export it again. -/
theorem rejected_duty_blocks_next_run :
    Valid 6 ⟨3, 20000000, 8000000⟩ ∧
      ¬ LeavesClean (boot 6) (undisturbed ⟨3, 1000, 2000⟩) ∧
      (main (afterRuns (boot 6) [undisturbed ⟨3, 1000, 2000⟩])
        (undisturbed ⟨3, 20000000, 8000000⟩)).code = -1 ∧
      (main (boot 6) (undisturbed ⟨3, 20000000, 8000000⟩)).code = 0 := by
  refine ⟨?_, ?_, ?_, ?_⟩
  · unfold Valid
    decide
  · intro clean
    have exported : ((main (boot 6) (undisturbed ⟨3, 1000, 2000⟩)).chip.channel 3).exported =
        true := by decide
    have unexported : ((main (boot 6) (undisturbed ⟨3, 1000, 2000⟩)).chip.channel 3).exported =
        false := clean.1
    rw [exported] at unexported
    cases unexported
  · decide
  · decide

end AmebaTests.Pwm
