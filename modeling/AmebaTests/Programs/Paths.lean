/-
The arrays that four of the programs format their device paths into.

`sprintf` stores a text of any size with its terminator.  What a call of a program
may store depends on how far it gets, so the texts of a command line are those of
all its runs.
-/

import AmebaTests.Adc.Reading
import AmebaTests.Gpio.Sysfs
import AmebaTests.Pwm.Sysfs

namespace AmebaTests.Programs

open Foundation

/-- A text that `sprintf` stores, with the size of its array. -/
structure Stored where
  capacity : Nat
  text : String
  deriving DecidableEq

def Stored.Fits (stored : Stored) : Prop :=
  stored.text.utf8ByteSize + 1 ≤ stored.capacity

instance (stored : Stored) : Decidable stored.Fits :=
  inferInstanceAs (Decidable (_ ≤ _))

theorem fits_iff (capacity : Nat) (text : String) :
    (Stored.mk capacity text).Fits ↔ text.utf8ByteSize + 1 ≤ capacity :=
  Iff.rfl

/-! ### `rtk_adc_test` -/

def adcSprintf : Adc.Line → Option Stored
  | .sprintf capacity text => some { capacity := capacity, text := text }
  | _ => none

/-- The texts in `dev_name`. -/
def adcStored (arguments : List (List UInt8)) (host : Adc.Host) (memory : List UInt8) :
    List Stored :=
  (Adc.main arguments host memory).lines.filterMap adcSprintf

/-! ### `rtk_uart_test` -/

/-- What `getopt` finds: the option `-P` with its argument, or anything else. -/
inductive UartOption
  | port (optarg : List UInt8)
  | unknown

/-- The port that the options leave; an unknown one ends the program. -/
def selectPort (port : Int) : List UartOption → Option Int
  | [] => some port
  | .port optarg :: rest => selectPort (atoi optarg) rest
  | .unknown :: _ => none

/-- The text in `uart`. -/
def uartStored (options : List UartOption) : List Stored :=
  match selectPort 2 options with
  | none => []
  | some port => [{ capacity := 13, text := "/dev/ttyRTK" ++ toString port }]

/-! ### `rtk_pwm_test` -/

def pwmArguments : List (List UInt8) → Option Pwm.Arguments
  | ch :: periodInNs :: dutyCycleInNs :: _ =>
      some { ch := atoi ch, periodInNs := atoi periodInNs, dutyCycleInNs := atoi dutyCycleInNs }
  | _ => none

def pwmNode (ch : Int) (attr : String) : String :=
  "/sys/class/pwm/pwmchip0/pwm" ++ toString ch ++ attr

/-- The texts that `buf` is given before an operation. -/
def pwmSprintf (arguments : Pwm.Arguments) : Pwm.Operation → List String
  | .writeExport | .writeUnexport => [toString arguments.ch]
  | .openPeriod => [pwmNode arguments.ch "/period"]
  | .openDutyCycle => [pwmNode arguments.ch "/duty_cycle"]
  | .openEnable => [pwmNode arguments.ch "/enable"]
  | .writePeriod => [toString arguments.periodInNs]
  | .writeDutyCycle => [toString arguments.dutyCycleInNs]
  | .openExport | .writeEnable | .writeDisable | .openUnexport => []

def pwmStage (npwm : Nat) (arguments : Pwm.Arguments) (faulty : Pwm.Operation → Bool)
    (operation : Pwm.Operation) : Stage Pwm.Channel Stored :=
  (operation.stage npwm arguments faulty).relabel
    ((pwmSprintf arguments operation).map fun text => { capacity := 64, text := text })

/-- The texts in `buf`. -/
def pwmStored (arguments : List (List UInt8)) (chip : Pwm.Chip) (faulty : Pwm.Operation → Bool) :
    List Stored :=
  match pwmArguments arguments with
  | none => []
  | some numbers =>
      (runStages (Pwm.operations.map (pwmStage chip.npwm numbers faulty))
        (chip.channel numbers.ch)).lines

/-! ### The GPIO sysfs test -/

inductive GpioOption
  | n (optarg : String)
  | r
  | w (optarg : String)
  | i (optarg : String)
  | unknown

/-- `gpio` has no value before `-n`, and `mode` is unknown before a mode is given. -/
structure GpioSelected where
  gpio : Option String
  mode : Option Gpio.Sysfs.AppMode

/-- The options of `main`, of which the last pin and the last mode count. -/
def selectPin (selected : GpioSelected) : List GpioOption → Option GpioSelected
  | [] => some selected
  | .n optarg :: rest => selectPin { selected with gpio := some optarg } rest
  | .r :: rest => selectPin { selected with mode := some .gpioRead } rest
  | .w optarg :: rest => selectPin { selected with mode := some (.gpioWrite optarg) } rest
  | .i optarg :: rest => selectPin { selected with mode := some (.gpioInt optarg) } rest
  | .unknown :: _ => none

/-- The options pass the checks of `main` and name a pin. -/
def Selects (options : List GpioOption) (gpio : String) (mode : Gpio.Sysfs.AppMode) : Prop :=
  selectPin { gpio := none, mode := none } options = some { gpio := some gpio, mode := some mode }

def gpioPath (gpio : String) : Stored where
  capacity := 100
  text := "/sys/class/gpio/gpio" ++ gpio

def filePath (gpio attr : String) : Stored where
  capacity := 100
  text := Gpio.Sysfs.filePath gpio attr

/-- The attribute whose path is formatted before an operation. -/
def formattedAttr : Gpio.Sysfs.Operation → Option String
  | .openAttr attr => some attr
  | .openValue | .openPolled => some "value"
  | _ => none

def gpioStage (run : Gpio.Sysfs.Run) (step : Gpio.Sysfs.Step) : Stage Bool Stored :=
  (run.stage step).relabel ((formattedAttr step.2).toList.map (filePath run.gpio))

/-- The texts in `gpio_path` and in the arrays `file_path`. -/
def gpioStored (run : Gpio.Sysfs.Run) : List Stored :=
  gpioPath run.gpio ::
    (runStages
      ((Gpio.Sysfs.gpioExport run.gpio run.absent ++ run.steps).map (gpioStage run))
      run.exported).lines

/-! ### Command lines -/

inductive CommandLine
  | rtkAdcTest (arguments : List (List UInt8))
  | rtkUartTest (options : List UartOption)
  | rtkPwmTest (arguments : List (List UInt8))
  | gpioSysfsTest (options : List GpioOption)

/-- It passes the checks of its program. -/
def CommandLine.Admitted : CommandLine → Prop
  | .rtkAdcTest arguments => ∃ channel, (Adc.selectChannel arguments).result = .ok channel
  | .rtkUartTest options => ∃ port, selectPort 2 options = some port
  | .rtkPwmTest arguments => ∃ numbers, pwmArguments arguments = some numbers
  | .gpioSysfsTest options => ∃ gpio mode, Selects options gpio mode

/-- Some run of the program on this command line stores the text. -/
def CommandLine.Stores (stored : Stored) : CommandLine → Prop
  | .rtkAdcTest arguments => ∃ host memory, stored ∈ adcStored arguments host memory
  | .rtkUartTest options => stored ∈ uartStored options
  | .rtkPwmTest arguments => ∃ chip faulty, stored ∈ pwmStored arguments chip faulty
  | .gpioSysfsTest options =>
      ∃ run : Gpio.Sysfs.Run, Selects options run.gpio run.mode ∧ stored ∈ gpioStored run

/-- The longest pin for the attributes of a mode; the interrupt mode leaves out
`active_low`. -/
def longestPin : Gpio.Sysfs.AppMode → Nat
  | .gpioRead => 68
  | .gpioWrite _ => 68
  | .gpioInt _ => 69

/-- Where every array is large enough. -/
def CommandLine.HasRoom : CommandLine → Prop
  | .rtkAdcTest _ => False
  | .rtkUartTest options => ∃ port, selectPort 2 options = some port ∧ 0 ≤ port ∧ port ≤ 9
  | .rtkPwmTest _ => True
  | .gpioSysfsTest options =>
      ∃ gpio mode, Selects options gpio mode ∧ gpio.utf8ByteSize ≤ longestPin mode

/-! ### Numbers of the type `int` and the size of texts -/

theorem atoi_range (text : List UInt8) : -2 ^ 31 ≤ atoi text ∧ atoi text ≤ 2 ^ 31 - 1 := by
  have clamped (n : Int) : -2 ^ 31 ≤ clampInt n ∧ clampInt n ≤ 2 ^ 31 - 1 := by
    unfold clampInt
    omega
  unfold atoi
  dsimp only
  split
  · exact clamped _
  · split
    · exact clamped _
    · exact clamped _

theorem utf8ByteSize_toString_pos (n : Int) : 0 < (toString n).utf8ByteSize := by
  rw [utf8ByteSize_toString, signedDecimal, length_withSign]
  have digits := List.length_pos_iff.mpr (decimal_ne_nil n.natAbs)
  omega

theorem utf8ByteSize_toString_atoi (text : List UInt8) :
    (toString (atoi text)).utf8ByteSize ≤ 11 := by
  have range := atoi_range text
  rw [utf8ByteSize_toString, length_signedDecimal_le_iff _ 10]
  omega

theorem utf8ByteSize_append_append (path name attr : String) :
    (path ++ name ++ attr).utf8ByteSize =
      path.utf8ByteSize + name.utf8ByteSize + attr.utf8ByteSize := by
  rw [String.utf8ByteSize_append, String.utf8ByteSize_append]

/-! ### One program at a time -/

theorem channel_name_pos (channel : Adc.Channel) : 0 < channel.name.utf8ByteSize := by
  cases channel with
  | single adcCh => exact utf8ByteSize_toString_pos adcCh
  | differential vinpCh vinnCh =>
      have first := utf8ByteSize_toString_pos vinpCh
      rw [Adc.Channel.name, utf8ByteSize_append_append]
      omega

theorem size_devName (channel : Adc.Channel) (attr : Adc.Attribute) :
    (Adc.devName channel attr).utf8ByteSize =
      43 + channel.name.utf8ByteSize + attr.name.utf8ByteSize :=
  utf8ByteSize_append_append "/sys/bus/iio/devices/iio:device0/in_voltage" channel.name attr.name

/-- The path of the offset is too long even for a channel of one digit. -/
theorem offset_not_fits (channel : Adc.Channel) :
    ¬ (Stored.mk 50 (Adc.devName channel .offset)).Fits := by
  have name := channel_name_pos channel
  have attr : Adc.Attribute.offset.name.utf8ByteSize = 7 := rfl
  rw [fits_iff, size_devName, attr]
  omega

theorem offset_stored {arguments : List (List UInt8)} {channel : Adc.Channel}
    (selected : (Adc.selectChannel arguments).result = .ok channel) (raw off : Int)
    (memory : List UInt8) :
    Stored.mk 50 (Adc.devName channel .offset) ∈
      adcStored arguments (Adc.workingHost raw off) memory := by
  have reads := Adc.workingHost_reads raw off
  apply List.mem_filterMap.mpr
  refine ⟨.sprintf 50 (Adc.devName channel .offset), ?_, rfl⟩
  rw [Adc.main, Report.bind_of_ok selected]
  apply List.mem_append_right
  rw [Adc.measure, Adc.readAttribute_eq reads.rawOpened reads.raw, Report.mk_bind,
    Report.say_bind, Adc.readAttribute_eq reads.offsetOpened reads.offset, Report.mk_bind]
  apply List.mem_append_right
  apply List.mem_cons_of_mem
  exact List.mem_append_left _ List.mem_cons_self

theorem uart_fits_iff (port : Int) :
    (Stored.mk 13 ("/dev/ttyRTK" ++ toString port)).Fits ↔ 0 ≤ port ∧ port ≤ 9 := by
  have device : "/dev/ttyRTK".utf8ByteSize = 11 := rfl
  have digit := length_signedDecimal_le_iff port 0
  rw [fits_iff, String.utf8ByteSize_append, device, utf8ByteSize_toString]
  omega

theorem uartStored_fits_iff {options : List UartOption} {port : Int}
    (selected : selectPort 2 options = some port) :
    (∀ stored ∈ uartStored options, stored.Fits) ↔ 0 ≤ port ∧ port ≤ 9 := by
  rw [uartStored, selected]
  dsimp only
  rw [List.forall_mem_singleton, uart_fits_iff]

theorem size_pwmNode (ch : Int) (attr : String) :
    (pwmNode ch attr).utf8ByteSize = 27 + (toString ch).utf8ByteSize + attr.utf8ByteSize :=
  utf8ByteSize_append_append "/sys/class/pwm/pwmchip0/pwm" (toString ch) attr

theorem pwmNode_fits {ch : Int} {attr : String} (short : (toString ch).utf8ByteSize ≤ 11)
    (few : attr.utf8ByteSize ≤ 11) : (Stored.mk 64 (pwmNode ch attr)).Fits := by
  rw [fits_iff, size_pwmNode]
  omega

/-- The numbers of a call have at most eleven characters each. -/
structure Short (numbers : Pwm.Arguments) : Prop where
  ch : (toString numbers.ch).utf8ByteSize ≤ 11
  periodInNs : (toString numbers.periodInNs).utf8ByteSize ≤ 11
  dutyCycleInNs : (toString numbers.dutyCycleInNs).utf8ByteSize ≤ 11

theorem pwmArguments_short {arguments : List (List UInt8)} {numbers : Pwm.Arguments}
    (given : pwmArguments arguments = some numbers) : Short numbers := by
  unfold pwmArguments at given
  split at given
  · cases given
    exact ⟨utf8ByteSize_toString_atoi _, utf8ByteSize_toString_atoi _,
      utf8ByteSize_toString_atoi _⟩
  · cases given

theorem pwmSprintf_fits {numbers : Pwm.Arguments} (short : Short numbers)
    (operation : Pwm.Operation) {text : String} (member : text ∈ pwmSprintf numbers operation) :
    (Stored.mk 64 text).Fits := by
  have number {n : Int} (few : (toString n).utf8ByteSize ≤ 11) :
      (Stored.mk 64 (toString n)).Fits := by
    rw [fits_iff]
    omega
  cases operation with
  | openExport | writeEnable | writeDisable | openUnexport => cases member
  | writeExport | writeUnexport =>
      rw [List.mem_singleton.mp member]
      exact number short.ch
  | openPeriod | openDutyCycle | openEnable =>
      rw [List.mem_singleton.mp member]
      exact pwmNode_fits short.ch (by decide)
  | writePeriod =>
      rw [List.mem_singleton.mp member]
      exact number short.periodInNs
  | writeDutyCycle =>
      rw [List.mem_singleton.mp member]
      exact number short.dutyCycleInNs

theorem pwmStored_fits {arguments : List (List UInt8)} {chip : Pwm.Chip}
    {faulty : Pwm.Operation → Bool} {stored : Stored}
    (member : stored ∈ pwmStored arguments chip faulty) : stored.Fits := by
  unfold pwmStored at member
  split at member
  · cases member
  · rename_i numbers given
    obtain ⟨operation, _listed, announced⟩ := exists_of_mem_lines_relabel member
    obtain ⟨text, formatted, rfl⟩ := List.mem_map.mp announced
    exact pwmSprintf_fits (pwmArguments_short given) operation formatted

theorem size_gpioPath (gpio : String) :
    (gpioPath gpio).text.utf8ByteSize = 20 + gpio.utf8ByteSize := by
  have directory : "/sys/class/gpio/gpio".utf8ByteSize = 20 := rfl
  rw [gpioPath, String.utf8ByteSize_append, directory]

theorem size_filePath (gpio attr : String) :
    (filePath gpio attr).text.utf8ByteSize =
      20 + gpio.utf8ByteSize + 1 + attr.utf8ByteSize := by
  rw [← size_gpioPath]
  exact utf8ByteSize_append_append (gpioPath gpio).text "/" attr

theorem filePath_fits_iff (gpio attr : String) :
    (filePath gpio attr).Fits ↔ gpio.utf8ByteSize + attr.utf8ByteSize ≤ 78 := by
  have size := size_filePath gpio attr
  change (filePath gpio attr).text.utf8ByteSize + 1 ≤ 100 ↔ _
  omega

theorem gpioPath_fits_iff (gpio : String) : (gpioPath gpio).Fits ↔ gpio.utf8ByteSize ≤ 79 := by
  have size := size_gpioPath gpio
  change (gpioPath gpio).text.utf8ByteSize + 1 ≤ 100 ↔ _
  omega

/-- The attributes of the paths that a mode formats if nothing stops it. -/
def modeAttributes : Gpio.Sysfs.AppMode → List String
  | .gpioRead => ["direction", "active_low", "edge", "value"]
  | .gpioWrite _ => ["direction", "active_low", "edge", "value", "value"]
  | .gpioInt _ => ["direction", "edge", "value"]

theorem pollRounds_attributes (round : Nat) (before : List String)
    (rounds : List Gpio.Sysfs.Round) :
    (Gpio.Sysfs.pollRounds round before rounds).filterMap (fun step => formattedAttr step.2) =
      [] := by
  induction rounds generalizing round before with
  | nil => rfl
  | cons answer rest ih =>
      cases answer with
      | timeout => exact ih _ _
      | otherEvent => exact ih _ _
      | edge val => exact ih _ _

theorem steps_attributes (run : Gpio.Sysfs.Run) :
    (Gpio.Sysfs.gpioExport run.gpio run.absent ++ run.steps).filterMap
        (fun step => formattedAttr step.2) = modeAttributes run.mode := by
  have exporting : (Gpio.Sysfs.gpioExport run.gpio run.absent).filterMap
      (fun step => formattedAttr step.2) = [] := by
    unfold Gpio.Sysfs.gpioExport
    split
    · rfl
    · rfl
  rw [List.filterMap_append, exporting, List.nil_append]
  unfold Gpio.Sysfs.Run.steps
  cases run.mode with
  | gpioRead => rfl
  | gpioWrite setting => rfl
  | gpioInt setting =>
      exact congrArg (["direction", "edge", "value"] ++ ·) (pollRounds_attributes 0 _ run.rounds)

theorem gpioStored_cases {run : Gpio.Sysfs.Run} {stored : Stored}
    (member : stored ∈ gpioStored run) :
    stored = gpioPath run.gpio ∨
      ∃ attr ∈ modeAttributes run.mode, stored = filePath run.gpio attr := by
  rcases List.mem_cons.mp member with first | later
  · exact Or.inl first
  · right
    obtain ⟨step, listed, announced⟩ := exists_of_mem_lines_relabel later
    obtain ⟨attr, formatted, rfl⟩ := List.mem_map.mp announced
    refine ⟨attr, ?_, rfl⟩
    rw [← steps_attributes]
    exact List.mem_filterMap.mpr ⟨step, listed, Option.mem_toList.mp formatted⟩

/-- A run on an exported pin that nothing stops. -/
def undisturbed (gpio : String) (mode : Gpio.Sysfs.AppMode) : Gpio.Sysfs.Run where
  gpio := gpio
  mode := mode
  exported := true
  accessFails := false
  faulty := fun _ => false
  val := '0'
  rounds := []

theorem undisturbed_stored (gpio : String) (mode : Gpio.Sysfs.AppMode) :
    gpioStored (undisturbed gpio mode) =
      gpioPath gpio :: (modeAttributes mode).map (filePath gpio) := by
  cases mode with
  | gpioRead => rfl
  | gpioWrite setting => rfl
  | gpioInt setting => rfl

/-- The longest attribute of a mode decides. -/
theorem attributes_fit_iff (gpio : String) (mode : Gpio.Sysfs.AppMode) :
    (∀ attr ∈ modeAttributes mode, (filePath gpio attr).Fits) ↔
      gpio.utf8ByteSize ≤ longestPin mode := by
  have direction : "direction".utf8ByteSize = 9 := rfl
  have activeLow : "active_low".utf8ByteSize = 10 := rfl
  have edge : "edge".utf8ByteSize = 4 := rfl
  have value : "value".utf8ByteSize = 5 := rfl
  cases mode with
  | gpioRead =>
      simp only [modeAttributes, longestPin, filePath_fits_iff, List.forall_mem_cons,
        List.not_mem_nil, false_implies, implies_true, and_true, direction, activeLow, edge, value]
      omega
  | gpioWrite setting =>
      simp only [modeAttributes, longestPin, filePath_fits_iff, List.forall_mem_cons,
        List.not_mem_nil, false_implies, implies_true, and_true, direction, activeLow, edge, value]
      omega
  | gpioInt setting =>
      simp only [modeAttributes, longestPin, filePath_fits_iff, List.forall_mem_cons,
        List.not_mem_nil, false_implies, implies_true, and_true, direction, edge, value]
      omega

theorem longestPin_le (mode : Gpio.Sysfs.AppMode) : longestPin mode ≤ 79 := by
  unfold longestPin
  split
  · omega
  · omega
  · omega

theorem gpio_fits_of_short {run : Gpio.Sysfs.Run}
    (short : run.gpio.utf8ByteSize ≤ longestPin run.mode) {stored : Stored}
    (member : stored ∈ gpioStored run) : stored.Fits := by
  rcases gpioStored_cases member with rfl | ⟨attr, among, rfl⟩
  · exact (gpioPath_fits_iff run.gpio).mpr (Nat.le_trans short (longestPin_le run.mode))
  · exact (attributes_fit_iff run.gpio run.mode).mpr short attr among

theorem short_of_undisturbed_fits {gpio : String} {mode : Gpio.Sysfs.AppMode}
    (fits : ∀ stored ∈ gpioStored (undisturbed gpio mode), stored.Fits) :
    gpio.utf8ByteSize ≤ longestPin mode := by
  rw [← attributes_fit_iff]
  intro attr among
  apply fits
  rw [undisturbed_stored]
  exact List.mem_cons_of_mem _ (List.mem_map_of_mem among)

/-! ### All of them -/

/-- Every text that a run on an admitted command line stores fits into its array with
its terminator, if and only if the array has room for the longest of them.  That of
the ADC test never has. -/
theorem stored_fit_iff (command : CommandLine) (admitted : command.Admitted) :
    (∀ stored, command.Stores stored → stored.Fits) ↔ command.HasRoom := by
  cases command with
  | rtkAdcTest arguments =>
      obtain ⟨channel, selected⟩ := admitted
      refine iff_of_false ?_ id
      intro fits
      exact offset_not_fits channel (fits _ ⟨_, _, offset_stored selected 0 0 []⟩)
  | rtkUartTest options =>
      obtain ⟨port, selected⟩ := admitted
      refine (uartStored_fits_iff selected).trans ?_
      constructor
      · intro digit
        exact ⟨port, selected, digit⟩
      · rintro ⟨other, same, digit⟩
        rw [selected] at same
        cases same
        exact digit
  | rtkPwmTest arguments =>
      refine iff_of_true ?_ trivial
      rintro stored ⟨chip, faulty, member⟩
      exact pwmStored_fits member
  | gpioSysfsTest options =>
      obtain ⟨gpio, mode, selected⟩ := admitted
      constructor
      · intro fits
        refine ⟨gpio, mode, selected, short_of_undisturbed_fits ?_⟩
        intro stored member
        exact fits stored ⟨undisturbed gpio mode, selected, member⟩
      · rintro ⟨pin, chosen, same, short⟩ stored ⟨run, runs, member⟩
        have both := Option.some.inj (same.symm.trans runs)
        cases run
        cases both
        exact gpio_fits_of_short short member

/-- `-n 5 -r`. -/
theorem stored_fit_pin_five :
    (CommandLine.gpioSysfsTest [.n "5", .r]).Admitted ∧
      ∀ stored, (CommandLine.gpioSysfsTest [.n "5", .r]).Stores stored → stored.Fits := by
  have selected : Selects [.n "5", .r] "5" .gpioRead := rfl
  refine ⟨⟨"5", .gpioRead, selected⟩, ?_⟩
  exact (stored_fit_iff (.gpioSysfsTest [.n "5", .r]) ⟨"5", .gpioRead, selected⟩).mpr
    ⟨"5", .gpioRead, selected, Nat.le_of_ble_eq_true rfl⟩

/-- `rtk_adc_test 0` stores 52 bytes in the 50 of `dev_name`. -/
theorem offset_path_overflows :
    (CommandLine.rtkAdcTest [[48]]).Admitted ∧
      (CommandLine.rtkAdcTest [[48]]).Stores
        { capacity := 50, text := "/sys/bus/iio/devices/iio:device0/in_voltage0_offset" } ∧
      ¬ (Stored.mk 50 "/sys/bus/iio/devices/iio:device0/in_voltage0_offset").Fits := by
  have selected : (Adc.selectChannel [[48]]).result = .ok (.single 0) := rfl
  refine ⟨⟨.single 0, selected⟩, ⟨_, _, offset_stored selected 818 (-23) []⟩, ?_⟩
  exact offset_not_fits (.single 0)

end AmebaTests.Programs
