/-
The GPIO sysfs test, from the parsed options on.

Its functions call `exit(-1)` wherever an operation fails, so a run is a list of
stages with one way out.  The pin is exported unless it already was, and
unexported behind the mode function in either case.  The interrupt mode polls in
a loop that only a failure leaves.
-/

import AmebaTests.Foundation.Stages

namespace AmebaTests.Gpio.Sysfs

open Foundation

inductive AppMode
  | gpioRead
  | gpioWrite (setting : String)
  | gpioInt (setting : String)
  deriving DecidableEq, Repr

def AppMode.isInt : AppMode → Bool
  | .gpioInt _ => true
  | _ => false

/-- What `poll` returns: no event, an event that is not an edge, or an edge with
the value read behind it. -/
inductive Round
  | timeout
  | otherEvent
  | edge (val : Char)
  deriving DecidableEq, Repr

inductive Operation
  | openExport
  | writeExport
  | openAttr (attr : String)
  | writeAttr (attr : String)
  | openValue
  | readValue
  | openPolled
  | poll (round : Nat)
  | lseek (round : Nat)
  | readEdge (round : Nat)
  | openUnexport
  | writeUnexport
  deriving DecidableEq, Repr

/-- The effect on whether the pin is exported.  The files of the pin are there
while it is, and the kernel neither exports a pin twice nor unexports one that
is not exported. -/
def Operation.apply (exported : Bool) : Operation → Option Bool
  | .writeExport => if exported then none else some true
  | .openAttr _ | .openValue | .openPolled => if exported then some exported else none
  | .writeUnexport => if exported then some false else none
  | _ => some exported

def filePath (gpio attr : String) : String :=
  "/sys/class/gpio/gpio" ++ gpio ++ "/" ++ attr

def Operation.failure (gpio : String) : Operation → List String
  | .openExport => ["open export error\n"]
  | .writeExport => ["write export error\n"]
  | .openAttr attr => ["open " ++ filePath gpio attr ++ " error"]
  | .writeAttr attr => ["write " ++ filePath gpio attr ++ " error\n"]
  | .openValue => ["open value error\n"]
  | .readValue => ["read value error\n"]
  | .openPolled => ["open error\n"]
  | .poll _ => ["poll error\n"]
  | .lseek _ => ["lseek error\n"]
  | .readEdge _ => ["read error\n"]
  | .openUnexport => ["open unexport error\n"]
  | .writeUnexport => ["write unexport error\n"]

/-- An operation, with what has been printed since the one before. -/
abbrev Step := List String × Operation

/-- The two operations of `gpio_config`. -/
def gpioConfig (before : List String) (attr val : String) : List Step :=
  [(before ++ ["gpio_config: set attr " ++ attr ++ ":" ++ val ++ "\n"], .openAttr attr),
    ([], .writeAttr attr)]

def gpioGetValue : List Step :=
  [([], .openValue), ([], .readValue)]

def gpioExport (gpio : String) (absent : Bool) : List Step :=
  if absent then
    [(["GPIO test export pin " ++ gpio ++ "\n"], .openExport), ([], .writeExport)]
  else []

/-- Without an export there is no operation to print in front of. -/
def exportMessage (gpio : String) (absent : Bool) : List String :=
  if absent then [] else ["GPIO test export pin " ++ gpio ++ "\n"]

def gpioUnexport (before : List String) (gpio : String) : List Step :=
  [(before ++ ["GPIO test unexport pin " ++ gpio ++ "\n"], .openUnexport), ([], .writeUnexport)]

def gpioRead (before : List String) : List Step :=
  gpioConfig (before ++ ["GPIO read test start...\n"]) "direction" "in" ++
    gpioConfig [] "active_low" "0" ++ gpioConfig [] "edge" "none" ++ gpioGetValue

def gpioWrite (before : List String) (set : String) : List Step :=
  gpioConfig (before ++ ["GPIO write test start...\n"]) "direction" "out" ++
    gpioConfig [] "active_low" "0" ++ gpioConfig [] "edge" "none" ++
    gpioConfig [] "value" set ++ gpioGetValue

def valueMessage (val : Char) : String :=
  "GPIO int <value=" ++ val.toString ++ ">\n"

def pollRounds : Nat → List String → List Round → List Step
  | _, _, [] => []
  | round, before, .timeout :: rest =>
      (before, .poll round) :: pollRounds (round + 1) ["poll timeout.\n"] rest
  | round, before, .otherEvent :: rest =>
      (before, .poll round) :: pollRounds (round + 1) [] rest
  | round, before, .edge val :: rest =>
      (before, .poll round) :: ([], .lseek round) :: ([], .readEdge round) ::
        pollRounds (round + 1) [valueMessage val] rest

/-- The result of the first read is not looked at. -/
def gpioEdgeInt (before : List String) (set : String) (val : Char) (rounds : List Round) :
    List Step :=
  gpioConfig (before ++ ["GPIO edge interrupt test start...\n"]) "direction" "in" ++
    gpioConfig [] "edge" set ++ [([], .openPolled)] ++ pollRounds 0 [valueMessage val] rounds

/-- A run: the options, whether the pin is exported before, the operations that
are made to fail, the value read, and the answers of `poll` so far. -/
structure Run where
  gpio : String
  mode : AppMode
  exported : Bool
  accessFails : Bool
  faulty : Operation → Bool
  val : Char
  rounds : List Round

/-- `access` fails if the pin has no directory. -/
def Run.absent (run : Run) : Bool :=
  run.accessFails || !run.exported

/-- The operations behind `gpio_export`. -/
def Run.steps (run : Run) : List Step :=
  let before := exportMessage run.gpio run.absent
  match run.mode with
  | .gpioRead =>
      gpioRead before ++
        gpioUnexport ["gpio_read value: " ++ run.val.toString ++ "\n"] run.gpio
  | .gpioWrite setting =>
      gpioWrite before setting ++
        gpioUnexport ["gpio_write value: " ++ run.val.toString ++ "\n"] run.gpio
  | .gpioInt setting => gpioEdgeInt before setting run.val run.rounds

def Run.stage (run : Run) (step : Step) : Stage Bool String where
  announce := step.1
  operate := fun exported => if run.faulty step.2 then none else step.2.apply exported
  failure := step.2.failure run.gpio

/-- `code` is missing while the interrupt mode is still polling. -/
structure Exited where
  exported : Bool
  printed : List String
  code : Option Int

def main (run : Run) : Exited :=
  let ended := runStages ((gpioExport run.gpio run.absent ++ run.steps).map run.stage) run.exported
  { exported := ended.state
    printed := ended.lines ++
      if ended.completed && !run.mode.isInt then ["Test GPIO SYSFS over!!\n"] else []
    code := if ended.completed then (if run.mode.isInt then none else some 0) else some (-1) }

/-! ### Behind the export -/

/-- An operation that leaves an exported pin exported. -/
def Operation.Keeps (operation : Operation) : Prop :=
  operation.apply true = some true

def AllKeep (steps : List Step) : Prop :=
  ∀ step ∈ steps, step.2.Keeps

theorem AllKeep.append {first second : List Step} (front : AllKeep first)
    (back : AllKeep second) : AllKeep (first ++ second) :=
  List.forall_mem_append.mpr ⟨front, back⟩

theorem AllKeep.cons {step : Step} {rest : List Step} (head : step.2.Keeps)
    (tail : AllKeep rest) : AllKeep (step :: rest) :=
  List.forall_mem_cons.mpr ⟨head, tail⟩

theorem AllKeep.nil : AllKeep [] := by
  intro step member
  exact absurd member List.not_mem_nil

theorem gpioConfig_keeps (before : List String) (attr val : String) :
    AllKeep (gpioConfig before attr val) :=
  AllKeep.cons rfl (AllKeep.cons rfl AllKeep.nil)

theorem gpioGetValue_keeps : AllKeep gpioGetValue :=
  AllKeep.cons rfl (AllKeep.cons rfl AllKeep.nil)

theorem gpioRead_keeps (before : List String) : AllKeep (gpioRead before) := by
  apply AllKeep.append
  · apply AllKeep.append
    · exact AllKeep.append (gpioConfig_keeps _ _ _) (gpioConfig_keeps _ _ _)
    · exact gpioConfig_keeps _ _ _
  · exact gpioGetValue_keeps

theorem gpioWrite_keeps (before : List String) (set : String) :
    AllKeep (gpioWrite before set) := by
  apply AllKeep.append
  · apply AllKeep.append
    · apply AllKeep.append
      · exact AllKeep.append (gpioConfig_keeps _ _ _) (gpioConfig_keeps _ _ _)
      · exact gpioConfig_keeps _ _ _
    · exact gpioConfig_keeps _ _ _
  · exact gpioGetValue_keeps

theorem pollRounds_keeps (round : Nat) (before : List String) (rounds : List Round) :
    AllKeep (pollRounds round before rounds) := by
  induction rounds generalizing round before with
  | nil => exact AllKeep.nil
  | cons answer rest ih =>
      cases answer with
      | timeout => exact AllKeep.cons rfl (ih _ _)
      | otherEvent => exact AllKeep.cons rfl (ih _ _)
      | edge val =>
          exact AllKeep.cons rfl (AllKeep.cons rfl (AllKeep.cons rfl (ih _ _)))

theorem gpioEdgeInt_keeps (before : List String) (set : String) (val : Char)
    (rounds : List Round) : AllKeep (gpioEdgeInt before set val rounds) := by
  apply AllKeep.append
  · apply AllKeep.append
    · exact AllKeep.append (gpioConfig_keeps _ _ _) (gpioConfig_keeps _ _ _)
    · exact AllKeep.cons rfl AllKeep.nil
  · exact pollRounds_keeps _ _ _

/-- The interrupt mode keeps the pin exported throughout, the others up to their
last operation. -/
theorem steps_shape (run : Run) :
    (run.mode.isInt = true ∧ AllKeep run.steps) ∨
      (run.mode.isInt = false ∧
        ∃ front, run.steps = front ++ [([], .writeUnexport)] ∧ AllKeep front) := by
  unfold Run.steps
  cases run.mode with
  | gpioRead =>
      refine Or.inr ⟨rfl, _, List.append_cons _ _ _, ?_⟩
      exact AllKeep.append (gpioRead_keeps _) (AllKeep.cons rfl AllKeep.nil)
  | gpioWrite setting =>
      refine Or.inr ⟨rfl, _, List.append_cons _ _ _, ?_⟩
      exact AllKeep.append (gpioWrite_keeps _ _) (AllKeep.cons rfl AllKeep.nil)
  | gpioInt setting => exact Or.inl ⟨rfl, gpioEdgeInt_keeps _ _ _ _⟩

theorem stage_operate (run : Run) (step : Step) (exported next : Bool) :
    (run.stage step).operate exported = some next ↔
      run.faulty step.2 = false ∧ step.2.apply exported = some next :=
  disturbed_eq_some

theorem completes_of_keeps (run : Run) {steps : List Step} (keep : AllKeep steps)
    (final : Bool) :
    Completes (steps.map run.stage) true final ↔
      (∀ step ∈ steps, run.faulty step.2 = false) ∧ final = true := by
  induction steps with
  | nil =>
      rw [List.map_nil, completes_nil]
      constructor
      · intro same
        exact ⟨fun step member => absurd member List.not_mem_nil, same.symm⟩
      · intro holds
        exact holds.2.symm
  | cons step rest ih =>
      have head : step.2.apply true = some true := keep step List.mem_cons_self
      have tail := ih fun other member => keep other (List.mem_cons_of_mem step member)
      rw [List.map_cons, completes_cons, List.forall_mem_cons]
      constructor
      · intro completes
        obtain ⟨next, operated, later⟩ := completes
        obtain ⟨quiet, applied⟩ := (stage_operate run step true next).mp operated
        rw [head] at applied
        cases applied
        obtain ⟨others, same⟩ := tail.mp later
        exact ⟨⟨quiet, others⟩, same⟩
      · intro holds
        obtain ⟨⟨quiet, others⟩, same⟩ := holds
        exact ⟨true, (stage_operate run step true true).mpr ⟨quiet, head⟩,
          tail.mpr ⟨others, same⟩⟩

theorem keeps_preserved (run : Run) {steps : List Step} (keep : AllKeep steps) :
    ∀ stage ∈ steps.map run.stage, ∀ exported next : Bool, exported = true →
      stage.operate exported = some next → next = true := by
  intro stage member exported next isExported operated
  obtain ⟨step, listed, rfl⟩ := List.mem_map.mp member
  have applied := ((stage_operate run step exported next).mp operated).2
  have kept : step.2.apply true = some true := keep step listed
  rw [isExported, kept] at applied
  exact (Option.some.inj applied).symm

theorem unexport_completes (run : Run) (final : Bool) :
    Completes [run.stage ([], .writeUnexport)] true final ↔
      run.faulty .writeUnexport = false ∧ final = false := by
  simp only [completes_cons, completes_nil, stage_operate, Operation.apply, if_true,
    Option.some.injEq]
  constructor
  · intro completes
    obtain ⟨next, ⟨quiet, released⟩, same⟩ := completes
    exact ⟨quiet, same.symm.trans released.symm⟩
  · intro holds
    exact ⟨false, ⟨holds.1, rfl⟩, holds.2.symm⟩

theorem steps_completes (run : Run) {front : List Step}
    (shape : run.steps = front ++ [([], .writeUnexport)]) (keep : AllKeep front) (final : Bool) :
    Completes (run.steps.map run.stage) true final ↔
      (∀ step ∈ run.steps, run.faulty step.2 = false) ∧ final = false := by
  rw [shape, List.map_append, completes_append, List.forall_mem_append, List.forall_mem_singleton]
  constructor
  · intro completes
    obtain ⟨middle, during, last⟩ := completes
    obtain ⟨quiet, same⟩ := (completes_of_keeps run keep middle).mp during
    rw [same] at last
    obtain ⟨lastQuiet, released⟩ := (unexport_completes run final).mp last
    exact ⟨⟨quiet, lastQuiet⟩, released⟩
  · intro holds
    obtain ⟨⟨quiet, lastQuiet⟩, released⟩ := holds
    exact ⟨true, (completes_of_keeps run keep true).mpr ⟨quiet, rfl⟩,
      (unexport_completes run final).mpr ⟨lastQuiet, released⟩⟩

/-- From an exported pin on, it is left unexported exactly by a run that reaches
its end with no operation failing. -/
theorem steps_unexport_iff (run : Run) :
    (runStages (run.steps.map run.stage) true).state = false ↔
      run.mode.isInt = false ∧ ∀ step ∈ run.steps, run.faulty step.2 = false := by
  rcases steps_shape run with ⟨isInt, keep⟩ | ⟨notInt, front, shape, keep⟩
  · have kept : (runStages (run.steps.map run.stage) true).state = true :=
      runStages_invariant (fun exported => exported = true) (keeps_preserved run keep) rfl
    rw [kept, isInt]
    constructor
    · intro impossible
      cases impossible
    · intro impossible
      cases impossible.1
  · have completes := steps_completes run shape keep
    constructor
    · intro released
      have lost : ¬ (runStages (front.map run.stage ++ [run.stage ([], .writeUnexport)])
          true).state = true := by
        rw [shape, List.map_append] at released
        rw [Bool.not_eq_true]
        exact released
      obtain ⟨final, completed⟩ := completes_of_lost (fun exported => exported = true)
        (keeps_preserved run keep) rfl lost
      have whole : Completes (run.steps.map run.stage) true final := by
        rw [shape, List.map_append]
        exact completed
      exact ⟨notInt, ((completes final).mp whole).1⟩
    · intro holds
      exact ((completes false).mpr ⟨holds.2, rfl⟩).2

/-! ### Whole runs -/

/-- On a pin that was exported, some operation behind the export fails, or
`access` does.  On one that was not, the export itself fails, or the mode is not
the interrupt mode and nothing fails. -/
def Restoring (run : Run) : Prop :=
  if run.exported = true then
    run.accessFails = true ∨ ∃ step ∈ run.steps, run.faulty step.2 = true
  else
    run.faulty .openExport = true ∨ run.faulty .writeExport = true ∨
      (run.mode.isInt = false ∧ ∀ step ∈ run.steps, run.faulty step.2 = false)

theorem export_refused (run : Run)
    (refused : run.faulty .openExport = true ∨ run.faulty .writeExport = true ∨
      run.exported = true) (absent : run.absent = true) :
    (main run).exported = run.exported := by
  change (runStages _ run.exported).state = run.exported
  rw [absent, gpioExport, if_pos rfl, List.cons_append, List.map_cons]
  cases opened : run.faulty .openExport with
  | true =>
      have failed : (run.stage
          (["GPIO test export pin " ++ run.gpio ++ "\n"], .openExport)).operate run.exported =
          none := if_pos opened
      rw [runStages_of_failure failed]
  | false =>
      have succeeded := (stage_operate run
        (["GPIO test export pin " ++ run.gpio ++ "\n"], .openExport) run.exported _).mpr
        ⟨opened, rfl⟩
      have failed : (run.stage ([], .writeExport)).operate run.exported = none := by
        rw [Option.eq_none_iff_forall_ne_some]
        intro next operated
        obtain ⟨written, applied⟩ := (stage_operate run _ _ _).mp operated
        rcases refused with fault | fault | exported
        · rw [opened] at fault
          cases fault
        · change run.faulty .writeExport = false at written
          rw [written] at fault
          cases fault
        · rw [exported] at applied
          cases applied
      rw [runStages_of_success succeeded, List.cons_append, List.map_cons,
        runStages_of_failure failed]

theorem export_granted (run : Run) (opened : run.faulty .openExport = false)
    (written : run.faulty .writeExport = false) (unexported : run.exported = false) :
    (main run).exported = (runStages (run.steps.map run.stage) true).state := by
  have absent : run.absent = true := by
    rw [Run.absent, unexported]
    exact Bool.or_true _
  have openNode := (stage_operate run
    (["GPIO test export pin " ++ run.gpio ++ "\n"], .openExport) run.exported _).mpr ⟨opened, rfl⟩
  have create : (run.stage ([], .writeExport)).operate run.exported = some true := by
    apply (stage_operate run _ _ _).mpr
    rw [unexported]
    exact ⟨written, rfl⟩
  change (runStages _ run.exported).state = _
  rw [absent, gpioExport, if_pos rfl, List.cons_append, List.map_cons,
    runStages_of_success openNode, List.cons_append, List.map_cons, runStages_of_success create]
  rfl

theorem exists_fault_iff (run : Run) :
    (∃ step ∈ run.steps, run.faulty step.2 = true) ↔
      ¬ ∀ step ∈ run.steps, run.faulty step.2 = false := by
  constructor
  · intro fault quiet
    obtain ⟨step, member, isFaulty⟩ := fault
    rw [quiet step member] at isFaulty
    cases isFaulty
  · intro notQuiet
    by_contra none
    apply notQuiet
    intro step member
    rw [← Bool.not_eq_true]
    exact fun isFaulty => none ⟨step, member, isFaulty⟩

theorem main_of_present (run : Run) (present : run.absent = false) (exported : run.exported = true) :
    (main run).exported = (runStages (run.steps.map run.stage) true).state ∧
      ((main run).code ≠ none → run.mode.isInt = true →
        ¬ ∀ step ∈ run.steps, run.faulty step.2 = false) := by
  have stages : (gpioExport run.gpio run.absent ++ run.steps).map run.stage =
      run.steps.map run.stage := by
    rw [present]
    rfl
  constructor
  · change (runStages _ run.exported).state = _
    rw [stages, exported]
  · intro ended isInt quiet
    apply ended
    rcases steps_shape run with ⟨_isInt, keep⟩ | ⟨notInt, _front⟩
    · have completes := (completes_of_keeps run keep true).mpr ⟨quiet, rfl⟩
      change (if (runStages _ run.exported).completed = true then _ else _) = _
      rw [stages, exported, if_pos completes.1, isInt]
      rfl
    · rw [notInt] at isInt
      cases isInt

theorem restores_exported_iff (run : Run) (ended : (main run).code ≠ none)
    (exported : run.exported = true) :
    (main run).exported = true ↔
      run.accessFails = true ∨ ∃ step ∈ run.steps, run.faulty step.2 = true := by
  cases access : run.accessFails with
  | true =>
      have absent : run.absent = true := by
        rw [Run.absent, access]
        rfl
      rw [export_refused run (Or.inr (Or.inr exported)) absent, exported]
      exact ⟨fun _same => Or.inl rfl, fun _restoring => rfl⟩
  | false =>
      have present : run.absent = false := by
        rw [Run.absent, access, exported]
        rfl
      obtain ⟨state, faulty⟩ := main_of_present run present exported
      rw [state, exists_fault_iff, ← Bool.not_eq_false, steps_unexport_iff]
      constructor
      · intro kept
        right
        intro quiet
        cases isInt : run.mode.isInt with
        | true => exact faulty ended isInt quiet
        | false => exact kept ⟨isInt, quiet⟩
      · intro restoring released
        rcases restoring with impossible | notQuiet
        · cases impossible
        · exact notQuiet released.2

theorem restores_unexported_iff (run : Run) (unexported : run.exported = false) :
    (main run).exported = false ↔
      run.faulty .openExport = true ∨ run.faulty .writeExport = true ∨
        (run.mode.isInt = false ∧ ∀ step ∈ run.steps, run.faulty step.2 = false) := by
  have absent : run.absent = true := by
    rw [Run.absent, unexported]
    exact Bool.or_true _
  cases opened : run.faulty .openExport with
  | true =>
      rw [export_refused run (Or.inl opened) absent, unexported]
      exact ⟨fun _same => Or.inl rfl, fun _restoring => rfl⟩
  | false =>
      cases written : run.faulty .writeExport with
      | true =>
          rw [export_refused run (Or.inr (Or.inl written)) absent, unexported]
          exact ⟨fun _same => Or.inr (Or.inl rfl), fun _restoring => rfl⟩
      | false =>
          rw [export_granted run opened written unexported, steps_unexport_iff]
          constructor
          · intro released
            exact Or.inr (Or.inr released)
          · intro restoring
            rcases restoring with impossible | impossible | released
            · cases impossible
            · cases impossible
            · exact released

/-- Of every run that has ended, in each mode and with any outcome of each of
its operations. -/
theorem restores_iff (run : Run) (ended : (main run).code ≠ none) :
    (main run).exported = run.exported ↔ Restoring run := by
  unfold Restoring
  cases exported : run.exported with
  | true =>
      rw [if_pos rfl]
      exact restores_exported_iff run ended exported
  | false =>
      rw [if_neg Bool.false_ne_true]
      exact restores_unexported_iff run exported

/-- A read of a pin that was not exported, with nothing failing. -/
def plainRead : Run where
  gpio := "17"
  mode := .gpioRead
  exported := false
  accessFails := false
  faulty := fun _ => false
  val := '1'
  rounds := []

theorem restores_plain_read :
    (main plainRead).code = some 0 ∧
      ((main plainRead).exported = plainRead.exported ↔ Restoring plainRead) := by
  have code : (main plainRead).code = some 0 := rfl
  refine ⟨code, restores_iff plainRead ?_⟩
  rw [code]
  exact Option.some_ne_none 0

/-- The same read unexports a pin that was exported before, and leaves one
exported that was not if the value cannot be read. -/
theorem read_changes_export :
    (main { plainRead with exported := true }).code = some 0 ∧
      (main { plainRead with exported := true }).exported = false ∧
      (main { plainRead with faulty := (· = .readValue) }).code = some (-1) ∧
      (main { plainRead with faulty := (· = .readValue) }).exported = true := by
  refine ⟨rfl, rfl, ?_, ?_⟩
  · decide
  · decide

end AmebaTests.Gpio.Sysfs
