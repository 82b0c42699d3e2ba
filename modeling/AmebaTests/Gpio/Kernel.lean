/-
The nine test functions of the kernel GPIO test.

Every result the kernel may give is part of `Answers`, numbered by the order of
the calls, so a function and its answers determine the calls it makes and the
value it returns.  The ledger of a call list is what was acquired and what was
given back, in order.
-/

import AmebaTests.Foundation.Report

namespace AmebaTests.Gpio.Kernel

open Foundation Report

/-- An errno as the kernel returns it, which is what `IS_ERR_VALUE` looks for. -/
structure Errno where
  value : Nat
  positive : 0 < value
  bounded : value ≤ 4095

inductive Status
  | success
  | failure (errno : Errno)

def Status.code : Status → Int
  | .success => 0
  | .failure errno => -errno.value

def isErrValue (ret : Int) : Prop :=
  -4095 ≤ ret ∧ ret ≤ -1

instance (ret : Int) : Decidable (isErrValue ret) :=
  inferInstanceAs (Decidable (_ ∧ _))

def EINVAL : Int := 22

structure TestData where
  index : Int
  inIndex : Int
  outIndex : Int
  dbEnable : Option String
  dbDivCnt : Int

structure Answers where
  gpioToIrq : Int
  gpioRequest : Nat → Status
  gpioDirection : Nat → Status
  gpioGetValue : Nat → Int
  requestIrq : Status
  gpioSetDebounce : Status
  waitForCompletionTimeout : Nat → Int

inductive Call
  | print (text : String)
  | reinitCompletion
  | gpioRequest (line : Int) (status : Status)
  | gpioFree (line : Int)
  | gpioDirectionInput (line : Int)
  | gpioDirectionOutput (line value : Int)
  | gpioSetValue (line value : Int)
  | gpioGetValue (line : Int)
  | gpioSetDebounce (line count : Int)
  | requestIrq (irq : Int) (trigger : Nat) (status : Status)
  | freeIrq (irq : Int)
  | waitForCompletionTimeout
  | udelay (microseconds : Nat)

/-- A function of the test: its calls, and the value it returns before its end
or at it. -/
abbrev Program := Report Call Int

/-- Make the calls and return. -/
def leave {Value : Type} (calls : List Call) (ret : Int) : Program Value where
  lines := calls
  result := .error ret

def perform (calls : List Call) : Program Unit where
  lines := calls
  result := .ok ()

inductive TestCase
  | highIrq
  | lowIrq
  | fallIrq
  | riseIrq
  | bothIrq
  | reRequest
  | outputTest
  | inputTest
  | inoutTest
  deriving DecidableEq, Repr

def TestCase.name : TestCase → String
  | .highIrq => "rtk_gpio_high_irq"
  | .lowIrq => "rtk_gpio_low_irq"
  | .fallIrq => "rtk_gpio_fall_irq"
  | .riseIrq => "rtk_gpio_rise_irq"
  | .bothIrq => "rtk_gpio_both_irq"
  | .reRequest => "rtk_gpio_re_request"
  | .outputTest => "rtk_gpio_output_test"
  | .inputTest => "rtk_gpio_input_test"
  | .inoutTest => "rtk_gpio_inout_test"

/-- The `IRQF_TRIGGER_` flags; the entries without one hold zero. -/
def TestCase.trigger : TestCase → Nat
  | .highIrq => 4
  | .lowIrq => 8
  | .fallIrq => 2
  | .riseIrq => 1
  | .bothIrq => 3
  | _ => 0

def rtkGpioSetDebounce (data : TestData) (answers : Answers) : Report Call Int Int := do
  if data.dbEnable = some "enable" then
    perform [.print ("Set GPIO debounce db_div_cnt: " ++ toString data.dbDivCnt ++ "\n"),
      .gpioSetDebounce data.index data.dbDivCnt]
    let ret := answers.gpioSetDebounce.code
    if ret ≠ 0 then
      perform [.print ("Error: Failed to set GPIO debounce: " ++ toString ret ++ "\n")]
      return -EINVAL
    else return 0
  else return 0

/-- The rounds of the wait loop from `i` on; `false` is the jump to `faill_irq`. -/
def waitRounds (test : TestCase) (answers : Answers) : Nat → Nat → Program Bool
  | 0, _ => pure true
  | rounds + 1, i =>
      let ret := answers.waitForCompletionTimeout i
      if ret = 0 then do
        perform [.waitForCompletionTimeout, .print "Error: Wait for IRQ timeout\n"]
        return false
      else do
        perform [.waitForCompletionTimeout, .print (test.name ++ "[" ++ toString i ++
          "] success, ret=" ++ toString ret ++ "\n")]
        waitRounds test answers rounds (i + 1)

def rtkGpioIrqTest (test : TestCase) (data : TestData) (answers : Answers) : Program Int := do
  let virq := answers.gpioToIrq
  perform [.reinitCompletion, .gpioRequest data.index (answers.gpioRequest 0)]
  whenever ((answers.gpioRequest 0).code ≠ 0)
    (leave [.print ("Error: Failed to request GPIO " ++ toString data.index ++ "\n")] (-EINVAL))
  perform [.requestIrq virq test.trigger answers.requestIrq]
  whenever (isErrValue answers.requestIrq.code)
    (leave [.print "Error: Failed to request IRQ\n",
      .print ("Error: " ++ test.name ++ " test fail\n"), .gpioFree data.index] (-EINVAL))
  let ret ← rtkGpioSetDebounce data answers
  whenever (ret ≠ 0)
    (leave [.print "Error: Failed to set GPIO debounce\n", .freeIrq virq,
      .print ("Error: " ++ test.name ++ " test fail\n"), .gpioFree data.index] (-EINVAL))
  let completed ← waitRounds test answers 5 0
  whenever (completed = false)
    (leave [.freeIrq virq, .print ("Error: " ++ test.name ++ " test fail\n"),
      .gpioFree data.index] (-EINVAL))
  perform [.freeIrq virq, .gpioFree data.index, .print (test.name ++ " success\n")]
  return 0

def rtkGpioRequestHighIrq := rtkGpioIrqTest .highIrq
def rtkGpioRequestLowIrq := rtkGpioIrqTest .lowIrq
def rtkGpioRequestFallIrq := rtkGpioIrqTest .fallIrq
def rtkGpioRequestRiseIrq := rtkGpioIrqTest .riseIrq
def rtkGpioRequestBothIrq := rtkGpioIrqTest .bothIrq

def rtkGpioReRequest (data : TestData) (answers : Answers) : Program Int := do
  perform [.print "Request GPIO test start\n", .gpioRequest data.index (answers.gpioRequest 0)]
  whenever ((answers.gpioRequest 0).code ≠ 0)
    (leave [.print "Error: The first time to request GPIO failed\n"] (-EINVAL))
  perform [.print "First time GPIO request success\n",
    .gpioRequest data.index (answers.gpioRequest 1)]
  whenever ((answers.gpioRequest 1).code = 0)
    (leave [.print "Error: Repeat request is unpermitted\n", .gpioFree data.index] (-EINVAL))
  perform [.print "Test success: for repeat request is unpermitted\n", .gpioFree data.index]
  return 0

def printValue (val : Int) : Call :=
  .print ("GPIO get data value: " ++ toString val ++ "\n")

/-- The label `fail` of the output and the input test. -/
def failTest (data : TestData) (message direction : String) : Program Unit :=
  leave [.print message, .print ("Error: Failed to test GPIO " ++ direction ++ "\n"),
    .gpioFree data.index] (-EINVAL)

def rtkGpioOutputTest (data : TestData) (answers : Answers) : Program Int := do
  let value := answers.gpioGetValue
  perform [.print "GPIO output test start\n", .gpioRequest data.index (answers.gpioRequest 0)]
  whenever ((answers.gpioRequest 0).code ≠ 0)
    (leave [.print ("Error: Failed to request GPIO " ++ toString data.index ++ "\n")] (-EINVAL))
  perform [.gpioDirectionOutput data.index 0]
  whenever (isErrValue (answers.gpioDirection 0).code)
    (failTest data "Error: Failed to set GPIO direction output\n" "output")
  perform [.gpioGetValue data.index, printValue (value 0), .gpioSetValue data.index 1,
    .gpioGetValue data.index, printValue (value 1)]
  whenever (value 1 ≠ 1) (failTest data "Error: Failed to set GPIO data value = 1\n" "output")
  perform [.gpioSetValue data.index 0, .gpioGetValue data.index, printValue (value 2)]
  whenever (value 2 ≠ 0) (failTest data "Error: Failed to set GPIO data value = 0\n" "output")
  perform ((List.replicate 100 [.gpioSetValue data.index 1, .udelay 200,
    .gpioSetValue data.index 0, .udelay 200]).flatten)
  perform [.gpioFree data.index, .print "GPIO output test success\n"]
  return 0

def rtkGpioInputTest (data : TestData) (answers : Answers) : Program Int := do
  perform [.print "GPIO input test start\n", .gpioRequest data.index (answers.gpioRequest 0)]
  whenever ((answers.gpioRequest 0).code ≠ 0)
    (leave [.print ("Error: Failed to request GPIO " ++ toString data.index ++ "\n")] (-EINVAL))
  perform [.gpioDirectionInput data.index]
  whenever (isErrValue (answers.gpioDirection 0).code)
    (failTest data "Error: Failed to set GPIO direction input\n" "input")
  perform ((List.range 10).flatMap fun i => [.gpioGetValue data.index,
    .print ("Get GPIO data value: " ++ toString (answers.gpioGetValue i) ++ "\n"), .udelay 500])
  perform [.gpioFree data.index, .print "GPIO input test success\n"]
  return 0

/-- The rounds of the in-out loop from `i` on, with `ret` as the loop leaves it. -/
def inoutRounds (data : TestData) (answers : Answers) : Nat → Nat → Int → Int → Program Int
  | 0, _, _, ret => pure ret
  | rounds + 1, i, setValue, ret =>
      let setValue := if setValue = 0 then 1 else 0
      let value := answers.gpioGetValue i
      if value ≠ setValue then do
        perform [.gpioSetValue data.outIndex setValue, .udelay 200, .gpioGetValue data.inIndex,
          .print ("Error: GPIO check fail: out = " ++ toString setValue ++ ", in = " ++
            toString value ++ "\n")]
        return -EINVAL
      else do
        perform [.gpioSetValue data.outIndex setValue, .udelay 200, .gpioGetValue data.inIndex]
        inoutRounds data answers rounds (i + 1) setValue ret

def rtkGpioInoutTest (data : TestData) (answers : Answers) : Program Int := do
  perform [.print "GPIO in-out test start\n", .gpioRequest data.inIndex (answers.gpioRequest 0)]
  let ret := (answers.gpioRequest 0).code
  whenever (ret ≠ 0)
    (leave [.print ("Error: Failed to request input GPIO " ++ toString data.inIndex ++ "\n")] ret)
  perform [.gpioDirectionInput data.inIndex]
  let ret := (answers.gpioDirection 0).code
  whenever (isErrValue ret)
    (leave [.print "Error: Failed to set input direction\n", .gpioFree data.inIndex] ret)
  perform [.gpioRequest data.outIndex (answers.gpioRequest 1)]
  let ret := (answers.gpioRequest 1).code
  whenever (ret ≠ 0)
    (leave [.print ("Error: Failed to request output GPIO " ++ toString data.outIndex ++ "\n"),
      .gpioFree data.inIndex] ret)
  perform [.gpioDirectionOutput data.outIndex 0]
  let ret := (answers.gpioDirection 1).code
  whenever (isErrValue ret)
    (leave [.print "Error: Failed to set output direction\n", .gpioFree data.outIndex,
      .gpioFree data.inIndex] ret)
  let ret ← inoutRounds data answers 10 0 0 ret
  perform [.gpioFree data.outIndex, .gpioFree data.inIndex]
  return ret

/-- The functions of the table `rtk_test_case`. -/
def TestCase.func : TestCase → TestData → Answers → Program Int
  | .highIrq => rtkGpioRequestHighIrq
  | .lowIrq => rtkGpioRequestLowIrq
  | .fallIrq => rtkGpioRequestFallIrq
  | .riseIrq => rtkGpioRequestRiseIrq
  | .bothIrq => rtkGpioRequestBothIrq
  | .reRequest => rtkGpioReRequest
  | .outputTest => rtkGpioOutputTest
  | .inputTest => rtkGpioInputTest
  | .inoutTest => rtkGpioInoutTest

/-! ### The ledger -/

inductive Entry
  | request (line : Int)
  | free (line : Int)
  | requestIrq (irq : Int)
  | freeIrq (irq : Int)
  deriving DecidableEq, Repr

def Call.entry : Call → Option Entry
  | .gpioRequest line .success => some (.request line)
  | .gpioFree line => some (.free line)
  | .requestIrq irq _ .success => some (.requestIrq irq)
  | .freeIrq irq => some (.freeIrq irq)
  | _ => none

def entries (calls : List Call) : List Entry :=
  calls.filterMap Call.entry

def ledger {Value : Type} (program : Program Value) : List Entry :=
  entries program.lines

/-- Every line is freed as often as it was requested and only while it is held,
and an interrupt is freed exactly once if it was requested, before any line. -/
structure GivenBack (ledger : List Entry) : Prop where
  lines : ∀ line, ledger.count (.free line) = ledger.count (.request line)
  held : ∀ before line later, ledger = before ++ .free line :: later →
    before.count (.free line) < before.count (.request line)
  irqOnce : ∀ irq, .requestIrq irq ∈ ledger → ledger.count (.freeIrq irq) = 1
  irqOnly : ∀ irq, .requestIrq irq ∉ ledger → .freeIrq irq ∉ ledger
  irqFirst : ∀ before irq later, ledger = before ++ .freeIrq irq :: later →
    ∀ line, .free line ∉ before

section Ledger

variable {Value Next : Type}

theorem ledger_perform (calls : List Call) (rest : Unit → Program Next) :
    ledger (perform calls >>= rest) = entries calls ++ ledger (rest ()) := by
  change entries (calls ++ (rest ()).lines) = _
  exact List.filterMap_append

theorem ledger_leave {condition : Prop} [Decidable condition] (taken : condition)
    (calls : List Call) (ret : Int) (rest : Unit → Program Next) :
    ledger (whenever condition (leave calls ret) >>= rest) = entries calls := by
  rw [whenever, if_pos taken]
  rfl

theorem ledger_stay {condition : Prop} [Decidable condition] (passed : ¬ condition)
    (body : Program Unit) (rest : Unit → Program Next) :
    ledger (whenever condition body >>= rest) = ledger (rest ()) := by
  rw [whenever, if_neg passed, pure_bind]

/-- A part of a function that always goes on and acquires and frees nothing. -/
def Quiet (program : Program Value) : Prop :=
  (∃ value, program.result = .ok value) ∧ ledger program = []

theorem Quiet.pure (value : Value) : Quiet (pure value : Program Value) :=
  ⟨⟨value, rfl⟩, rfl⟩

theorem Quiet.perform {calls : List Call} (nothing : entries calls = [])
    {rest : Unit → Program Next} (quiet : Quiet (rest ())) : Quiet (perform calls >>= rest) := by
  refine ⟨quiet.1, ?_⟩
  rw [ledger_perform, nothing, quiet.2]
  rfl

theorem Quiet.ledger_bind {program : Program Value} (quiet : Quiet program)
    (rest : Value → Program Next) :
    ∃ value, ledger (program >>= rest) = ledger (rest value) := by
  obtain ⟨⟨value, returned⟩, nothing⟩ := quiet
  refine ⟨value, ?_⟩
  rw [bind_of_ok returned]
  change entries (program.lines ++ (rest value).lines) = _
  rw [entries, List.filterMap_append]
  change ledger program ++ _ = _
  rw [nothing]
  rfl

end Ledger

theorem Status.code_success : Status.success.code = 0 := rfl

theorem Status.code_failure_ne (errno : Errno) : (Status.failure errno).code ≠ 0 := by
  have positive := errno.positive
  change (-(errno.value : Int)) ≠ 0
  omega

theorem Status.isErrValue_failure (errno : Errno) : isErrValue (Status.failure errno).code := by
  have positive := errno.positive
  have bounded := errno.bounded
  change -4095 ≤ (-(errno.value : Int)) ∧ (-(errno.value : Int)) ≤ -1
  omega

theorem Status.not_isErrValue_success : ¬ isErrValue Status.success.code := by decide

/-- Leaving unless the call was granted, tested as `ret != 0`. -/
theorem ledger_granted {Next : Type} (status : Status) (calls : List Call) (ret : Int)
    (rest : Unit → Program Next) :
    ledger (whenever (status.code ≠ 0) (leave calls ret) >>= rest) =
      match status with
      | .failure _ => entries calls
      | .success => ledger (rest ()) := by
  cases status with
  | success => exact ledger_stay (not_not_intro Status.code_success) _ rest
  | failure errno => exact ledger_leave (Status.code_failure_ne errno) calls ret rest

/-- The same, tested by `IS_ERR_VALUE`. -/
theorem ledger_no_error {Next : Type} (status : Status) (calls : List Call) (ret : Int)
    (rest : Unit → Program Next) :
    ledger (whenever (isErrValue status.code) (leave calls ret) >>= rest) =
      match status with
      | .failure _ => entries calls
      | .success => ledger (rest ()) := by
  cases status with
  | success => exact ledger_stay Status.not_isErrValue_success _ rest
  | failure errno => exact ledger_leave (Status.isErrValue_failure errno) calls ret rest

theorem rtkGpioSetDebounce_quiet (data : TestData) (answers : Answers) :
    Quiet (rtkGpioSetDebounce data answers) := by
  unfold rtkGpioSetDebounce
  split
  · apply Quiet.perform rfl
    dsimp only
    split
    · exact Quiet.perform rfl (Quiet.pure _)
    · exact Quiet.pure _
  · exact Quiet.pure _

theorem waitRounds_quiet (test : TestCase) (answers : Answers) (rounds i : Nat) :
    Quiet (waitRounds test answers rounds i) := by
  induction rounds generalizing i with
  | zero => exact Quiet.pure true
  | succ rounds ih =>
      unfold waitRounds
      dsimp only
      split
      · exact Quiet.perform rfl (Quiet.pure _)
      · exact Quiet.perform rfl (ih (i + 1))

theorem inoutRounds_quiet (data : TestData) (answers : Answers) (rounds i : Nat)
    (setValue ret : Int) : Quiet (inoutRounds data answers rounds i setValue ret) := by
  induction rounds generalizing i setValue with
  | zero => exact Quiet.pure ret
  | succ rounds ih =>
      unfold inoutRounds
      by_cases differs : answers.gpioGetValue i ≠ if setValue = 0 then 1 else 0
      · dsimp only
        rw [if_pos differs]
        exact Quiet.perform rfl (Quiet.pure _)
      · dsimp only
        rw [if_neg differs]
        exact Quiet.perform rfl (ih (i + 1) _)

/-! ### What each function acquires and frees -/

theorem rtkGpioIrqTest_ledger (test : TestCase) (data : TestData) (answers : Answers) :
    ledger (rtkGpioIrqTest test data answers) =
      match answers.gpioRequest 0, answers.requestIrq with
      | .failure _, _ => []
      | .success, .failure _ => [.request data.index, .free data.index]
      | .success, .success =>
          [.request data.index, .requestIrq answers.gpioToIrq, .freeIrq answers.gpioToIrq,
            .free data.index] := by
  unfold rtkGpioIrqTest
  dsimp only
  rw [ledger_perform, ledger_granted, ledger_perform, ledger_no_error]
  cases requested : answers.gpioRequest 0 with
  | failure errno => rfl
  | success =>
  cases irq : answers.requestIrq with
  | failure errno => rfl
  | success =>
  dsimp only
  obtain ⟨ret, debounced⟩ := (rtkGpioSetDebounce_quiet data answers).ledger_bind _
  rw [debounced]
  by_cases failed : ret ≠ 0
  · rw [ledger_leave failed]
    rfl
  rw [ledger_stay failed]
  obtain ⟨completed, waited⟩ := (waitRounds_quiet test answers 5 0).ledger_bind _
  rw [waited]
  by_cases timeout : completed = false
  · rw [ledger_leave timeout]
    rfl
  rw [ledger_stay timeout, ledger_perform]
  rfl

theorem rtkGpioReRequest_ledger (data : TestData) (answers : Answers) :
    ledger (rtkGpioReRequest data answers) =
      match answers.gpioRequest 0, answers.gpioRequest 1 with
      | .failure _, _ => []
      | .success, .failure _ => [.request data.index, .free data.index]
      | .success, .success =>
          [.request data.index, .request data.index, .free data.index] := by
  unfold rtkGpioReRequest
  rw [ledger_perform, ledger_granted, ledger_perform]
  cases first : answers.gpioRequest 0 with
  | failure errno => rfl
  | success =>
  cases second : answers.gpioRequest 1 with
  | failure errno =>
      rw [ledger_stay (Status.code_failure_ne errno), ledger_perform]
      rfl
  | success =>
      rw [ledger_leave Status.code_success]
      rfl

theorem rtkGpioOutputTest_ledger (data : TestData) (answers : Answers) :
    ledger (rtkGpioOutputTest data answers) =
      match answers.gpioRequest 0 with
      | .failure _ => []
      | .success => [.request data.index, .free data.index] := by
  unfold rtkGpioOutputTest failTest
  dsimp only
  rw [ledger_perform, ledger_granted, ledger_perform, ledger_no_error, ledger_perform]
  cases requested : answers.gpioRequest 0 with
  | failure errno => rfl
  | success =>
  cases direction : answers.gpioDirection 0 with
  | failure errno => rfl
  | success =>
  dsimp only
  by_cases notOne : answers.gpioGetValue 1 ≠ 1
  · rw [ledger_leave notOne]
    rfl
  rw [ledger_stay notOne, ledger_perform]
  by_cases notZero : answers.gpioGetValue 2 ≠ 0
  · rw [ledger_leave notZero]
    rfl
  rw [ledger_stay notZero, ledger_perform, ledger_perform]
  have toggles : ∀ rounds, entries ((List.replicate rounds [.gpioSetValue data.index 1,
      .udelay 200, .gpioSetValue data.index 0, .udelay 200]).flatten) = [] := by
    intro rounds
    induction rounds with
    | zero => rfl
    | succ rounds ih => exact ih
  rw [toggles]
  rfl

theorem rtkGpioInputTest_ledger (data : TestData) (answers : Answers) :
    ledger (rtkGpioInputTest data answers) =
      match answers.gpioRequest 0 with
      | .failure _ => []
      | .success => [.request data.index, .free data.index] := by
  unfold rtkGpioInputTest failTest
  rw [ledger_perform, ledger_granted, ledger_perform, ledger_no_error, ledger_perform,
    ledger_perform]
  cases requested : answers.gpioRequest 0 with
  | failure errno => rfl
  | success =>
  cases direction : answers.gpioDirection 0 with
  | failure errno => rfl
  | success => rfl

theorem rtkGpioInoutTest_ledger (data : TestData) (answers : Answers) :
    ledger (rtkGpioInoutTest data answers) =
      match answers.gpioRequest 0, answers.gpioDirection 0, answers.gpioRequest 1 with
      | .failure _, _, _ => []
      | .success, .success, .success =>
          [.request data.inIndex, .request data.outIndex, .free data.outIndex,
            .free data.inIndex]
      | .success, _, _ => [.request data.inIndex, .free data.inIndex] := by
  unfold rtkGpioInoutTest
  dsimp only
  rw [ledger_perform, ledger_granted, ledger_perform, ledger_no_error, ledger_perform,
    ledger_granted, ledger_perform, ledger_no_error]
  cases requestedIn : answers.gpioRequest 0 with
  | failure errno => rfl
  | success =>
  cases directionIn : answers.gpioDirection 0 with
  | failure errno => rfl
  | success =>
  cases requestedOut : answers.gpioRequest 1 with
  | failure errno => rfl
  | success =>
  cases directionOut : answers.gpioDirection 1 with
  | failure errno => rfl
  | success =>
  dsimp only
  obtain ⟨ret, looped⟩ := (inoutRounds_quiet data answers 10 0 0 _).ledger_bind _
  rw [looped, ledger_perform]
  rfl

/-! ### Giving back -/

/-- Where an entry stands in a bracketed ledger: it closes the bracket, or it is
one of the entries inside. -/
theorem bracket_split {opening closing entry : Entry} {body before later : List Entry}
    (other : opening ≠ entry)
    (split : opening :: (body ++ [closing]) = before ++ entry :: later) :
    (before = opening :: body ∧ entry = closing) ∨
      ∃ inside rest, before = opening :: inside ∧ body = inside ++ entry :: rest := by
  cases before with
  | nil => exact absurd (List.cons.inj split).1 other
  | cons first inside =>
      obtain ⟨same, split⟩ := List.cons.inj split
      rw [← same]
      rcases List.eq_nil_or_concat' later with rfl | ⟨rest, last, rfl⟩
      · have parts := List.append_inj' split rfl
        exact Or.inl ⟨by rw [parts.1], (List.singleton_inj.mp parts.2).symm⟩
      · have split' : body ++ [closing] = (inside ++ entry :: rest) ++ [last] := by
          rw [split, List.append_assoc]
          rfl
        have parts := List.append_inj' split' rfl
        exact Or.inr ⟨inside, rest, rfl, parts.1⟩

theorem GivenBack.nil : GivenBack [] where
  lines := fun _ => rfl
  held := fun before line later split => by cases before <;> cases split
  irqOnce := fun irq member => absurd member List.not_mem_nil
  irqOnly := fun irq _ => List.not_mem_nil
  irqFirst := fun before irq later split => by cases before <;> cases split

theorem GivenBack.irq (irq : Int) : GivenBack [.requestIrq irq, .freeIrq irq] where
  lines := fun line => by simp
  held := by
    intro before line later split
    have member : Entry.free line ∈ [.requestIrq irq, .freeIrq irq] := by
      rw [split]
      exact List.mem_append_right before List.mem_cons_self
    simp at member
  irqOnce := by
    intro other member
    simp only [List.mem_cons, Entry.requestIrq.injEq, reduceCtorEq, List.not_mem_nil, or_false]
      at member
    rw [member]
    simp
  irqOnly := fun other absent => by simpa using absent
  irqFirst := by
    intro before other later split line member
    have inside : Entry.free line ∈ [.requestIrq irq, .freeIrq irq] := by
      rw [split]
      exact List.mem_append_left _ member
    simp at inside

theorem GivenBack.line {body : List Entry} (inner : GivenBack body) (line : Int) :
    GivenBack (.request line :: (body ++ [.free line])) where
  lines := by
    intro other
    have same := inner.lines other
    by_cases this : line = other
    · simp [this, same]
    · simp [this, same]
  held := by
    intro before other later split
    rcases bracket_split (by intro same; cases same) split with
      ⟨whole, same⟩ | ⟨inside, rest, whole, split⟩
    · cases same
      have same := inner.lines line
      simp [whole, same]
    · have below := inner.held inside other rest split
      have more : inside.count (.request other) ≤
          (Entry.request line :: inside).count (.request other) := List.count_le_count_cons
      have frees : (Entry.request line :: inside).count (.free other) =
          inside.count (.free other) := by simp
      rw [whole, frees]
      exact Nat.lt_of_lt_of_le below more
  irqOnce := by
    intro irq member
    have once := inner.irqOnce irq (by simpa using member)
    simpa using once
  irqOnly := by
    intro irq absent
    have never := inner.irqOnly irq (by simpa using absent)
    simpa using never
  irqFirst := by
    intro before irq later split other member
    rcases bracket_split (by intro same; cases same) split with
      ⟨_whole, same⟩ | ⟨inside, rest, whole, split⟩
    · cases same
    · rw [whole] at member
      rcases List.mem_cons.mp member with same | member
      · cases same
      · exact inner.irqFirst inside irq rest split other member

theorem not_givenBack_twice (line : Int) :
    ¬ GivenBack [.request line, .request line, .free line] := by
  intro givenBack
  have same := givenBack.lines line
  simp at same

theorem rtkGpioIrqTest_givenBack (test : TestCase) (data : TestData) (answers : Answers) :
    GivenBack (ledger (rtkGpioIrqTest test data answers)) := by
  rw [rtkGpioIrqTest_ledger]
  split
  · exact GivenBack.nil
  · exact GivenBack.nil.line data.index
  · exact (GivenBack.irq answers.gpioToIrq).line data.index

theorem rtkGpioReRequest_givenBack_iff (data : TestData) (answers : Answers) :
    GivenBack (ledger (rtkGpioReRequest data answers)) ↔
      ¬ (answers.gpioRequest 0 = .success ∧ answers.gpioRequest 1 = .success) := by
  rw [rtkGpioReRequest_ledger]
  cases first : answers.gpioRequest 0 with
  | failure errno =>
      constructor
      · intro _givenBack both
        cases both.1
      · intro _refused
        exact GivenBack.nil
  | success =>
      cases second : answers.gpioRequest 1 with
      | failure errno =>
          constructor
          · intro _givenBack both
            cases both.2
          · intro _refused
            exact GivenBack.nil.line data.index
      | success =>
          constructor
          · intro givenBack
            exact absurd givenBack (not_givenBack_twice data.index)
          · intro refused
            exact absurd ⟨rfl, rfl⟩ refused

theorem rtkGpioOutputTest_givenBack (data : TestData) (answers : Answers) :
    GivenBack (ledger (rtkGpioOutputTest data answers)) := by
  rw [rtkGpioOutputTest_ledger]
  split
  · exact GivenBack.nil
  · exact GivenBack.nil.line data.index

theorem rtkGpioInputTest_givenBack (data : TestData) (answers : Answers) :
    GivenBack (ledger (rtkGpioInputTest data answers)) := by
  rw [rtkGpioInputTest_ledger]
  split
  · exact GivenBack.nil
  · exact GivenBack.nil.line data.index

theorem rtkGpioInoutTest_givenBack (data : TestData) (answers : Answers) :
    GivenBack (ledger (rtkGpioInoutTest data answers)) := by
  rw [rtkGpioInoutTest_ledger]
  split
  · exact GivenBack.nil
  · exact (GivenBack.nil.line data.outIndex).line data.inIndex
  · exact GivenBack.nil.line data.inIndex

/-- Each of the nine functions, whatever the kernel answers, gives back all that
it acquired, except when the line that `rtk_gpio_re_request` requests for the
second time is granted again. -/
theorem func_givenBack_iff (test : TestCase) (data : TestData) (answers : Answers) :
    GivenBack (ledger (test.func data answers)) ↔
      ¬ (test = .reRequest ∧ answers.gpioRequest 0 = .success ∧
        answers.gpioRequest 1 = .success) := by
  by_cases isReRequest : test = .reRequest
  · subst isReRequest
    have reRequest := rtkGpioReRequest_givenBack_iff data answers
    constructor
    · intro givenBack both
      exact reRequest.mp givenBack both.2
    · intro refused
      apply reRequest.mpr
      intro both
      exact refused ⟨rfl, both⟩
  · constructor
    · intro _givenBack both
      exact isReRequest both.1
    · intro _refused
      cases test with
      | highIrq => exact rtkGpioIrqTest_givenBack .highIrq data answers
      | lowIrq => exact rtkGpioIrqTest_givenBack .lowIrq data answers
      | fallIrq => exact rtkGpioIrqTest_givenBack .fallIrq data answers
      | riseIrq => exact rtkGpioIrqTest_givenBack .riseIrq data answers
      | bothIrq => exact rtkGpioIrqTest_givenBack .bothIrq data answers
      | reRequest => exact absurd rfl isReRequest
      | outputTest => exact rtkGpioOutputTest_givenBack data answers
      | inputTest => exact rtkGpioInputTest_givenBack data answers
      | inoutTest => exact rtkGpioInoutTest_givenBack data answers

theorem reRequest_granted_twice :
    let data : TestData :=
      { index := 17, inIndex := 17, outIndex := 18, dbEnable := none, dbDivCnt := 0 }
    let answers : Answers :=
      { gpioToIrq := 40
        gpioRequest := fun _ => .success
        gpioDirection := fun _ => .success
        gpioGetValue := fun _ => 0
        requestIrq := .success
        gpioSetDebounce := .success
        waitForCompletionTimeout := fun _ => 1 }
    ledger (TestCase.reRequest.func data answers) = [.request 17, .request 17, .free 17] ∧
      ¬ GivenBack (ledger (TestCase.reRequest.func data answers)) := by
  intro data answers
  have entries : ledger (TestCase.reRequest.func data answers) =
      [.request 17, .request 17, .free 17] := rtkGpioReRequest_ledger data answers
  refine ⟨entries, ?_⟩
  rw [entries]
  exact not_givenBack_twice 17

end AmebaTests.Gpio.Kernel
