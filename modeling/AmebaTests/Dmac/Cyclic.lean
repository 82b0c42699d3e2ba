/-
`rtk_dma_test_cyclic` as a machine that is interleaved with its DMA callbacks.

Every statement of the function that reads or writes shared data is one step:
the three tests of `dma_cyclic_status` in the polling chain are three separate
reads, and `rtk_prepare_test_buf` stores one word of `buf_src` a step.  The
callback is one atomic step, and the DMA engine may leave any contents in
`buf_dst` once a descriptor has been issued.

A cyclic descriptor is never terminated by the function, so an issued descriptor
stays able to call back until the function has returned.  The dmaengine client
calls are outside the repository: `dmaengine_slave_config` answers by an event,
and the allocations succeed with fresh handles and zeroed coherent memory.
-/

import AmebaTests.Dmac.Buffer
import AmebaTests.Foundation.Runs

namespace AmebaTests.Dmac

open Foundation

inductive TestResult
  | fail
  | success
  | wait
  deriving DecidableEq, Repr

/-- `struct rtk_dma_test_addr` on the stack of the function.  A pointer that has
not been assigned is `none`; the sizes are assigned before they are read. -/
structure TestAddr where
  bufSrc : Option Nat := none
  dmaHandleSrc : Option Nat := none
  memSizeSrc : Nat := 0
  bufDst : Option Nat := none
  dmaHandleDst : Option Nat := none
  memSizeDst : Nat := 0

structure DmaSlaveConfig where
  dstAddr : Option Nat
  srcAddr : Option Nat

structure Descriptor where
  bufAddr : Option Nat
  bufLen : Nat
  periodLen : Nat

inductive Resource
  | channel (handle : Nat)
  | coherent (handle : Nat)
  deriving DecidableEq, Repr

/-- Control points of `rtk_dma_test_cyclic`.  `undefined` is the write through
the `config` pointer before it has been assigned. -/
inductive Point
  | loopTest
  | pollFail
  | pollWait
  | pollSuccess
  | setWait
  | prepare
  | fill (i : Nat)
  | increment
  | requestChan
  | slaveConfig
  | submit
  | tailPoll
  | endFail
  | endSuccess
  | returned (verdict : TestResult)
  | undefined
  deriving DecidableEq, Repr

/-- `acquired` and `released` list what this invocation requested or allocated
and what it handed to `rtk_dmac_test_end`, with `none` for a value that was
never assigned. -/
structure State where
  loop : Nat
  dmaCyclicStatus : TestResult
  point : Point
  dmaTestTimes : Nat
  testAddr : TestAddr
  chan : Option Nat
  config : Option DmaSlaveConfig
  src : Words
  dst : Words
  issued : List Descriptor
  nextHandle : Nat
  acquired : List Resource
  released : List (Option Resource)

inductive Event
  | main
  | slaveConfig (ret : BitVec 32)
  | engine (contents : Words)
  | callback

def enter (status : TestResult) (nextHandle loop : Nat) : State where
  loop := loop
  dmaCyclicStatus := status
  point := .loopTest
  dmaTestTimes := 0
  testAddr := {}
  chan := none
  config := none
  src := fun _ => 0
  dst := fun _ => 0
  issued := []
  nextHandle := nextHandle
  acquired := []
  released := []

def State.buffersEqual (s : State) : Bool :=
  bufCompare s.src s.dst s.testAddr.memSizeDst

def rtkDmaTestCyclicCallback (s : State) : State :=
  if s.buffersEqual then
    { s with dmaCyclicStatus := .success }
  else
    { s with dmaCyclicStatus := .fail }

def rtkDmacTestEnd (s : State) (next : Point) : State :=
  { s with
    released := s.released ++
      [s.chan.map .channel, s.testAddr.bufSrc.map .coherent,
        s.testAddr.bufDst.map .coherent]
    point := next }

/-- The head of `rtk_prepare_test_buf`: sizes, and in the first round the two
coherent allocations. -/
def prepareStep (s : State) : State :=
  let size := memSize .cyclic
  if s.dmaTestTimes = 0 then
    { s with
      testAddr :=
        { bufSrc := some s.nextHandle
          dmaHandleSrc := some s.nextHandle
          memSizeSrc := size
          bufDst := some (s.nextHandle + 1)
          dmaHandleDst := some (s.nextHandle + 1)
          memSizeDst := size }
      src := fun _ => 0
      dst := fun _ => 0
      nextHandle := s.nextHandle + 2
      acquired := s.acquired ++ [.coherent s.nextHandle, .coherent (s.nextHandle + 1)]
      point := .fill 0 }
  else
    { s with
      testAddr := { s.testAddr with memSizeSrc := size, memSizeDst := size }
      point := .fill 0 }

def requestChanStep (s : State) : State :=
  if s.dmaTestTimes = 1 then
    { s with
      chan := some s.nextHandle
      config := some { dstAddr := none, srcAddr := none }
      nextHandle := s.nextHandle + 1
      acquired := s.acquired ++ [.channel s.nextHandle]
      point := .slaveConfig }
  else
    { s with point := .slaveConfig }

def storedConfig (s : State) : DmaSlaveConfig where
  dstAddr := s.testAddr.dmaHandleDst
  srcAddr := s.testAddr.dmaHandleSrc

/-- The stores through `config`, then `dmaengine_slave_config` answering `ret`. -/
def slaveConfigStep (s : State) (ret : BitVec 32) : State :=
  match s.config with
  | none => { s with point := .undefined }
  | some _ =>
      if ret ≠ 0 then
        { s with config := some (storedConfig s), point := .returned .fail }
      else
        { s with config := some (storedConfig s), point := .submit }

def preparedDescriptor (s : State) : Descriptor where
  bufAddr := s.config.bind DmaSlaveConfig.dstAddr
  bufLen := s.testAddr.memSizeSrc
  periodLen := s.testAddr.memSizeSrc / 2

/-- One step of the function itself; it waits for an event at `slaveConfig`. -/
def mainStep (s : State) : Option State :=
  match s.point with
  | .loopTest =>
      if s.dmaTestTimes < s.loop then some { s with point := .pollFail }
      else some { s with point := .tailPoll }
  | .pollFail =>
      if s.dmaCyclicStatus = .fail then some { s with point := .endFail }
      else some { s with point := .pollWait }
  | .pollWait =>
      if s.dmaCyclicStatus = .wait then some { s with point := .loopTest }
      else some { s with point := .pollSuccess }
  | .pollSuccess =>
      if s.dmaCyclicStatus = .success then some { s with point := .setWait }
      -- no branch matched: a callback ran inside the chain, the round goes on
      else some { s with point := .requestChan }
  | .setWait => some { s with dmaCyclicStatus := .wait, point := .prepare }
  | .prepare => some (prepareStep s)
  | .fill i =>
      if i < s.testAddr.memSizeSrc / 4 then
        some { s with src := fillWord s.dmaTestTimes s.src i, point := .fill (i + 1) }
      else some { s with point := .increment }
  | .increment => some { s with dmaTestTimes := s.dmaTestTimes + 1, point := .requestChan }
  | .requestChan => some (requestChanStep s)
  | .slaveConfig => none
  | .submit => some { s with issued := s.issued ++ [preparedDescriptor s], point := .loopTest }
  | .tailPoll =>
      if s.dmaCyclicStatus = .wait then some s
      else some { s with point := .endSuccess }
  | .endFail => some (rtkDmacTestEnd s (.returned .fail))
  | .endSuccess => some (rtkDmacTestEnd s (.returned .success))
  | .returned _ => none
  | .undefined => none

def State.active (s : State) : Bool :=
  !s.issued.isEmpty &&
    match s.point with
    | .returned _ => false
    | .undefined => false
    | _ => true

def step (s : State) : Event → Option State
  | .main => mainStep s
  | .slaveConfig ret =>
      if s.point = .slaveConfig then some (slaveConfigStep s ret) else none
  | .engine contents => if s.active then some { s with dst := contents } else none
  | .callback => if s.active then some (rtkDmaTestCyclicCallback s) else none

/-! ### What one step can do -/

/-- The transitions of `step`, one constructor for each way a statement can go. -/
inductive Moves (s : State) : Event → State → Prop
  | enterLoop : s.point = .loopTest → s.dmaTestTimes < s.loop →
      Moves s .main { s with point := .pollFail }
  | leaveLoop : s.point = .loopTest → s.loop ≤ s.dmaTestTimes →
      Moves s .main { s with point := .tailPoll }
  | sawFail : s.point = .pollFail → s.dmaCyclicStatus = .fail →
      Moves s .main { s with point := .endFail }
  | passedFail : s.point = .pollFail → s.dmaCyclicStatus ≠ .fail →
      Moves s .main { s with point := .pollWait }
  | sawWait : s.point = .pollWait → s.dmaCyclicStatus = .wait →
      Moves s .main { s with point := .loopTest }
  | passedWait : s.point = .pollWait → s.dmaCyclicStatus ≠ .wait →
      Moves s .main { s with point := .pollSuccess }
  | sawSuccess : s.point = .pollSuccess → s.dmaCyclicStatus = .success →
      Moves s .main { s with point := .setWait }
  | passedSuccess : s.point = .pollSuccess → s.dmaCyclicStatus ≠ .success →
      Moves s .main { s with point := .requestChan }
  | setWait : s.point = .setWait →
      Moves s .main { s with dmaCyclicStatus := .wait, point := .prepare }
  | prepare : s.point = .prepare → Moves s .main (prepareStep s)
  | fillOne (i : Nat) : s.point = .fill i → i < s.testAddr.memSizeSrc / 4 →
      Moves s .main
        { s with src := fillWord s.dmaTestTimes s.src i, point := .fill (i + 1) }
  | filled (i : Nat) : s.point = .fill i → s.testAddr.memSizeSrc / 4 ≤ i →
      Moves s .main { s with point := .increment }
  | increment : s.point = .increment →
      Moves s .main { s with dmaTestTimes := s.dmaTestTimes + 1, point := .requestChan }
  | requestChan : s.point = .requestChan → Moves s .main (requestChanStep s)
  | unassigned (ret : BitVec 32) : s.point = .slaveConfig → s.config = none →
      Moves s (.slaveConfig ret) { s with point := .undefined }
  | rejected (ret : BitVec 32) : s.point = .slaveConfig → s.config.isSome = true →
      ret ≠ 0 →
      Moves s (.slaveConfig ret)
        { s with config := some (storedConfig s), point := .returned .fail }
  | accepted (ret : BitVec 32) : s.point = .slaveConfig → s.config.isSome = true →
      ret = 0 →
      Moves s (.slaveConfig ret)
        { s with config := some (storedConfig s), point := .submit }
  | submit : s.point = .submit →
      Moves s .main
        { s with issued := s.issued ++ [preparedDescriptor s], point := .loopTest }
  | tailWait : s.point = .tailPoll → s.dmaCyclicStatus = .wait → Moves s .main s
  | tailDone : s.point = .tailPoll → s.dmaCyclicStatus ≠ .wait →
      Moves s .main { s with point := .endSuccess }
  | endFail : s.point = .endFail →
      Moves s .main (rtkDmacTestEnd s (.returned .fail))
  | endSuccess : s.point = .endSuccess →
      Moves s .main (rtkDmacTestEnd s (.returned .success))
  | engine (contents : Words) : s.active = true →
      Moves s (.engine contents) { s with dst := contents }
  | callback : s.active = true → Moves s .callback (rtkDmaTestCyclicCallback s)

theorem mainStep_moves {s successor : State} (taken : mainStep s = some successor) :
    Moves s .main successor := by
  cases point : s.point with
  | loopTest =>
      simp only [mainStep, point] at taken
      split at taken <;> cases taken
      · exact .enterLoop point ‹_›
      · exact .leaveLoop point (Nat.le_of_not_lt ‹_›)
  | pollFail =>
      simp only [mainStep, point] at taken
      split at taken <;> cases taken
      · exact .sawFail point ‹_›
      · exact .passedFail point ‹_›
  | pollWait =>
      simp only [mainStep, point] at taken
      split at taken <;> cases taken
      · exact .sawWait point ‹_›
      · exact .passedWait point ‹_›
  | pollSuccess =>
      simp only [mainStep, point] at taken
      split at taken <;> cases taken
      · exact .sawSuccess point ‹_›
      · exact .passedSuccess point ‹_›
  | setWait =>
      simp only [mainStep, point] at taken
      cases taken
      exact .setWait point
  | prepare =>
      simp only [mainStep, point] at taken
      cases taken
      exact .prepare point
  | fill i =>
      simp only [mainStep, point] at taken
      split at taken <;> cases taken
      · exact .fillOne i point ‹_›
      · exact .filled i point (Nat.le_of_not_lt ‹_›)
  | increment =>
      simp only [mainStep, point] at taken
      cases taken
      exact .increment point
  | requestChan =>
      simp only [mainStep, point] at taken
      cases taken
      exact .requestChan point
  | submit =>
      simp only [mainStep, point] at taken
      cases taken
      exact .submit point
  | tailPoll =>
      simp only [mainStep, point] at taken
      split at taken <;> cases taken
      · exact .tailWait point ‹_›
      · exact .tailDone point ‹_›
  | endFail =>
      simp only [mainStep, point] at taken
      cases taken
      exact .endFail point
  | endSuccess =>
      simp only [mainStep, point] at taken
      cases taken
      exact .endSuccess point
  | slaveConfig => simp only [mainStep, point, reduceCtorEq] at taken
  | returned verdict => simp only [mainStep, point, reduceCtorEq] at taken
  | undefined => simp only [mainStep, point, reduceCtorEq] at taken

theorem slaveConfigStep_moves {s : State} (point : s.point = .slaveConfig)
    (ret : BitVec 32) : Moves s (.slaveConfig ret) (slaveConfigStep s ret) := by
  unfold slaveConfigStep
  split
  · rename_i assigned
    exact .unassigned ret point assigned
  · rename_i old assigned
    have isSome : s.config.isSome = true := by rw [assigned]; rfl
    by_cases accepted : ret = 0
    · rw [if_neg (not_not_intro accepted)]
      exact .accepted ret point isSome accepted
    · rw [if_pos accepted]
      exact .rejected ret point isSome accepted

theorem step_moves {s successor : State} {event : Event}
    (taken : step s event = some successor) : Moves s event successor := by
  cases event with
  | main => exact mainStep_moves taken
  | slaveConfig ret =>
      simp only [step] at taken
      split at taken
      · rename_i point
        cases taken
        exact slaveConfigStep_moves point ret
      · cases taken
  | engine contents =>
      simp only [step] at taken
      split at taken
      · rename_i active
        cases taken
        exact .engine contents active
      · cases taken
  | callback =>
      simp only [step] at taken
      split at taken
      · rename_i active
        cases taken
        exact .callback active
      · cases taken

/-! ### What the larger steps leave alone -/

theorem active_issued {s : State} (active : s.active = true) : s.issued ≠ [] := by
  intro empty
  simp [State.active, empty] at active

section Frames

variable (s : State)

@[simp] theorem callback_loop : (rtkDmaTestCyclicCallback s).loop = s.loop := by
  unfold rtkDmaTestCyclicCallback
  split <;> rfl

@[simp] theorem callback_point : (rtkDmaTestCyclicCallback s).point = s.point := by
  unfold rtkDmaTestCyclicCallback
  split <;> rfl

@[simp] theorem callback_dmaTestTimes :
    (rtkDmaTestCyclicCallback s).dmaTestTimes = s.dmaTestTimes := by
  unfold rtkDmaTestCyclicCallback
  split <;> rfl

@[simp] theorem callback_testAddr :
    (rtkDmaTestCyclicCallback s).testAddr = s.testAddr := by
  unfold rtkDmaTestCyclicCallback
  split <;> rfl

@[simp] theorem callback_src : (rtkDmaTestCyclicCallback s).src = s.src := by
  unfold rtkDmaTestCyclicCallback
  split <;> rfl

@[simp] theorem callback_issued : (rtkDmaTestCyclicCallback s).issued = s.issued := by
  unfold rtkDmaTestCyclicCallback
  split <;> rfl

@[simp] theorem callback_config : (rtkDmaTestCyclicCallback s).config = s.config := by
  unfold rtkDmaTestCyclicCallback
  split <;> rfl

@[simp] theorem callback_status :
    (rtkDmaTestCyclicCallback s).dmaCyclicStatus =
      if s.buffersEqual then .success else .fail := by
  unfold rtkDmaTestCyclicCallback
  split <;> rfl

@[simp] theorem prepareStep_loop : (prepareStep s).loop = s.loop := by
  unfold prepareStep
  split <;> rfl

@[simp] theorem prepareStep_point : (prepareStep s).point = .fill 0 := by
  unfold prepareStep
  split <;> rfl

@[simp] theorem prepareStep_status :
    (prepareStep s).dmaCyclicStatus = s.dmaCyclicStatus := by
  unfold prepareStep
  split <;> rfl

@[simp] theorem prepareStep_dmaTestTimes :
    (prepareStep s).dmaTestTimes = s.dmaTestTimes := by
  unfold prepareStep
  split <;> rfl

@[simp] theorem prepareStep_memSizeSrc :
    (prepareStep s).testAddr.memSizeSrc = memSize .cyclic := by
  unfold prepareStep
  split <;> rfl

@[simp] theorem prepareStep_memSizeDst :
    (prepareStep s).testAddr.memSizeDst = memSize .cyclic := by
  unfold prepareStep
  split <;> rfl

@[simp] theorem prepareStep_issued : (prepareStep s).issued = s.issued := by
  unfold prepareStep
  split <;> rfl

@[simp] theorem requestChanStep_loop : (requestChanStep s).loop = s.loop := by
  unfold requestChanStep
  split <;> rfl

@[simp] theorem requestChanStep_point : (requestChanStep s).point = .slaveConfig := by
  unfold requestChanStep
  split <;> rfl

@[simp] theorem requestChanStep_status :
    (requestChanStep s).dmaCyclicStatus = s.dmaCyclicStatus := by
  unfold requestChanStep
  split <;> rfl

@[simp] theorem requestChanStep_dmaTestTimes :
    (requestChanStep s).dmaTestTimes = s.dmaTestTimes := by
  unfold requestChanStep
  split <;> rfl

@[simp] theorem requestChanStep_testAddr :
    (requestChanStep s).testAddr = s.testAddr := by
  unfold requestChanStep
  split <;> rfl

@[simp] theorem requestChanStep_src : (requestChanStep s).src = s.src := by
  unfold requestChanStep
  split <;> rfl

end Frames

end AmebaTests.Dmac
