/-
The threads that work on the pages of the queue.

An iteration of a work loop is the list of the calls it makes.  A call of the
queue takes the steps of `FineLockPEQueue`, between which the other threads
run; what a thread does to the memory of its pages is one step, since nobody
else has these pages.  A failing memory is one more party, which spoils words of
the pages in the queue.
-/

import AmebaTests.Stressapptest.Custody
import AmebaTests.Stressapptest.CopyPage
import AmebaTests.Stressapptest.Invert

namespace AmebaTests.Stressapptest

open Foundation

/-- The calls of the work loops.  A position is that of a page among those the
thread has, in the order it got them. -/
inductive Instruction
  | getValid
  | getEmpty
  | check
  | copy
  | warmCopy
  | invertUp
  | invertDown
  | putValid (position : Nat)
  | putEmpty (position : Nat)
  deriving DecidableEq, Repr

/-- The kinds of thread, with what decides the calls of their loops. -/
inductive Plan
  | copy (warm : Bool) (tag : BitVec 32)
  | check
  | invert
  deriving DecidableEq, Repr

namespace Plan

/-- The tag of the pages a thread asks for. -/
def tag : Plan → BitVec 32
  | .copy _ tag => tag
  | .check | .invert => kDontCareTag

/-- The iterations of the strict `Work` loops.  A check thread keeps its page
valid as long as the test is on. -/
def iterations : Plan → List (List Instruction)
  | .copy warm _ =>
      [[.getValid, .getEmpty, if warm then .warmCopy else .copy, .putValid 1, .putEmpty 0]]
  | .check => [[.getValid, .check, .putValid 0], [.getValid, .check, .putEmpty 0]]
  | .invert =>
      [[.getValid, .check, .invertUp, .invertDown, .invertDown, .invertUp, .check, .putValid 0]]

end Plan

/-- Where a thread stands in its loop: between two iterations, before the rest of
one, in a call of the queue with what comes after it, or out of the loop. -/
inductive Job
  | idle
  | running (rest : List Instruction)
  | calling (rest : List Instruction)
  | stopped
  deriving DecidableEq, Repr

/-- What `Sat` fixes before the threads start.  A page length is a power of two
from 1024 on. -/
structure Sat (Thread : Type) where
  setup : Setup
  queue : Queue
  testmem : Nat
  plans : Thread → Plan
  pageSize : queue.pageSize = setup.pageLength
  positive : 0 < setup.pageLength
  length : setup.pageLength % 64 = 0
  aligned : testmem % 8 = 0

variable {Thread : Type}

namespace Sat

/-- A pointer to a pattern. -/
abbrev Ref (sat : Sat Thread) : Type := sat.setup.Ref

/-- The address `PrepareTestMem` gives for a page. -/
def pageAddr (sat : Sat Thread) (entry : PageEntry sat.Ref) : Nat :=
  sat.testmem + entry.offset / 8

structure State (sat : Sat Thread) where
  system : System sat.Ref Thread
  memory : Memory
  errorcount : Thread → Nat
  reports : List Report
  jobs : Thread → Job

inductive Event (Thread : Type)
  | start (thread : Thread) (choice : Nat)
  | proceed (thread : Thread)
  | stop (thread : Thread)
  | fault (index word : Nat) (value : BitVec 64)

def Event.isFault : Event Thread → Bool
  | .fault _ _ _ => true
  | .start _ _ | .proceed _ | .stop _ => false

namespace State

variable {sat : Sat Thread}

/-- What the checks of a thread see. -/
def checker (state : sat.State) (thread : Thread) : Checker :=
  ⟨state.memory, state.errorcount thread, state.reports⟩

variable [DecidableEq Thread]

def setJob (state : sat.State) (thread : Thread) (job : Job) : sat.State :=
  { state with jobs := Function.update state.jobs thread job }

/-- After a check or a copy of this thread. -/
def checked (state : sat.State) (thread : Thread) (after : Checker) : sat.State :=
  { state with
    memory := after.memory
    errorcount := Function.update state.errorcount thread after.errorcount
    reports := after.reports }

end State

variable [DecidableEq Thread] (sat : Sat Thread)

/-- A call of the queue, up to its first step. -/
def call (state : sat.State) (thread : Thread) (action : Action sat.Ref)
    (rest : List Instruction) : Option sat.State :=
  (step sat.queue state.system (thread, action)).map fun system =>
    { state with system := system }.setJob thread (.calling rest)

/-- `CrcCheckPage` on the page a thread has. -/
def performCheck (state : sat.State) (thread : Thread) (src : PageEntry sat.Ref) :
    Option sat.State := do
  let ref ← src.pattern
  let (after, _) ← crcCheckPage sat.setup ref (sat.pageAddr src) (state.checker thread)
  return state.checked thread after

/-- One of the copy functions on the two pages a thread has. -/
def performCopy (copyPage : sat.Ref → Nat → Nat → Checker → Option (Checker × Nat))
    (state : sat.State) (thread : Thread) (src dst : PageEntry sat.Ref) : Option sat.State := do
  let ref ← src.pattern
  let (after, _) ← copyPage ref (sat.pageAddr dst) (sat.pageAddr src) (state.checker thread)
  let system ← step sat.queue state.system
    (thread, .work [src, { dst with pattern := src.pattern }])
  return { state.checked thread after with system := system }

def performInvert (pass : Nat → Memory → Memory) (state : sat.State)
    (src : PageEntry sat.Ref) : sat.State :=
  { state with memory := pass (sat.pageAddr src) state.memory }

/-- One call of an iteration, and the rest of it. -/
def perform (state : sat.State) (thread : Thread) (rest : List Instruction) :
    Instruction → Option sat.State
  | .getValid => sat.call state thread (.get .valid (sat.plans thread).tag) rest
  | .getEmpty => sat.call state thread (.get .empty (sat.plans thread).tag) rest
  | .putValid position => sat.call state thread (.put .valid position) rest
  | .putEmpty position => sat.call state thread (.put .empty position) rest
  | .check => do
      let src ← (state.system.workers thread).holding[0]?
      let after ← sat.performCheck state thread src
      return after.setJob thread (.running rest)
  | .copy => do
      let src ← (state.system.workers thread).holding[0]?
      let dst ← (state.system.workers thread).holding[1]?
      let after ← sat.performCopy (crcCopyPage sat.setup) state thread src dst
      return after.setJob thread (.running rest)
  | .warmCopy => do
      let src ← (state.system.workers thread).holding[0]?
      let dst ← (state.system.workers thread).holding[1]?
      let after ← sat.performCopy (crcWarmCopyPage sat.setup) state thread src dst
      return after.setJob thread (.running rest)
  | .invertUp => do
      let src ← (state.system.workers thread).holding[0]?
      return (sat.performInvert (invertPageUp sat.setup) state src).setJob thread (.running rest)
  | .invertDown => do
      let src ← (state.system.workers thread).holding[0]?
      return (sat.performInvert (invertPageDown sat.setup) state src).setJob thread (.running rest)

/-- What a thread does next.  A failed call ends its loop. -/
def advance (state : sat.State) (thread : Thread) : Option sat.State :=
  match state.jobs thread with
  | .idle | .stopped => none
  | .running [] => some (state.setJob thread .idle)
  | .running (instruction :: rest) => sat.perform state thread rest instruction
  | .calling rest =>
      match (state.system.workers thread).phase with
      | .outside result => some (state.setJob thread (if result then .running rest else .stopped))
      | _ => (Stressapptest.proceed sat.queue state.system thread).map fun system =>
          { state with system := system }

/-- A word of a valid page in the queue goes wrong.  No more than two units of a
block are wrong at a time. -/
def strike (state : sat.State) (index word : Nat) (value : BitVec 64) : Option sat.State := do
  let entry := state.system.pages index
  let ref ← entry.pattern
  let pattern := sat.setup.pattern ref
  let addr := sat.pageAddr entry
  let after := store state.memory (addr + word) value
  if index < sat.queue.qSize ∧ state.system.locked index = false ∧ word < sat.setup.words ∧
      state.memory (addr + word) = fillWord sat.setup pattern addr word ∧
      value ≠ fillWord sat.setup pattern addr word ∧
      ∀ block < sat.setup.blocks, damage sat.setup pattern after (addr + block * blockwords) ≤ 2
  then return { state with memory := after }
  else none

def next (state : sat.State) : Event Thread → Option sat.State
  | .start thread choice =>
      if state.jobs thread = .idle then do
        let iteration ← (sat.plans thread).iterations[choice]?
        return state.setJob thread (.running iteration)
      else none
  | .proceed thread => sat.advance state thread
  | .stop thread =>
      if state.jobs thread = .idle then some (state.setJob thread .stopped) else none
  | .fault index word value => sat.strike state index word value

end Sat

/-! ### What an iteration holds -/

/-- What is known of a page at a place of a loop. -/
inductive Shape
  | unchecked
  | clean
  | inverted
  | empty
  deriving DecidableEq, Repr

/-- The shapes after a call, from those before it; the pages a check, a copy or a
pass works on are the first ones. -/
def Instruction.result : Instruction → List Shape → Option (List Shape)
  | .getValid, shapes => some (shapes ++ [.unchecked])
  | .getEmpty, shapes => some (shapes ++ [.empty])
  | .check, [.unchecked] | .check, [.clean] => some [.clean]
  | .copy, [.unchecked, .empty] | .copy, [.clean, .empty] => some [.clean, .clean]
  | .warmCopy, [.unchecked, .empty] | .warmCopy, [.clean, .empty] => some [.clean, .clean]
  | .invertUp, [.clean] | .invertDown, [.clean] => some [.inverted]
  | .invertUp, [.inverted] | .invertDown, [.inverted] => some [.clean]
  | .putValid position, shapes =>
      if shapes[position]? = some .unchecked ∨ shapes[position]? = some .clean then
        some (shapes.eraseIdx position)
      else none
  | .putEmpty position, shapes =>
      if shapes[position]? = some .clean then some (shapes.eraseIdx position) else none
  | _, _ => none

/-- A list of calls that fits the pages a thread has and leaves it none. -/
def Fits : List Shape → List Instruction → Prop
  | shapes, [] => shapes = []
  | shapes, instruction :: rest => ∃ after, instruction.result shapes = some after ∧ Fits after rest

end AmebaTests.Stressapptest
