/-
The capture loop of the UVC host test.

An iteration dequeues a frame, writes it to a file of its own and queues the
buffer again.  The loop looks at the answer of none of its three ioctls: a
VIDIOC_DQBUF that fails leaves `video_buffer` as the iteration before left it,
or uninitialised in the first one, and the rest of the iteration goes on with
it.
-/

import AmebaTests.Foundation.Runs
import AmebaTests.Uvc.Device

namespace AmebaTests.Uvc

open Foundation

structure Frame where
  index : Nat
  bytesused : Nat
  deriving DecidableEq, Repr

/-- The answers one iteration gets.  `memory` is the contents of the device
memory at each mmap offset while the file is written. -/
structure Iteration where
  dqbuf : Option Frame
  memory : Nat → Nat → UInt8
  qbuf : Bool

structure File where
  path : String
  contents : Option (List UInt8)
  deriving DecidableEq

inductive Operation
  | read
  | queue
  deriving DecidableEq, Repr

structure Access where
  operation : Operation
  index : Nat
  owner : Owner
  deriving DecidableEq, Repr

/-- `files` and `accesses` are newest first. -/
structure Capture where
  device : Device
  videoBuffer : V4l2Buffer
  uvcImgFileNum : BitVec 32
  files : List File
  accesses : List Access

def captureStart (device : Device) (videoBuffer : V4l2Buffer) : Capture where
  device := device
  videoBuffer := videoBuffer
  uvcImgFileNum := 0
  files := []
  accesses := []

def firstBytes (memory : Nat → Nat → UInt8) (offset bytes : Nat) : List UInt8 :=
  (List.range bytes).map (memory offset)

/-- What `fwrite` finds behind a pointer; `none` outside every mapping. -/
def Pointer.read (pointer : Pointer) (memory : Nat → Nat → UInt8) (bytes : Nat) :
    Option (List UInt8) :=
  match pointer with
  | .mapped offset length =>
      if bytes ≤ length then some (firstBytes memory offset bytes) else none
  | .mapFailed => none
  | .null => none

/-- The unsigned counter is printed with `%d`. -/
def imagePath (uvcImgFileNum : BitVec 32) : String :=
  "/mnt/name/" ++ ("img" ++ toString uvcImgFileNum.toInt ++ ".jpeg")

namespace Capture

def use (s : Capture) (operation : Operation) : Access where
  operation := operation
  index := s.videoBuffer.index
  owner := s.device.owner s.videoBuffer.index

def dequeue (s : Capture) (camera : Camera) (frame : Frame) : Capture :=
  { s with
    videoBuffer :=
      { index := frame.index
        bytesused := frame.bytesused
        length := camera.length frame.index
        offset := camera.offset frame.index }
    device := s.device.own frame.index .program }

def writeImage (s : Capture) (memory : Nat → Nat → UInt8) : Capture :=
  { s with
    uvcImgFileNum := s.uvcImgFileNum + 1
    files :=
      { path := imagePath s.uvcImgFileNum
        contents := (s.device.imageBuffer s.videoBuffer.index).read memory
          s.videoBuffer.bytesused } :: s.files
    accesses := s.use .read :: s.accesses }

def requeue (s : Capture) (accepted : Bool) : Capture :=
  { s with
    device := if accepted then s.device.own s.videoBuffer.index .driver else s.device
    accesses := s.use .queue :: s.accesses }

end Capture

/-- The frames a driver can deliver: a buffer it owns, filled within its length. -/
def Deliverable (camera : Camera) (s : Capture) (frame : Frame) : Prop :=
  frame.index < camera.count ∧ s.device.owner frame.index = .driver ∧
    frame.bytesused ≤ camera.length frame.index

instance (camera : Camera) (s : Capture) (frame : Frame) :
    Decidable (Deliverable camera s frame) :=
  inferInstanceAs (Decidable (_ ∧ _ ∧ _))

def afterDqbuf (camera : Camera) (s : Capture) : Option Frame → Option Capture
  | none => some s
  | some frame => if Deliverable camera s frame then some (s.dequeue camera frame) else none

def captureStep (camera : Camera) (s : Capture) (iteration : Iteration) : Option Capture :=
  (afterDqbuf camera s iteration.dqbuf).map fun dequeued =>
    (dequeued.writeImage iteration.memory).requeue iteration.qbuf

theorem captureStep_cases {camera : Camera} {s successor : Capture} {iteration : Iteration}
    (taken : captureStep camera s iteration = some successor) :
    (iteration.dqbuf = none ∧
        successor = (s.writeImage iteration.memory).requeue iteration.qbuf) ∨
      (∃ frame, iteration.dqbuf = some frame ∧ Deliverable camera s frame ∧
        successor =
          ((s.dequeue camera frame).writeImage iteration.memory).requeue iteration.qbuf) := by
  obtain ⟨dequeued, answered, rfl⟩ := Option.map_eq_some_iff.mp taken
  cases answer : iteration.dqbuf with
  | none =>
      rw [answer, afterDqbuf, Option.some.injEq] at answered
      subst answered
      exact Or.inl ⟨rfl, rfl⟩
  | some frame =>
      rw [answer, afterDqbuf] at answered
      split at answered
      · rename_i deliverable
        cases answered
        exact Or.inr ⟨frame, rfl, deliverable, rfl⟩
      · cases answered

section Frames

variable (s : Capture)

@[simp] theorem requeue_imageBuffer (accepted : Bool) :
    (s.requeue accepted).device.imageBuffer = s.device.imageBuffer := by
  cases accepted <;> rfl

@[simp] theorem requeue_owner (accepted : Bool) :
    (s.requeue accepted).device.owner s.videoBuffer.index =
      if accepted then .driver else s.device.owner s.videoBuffer.index := by
  cases accepted
  · rfl
  · exact Function.update_self _ _ _

@[simp] theorem dequeue_owner (camera : Camera) (frame : Frame) :
    (s.dequeue camera frame).device.owner frame.index = .program :=
  Function.update_self _ _ _

end Frames

/-! ### Each file holds its frame -/

def Maps (camera : Camera) (pointer : Pointer) (i : Nat) : Prop :=
  pointer = .mapped (camera.offset i) (camera.length i)

/-- The iterations of a run against the files it wrote: a frame dequeued as
`(k, b)` is written as the first `b` bytes of driver buffer `k`. -/
def FilesHoldFrames (camera : Camera) (history : History Capture Iteration)
    (files : List File) : Prop :=
  List.Forall₂
    (fun entry file => ∀ frame, entry.2.dqbuf = some frame →
      file.path = imagePath entry.1.uvcImgFileNum ∧
        file.contents = some
          (firstBytes entry.2.memory (camera.offset frame.index) frame.bytesused))
    history files

structure TableCorrect (camera : Camera) (device : Device) : Prop where
  inside : ∀ i ∈ device.stores, i < 4
  maps : ∀ i < camera.count, Maps camera (device.imageBuffer i) i

theorem captureStep_imageBuffer {camera : Camera} {s successor : Capture}
    {iteration : Iteration} (taken : captureStep camera s iteration = some successor) :
    successor.device.imageBuffer = s.device.imageBuffer := by
  rcases captureStep_cases taken with ⟨_failed, rfl⟩ | ⟨frame, _dequeued, _deliverable, rfl⟩
  · rw [requeue_imageBuffer]
    rfl
  · rw [requeue_imageBuffer]
    rfl

theorem captureStep_files {camera : Camera} {s successor : Capture} {iteration : Iteration}
    (maps : ∀ i < camera.count, Maps camera (s.device.imageBuffer i) i)
    (taken : captureStep camera s iteration = some successor) :
    ∃ file, successor.files = file :: s.files ∧
      ∀ frame, iteration.dqbuf = some frame →
        file.path = imagePath s.uvcImgFileNum ∧
          file.contents = some
            (firstBytes iteration.memory (camera.offset frame.index) frame.bytesused) := by
  rcases captureStep_cases taken with ⟨failed, rfl⟩ | ⟨frame, dequeued, deliverable, rfl⟩
  · refine ⟨_, rfl, ?_⟩
    intro frame dequeued
    rw [failed] at dequeued
    cases dequeued
  · refine ⟨_, rfl, ?_⟩
    intro other same
    rw [dequeued, Option.some.injEq] at same
    subst same
    obtain ⟨below, _owned, filled⟩ := deliverable
    have pointer := maps frame.index below
    refine ⟨rfl, ?_⟩
    change (s.device.imageBuffer frame.index).read iteration.memory frame.bytesused = _
    rw [pointer, Pointer.read, if_pos filled]

theorem run_files {camera : Camera} {device : Device} {record : V4l2Buffer}
    {history : History Capture Iteration} {s : Capture}
    (maps : ∀ i < camera.count, Maps camera (device.imageBuffer i) i)
    (run : Run (captureStep camera) (captureStart device record) history s) :
    FilesHoldFrames camera history s.files := by
  have kept : s.device.imageBuffer = device.imageBuffer ∧
      FilesHoldFrames camera history s.files := by
    apply Run.invariant (fun history s => s.device.imageBuffer = device.imageBuffer ∧
      FilesHoldFrames camera history s.files) ?_ ?_ run
    · exact ⟨rfl, List.Forall₂.nil⟩
    intro history s iteration successor _run holds taken
    obtain ⟨table, files⟩ := holds
    have mapsHere : ∀ i < camera.count, Maps camera (s.device.imageBuffer i) i := by
      rw [table]
      exact maps
    obtain ⟨file, written, frames⟩ := captureStep_files mapsHere taken
    refine ⟨(captureStep_imageBuffer taken).trans table, ?_⟩
    rw [written]
    exact List.Forall₂.cons frames files
  exact kept.2

theorem Initialised.single_of_maps {camera : Camera} {device : Device}
    (initialised : Initialised camera device) (granted : 1 ≤ camera.count)
    (distinct : ∀ i < camera.count, ∀ j < camera.count,
      camera.offset i = camera.offset j → i = j)
    (maps : ∀ i < camera.count, Maps camera (device.imageBuffer i) i) :
    camera.count = 1 ∧ camera.mmap 0 = .mapped := by
  constructor
  · by_contra several
    have more : 1 < camera.count := by omega
    have pointer := maps 1 more
    rw [Maps, initialised.imageBuffer 1 more] at pointer
    cases answer : camera.mmap 1 with
    | mapped =>
        rw [answer, MmapAnswer.pointer, Pointer.mapped.injEq] at pointer
        have same := distinct 0 (by omega) 1 more pointer.1
        cases same
    | mapFailed => rw [answer] at pointer; cases pointer
    | null => rw [answer] at pointer; cases pointer
  · have pointer := maps 0 granted
    rw [Maps, initialised.imageBuffer 0 granted] at pointer
    cases answer : camera.mmap 0 with
    | mapped => rfl
    | mapFailed => rw [answer] at pointer; cases pointer
    | null => rw [answer] at pointer; cases pointer

theorem Initialised.table_of_single {camera : Camera} {device : Device}
    (initialised : Initialised camera device) (single : camera.count = 1)
    (mapped : camera.mmap 0 = .mapped) : TableCorrect camera device := by
  constructor
  · intro i member
    rw [initialised.stores, single, List.mem_range'_1] at member
    omega
  · intro i below
    have first : i = 0 := by omega
    subst first
    rw [Maps, initialised.imageBuffer 0 below, mapped]
    rfl

/-- After `video_device_init` has returned 0, the table and the files of every
run are right exactly when a single buffer was granted and its mapping
succeeded. -/
theorem initialised_maps_each_buffer_iff {deviceName : String} {camera : Camera}
    {device : Device} (granted : 1 ≤ camera.count)
    (distinct : ∀ i < camera.count, ∀ j < camera.count,
      camera.offset i = camera.offset j → i = j)
    (returned : videoDeviceInit deviceName camera = .ok device) :
    (TableCorrect camera device ∧
        ∀ record history s,
          Run (captureStep camera) (captureStart device record) history s →
          FilesHoldFrames camera history s.files) ↔
      camera.count = 1 ∧ camera.mmap 0 = .mapped := by
  have initialised := videoDeviceInit_ok returned
  constructor
  · intro correct
    exact initialised.single_of_maps granted distinct correct.1.maps
  · intro single
    have table := initialised.table_of_single single.1 single.2
    constructor
    · exact table
    · intro record history s run
      exact run_files table.maps run

def healthyCamera (count : Nat) : Camera where
  openFd := 3
  sFmt := 0
  pixelformat := fFormat
  sParm := fun _ => 0
  reqbufs := 0
  count := count
  length := fun _ => 4096
  offset := fun i => 4096 * i
  querybuf := fun _ => 0
  mmap := fun _ => .mapped
  qbuf := fun _ => 0
  streamon := 0

theorem healthyCamera_healthy (count : Nat) : (healthyCamera count).Healthy where
  opens := (by decide : (0 : Int) ≤ 3)
  setsFormat := rfl
  format := rfl
  setsRate := fun _ => rfl
  grants := rfl
  describes := fun _ => rfl
  maps := fun _ impossible => by cases impossible
  queues := fun _ => rfl
  starts := rfl

theorem healthyCamera_distinct (count : Nat) :
    ∀ i < (healthyCamera count).count, ∀ j < (healthyCamera count).count,
      (healthyCamera count).offset i = (healthyCamera count).offset j → i = j := by
  intro i _below j _alsoBelow same
  change 4096 * i = 4096 * j at same
  omega

theorem initialised_maps_single_buffer :
    ∃ device, videoDeviceInit "/dev/video0" (healthyCamera 1) = .ok device ∧
      ((TableCorrect (healthyCamera 1) device ∧
          ∀ record history s,
            Run (captureStep (healthyCamera 1)) (captureStart device record) history s →
            FilesHoldFrames (healthyCamera 1) history s.files) ↔
        (healthyCamera 1).count = 1 ∧ (healthyCamera 1).mmap 0 = .mapped) := by
  obtain ⟨device, returned⟩ := (healthyCamera_healthy 1).videoDeviceInit_returns "/dev/video0"
  exact ⟨device, returned, initialised_maps_each_buffer_iff (Nat.le_refl 1)
    (healthyCamera_distinct 1) returned⟩

/-- The four buffers the program asks for: entry 1 maps buffer 0. -/
theorem initialised_maps_first_buffer_twice :
    ∃ device, videoDeviceInit "/dev/video0" (healthyCamera 4) = .ok device ∧
      device.imageBuffer 1 = .mapped ((healthyCamera 4).offset 0) 4096 ∧
      ¬ TableCorrect (healthyCamera 4) device := by
  obtain ⟨device, returned⟩ := (healthyCamera_healthy 4).videoDeviceInit_returns "/dev/video0"
  have second : device.imageBuffer 1 = .mapped ((healthyCamera 4).offset 0) 4096 :=
    (videoDeviceInit_ok returned).imageBuffer 1 (by decide)
  refine ⟨device, returned, second, ?_⟩
  intro table
  have pointer := table.maps 1 (by decide)
  rw [Maps, second] at pointer
  cases pointer

/-! ### Buffers are used only while the program owns them -/

def Owned (s : Capture) : Prop :=
  ∀ access ∈ s.accesses, access.owner = .program

def requeueFailed : History Capture Iteration → Bool
  | [] => false
  | entry :: _ => !entry.2.qbuf

/-- A VIDIOC_DQBUF fails only right after an iteration that could not queue its
buffer, which the record then still names. -/
def FailuresHeld : History Capture Iteration → Prop
  | [] => True
  | entry :: earlier =>
      (entry.2.dqbuf = none → requeueFailed earlier = true) ∧ FailuresHeld earlier

theorem owned_iteration (dequeued : Capture) (memory : Nat → Nat → UInt8) (accepted : Bool) :
    Owned ((dequeued.writeImage memory).requeue accepted) ↔
      dequeued.device.owner dequeued.videoBuffer.index = .program ∧ Owned dequeued := by
  constructor
  · intro owned
    constructor
    · exact owned _ List.mem_cons_self
    · intro access member
      exact owned access (List.mem_cons_of_mem _ (List.mem_cons_of_mem _ member))
  · intro before access member
    obtain ⟨owner, owned⟩ := before
    rcases List.mem_cons.mp member with newest | member
    · rw [newest]
      exact owner
    · rcases List.mem_cons.mp member with newest | older
      · rw [newest]
        exact owner
      · exact owned access older

/-- The program still owns the buffer its record names exactly when it could not
queue it. -/
def RecordTracked (history : History Capture Iteration) (s : Capture) : Prop :=
  (Owned s ↔ FailuresHeld history) ∧
    (Owned s →
      (s.device.owner s.videoBuffer.index = .program ↔ requeueFailed history = true))

theorem owner_after_iteration {dequeued : Capture} {memory : Nat → Nat → UInt8}
    {accepted : Bool} (owner : dequeued.device.owner dequeued.videoBuffer.index = .program) :
    let successor := (dequeued.writeImage memory).requeue accepted
    successor.device.owner successor.videoBuffer.index = .program ↔ (!accepted) = true := by
  intro successor
  have after : successor.device.owner successor.videoBuffer.index =
      if accepted then .driver else dequeued.device.owner dequeued.videoBuffer.index :=
    requeue_owner (dequeued.writeImage memory) accepted
  rw [after, owner]
  cases accepted <;> simp

theorem captureStep_tracked {camera : Camera} {history : History Capture Iteration}
    {s successor : Capture} {iteration : Iteration} (tracked : RecordTracked history s)
    (taken : captureStep camera s iteration = some successor) :
    RecordTracked ((s, iteration) :: history) successor := by
  obtain ⟨owned, record⟩ := tracked
  rcases captureStep_cases taken with ⟨failed, rfl⟩ | ⟨frame, dequeued, _deliverable, rfl⟩
  · constructor
    · rw [owned_iteration]
      constructor
      · intro before
        obtain ⟨owner, ownedBefore⟩ := before
        exact ⟨fun _ => (record ownedBefore).mp owner, owned.mp ownedBefore⟩
      · intro held
        have ownedBefore := owned.mpr held.2
        exact ⟨(record ownedBefore).mpr (held.1 failed), ownedBefore⟩
    · intro ownedAfter
      exact owner_after_iteration ((owned_iteration _ _ _).mp ownedAfter).1
  · have owner : (s.dequeue camera frame).device.owner
        (s.dequeue camera frame).videoBuffer.index = .program := dequeue_owner s camera frame
    constructor
    · rw [owned_iteration]
      constructor
      · intro before
        constructor
        · intro failed
          rw [dequeued] at failed
          cases failed
        · exact owned.mp before.2
      · intro held
        exact ⟨owner, owned.mpr held.2⟩
    · intro _ownedAfter
      exact owner_after_iteration owner

/-- After a successful `video_device_init`, whatever the record holds, the
program uses only buffers it owns exactly when every VIDIOC_DQBUF that fails
comes right after a VIDIOC_QBUF that failed. -/
theorem captured_owned_iff {deviceName : String} {camera : Camera} {device : Device}
    (returned : videoDeviceInit deviceName camera = .ok device) {record : V4l2Buffer}
    {history : History Capture Iteration} {s : Capture}
    (run : Run (captureStep camera) (captureStart device record) history s) :
    Owned s ↔ FailuresHeld history := by
  have initialised := videoDeviceInit_ok returned
  have notOwned : device.owner record.index ≠ .program := by
    intro impossible
    by_cases below : record.index < camera.count
    · rw [initialised.queued record.index below] at impossible
      cases impossible
    · rw [initialised.foreign record.index (Nat.le_of_not_lt below)] at impossible
      cases impossible
  have tracked : RecordTracked history s := by
    apply Run.invariant RecordTracked ?_ ?_ run
    · constructor
      · exact ⟨fun _ => trivial, fun _ access member => absurd member List.not_mem_nil⟩
      · intro _owned
        exact ⟨fun owner => absurd owner notOwned, fun failed => by cases failed⟩
    · intro history s iteration successor _run tracked taken
      exact captureStep_tracked tracked taken
  exact tracked.1

theorem captured_owned_one_frame :
    ∃ device history s, videoDeviceInit "/dev/video0" (healthyCamera 4) = .ok device ∧
      Run (captureStep (healthyCamera 4)) (captureStart device .clear) history s ∧
      s.files.length = 1 ∧ (Owned s ↔ FailuresHeld history) := by
  obtain ⟨device, returned⟩ := (healthyCamera_healthy 4).videoDeviceInit_returns "/dev/video0"
  have deliverable : Deliverable (healthyCamera 4) (captureStart device .clear)
      { index := 0, bytesused := 16 } :=
    ⟨by decide, (videoDeviceInit_ok returned).queued 0 (by decide), by decide⟩
  have taken : ∃ s, captureStep (healthyCamera 4) (captureStart device .clear)
      { dqbuf := some { index := 0, bytesused := 16 }
        memory := fun _ _ => 0xFF
        qbuf := true } = some s ∧ s.files.length = 1 := by
    rw [captureStep, afterDqbuf, if_pos deliverable]
    exact ⟨_, rfl, rfl⟩
  obtain ⟨s, taken, single⟩ := taken
  have run := Run.start.next taken
  exact ⟨device, _, s, returned, run, single, captured_owned_iff returned run⟩

/-- The first VIDIOC_DQBUF fails while the uninitialised record names buffer 2,
which the driver owns. -/
theorem captured_unowned_first_failure :
    ∃ device history s, videoDeviceInit "/dev/video0" (healthyCamera 4) = .ok device ∧
      Run (captureStep (healthyCamera 4))
        (captureStart device { V4l2Buffer.clear with index := 2 }) history s ∧
      { operation := .read, index := 2, owner := .driver } ∈ s.accesses ∧ ¬ Owned s := by
  obtain ⟨device, returned⟩ := (healthyCamera_healthy 4).videoDeviceInit_returns "/dev/video0"
  have driverOwned := (videoDeviceInit_ok returned).queued 2 (by decide)
  have taken : ∃ s, captureStep (healthyCamera 4)
      (captureStart device { V4l2Buffer.clear with index := 2 })
      { dqbuf := none, memory := fun _ _ => 0xFF, qbuf := false } = some s ∧
      { operation := .read, index := 2, owner := device.owner 2 } ∈ s.accesses :=
    ⟨_, rfl, List.mem_cons_of_mem _ List.mem_cons_self⟩
  obtain ⟨s, taken, used⟩ := taken
  rw [driverOwned] at used
  refine ⟨device, _, s, returned, Run.start.next taken, used, ?_⟩
  intro owned
  cases owned _ used

end AmebaTests.Uvc
