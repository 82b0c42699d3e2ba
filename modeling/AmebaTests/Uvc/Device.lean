/-
`video_device_init` of the UVC host test.

The V4L2 driver, `open` and `mmap` are outside the repository: a `Camera` is
what they answer.  VIDIOC_QUERYBUF reports the length and the offset of the
buffer whose number stands in the record it is given, and leaves that number
alone.  The two loops of the function share one record, which is cleared before
each of them.
-/

import Mathlib.Logic.Function.Basic
import Mathlib.Data.List.Range
import AmebaTests.Foundation.Fallible

namespace AmebaTests.Uvc

open Foundation

/-- V4L2_PIX_FMT_MJPEG, the four characters `MJPG`. -/
def fFormat : BitVec 32 := 0x47504A4D

/-- The fields of `struct v4l2_buffer` that the program or the driver uses. -/
structure V4l2Buffer where
  index : Nat
  bytesused : Nat
  length : Nat
  offset : Nat
  deriving DecidableEq, Repr

def V4l2Buffer.clear : V4l2Buffer where
  index := 0
  bytesused := 0
  length := 0
  offset := 0

inductive Pointer
  | null
  | mapFailed
  | mapped (offset length : Nat)
  deriving DecidableEq, Repr

inductive MmapAnswer
  | mapped
  | mapFailed
  | null
  deriving DecidableEq, Repr

def MmapAnswer.pointer (answer : MmapAnswer) (length offset : Nat) : Pointer :=
  match answer with
  | .mapped => .mapped offset length
  | .mapFailed => .mapFailed
  | .null => .null

/-- `querybuf`, `mmap` and `qbuf` answer the call of each loop iteration. -/
structure Camera where
  openFd : Int
  sFmt : Int
  pixelformat : BitVec 32
  sParm : Nat → Int
  reqbufs : Int
  count : Nat
  length : Nat → Nat
  offset : Nat → Nat
  querybuf : Nat → Int
  mmap : Nat → MmapAnswer
  qbuf : Nat → Int
  streamon : Int

inductive Owner
  | nobody
  | driver
  | program
  deriving DecidableEq, Repr

/-- `image_buffer`, the indices at which it was stored to, and the owner of each
driver buffer.  The array has four entries: a store from index four on goes to
whatever lies behind it. -/
structure Device where
  imageBuffer : Nat → Pointer
  stores : List Nat
  owner : Nat → Owner

def Device.boot : Device where
  imageBuffer := fun _ => .null
  stores := []
  owner := fun _ => .nobody

def Device.storeImage (device : Device) (i : Nat) (pointer : Pointer) : Device :=
  { device with
    imageBuffer := Function.update device.imageBuffer i pointer
    stores := device.stores ++ [i] }

def Device.own (device : Device) (i : Nat) (owner : Owner) : Device :=
  { device with owner := Function.update device.owner i owner }

/-- A return code other than 0, with the line printed before it. -/
structure Failure where
  code : Int
  message : String
  deriving DecidableEq, Repr

def Camera.describe (camera : Camera) (record : V4l2Buffer) : V4l2Buffer :=
  { record with length := camera.length record.index, offset := camera.offset record.index }

/-- The query and map loop, from iteration `i` on with `remaining` to go. -/
def mapBuffers (camera : Camera) : Nat → Nat → V4l2Buffer → Device → Except Failure Device
  | 0, _, _, device => .ok device
  | remaining + 1, i, record, device =>
      if camera.querybuf i ≠ 0 then
        .error { code := -5, message := "Fail to get information of video buffer!\n" }
      else
        let buffInfo := camera.describe record
        let stored := device.storeImage i
          ((camera.mmap i).pointer buffInfo.length buffInfo.offset)
        if stored.imageBuffer i = .null then
          .error { code := -6, message := "Fail to mmap video buffer!\n" }
        else mapBuffers camera remaining (i + 1) buffInfo stored

def queueBuffers (camera : Camera) : Nat → Nat → V4l2Buffer → Device → Except Failure Device
  | 0, _, _, device => .ok device
  | remaining + 1, i, record, device =>
      let buffInfo := { record with index := i }
      if camera.qbuf i ≠ 0 then
        .error { code := -7, message := "Fail to queue buffer!\n" }
      else queueBuffers camera remaining (i + 1) buffInfo (device.own buffInfo.index .driver)

def configureDevice (deviceName : String) (camera : Camera) : Except Failure Unit :=
  if camera.openFd < 0 then
    .error { code := -1, message := deviceName ++ " Fail to open video device\n" }
  else if camera.sFmt ≠ 0 then
    .error { code := -2, message := "Fail to set format\n" }
  else if camera.pixelformat ≠ fFormat then
    .error { code := -3, message := "Format not support\n" }
  else if camera.sParm 0 ≠ 0 then
    .error { code := -3, message := "Fail to set FPS\n" }
  else if camera.sParm 1 ≠ 0 then
    .error { code := -3, message := "Fail to set FPS\n" }
  else if camera.reqbufs ≠ 0 then
    .error { code := -4, message := "Fail to alloc video buffer!\n" }
  else .ok ()

def videoDeviceInit (deviceName : String) (camera : Camera) : Except Failure Device := do
  configureDevice deviceName camera
  let mapped ← mapBuffers camera camera.count 0 .clear .boot
  let queued ← queueBuffers camera camera.count 0 .clear mapped
  if camera.streamon ≠ 0 then
    .error { code := -8, message := "Fail to start capture\n" }
  else .ok queued

/-! ### What the two loops leave -/

theorem mapBuffers_succ {camera : Camera} {remaining i : Nat} {record : V4l2Buffer}
    {device mapped : Device}
    (returned : mapBuffers camera (remaining + 1) i record device = .ok mapped) :
    camera.mmap i ≠ .null ∧
      mapBuffers camera remaining (i + 1) (camera.describe record)
        (device.storeImage i
          ((camera.mmap i).pointer (camera.length record.index)
            (camera.offset record.index))) = .ok mapped := by
  unfold mapBuffers at returned
  obtain ⟨_queried, rest⟩ := guard_returned returned
  obtain ⟨present, rest⟩ := guard_returned rest
  refine ⟨?_, rest⟩
  intro absent
  apply present
  rw [absent]
  exact Function.update_self _ _ _

/-- A loop that stores at `i` and goes on at `i + 1` stores a range. -/
theorem update_range {Value : Type} (table stored : Nat → Value) (i remaining j : Nat) :
    (if i + 1 ≤ j ∧ j < i + 1 + remaining then stored j
      else Function.update table i (stored i) j) =
      if i ≤ j ∧ j < i + (remaining + 1) then stored j else table j := by
  by_cases here : j = i
  · subst here
    rw [if_neg (by omega), if_pos (by omega), Function.update_self]
  · by_cases later : i + 1 ≤ j ∧ j < i + 1 + remaining
    · rw [if_pos later, if_pos (by omega)]
    · rw [if_neg later, if_neg (by omega), Function.update_of_ne here]

/-- The index of the record is never set, so every iteration maps the buffer the
record names when the loop begins. -/
theorem mapBuffers_ok {camera : Camera} {remaining i : Nat} {record : V4l2Buffer}
    {device mapped : Device}
    (returned : mapBuffers camera remaining i record device = .ok mapped) :
    mapped.stores = device.stores ++ List.range' i remaining ∧
      mapped.owner = device.owner ∧
      ∀ j, mapped.imageBuffer j =
        if i ≤ j ∧ j < i + remaining then
          (camera.mmap j).pointer (camera.length record.index) (camera.offset record.index)
        else device.imageBuffer j := by
  induction remaining generalizing i record device with
  | zero =>
      rw [mapBuffers, Except.ok.injEq] at returned
      subst returned
      refine ⟨by rw [List.range'_zero, List.append_nil], rfl, ?_⟩
      intro j
      rw [if_neg (by omega)]
  | succ remaining ih =>
      obtain ⟨_present, rest⟩ := mapBuffers_succ returned
      obtain ⟨stores, owner, entries⟩ := ih rest
      refine ⟨?_, owner, ?_⟩
      · rw [stores, Device.storeImage, List.append_assoc, List.singleton_append,
          ← List.range'_succ]
      · intro j
        rw [entries j]
        exact update_range device.imageBuffer
          (fun j => (camera.mmap j).pointer (camera.length record.index)
            (camera.offset record.index)) i remaining j

theorem queueBuffers_ok {camera : Camera} {remaining i : Nat} {record : V4l2Buffer}
    {device queued : Device}
    (returned : queueBuffers camera remaining i record device = .ok queued) :
    queued.stores = device.stores ∧ queued.imageBuffer = device.imageBuffer ∧
      ∀ j, queued.owner j =
        if i ≤ j ∧ j < i + remaining then .driver else device.owner j := by
  induction remaining generalizing i record device with
  | zero =>
      rw [queueBuffers, Except.ok.injEq] at returned
      subst returned
      refine ⟨rfl, rfl, ?_⟩
      intro j
      rw [if_neg (by omega)]
  | succ remaining ih =>
      unfold queueBuffers at returned
      obtain ⟨_queued, rest⟩ := guard_returned returned
      obtain ⟨stores, entries, owner⟩ := ih rest
      refine ⟨stores, entries, ?_⟩
      intro j
      rw [owner j]
      exact update_range device.owner (fun _ => Owner.driver) i remaining j

structure Initialised (camera : Camera) (device : Device) : Prop where
  stores : device.stores = List.range' 0 camera.count
  imageBuffer : ∀ i < camera.count,
    device.imageBuffer i = (camera.mmap i).pointer (camera.length 0) (camera.offset 0)
  queued : ∀ i < camera.count, device.owner i = .driver
  foreign : ∀ i, camera.count ≤ i → device.owner i = .nobody

theorem videoDeviceInit_ok {deviceName : String} {camera : Camera} {device : Device}
    (returned : videoDeviceInit deviceName camera = .ok device) :
    Initialised camera device := by
  unfold videoDeviceInit at returned
  obtain ⟨_done, _configured, returned⟩ := bind_returned returned
  obtain ⟨mapped, mapping, returned⟩ := bind_returned returned
  obtain ⟨queued, queueing, returned⟩ := bind_returned returned
  obtain ⟨_started, returned⟩ := guard_returned returned
  cases returned
  obtain ⟨stores, owner, entries⟩ := mapBuffers_ok mapping
  obtain ⟨sameStores, sameEntries, owners⟩ := queueBuffers_ok queueing
  constructor
  · rw [sameStores, stores]
    rfl
  · intro i below
    rw [sameEntries, entries i, if_pos ⟨Nat.zero_le i, by omega⟩]
    rfl
  · intro i below
    rw [owners i, if_pos ⟨Nat.zero_le i, by omega⟩]
  · intro i above
    rw [owners i, if_neg (by omega), owner]
    rfl

/-! ### A camera on which every call succeeds -/

structure Camera.Healthy (camera : Camera) : Prop where
  opens : 0 ≤ camera.openFd
  setsFormat : camera.sFmt = 0
  format : camera.pixelformat = fFormat
  setsRate : ∀ call, camera.sParm call = 0
  grants : camera.reqbufs = 0
  describes : ∀ i, camera.querybuf i = 0
  maps : ∀ i, camera.mmap i ≠ .null
  queues : ∀ i, camera.qbuf i = 0
  starts : camera.streamon = 0

namespace Camera.Healthy

variable {camera : Camera} (healthy : camera.Healthy)

include healthy

theorem configureDevice_ok (deviceName : String) :
    configureDevice deviceName camera = .ok () := by
  have opens : ¬ camera.openFd < 0 := Int.not_lt.mpr healthy.opens
  unfold configureDevice
  rw [if_neg opens, if_neg (not_not_intro healthy.setsFormat),
    if_neg (not_not_intro healthy.format), if_neg (not_not_intro (healthy.setsRate 0)),
    if_neg (not_not_intro (healthy.setsRate 1)), if_neg (not_not_intro healthy.grants)]

theorem pointer_ne_null (i length offset : Nat) :
    (camera.mmap i).pointer length offset ≠ .null := by
  cases answer : camera.mmap i with
  | mapped => exact fun impossible => by cases impossible
  | mapFailed => exact fun impossible => by cases impossible
  | null => exact absurd answer (healthy.maps i)

theorem mapBuffers_returns (remaining i : Nat) (record : V4l2Buffer) (device : Device) :
    ∃ mapped, mapBuffers camera remaining i record device = .ok mapped := by
  induction remaining generalizing i record device with
  | zero => exact ⟨device, rfl⟩
  | succ remaining ih =>
      have stored : ∀ pointer, (device.storeImage i pointer).imageBuffer i = pointer :=
        fun pointer => Function.update_self _ _ _
      unfold mapBuffers
      rw [if_neg (not_not_intro (healthy.describes i))]
      dsimp only
      rw [stored, if_neg (healthy.pointer_ne_null i _ _)]
      exact ih _ _ _

theorem queueBuffers_returns (remaining i : Nat) (record : V4l2Buffer) (device : Device) :
    ∃ queued, queueBuffers camera remaining i record device = .ok queued := by
  induction remaining generalizing i record device with
  | zero => exact ⟨device, rfl⟩
  | succ remaining ih =>
      unfold queueBuffers
      rw [if_neg (not_not_intro (healthy.queues i))]
      exact ih _ _ _

/-- Whatever number of buffers is granted. -/
theorem videoDeviceInit_returns (deviceName : String) :
    ∃ device, videoDeviceInit deviceName camera = .ok device := by
  obtain ⟨mapped, mapping⟩ := healthy.mapBuffers_returns camera.count 0 .clear .boot
  obtain ⟨queued, queueing⟩ := healthy.queueBuffers_returns camera.count 0 .clear mapped
  refine ⟨queued, ?_⟩
  unfold videoDeviceInit
  rw [healthy.configureDevice_ok, mapping]
  change (queueBuffers camera camera.count 0 .clear mapped >>= _) = _
  rw [queueing]
  change (if camera.streamon ≠ 0 then _ else _) = _
  rw [if_neg (not_not_intro healthy.starts)]

end Camera.Healthy

end AmebaTests.Uvc
