/-
The names of the images that the capture loop writes.

`main` builds each name in three `char` arrays which it never passes a size for.
The counter is unsigned and printed with `%d`: the numbers from 2^31 on carry a
minus sign, and no two of the first 2^32 frames get the same name.
-/

import AmebaTests.Foundation.CharArray
import AmebaTests.Foundation.Decimal
import AmebaTests.Uvc.Capture
import Mathlib.Data.List.Nodup

namespace AmebaTests.Uvc

open Foundation

structure Names where
  filename : CharArray 64
  fNum : CharArray 15
  path : CharArray 64

def logicalDrv : List UInt8 :=
  asciiBytes "/mnt/name/"

/-- From the `memset` of `filename` to the name in `path`; without a result where a
call leaves its array. -/
def buildPath (names : Names) (uvcImgFileNum : BitVec 32) : Option Names := do
  let filename := CharArray.zeros 64
  let filename ← filename.strcpy (asciiBytes "img")
  let fNum ← names.fNum.strcpy (signedDecimal uvcImgFileNum.toInt)
  let filename ← filename.strcat (← fNum.string)
  let filename ← filename.strcat (asciiBytes ".jpeg")
  let path ← names.path.strcpy logicalDrv
  let path ← path.strcat (← filename.string)
  some { filename := filename, fNum := fNum, path := path }

/-! ### Every name fits -/

theorem length_number_le (uvcImgFileNum : BitVec 32) :
    (signedDecimal uvcImgFileNum.toInt).length ≤ 11 := by
  have above := uvcImgFileNum.le_toInt
  have below := uvcImgFileNum.toInt_lt
  rw [length_signedDecimal_le_iff _ 10]
  omega

theorem asciiBytes_imagePath (uvcImgFileNum : BitVec 32) :
    asciiBytes (imagePath uvcImgFileNum) =
      logicalDrv ++
        (asciiBytes "img" ++ signedDecimal uvcImgFileNum.toInt ++ asciiBytes ".jpeg") := by
  simp only [imagePath, logicalDrv, asciiBytes_append, asciiBytes_toString]

/-- Whatever the arrays held before, each of the calls stays inside its array. -/
theorem buildPath_string (names : Names) (uvcImgFileNum : BitVec 32) :
    ∃ built, buildPath names uvcImgFileNum = some built ∧
      built.path.string = some (asciiBytes (imagePath uvcImgFileNum)) := by
  have short := length_number_le uvcImgFileNum
  have digits := zero_not_mem_signedDecimal uvcImgFileNum.toInt
  obtain ⟨img, setImg, holdsImg⟩ := (CharArray.zeros 64).strcpy_string
    (show 0 ∉ asciiBytes "img" by decide) (by decide)
  obtain ⟨fNum, setNum, holdsNum⟩ := names.fNum.strcpy_string digits (by omega)
  obtain ⟨numbered, setNumbered, holdsNumbered⟩ := CharArray.strcat_string holdsImg digits
    (by simp [asciiBytes]; omega)
  obtain ⟨filename, setFilename, holdsFilename⟩ := CharArray.strcat_string holdsNumbered
    (show 0 ∉ asciiBytes ".jpeg" by decide) (by simp [asciiBytes]; omega)
  obtain ⟨drive, setDrive, holdsDrive⟩ := names.path.strcpy_string
    (show 0 ∉ logicalDrv by decide) (by decide)
  obtain ⟨path, setPath, holdsPath⟩ := CharArray.strcat_string holdsDrive
    (CharArray.of_string holdsFilename).2 (by simp [asciiBytes, logicalDrv]; omega)
  refine ⟨{ filename := filename, fNum := fNum, path := path }, ?_, ?_⟩
  · simp only [buildPath, setImg, setNum, holdsNum, setNumbered, setFilename, holdsFilename,
      setDrive, setPath, Option.bind_eq_bind, Option.bind_some]
  · rw [asciiBytes_imagePath]
    exact holdsPath

/-! ### No name twice -/

theorem asciiBytes_imagePath_injective :
    Function.Injective fun uvcImgFileNum : BitVec 32 => asciiBytes (imagePath uvcImgFileNum) := by
  intro first second same
  simp only [asciiBytes_imagePath, List.append_cancel_left_eq, List.append_cancel_right_eq] at same
  exact BitVec.eq_of_toInt_eq (signedDecimal_injective same)

theorem captureStep_path {camera : Camera} {s successor : Capture} {iteration : Iteration}
    (taken : captureStep camera s iteration = some successor) :
    successor.uvcImgFileNum = s.uvcImgFileNum + 1 ∧
      ∃ file, successor.files = file :: s.files ∧ file.path = imagePath s.uvcImgFileNum := by
  rcases captureStep_cases taken with ⟨_failed, rfl⟩ | ⟨frame, _dequeued, _deliverable, rfl⟩
  · exact ⟨rfl, _, rfl, rfl⟩
  · exact ⟨rfl, _, rfl, rfl⟩

/-- The frames are numbered from 0 on, and each file has the name of its number. -/
theorem run_paths {camera : Camera} {device : Device} {record : V4l2Buffer}
    {history : History Capture Iteration} {s : Capture}
    (run : Run (captureStep camera) (captureStart device record) history s) :
    s.uvcImgFileNum = BitVec.ofNat 32 history.length ∧
      s.files.map File.path =
        (List.range history.length).reverse.map fun frame => imagePath (BitVec.ofNat 32 frame) := by
  apply Run.invariant (fun history s => s.uvcImgFileNum = BitVec.ofNat 32 history.length ∧
    s.files.map File.path =
      (List.range history.length).reverse.map fun frame => imagePath (BitVec.ofNat 32 frame))
    ?_ ?_ run
  · exact ⟨rfl, rfl⟩
  · intro history s iteration successor _run holds taken
    obtain ⟨number, paths⟩ := holds
    obtain ⟨next, file, written, named⟩ := captureStep_path taken
    constructor
    · simp [next, number, BitVec.ofNat_add]
    · simp [written, named, number, paths, List.range_succ]

/-- The iterations of a run against the files it wrote: the calls that build a name
stay inside their arrays and leave the name of the file in `path`. -/
def PathsFit (history : History Capture Iteration) (files : List File) : Prop :=
  List.Forall₂
    (fun entry file => ∀ names : Names, ∃ built,
      buildPath names entry.1.uvcImgFileNum = some built ∧
        built.path.string = some (asciiBytes file.path))
    history files

theorem run_pathsFit {camera : Camera} {device : Device} {record : V4l2Buffer}
    {history : History Capture Iteration} {s : Capture}
    (run : Run (captureStep camera) (captureStart device record) history s) :
    PathsFit history s.files := by
  apply Run.invariant (fun history s => PathsFit history s.files) ?_ ?_ run
  · exact List.Forall₂.nil
  · intro history s iteration successor _run fit taken
    obtain ⟨_next, file, written, named⟩ := captureStep_path taken
    rw [written]
    refine List.Forall₂.cons ?_ fit
    intro names
    rw [named]
    exact buildPath_string names s.uvcImgFileNum

theorem images_never_overwritten {camera : Camera} {device : Device} {record : V4l2Buffer}
    {history : History Capture Iteration} {s : Capture}
    (run : Run (captureStep camera) (captureStart device record) history s)
    (frames : history.length ≤ 2 ^ 32) :
    PathsFit history s.files ∧ (s.files.map fun file => asciiBytes file.path).Nodup := by
  refine ⟨run_pathsFit run, ?_⟩
  have paths : (s.files.map fun file => asciiBytes file.path) =
      (List.range history.length).reverse.map
        fun frame => asciiBytes (imagePath (BitVec.ofNat 32 frame)) := by
    have named := congrArg (List.map asciiBytes) (run_paths run).2
    simpa [Function.comp_def] using named
  rw [paths]
  apply List.Nodup.map_on
  · intro first inFirst second inSecond same
    have numbers := congrArg BitVec.toNat (asciiBytes_imagePath_injective same)
    rw [List.mem_reverse, List.mem_range] at inFirst inSecond
    simp only [BitVec.toNat_ofNat] at numbers
    omega
  · exact List.nodup_reverse.mpr List.nodup_range

def oneFrame : Iteration where
  dqbuf := some { index := 0, bytesused := 16 }
  memory := fun _ _ => 0xFF
  qbuf := true

theorem captureStep_oneFrame {s : Capture} (queued : s.device.owner 0 = .driver) :
    ∃ successor, captureStep (healthyCamera 1) s oneFrame = some successor ∧
      successor.device.owner 0 = .driver := by
  have deliverable : Deliverable (healthyCamera 1) s { index := 0, bytesused := 16 } :=
    ⟨by simp [healthyCamera], queued, by simp [healthyCamera]⟩
  rw [captureStep, oneFrame, afterDqbuf, if_pos deliverable]
  exact ⟨_, rfl, requeue_owner ((s.dequeue (healthyCamera 1) ⟨0, 16⟩).writeImage _) true⟩

theorem two_images_never_overwritten :
    ∃ device history s, videoDeviceInit "/dev/video0" (healthyCamera 1) = .ok device ∧
      Run (captureStep (healthyCamera 1)) (captureStart device .clear) history s ∧
      s.files.map File.path = [imagePath 1, imagePath 0] ∧
      PathsFit history s.files ∧ (s.files.map fun file => asciiBytes file.path).Nodup := by
  obtain ⟨device, returned⟩ := (healthyCamera_healthy 1).videoDeviceInit_returns "/dev/video0"
  obtain ⟨s, first, queued⟩ := captureStep_oneFrame (s := captureStart device .clear)
    ((videoDeviceInit_ok returned).queued 0 (by simp [healthyCamera]))
  obtain ⟨t, second, _⟩ := captureStep_oneFrame queued
  have run := (Run.start.next first).next second
  exact ⟨device, _, t, returned, run, (run_paths run).2, images_never_overwritten run (by simp)⟩

end AmebaTests.Uvc
