/-
`char` arrays, and the calls that leave a string in one.

An array keeps its size.  A call that would store behind the end of its array, or
that looks for a terminator in an array without one, has no result.
-/

import AmebaTests.Foundation.Bytes

namespace AmebaTests.Foundation

theorem take_strlen (memory : List UInt8) : memory.take (strlen memory) = cString memory :=
  (List.prefix_iff_eq_take.mp (List.takeWhile_prefix _)).symm

theorem length_overlay_behind {memory text : List UInt8} {start : Nat}
    (fits : start + (text.length + 1) ≤ memory.length) :
    (memory.take start ++ overlay (text ++ [0]) (memory.drop start)).length = memory.length := by
  have room : (text ++ [0]).length ≤ (memory.drop start).length := by
    rw [List.length_append, List.length_singleton, List.length_drop]
    omega
  rw [List.length_append, length_overlay room, List.length_take, List.length_drop]
  omega

structure CharArray (capacity : Nat) where
  bytes : List UInt8
  size : bytes.length = capacity

namespace CharArray

variable {capacity : Nat}

/-- An array behind `memset(array, 0, capacity)`. -/
def zeros (capacity : Nat) : CharArray capacity where
  bytes := List.replicate capacity 0
  size := List.length_replicate

/-- The string in an array. -/
def string (array : CharArray capacity) : Option (List UInt8) :=
  if 0 ∈ array.bytes then some (cString array.bytes) else none

/-- Store a text with its terminator from an index on. -/
def store (array : CharArray capacity) (start : Nat) (text : List UInt8) :
    Option (CharArray capacity) :=
  if fits : start + (text.length + 1) ≤ capacity then
    some
      { bytes := array.bytes.take start ++ overlay (text ++ [0]) (array.bytes.drop start)
        size := by rw [length_overlay_behind (array.size.symm ▸ fits), array.size] }
  else none

/-- `strcpy`, or a `sprintf` that prints the text. -/
def strcpy (array : CharArray capacity) (text : List UInt8) : Option (CharArray capacity) :=
  array.store 0 text

/-- `strcat`, or a `sprintf` that prints the text behind the string. -/
def strcat (array : CharArray capacity) (text : List UInt8) : Option (CharArray capacity) := do
  let string ← array.string
  array.store string.length text

theorem of_string {array : CharArray capacity} {text : List UInt8}
    (holds : array.string = some text) : array.bytes.take text.length = text ∧ 0 ∉ text := by
  unfold string at holds
  split at holds
  · cases holds
    exact ⟨take_strlen array.bytes, zero_not_mem_cString array.bytes⟩
  · cases holds

theorem store_string (array : CharArray capacity) {start : Nat} {text : List UInt8}
    (front : 0 ∉ array.bytes.take start) (noZero : 0 ∉ text)
    (fits : start + text.length < capacity) :
    ∃ stored, array.store start text = some stored ∧
      stored.string = some (array.bytes.take start ++ text) := by
  refine ⟨_, dif_pos (by omega), ?_⟩
  have whole : 0 ∉ array.bytes.take start ++ text := by simp [front, noZero]
  have same := cString_append whole (0 :: array.bytes.drop (start + (text.length + 1)))
  simpa [string, overlay, cString] using same

theorem strcpy_string (array : CharArray capacity) {text : List UInt8} (noZero : 0 ∉ text)
    (fits : text.length < capacity) :
    ∃ stored, array.strcpy text = some stored ∧ stored.string = some text := by
  have front : 0 ∉ array.bytes.take 0 := by simp
  simpa [strcpy] using array.store_string front noZero (by omega)

theorem strcat_string {array : CharArray capacity} {before text : List UInt8}
    (holds : array.string = some before) (noZero : 0 ∉ text)
    (fits : before.length + text.length < capacity) :
    ∃ stored, array.strcat text = some stored ∧ stored.string = some (before ++ text) := by
  obtain ⟨same, beforeText⟩ := of_string holds
  have front : 0 ∉ array.bytes.take before.length := by
    rw [same]
    exact beforeText
  have stored := array.store_string front noZero fits
  rw [same] at stored
  simpa [strcat, holds] using stored

end CharArray

end AmebaTests.Foundation
