/-
Memory as the list of its bytes from an address on.

A store of a chunk at that address replaces the first bytes, `strlen` counts the
bytes before the first zero, and clearing a length stores zeros.
-/

import Mathlib.Data.List.TakeWhile

namespace AmebaTests.Foundation

def overlay (chunk memory : List UInt8) : List UInt8 :=
  chunk ++ memory.drop chunk.length

/-- The string that starts at the front, without its terminator. -/
def cString (memory : List UInt8) : List UInt8 :=
  memory.takeWhile (· ≠ 0)

def strlen (memory : List UInt8) : Nat :=
  (cString memory).length

/-- `memset(memory, 0, count)`. -/
def clear (count : Nat) (memory : List UInt8) : List UInt8 :=
  overlay (List.replicate count 0) memory

theorem length_overlay {chunk memory : List UInt8} (fits : chunk.length ≤ memory.length) :
    (overlay chunk memory).length = memory.length := by
  rw [overlay, List.length_append, List.length_drop]
  omega

theorem strlen_le_length (memory : List UInt8) : strlen memory ≤ memory.length :=
  (List.takeWhile_prefix _).length_le

theorem cString_cons {byte : UInt8} (nonzero : byte ≠ 0) (memory : List UInt8) :
    cString (byte :: memory) = byte :: cString memory := by
  unfold cString
  exact List.takeWhile_cons_of_pos (decide_eq_true nonzero)

theorem strlen_le_of_zero {memory : List UInt8} {index : Nat} (zero : memory[index]? = some 0) :
    strlen memory ≤ index := by
  induction memory generalizing index with
  | nil => cases zero
  | cons byte rest ih =>
      by_cases isZero : byte = 0
      · rw [isZero]
        exact Nat.zero_le index
      · rw [strlen, cString_cons isZero, List.length_cons]
        cases index with
        | zero => exact absurd (Option.some.inj zero) isZero
        | succ index => exact Nat.succ_le_succ (ih zero)

theorem cString_append {text : List UInt8} (noZero : 0 ∉ text) (memory : List UInt8) :
    cString (text ++ memory) = text ++ cString memory := by
  induction text with
  | nil => rfl
  | cons byte text ih =>
      rw [List.mem_cons, not_or] at noZero
      rw [List.cons_append, cString_cons (Ne.symm noZero.1), ih noZero.2, List.cons_append]

theorem cString_overlay {chunk : List UInt8} (text : 0 ∉ chunk) (memory : List UInt8) :
    cString (overlay chunk memory) = chunk ++ cString (memory.drop chunk.length) :=
  cString_append text _

theorem zero_not_mem_cString (memory : List UInt8) : 0 ∉ cString memory := by
  intro member
  have nonzero := List.mem_takeWhile_imp member
  exact absurd rfl (of_decide_eq_true nonzero)

end AmebaTests.Foundation
