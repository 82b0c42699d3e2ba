/-
The two coherent buffers of the DMAC test: the pattern that
`rtk_prepare_test_buf` writes and the comparison `buf_compare` makes.

A buffer is its contents by word offset.  Words are `u32`, so the pattern wraps
modulo 2^32 as in the source.  The `buf_print` dumps have no effect on a verdict
and are left out.
-/

import Mathlib.Logic.Function.Basic

namespace AmebaTests.Dmac

abbrev Word := BitVec 32

abbrev Words := Nat → Word

inductive TestMode
  | auto
  | memcpy
  | cyclic
  | sg
  deriving DecidableEq, Repr

def memSize : TestMode → Nat
  | .memcpy => 4
  | .cyclic => 1024
  | .auto => 4
  | .sg => 4

/-- The word `(i << 24 | i << 16 | i << 8 | i) + dma_test_times + 1`. -/
def testWord (dmaTestTimes i : Nat) : Word :=
  let index := BitVec.ofNat 32 i
  (index <<< 24 ||| index <<< 16 ||| index <<< 8 ||| index) +
    BitVec.ofNat 32 dmaTestTimes + 1

def fillWord (dmaTestTimes : Nat) (bufSrc : Words) (i : Nat) : Words :=
  Function.update bufSrc i (testWord dmaTestTimes i)

def fillWords (dmaTestTimes : Nat) (bufSrc : Words) : Nat → Words
  | 0 => bufSrc
  | count + 1 => fillWord dmaTestTimes (fillWords dmaTestTimes bufSrc count) count

/-- What `rtk_prepare_test_buf` leaves in `buf_src`. -/
def rtkPrepareTestBuf (bufSrc : Words) (dmaTestTimes : Nat) (mode : TestMode) : Words :=
  fillWords dmaTestTimes bufSrc (memSize mode / 4)

theorem fillWords_apply (dmaTestTimes : Nat) (bufSrc : Words) (count i : Nat) :
    fillWords dmaTestTimes bufSrc count i =
      if i < count then testWord dmaTestTimes i else bufSrc i := by
  induction count with
  | zero => simp only [fillWords, Nat.not_lt_zero, if_false]
  | succ count ih =>
      by_cases same : i = count
      · subst same
        simp [fillWords, fillWord]
      · have narrowed : i < count + 1 ↔ i < count := by omega
        simp only [fillWords, fillWord, Function.update_of_ne same, ih, narrowed]

theorem rtkPrepareTestBuf_apply (bufSrc : Words) (dmaTestTimes : Nat)
    (mode : TestMode) (i : Nat) :
    rtkPrepareTestBuf bufSrc dmaTestTimes mode i =
      if i < memSize mode / 4 then testWord dmaTestTimes i else bufSrc i :=
  fillWords_apply dmaTestTimes bufSrc (memSize mode / 4) i

def bufCompareFrom (bufa bufb : Words) : Nat → Nat → Bool
  | _, 0 => true
  | i, left + 1 =>
      if bufa i ≠ bufb i then false
      else bufCompareFrom bufa bufb (i + 1) left

def bufCompare (bufa bufb : Words) (compareLen : Nat) : Bool :=
  bufCompareFrom bufa bufb 0 (compareLen / 4)

theorem bufCompareFrom_eq_true_iff (bufa bufb : Words) (i left : Nat) :
    bufCompareFrom bufa bufb i left = true ↔
      ∀ offset, i ≤ offset → offset < i + left → bufa offset = bufb offset := by
  induction left generalizing i with
  | zero =>
      simp only [bufCompareFrom, true_iff]
      intro offset lower upper
      omega
  | succ left ih =>
      by_cases same : bufa i = bufb i
      · simp only [bufCompareFrom, ne_eq, same, not_true_eq_false, if_false, ih]
        constructor
        · intro later offset lower upper
          by_cases here : offset = i
          · rw [here, same]
          · exact later offset (by omega) (by omega)
        · intro every offset lower upper
          exact every offset (by omega) (by omega)
      · simp only [bufCompareFrom, ne_eq, same, not_false_eq_true, if_true,
          Bool.false_eq_true, false_iff]
        intro every
        exact same (every i (Nat.le_refl i) (by omega))

/-- `buf_compare` accepts exactly the buffers that agree on every whole word of
the compared length. -/
theorem bufCompare_eq_true_iff (bufa bufb : Words) (compareLen : Nat) :
    bufCompare bufa bufb compareLen = true ↔
      ∀ offset < compareLen / 4, bufa offset = bufb offset := by
  rw [bufCompare, bufCompareFrom_eq_true_iff]
  constructor
  · intro every offset below
    exact every offset (Nat.zero_le offset) (by omega)
  · intro every offset _lower upper
    exact every offset (by omega)

end AmebaTests.Dmac
