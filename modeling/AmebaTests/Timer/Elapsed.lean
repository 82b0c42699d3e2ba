/-
The elapsed time that the system timer test prints.

Seconds and nanoseconds are subtracted separately and never borrow from each
other, so the text is the elapsed time only if the nanoseconds of the later
timestamp are not behind those of the start.
-/

import AmebaTests.Timer.Expirations
import Mathlib.Algebra.Ring.Nat

namespace AmebaTests.Timer

open Foundation

def elapsedNsec (start curr : Timespec) : Int :=
  (curr.tvSec - start.tvSec) * 1000000000 + (curr.tvNsec - start.tvNsec)

/-- The elapsed time in seconds with three decimals, rounded down. -/
def secondsText (start curr : Timespec) : List UInt8 :=
  let milliseconds := (elapsedNsec start curr).toNat / 1000000
  decimal (milliseconds / 1000) ++ 46 :: fixedDigits 3 (milliseconds % 1000)

theorem isDigit_of_mem_fixedDigits {count n : Nat} {byte : UInt8}
    (member : byte ∈ fixedDigits count n) : isDigit byte = true := by
  induction count generalizing n with
  | zero => exact absurd member List.not_mem_nil
  | succ count ih =>
      rcases List.mem_append.mp member with earlier | last
      · exact ih earlier
      · have digit := decimal_of_lt (Nat.mod_lt n (by decide : 0 < 10))
        rw [← digit] at last
        exact isDigit_of_mem_decimal last

/-- No sign stands in the text of the elapsed time. -/
theorem minus_not_mem_secondsText (start curr : Timespec) : 45 ∉ secondsText start curr := by
  intro member
  rcases List.mem_append.mp member with seconds | behind
  · exact not_mem_decimal rfl _ seconds
  · rcases List.mem_cons.mp behind with point | decimals
    · exact absurd point (by decide)
    · exact absurd (isDigit_of_mem_fixedDigits decimals) (by decide)

section Elapsed

variable {start curr : Timespec}

theorem nsecs_eq : Int.bmod (curr.tvNsec - start.tvNsec) (2 ^ 32) = curr.tvNsec - start.tvNsec := by
  have startLower := start.nonnegative
  have startUpper := start.normalised
  have currLower := curr.nonnegative
  have currUpper := curr.normalised
  apply Int.bmod_eq_of_le
  · omega
  · omega

/-- Without a borrow both fields are the ones of the elapsed time. -/
theorem elapsedText_of_le (ordered : 0 ≤ elapsedNsec start curr)
    (near : elapsedNsec start curr < 2 ^ 31 * 1000000000) (aligned : start.tvNsec ≤ curr.tvNsec) :
    elapsedText start curr = secondsText start curr := by
  have upper := curr.normalised
  have lower := start.nonnegative
  unfold elapsedNsec at ordered near
  obtain ⟨seconds, whole⟩ := Int.eq_ofNat_of_zero_le
    (show 0 ≤ curr.tvSec - start.tvSec by omega)
  obtain ⟨nanoseconds, rest⟩ := Int.eq_ofNat_of_zero_le
    (show 0 ≤ curr.tvNsec - start.tvNsec by omega)
  have secs : Int.bmod (seconds : Int) (2 ^ 32) = seconds := by
    apply Int.bmod_eq_of_le
    · omega
    · omega
  have milliseconds : (elapsedNsec start curr).toNat / 1000000 =
      seconds * 1000 + nanoseconds / 1000000 := by
    rw [elapsedNsec, whole, rest]
    omega
  have below : nanoseconds / 1000000 < 10 ^ 3 := by omega
  have quotient : (seconds * 1000 + nanoseconds / 1000000) / 1000 = seconds := by omega
  have remainder : (seconds * 1000 + nanoseconds / 1000000) % 1000 = nanoseconds / 1000000 := by
    omega
  rw [elapsedText, secondsText, milliseconds, quotient, remainder, nsecs_eq, whole, rest, secs,
    signedDecimal_natCast]
  exact congrArg (decimal seconds ++ 46 :: ·) (paddedDecimal_natCast (by decide) below)

/-- To borrow less than a millisecond changes the last decimal; to borrow more
puts a sign behind the point. -/
theorem elapsedText_ne_of_lt (ordered : 0 ≤ elapsedNsec start curr)
    (behind : curr.tvNsec < start.tvNsec) : elapsedText start curr ≠ secondsText start curr := by
  intro same
  rw [elapsedText, nsecs_eq] at same
  by_cases close : start.tvNsec - curr.tvNsec < 1000000
  · have none : Int.tdiv (curr.tvNsec - start.tvNsec) 1000000 = 0 := by
      rw [← Int.neg_sub, Int.neg_tdiv, Int.tdiv_eq_zero_of_lt (by omega) close, Int.neg_zero]
    have nines : (elapsedNsec start curr).toNat / 1000000 % 1000 = 999 := by
      unfold elapsedNsec at ordered ⊢
      omega
    rw [none, secondsText, nines] at same
    have last := congrArg List.getLast? same
    rw [List.getLast?_append, List.getLast?_append] at last
    have decimals : some (48 : UInt8) = some 57 := last
    exact absurd decimals (by decide)
  · have negative : Int.tdiv (curr.tvNsec - start.tvNsec) 1000000 < 0 := by
      have positive := Int.le_tdiv_of_mul_le (by decide : (0 : Int) < 1000000)
        (show 1 * 1000000 ≤ start.tvNsec - curr.tvNsec by omega)
      rw [← Int.neg_sub, Int.neg_tdiv]
      omega
    apply minus_not_mem_secondsText start curr
    rw [← same, paddedDecimal, if_pos negative]
    exact List.mem_append_right _ (List.mem_cons_of_mem _ List.mem_cons_self)

theorem elapsedText_eq_iff (ordered : 0 ≤ elapsedNsec start curr)
    (near : elapsedNsec start curr < 2 ^ 31 * 1000000000) :
    elapsedText start curr = secondsText start curr ↔ start.tvNsec ≤ curr.tvNsec := by
  constructor
  · intro same
    by_contra behind
    exact elapsedText_ne_of_lt ordered (Int.not_le.mp behind) same
  · exact elapsedText_of_le ordered near

end Elapsed

def timestamp (seconds : Int) (milliseconds : Fin 1000) : Timespec where
  tvSec := seconds
  tvNsec := milliseconds.val * 1000000
  nonnegative := by omega
  normalised := by omega

theorem elapsedText_eq_quarter_second :
    elapsedText (timestamp 100 500) (timestamp 101 750) =
      secondsText (timestamp 100 500) (timestamp 101 750) :=
  (elapsedText_eq_iff (by decide) (by decide)).mpr (by decide)

/-- Half a second after 100.700, at 101.200, the text is `1.-500`. -/
theorem elapsedText_without_borrow :
    0 ≤ elapsedNsec (timestamp 100 700) (timestamp 101 200) ∧
      elapsedNsec (timestamp 100 700) (timestamp 101 200) < 2 ^ 31 * 1000000000 ∧
      elapsedText (timestamp 100 700) (timestamp 101 200) = [49, 46, 45, 53, 48, 48] ∧
      secondsText (timestamp 100 700) (timestamp 101 200) = [48, 46, 53, 48, 48] ∧
      elapsedText (timestamp 100 700) (timestamp 101 200) ≠
        secondsText (timestamp 100 700) (timestamp 101 200) := by
  have printed : elapsedText (timestamp 100 700) (timestamp 101 200) =
      [49, 46, 45, 53, 48, 48] := rfl
  have expected : secondsText (timestamp 100 700) (timestamp 101 200) =
      [48, 46, 53, 48, 48] := rfl
  refine ⟨by decide, by decide, printed, expected, ?_⟩
  rw [printed, expected]
  decide

end AmebaTests.Timer
