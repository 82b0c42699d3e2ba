/-
Decimal numbers as ASCII text: what `%u`, `%d` and `%0<width>d` print, the number
a scan finds at the front of a text, and `atoi`.
-/

import Mathlib.Data.List.Induction
import Mathlib.Data.List.TakeWhile
import Mathlib.Algebra.Ring.Int.Defs
import Mathlib.Algebra.Ring.Nat

namespace AmebaTests.Foundation

def decimal (n : Nat) : List UInt8 :=
  (Nat.toDigits 10 n).map Char.toUInt8

def isDigit (byte : UInt8) : Bool :=
  48 ≤ byte && byte ≤ 57

def digitsValue (digits : List UInt8) : Nat :=
  digits.foldl (fun value byte => 10 * value + (byte.toNat - 48)) 0

/-- The value of the digits a text starts with; `none` if it starts with none. -/
def leadingNumber (text : List UInt8) : Option Nat :=
  match text.takeWhile isDigit with
  | [] => none
  | digit :: digits => some (digitsValue (digit :: digits))

theorem toNat_toUInt8_of_isDigit {c : Char} (digit : c.isDigit = true) :
    c.toUInt8.toNat = c.toNat := by
  have upper : c.toNat ≤ 57 := by
    rw [Char.isDigit_iff_toNat] at digit
    exact digit.2
  change c.val.toNat % 256 = c.val.toNat
  have same : c.val.toNat = c.toNat := rfl
  omega

theorem isDigit_toUInt8 {c : Char} (digit : c.isDigit = true) : isDigit c.toUInt8 = true := by
  have value := toNat_toUInt8_of_isDigit digit
  rw [Char.isDigit_iff_toNat] at digit
  rw [isDigit, Bool.and_eq_true, decide_eq_true_eq, decide_eq_true_eq, UInt8.le_iff_toNat_le,
    UInt8.le_iff_toNat_le, value]
  exact digit

theorem isDigit_of_mem_toDigits {n : Nat} {c : Char} (member : c ∈ Nat.toDigits 10 n) :
    c.isDigit = true :=
  Nat.isDigit_of_mem_toDigits (by decide) (by decide) member

theorem isDigit_of_mem_decimal {n : Nat} {byte : UInt8} (member : byte ∈ decimal n) :
    isDigit byte = true := by
  obtain ⟨c, memberChars, rfl⟩ := List.mem_map.mp member
  exact isDigit_toUInt8 (isDigit_of_mem_toDigits memberChars)

theorem not_mem_decimal {byte : UInt8} (other : isDigit byte = false) (n : Nat) :
    byte ∉ decimal n := by
  intro member
  have digit := isDigit_of_mem_decimal member
  rw [other] at digit
  cases digit

theorem decimal_ne_nil (n : Nat) : decimal n ≠ [] := by
  intro empty
  exact Nat.toDigits_ne_nil (List.map_eq_nil_iff.mp empty)

theorem length_decimal_le_iff {n k : Nat} (positive : 0 < k) :
    (decimal n).length ≤ k ↔ n < 10 ^ k := by
  rw [decimal, List.length_map]
  exact Nat.length_toDigits_le_iff (by decide) positive

theorem foldl_toUInt8 (chars : List Char) (digits : ∀ c ∈ chars, c.isDigit = true) (value : Nat) :
    (chars.map Char.toUInt8).foldl (fun value byte => 10 * value + (byte.toNat - 48)) value =
      Nat.ofDigitChars 10 chars value := by
  induction chars generalizing value with
  | nil => rfl
  | cons c rest ih =>
      have here := toNat_toUInt8_of_isDigit (digits c List.mem_cons_self)
      rw [List.map_cons, List.foldl_cons, here, Nat.ofDigitChars_cons]
      exact ih (fun other member => digits other (List.mem_cons_of_mem c member)) _

theorem digitsValue_decimal (n : Nat) : digitsValue (decimal n) = n := by
  rw [digitsValue, decimal, foldl_toUInt8]
  · exact Nat.ofDigitChars_ten_toDigits
  · intro c member
    exact isDigit_of_mem_toDigits member

theorem takeWhile_isDigit_append {digits : List UInt8} (all : ∀ byte ∈ digits, isDigit byte = true)
    {stop : UInt8} (stops : isDigit stop = false) (rest : List UInt8) :
    (digits ++ stop :: rest).takeWhile isDigit = digits := by
  rw [List.takeWhile_append_of_pos all,
    List.takeWhile_cons_of_neg (by rw [stops]; exact Bool.false_ne_true), List.append_nil]

/-- Scanning undoes printing, whatever follows the number. -/
theorem leadingNumber_decimal_append (n : Nat) {stop : UInt8} (stops : isDigit stop = false)
    (rest : List UInt8) : leadingNumber (decimal n ++ stop :: rest) = some n := by
  have digits := takeWhile_isDigit_append (fun byte => isDigit_of_mem_decimal (n := n)) stops rest
  have value := digitsValue_decimal n
  rw [leadingNumber, digits]
  cases shape : decimal n with
  | nil => exact absurd shape (decimal_ne_nil n)
  | cons digit others =>
      rw [shape] at value
      exact congrArg some value

theorem decimal_of_lt {n : Nat} (small : n < 10) : decimal n = [UInt8.ofNat (48 + n)] := by
  rw [decimal, Nat.toDigits_of_lt_base small, List.map_singleton]
  have value : n.digitChar.toUInt8 = UInt8.ofNat n.digitChar.toNat := rfl
  rw [value, Nat.toNat_digitChar_of_lt_ten small]

theorem decimal_of_le {n : Nat} (large : 10 ≤ n) :
    decimal n = decimal (n / 10) ++ [UInt8.ofNat (48 + n % 10)] := by
  have last := decimal_of_lt (Nat.mod_lt n (by decide : 0 < 10))
  rw [decimal, Nat.toDigits_of_lt_base (Nat.mod_lt n (by decide))] at last
  rw [decimal, Nat.toDigits_of_base_le (by decide) large, List.map_append]
  exact congrArg (decimal (n / 10) ++ ·) last

/-! ### A fixed number of digits -/

/-- The last digits of a number. -/
def fixedDigits : Nat → Nat → List UInt8
  | 0, _ => []
  | count + 1, n => fixedDigits count (n / 10) ++ [UInt8.ofNat (48 + n % 10)]

theorem fixedDigits_zero (count : Nat) : fixedDigits count 0 = List.replicate count 48 := by
  induction count with
  | zero => rfl
  | succ count ih =>
      rw [fixedDigits, Nat.zero_div, ih, List.replicate_succ']
      rfl

/-- Zeros fill a number up to its last digits. -/
theorem replicate_append_decimal {count n : Nat} (positive : 0 < count) (fits : n < 10 ^ count) :
    List.replicate (count - (decimal n).length) 48 ++ decimal n = fixedDigits count n := by
  induction count generalizing n with
  | zero => exact absurd positive (Nat.lt_irrefl 0)
  | succ count ih =>
      by_cases small : n < 10
      · rw [decimal_of_lt small, fixedDigits, Nat.div_eq_of_lt small, fixedDigits_zero,
          Nat.mod_eq_of_lt small]
        rfl
      · have large : 10 ≤ n := Nat.le_of_not_lt small
        have quotient : n / 10 < 10 ^ count := by
          rw [Nat.div_lt_iff_lt_mul (by decide), ← Nat.pow_succ]
          exact fits
        have shorter : 0 < count := by
          rcases Nat.eq_zero_or_pos count with none | some
          · rw [none] at quotient
            omega
          · exact some
        rw [decimal_of_le large, List.length_append, List.length_singleton, fixedDigits,
          ← ih shorter quotient, List.append_assoc, Nat.add_sub_add_right]

/-! ### Signed numbers -/

def withSign (negative : Bool) (digits : List UInt8) : List UInt8 :=
  if negative then 45 :: digits else digits

/-- `%d`. -/
def signedDecimal (n : Int) : List UInt8 :=
  withSign (n < 0) (decimal n.natAbs)

/-- `%0<width>d`, which puts its zeros behind the sign. -/
def paddedDecimal (width : Nat) (n : Int) : List UInt8 :=
  if n < 0 then
    45 :: (List.replicate (width - 1 - (decimal n.natAbs).length) 48 ++ decimal n.natAbs)
  else List.replicate (width - (decimal n.natAbs).length) 48 ++ decimal n.natAbs

theorem signedDecimal_natCast (n : Nat) : signedDecimal n = decimal n := by
  rw [signedDecimal, decide_eq_false (Int.not_lt.mpr (Int.natCast_nonneg n)), Int.natAbs_natCast]
  rfl

theorem paddedDecimal_natCast {width n : Nat} (positive : 0 < width) (fits : n < 10 ^ width) :
    paddedDecimal width n = fixedDigits width n := by
  rw [paddedDecimal, if_neg (Int.not_lt.mpr (Int.natCast_nonneg n)), Int.natAbs_natCast,
    replicate_append_decimal positive fits]

theorem length_withSign (negative : Bool) (digits : List UInt8) :
    (withSign negative digits).length = digits.length + if negative then 1 else 0 := by
  cases negative with
  | true => rfl
  | false => rfl

theorem length_signedDecimal_le_iff (n : Int) (k : Nat) :
    (signedDecimal n).length ≤ k + 1 ↔ -(10 ^ k : Nat) < n ∧ n < (10 ^ (k + 1) : Nat) := by
  rw [signedDecimal, length_withSign]
  by_cases negative : n < 0
  · have below : n < (10 ^ (k + 1) : Nat) := Int.lt_of_lt_of_le negative (Int.natCast_nonneg _)
    rw [decide_eq_true negative, if_pos rfl, Nat.add_le_add_iff_right, and_iff_left below]
    rcases Nat.eq_zero_or_pos k with none | some
    · have nonempty := List.length_pos_iff.mpr (decimal_ne_nil n.natAbs)
      rw [none, Nat.pow_zero]
      omega
    · rw [length_decimal_le_iff some]
      omega
  · have above : -(10 ^ k : Nat) < n := by
      have positive : 0 < 10 ^ k := Nat.pow_pos (by decide)
      omega
    rw [decide_eq_false negative, if_neg Bool.false_ne_true, Nat.add_zero,
      length_decimal_le_iff (Nat.succ_pos k), and_iff_right above]
    omega

theorem minus_mem_signedDecimal_iff (n : Int) : 45 ∈ signedDecimal n ↔ n < 0 := by
  have minus : 45 ∉ decimal n.natAbs := not_mem_decimal rfl n.natAbs
  by_cases negative : n < 0 <;> simp [signedDecimal, withSign, negative, minus]

theorem zero_not_mem_signedDecimal (n : Int) : 0 ∉ signedDecimal n := by
  have zero : 0 ∉ decimal n.natAbs := not_mem_decimal rfl n.natAbs
  by_cases negative : n < 0 <;> simp [signedDecimal, withSign, negative, zero]

theorem signedDecimal_injective : Function.Injective signedDecimal := by
  intro first second same
  have signs : first < 0 ↔ second < 0 := by
    rw [← minus_mem_signedDecimal_iff, same, minus_mem_signedDecimal_iff]
  have digits : decimal first.natAbs = decimal second.natAbs := by
    by_cases negative : first < 0
    · simpa [signedDecimal, withSign, negative, signs.mp negative] using same
    · have positive : ¬ second < 0 := fun below => negative (signs.mpr below)
      simpa [signedDecimal, withSign, negative, positive] using same
  have value : first.natAbs = second.natAbs := by
    rw [← digitsValue_decimal first.natAbs, digits, digitsValue_decimal]
  omega

/-! ### Numbers in a string -/

/-- The bytes of a string of ASCII characters. -/
def asciiBytes (text : String) : List UInt8 :=
  text.toList.map Char.toUInt8

@[simp] theorem asciiBytes_append (first second : String) :
    asciiBytes (first ++ second) = asciiBytes first ++ asciiBytes second := by
  simp [asciiBytes]

theorem asciiBytes_repr (n : Nat) : asciiBytes n.repr = decimal n := by
  rw [asciiBytes, decimal, Nat.repr_eq_ofList_toDigits, String.toList_ofList]

theorem asciiBytes_toString (n : Int) : asciiBytes (toString n) = signedDecimal n := by
  cases n with
  | ofNat n =>
      change asciiBytes n.repr = signedDecimal n
      rw [asciiBytes_repr, signedDecimal_natCast]
  | negSucc n =>
      change asciiBytes ("-" ++ (n + 1).repr) = _
      rw [asciiBytes_append, asciiBytes_repr, signedDecimal,
        decide_eq_true (Int.negSucc_lt_zero n), Int.natAbs_negSucc]
      rfl

theorem utf8Size_of_isDigit {c : Char} (digit : c.isDigit = true) : c.utf8Size = 1 := by
  rw [Char.isDigit_iff_toNat] at digit
  rw [Char.utf8Size_eq_one_iff, UInt32.le_iff_toNat_le]
  exact Nat.le_trans digit.2 (by decide)

theorem utf8ByteSize_ofList_of_isDigit {chars : List Char}
    (digits : ∀ c ∈ chars, c.isDigit = true) : (String.ofList chars).utf8ByteSize = chars.length := by
  induction chars with
  | nil => rfl
  | cons c rest ih =>
      have here := utf8Size_of_isDigit (digits c List.mem_cons_self)
      have later := ih fun other member => digits other (List.mem_cons_of_mem c member)
      rw [← List.singleton_append, String.ofList_append, String.utf8ByteSize_append,
        ← String.singleton_eq_ofList, String.utf8ByteSize_singleton, here, later,
        List.length_append, List.length_singleton]

theorem utf8ByteSize_repr (n : Nat) : n.repr.utf8ByteSize = (decimal n).length := by
  rw [Nat.repr_eq_ofList_toDigits, decimal, List.length_map]
  apply utf8ByteSize_ofList_of_isDigit
  intro c member
  exact isDigit_of_mem_toDigits member

/-- A number has as many bytes in a string as `%d` prints. -/
theorem utf8ByteSize_toString (n : Int) : (toString n).utf8ByteSize = (signedDecimal n).length := by
  cases n with
  | ofNat n => exact utf8ByteSize_repr n
  | negSucc n =>
      change ("-" ++ (n + 1).repr).utf8ByteSize = _
      rw [String.utf8ByteSize_append, utf8ByteSize_repr, signedDecimal, length_withSign,
        decide_eq_true (Int.negSucc_lt_zero n), if_pos rfl, Int.natAbs_negSucc, Nat.add_comm]
      rfl

/-! ### `atoi` -/

def isWhitespace (byte : UInt8) : Bool :=
  byte = 32 || (9 ≤ byte && byte ≤ 13)

/-- A number outside the range of `int` becomes the nearest one in it, as `strtol`
has it where `long` has 32 bits. -/
def clampInt (n : Int) : Int :=
  max (-2 ^ 31) (min n (2 ^ 31 - 1))

def signedValue (negative : Bool) (value : Nat) : Int :=
  if negative then -value else value

def atoi (text : List UInt8) : Int :=
  let number := text.dropWhile isWhitespace
  if number.head? = some 45 then
    clampInt (signedValue true (digitsValue (number.tail.takeWhile isDigit)))
  else if number.head? = some 43 then
    clampInt (signedValue false (digitsValue (number.tail.takeWhile isDigit)))
  else clampInt (signedValue false (digitsValue (number.takeWhile isDigit)))

theorem isDigit_bounds {byte : UInt8} (digit : isDigit byte = true) :
    48 ≤ byte.toNat ∧ byte.toNat ≤ 57 := by
  rw [isDigit, Bool.and_eq_true, decide_eq_true_eq, decide_eq_true_eq, UInt8.le_iff_toNat_le,
    UInt8.le_iff_toNat_le] at digit
  exact digit

theorem ne_of_isDigit {byte other : UInt8} (digit : isDigit byte = true)
    (none : isDigit other = false) : byte ≠ other := by
  intro same
  rw [same, none] at digit
  cases digit

theorem not_isWhitespace_of_isDigit {byte : UInt8} (digit : isDigit byte = true) :
    isWhitespace byte = false := by
  have bounds := isDigit_bounds digit
  rw [isWhitespace, Bool.or_eq_false_iff, Bool.and_eq_false_iff, decide_eq_false_iff_not,
    decide_eq_false_iff_not, decide_eq_false_iff_not, UInt8.le_iff_toNat_le, UInt8.le_iff_toNat_le]
  constructor
  · exact ne_of_isDigit digit rfl
  · refine Or.inr (Nat.not_le_of_lt ?_)
    change 13 < byte.toNat
    omega

/-- `atoi` finds a number in front of any byte that does not go on with it. -/
theorem atoi_withSign_append (negative : Bool) {digits : List UInt8} (nonempty : digits ≠ [])
    (all : ∀ byte ∈ digits, isDigit byte = true) {stop : UInt8} (stops : isDigit stop = false)
    (rest : List UInt8) :
    atoi (withSign negative digits ++ stop :: rest) =
      clampInt (signedValue negative (digitsValue digits)) := by
  have taken := takeWhile_isDigit_append all stops rest
  cases negative with
  | true =>
      have front : isWhitespace 45 = false := by decide
      rw [atoi, withSign, if_pos rfl, List.cons_append,
        List.dropWhile_cons_of_neg (by rw [front]; exact Bool.false_ne_true), List.head?_cons,
        if_pos rfl, List.tail_cons, taken]
  | false =>
      obtain ⟨digit, others, rfl⟩ := List.exists_cons_of_ne_nil nonempty
      have here := all digit List.mem_cons_self
      have front := not_isWhitespace_of_isDigit here
      have notMinus : ¬ some digit = some 45 :=
        fun same => ne_of_isDigit here rfl (Option.some.inj same)
      have notPlus : ¬ some digit = some 43 :=
        fun same => ne_of_isDigit here rfl (Option.some.inj same)
      rw [List.cons_append] at taken
      rw [atoi, withSign, if_neg Bool.false_ne_true, List.cons_append,
        List.dropWhile_cons_of_neg (by rw [front]; exact Bool.false_ne_true), List.head?_cons,
        if_neg notMinus, if_neg notPlus, taken]

theorem digitsValue_append_zero (digits : List UInt8) :
    digitsValue (digits ++ [48]) = 10 * digitsValue digits := by
  rw [digitsValue, List.foldl_append]
  rfl

theorem digitsValue_lt {digits : List UInt8} (all : ∀ byte ∈ digits, isDigit byte = true) :
    digitsValue digits < 10 ^ digits.length := by
  induction digits using List.reverseRecOn with
  | nil => exact Nat.one_pos
  | append_singleton digits last ih =>
      have earlier := ih fun byte member => all byte (List.mem_append_left _ member)
      have bounds := isDigit_bounds (all last (List.mem_append_right _ List.mem_cons_self))
      rw [digitsValue, List.foldl_append, List.length_append, List.length_singleton, Nat.pow_succ]
      change 10 * digitsValue digits + (last.toNat - 48) < _
      omega

end AmebaTests.Foundation
