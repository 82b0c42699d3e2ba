/-
`unescape`, which the SPI and the I2C test share word for word.

The source is the memory from the first character of the argument on.  After a
backslash and an `x` the function hands the rest to `sscanf` with `%2x`, stops
only if that reports no match, and advances four characters whatever has been
matched.
-/

import AmebaTests.Foundation.Bytes

namespace AmebaTests.Bus

open Foundation

def isSpace (byte : UInt8) : Bool :=
  byte = 32 || (9 ≤ byte && byte ≤ 13)

def hexValue (byte : UInt8) : Option Nat :=
  if 48 ≤ byte ∧ byte ≤ 57 then some (byte.toNat - 48)
  else if 65 ≤ byte ∧ byte ≤ 70 then some (byte.toNat - 55)
  else if 97 ≤ byte ∧ byte ≤ 102 then some (byte.toNat - 87)
  else none

inductive Scanned
  | eof
  | noMatch
  | value (ch : UInt8)
  deriving DecidableEq, Repr

def scanDigits (first : UInt8) (second : Option UInt8) : Scanned :=
  if first = 43 ∨ first = 45 then
    match second.bind hexValue with
    | none => .noMatch
    | some digit =>
        .value (if first = 45 then 0 - UInt8.ofNat digit else UInt8.ofNat digit)
  else if first = 48 ∧ (second = some 120 ∨ second = some 88) then .noMatch
  else
    match hexValue first, second.bind hexValue with
    | none, _ => .noMatch
    | some digit, none => .value (UInt8.ofNat digit)
    | some high, some low => .value (UInt8.ofNat (16 * high + low))

/-- `sscanf(text, "%2x", &ch)`, with `ch` cut to a byte as its use does. -/
def scanHex (text : List UInt8) : Scanned :=
  match (cString text).dropWhile isSpace with
  | [] => .eof
  | first :: rest => scanDigits first rest.head?

/-- `overrun` is a read behind the memory that is given. -/
inductive Unescaped
  | malformed
  | overrun (written : List UInt8)
  | done (written : List UInt8)
  deriving DecidableEq, Repr

def Unescaped.push (byte : UInt8) : Unescaped → Unescaped
  | .malformed => .malformed
  | .overrun written => .overrun (byte :: written)
  | .done written => .done (byte :: written)

/-- The loop, with the characters `src` still has to advance over. -/
def unescapeFrom : UInt8 → Nat → List UInt8 → Unescaped
  | _, _, [] => .overrun []
  | ch, skip + 1, _ :: rest => unescapeFrom ch skip rest
  | ch, 0, byte :: rest =>
      if byte = 0 then .done []
      else if byte = 92 ∧ rest.head? = some 120 then
        match scanHex (rest.drop 1) with
        | .noMatch => .malformed
        | .eof => (unescapeFrom ch 3 rest).push ch
        | .value scanned => (unescapeFrom scanned 3 rest).push scanned
      else (unescapeFrom ch 0 rest).push byte

def unescape (ch : UInt8) (memory : List UInt8) : Unescaped :=
  unescapeFrom ch 0 memory

/-! ### Well-formed strings -/

/-- A text in which every backslash-`x` is followed by two hexadecimal digits,
with the bytes it stands for. -/
inductive Escapes : List UInt8 → List UInt8 → Prop
  | nil : Escapes [] []
  | hex {bytes text : List UInt8} {first second : UInt8} {high low : Nat} :
      hexValue first = some high → hexValue second = some low → Escapes bytes text →
      Escapes (UInt8.ofNat (16 * high + low) :: bytes) (92 :: 120 :: first :: second :: text)
  | literal {bytes text : List UInt8} {byte : UInt8} :
      byte ≠ 0 → ¬ (byte = 92 ∧ text.head? = some 120) → Escapes bytes text →
      Escapes (byte :: bytes) (byte :: text)

theorem Escapes.length_le {bytes text : List UInt8} (escapes : Escapes bytes text) :
    bytes.length ≤ text.length := by
  induction escapes with
  | nil => exact Nat.le_refl 0
  | hex _first _second _rest ih =>
      rw [List.length_cons, List.length_cons, List.length_cons, List.length_cons,
        List.length_cons]
      omega
  | literal _nonzero _plain _rest ih =>
      rw [List.length_cons, List.length_cons]
      omega

theorem hexValue_of_lt {byte : UInt8} (below : byte.toNat < 48) : hexValue byte = none := by
  have outside {low high : UInt8} (above : byte.toNat < low.toNat) :
      ¬ (low ≤ byte ∧ byte ≤ high) := by
    rw [UInt8.le_iff_toNat_le]
    omega
  have digit : byte.toNat < (48 : UInt8).toNat := below
  have upper : byte.toNat < (65 : UInt8).toNat := Nat.lt_trans below (by simp)
  have lower : byte.toNat < (97 : UInt8).toNat := Nat.lt_trans below (by simp)
  rw [hexValue, if_neg (outside digit), if_neg (outside upper), if_neg (outside lower)]

theorem le_of_hexValue {byte : UInt8} {digit : Nat} (value : hexValue byte = some digit) :
    48 ≤ byte.toNat := by
  by_contra above
  rw [hexValue_of_lt (Nat.lt_of_not_le above)] at value
  cases value

theorem isSpace_of_hexValue {byte : UInt8} {digit : Nat}
    (value : hexValue byte = some digit) : isSpace byte = false := by
  have above := le_of_hexValue value
  cases space : isSpace byte with
  | false => rfl
  | true =>
      rw [isSpace, Bool.or_eq_true, Bool.and_eq_true, decide_eq_true_eq, decide_eq_true_eq,
        decide_eq_true_eq, UInt8.le_iff_toNat_le, UInt8.le_iff_toNat_le] at space
      rcases space with blank | ⟨_lower, upper⟩
      · rw [blank] at above
        exact absurd above (by decide)
      · have bound : byte.toNat ≤ 13 := upper
        omega

theorem scanHex_digits {first second : UInt8} {high low : Nat}
    (firstValue : hexValue first = some high) (secondValue : hexValue second = some low)
    (rest : List UInt8) :
    scanHex (first :: second :: rest) = .value (UInt8.ofNat (16 * high + low)) := by
  have firstNonzero : first ≠ 0 := by
    intro zero
    rw [zero] at firstValue
    cases firstValue
  have secondNonzero : second ≠ 0 := by
    intro zero
    rw [zero] at secondValue
    cases secondValue
  have noSign : ¬ (first = 43 ∨ first = 45) := by
    intro sign
    rcases sign with plus | minus
    · rw [plus] at firstValue
      cases firstValue
    · rw [minus] at firstValue
      cases firstValue
  have noRadix : ¬ (first = 48 ∧ (some second = some 120 ∨ some second = some 88)) := by
    intro radix
    rcases radix.2 with lower | upper
    · cases lower
      cases secondValue
    · cases upper
      cases secondValue
  have string : (cString (first :: second :: rest)).dropWhile isSpace =
      first :: second :: cString rest := by
    have noSpace : ¬ isSpace first = true := by
      rw [isSpace_of_hexValue firstValue]
      exact Bool.false_ne_true
    rw [cString_cons firstNonzero, cString_cons secondNonzero,
      List.dropWhile_cons_of_neg noSpace]
  rw [scanHex, string]
  change scanDigits first (some second) = _
  rw [scanDigits, if_neg noSign, if_neg noRadix, firstValue, Option.bind_some, secondValue]

theorem unescapeFrom_escape (ch : UInt8) (text : List UInt8) :
    unescapeFrom ch 0 (92 :: 120 :: text) =
      match scanHex text with
      | .noMatch => .malformed
      | .eof => (unescapeFrom ch 2 text).push ch
      | .value scanned => (unescapeFrom scanned 2 text).push scanned := rfl

theorem not_escape_append {byte : UInt8} {text : List UInt8}
    (plain : ¬ (byte = 92 ∧ text.head? = some 120)) (beyond : List UInt8) :
    ¬ (byte = 92 ∧ (text ++ 0 :: beyond).head? = some 120) := by
  intro escape
  apply plain
  constructor
  · exact escape.1
  · have marker := escape.2
    cases text with
    | nil => cases marker
    | cons next others => exact marker

theorem unescapeFrom_literal (ch : UInt8) {byte : UInt8} {text : List UInt8} (nonzero : byte ≠ 0)
    (plain : ¬ (byte = 92 ∧ text.head? = some 120)) (beyond : List UInt8) :
    unescapeFrom ch 0 (byte :: text ++ 0 :: beyond) =
      (unescapeFrom ch 0 (text ++ 0 :: beyond)).push byte := by
  rw [List.cons_append, unescapeFrom, if_neg nonzero, if_neg (not_escape_append plain beyond)]

theorem unescape_escapes {bytes text : List UInt8} (escapes : Escapes bytes text) (ch : UInt8)
    (beyond : List UInt8) : unescape ch (text ++ 0 :: beyond) = .done bytes := by
  rw [unescape]
  induction escapes generalizing ch with
  | nil => rfl
  | @hex bytes text first second high low firstValue secondValue _rest ih =>
      have scanned := scanHex_digits firstValue secondValue (text ++ 0 :: beyond)
      change unescapeFrom ch 0 (92 :: 120 :: first :: second :: (text ++ 0 :: beyond)) = _
      rw [unescapeFrom_escape, scanned]
      exact congrArg (Unescaped.push _) (ih _)
  | @literal bytes text byte nonzero plain _rest ih =>
      rw [unescapeFrom_literal ch nonzero plain, ih]
      rfl

/-! ### Strings of every kind -/

/-- How the loop goes through a text: four characters for a backslash and an `x`,
one for any other.  Either of the two behind an `x` may be missing. -/
inductive Walk : List UInt8 → Prop
  | nil : Walk []
  | cut : Walk [92, 120]
  | cutSecond (first : UInt8) : Walk [92, 120, first]
  | escape {first second : UInt8} {text : List UInt8} :
      Walk text → Walk (92 :: 120 :: first :: second :: text)
  | literal {byte : UInt8} {text : List UInt8} :
      ¬ (byte = 92 ∧ text.head? = some 120) → Walk text → Walk (byte :: text)

theorem walk : ∀ text : List UInt8, Walk text
  | [] => .nil
  | byte :: rest => by
      by_cases escape : byte = 92 ∧ rest.head? = some 120
      · obtain ⟨isBackslash, isMarker⟩ := escape
        rw [isBackslash]
        match rest, isMarker with
        | [_], rfl => exact .cut
        | [_, first], rfl => exact .cutSecond first
        | _ :: first :: second :: text, rfl => exact .escape (walk text)
      · exact .literal escape (walk rest)

/-- The texts behind every backslash-`x` that the loop consumes. -/
def consumedFrom : Nat → List UInt8 → List (List UInt8)
  | _, [] => []
  | skip + 1, _ :: rest => consumedFrom skip rest
  | 0, byte :: rest =>
      if byte = 0 then []
      else if byte = 92 ∧ rest.head? = some 120 then
        if scanHex (rest.drop 1) = .noMatch then []
        else rest.drop 1 :: consumedFrom 3 rest
      else consumedFrom 0 rest

def TwoDigits : List UInt8 → Prop
  | first :: second :: _ => (hexValue first).isSome = true ∧ (hexValue second).isSome = true
  | _ => False

/-- A string is given with its terminator as the last byte of the memory, so an
overrun is a read behind the terminator. -/
def Safe (ch : UInt8) (str : List UInt8) : Prop :=
  match unescape ch (str ++ [0]) with
  | .malformed => True
  | .overrun _ => False
  | .done written =>
      written.length ≤ str.length ∧ ∀ text ∈ consumedFrom 0 (str ++ [0]), TwoDigits text

/-- The loop meets a backslash-`x` at which `sscanf` reports no match. -/
inductive Stops : List UInt8 → Prop
  | here {text : List UInt8} : scanHex text = .noMatch → Stops (92 :: 120 :: text)
  | escape {first second : UInt8} {text : List UInt8} :
      scanHex (first :: second :: text) ≠ .noMatch → Stops text →
      Stops (92 :: 120 :: first :: second :: text)
  | literal {byte : UInt8} {text : List UInt8} :
      ¬ (byte = 92 ∧ text.head? = some 120) → Stops text → Stops (byte :: text)

theorem scanHex_terminated {text : List UInt8} (string : 0 ∉ text) :
    scanHex (text ++ [0]) = scanHex text := by
  have alone : cString text = text := by
    simpa [cString] using cString_append string []
  have whole : cString (text ++ [0]) = cString text := by
    rw [cString_append string, alone]
    exact List.append_nil text
  rw [scanHex, scanHex, whole]

theorem consumedFrom_escape {text : List UInt8} (goes : scanHex text ≠ .noMatch) :
    consumedFrom 0 (92 :: 120 :: text) = text :: consumedFrom 2 text :=
  if_neg goes

theorem consumedFrom_literal {byte : UInt8} {text : List UInt8} (nonzero : byte ≠ 0)
    (plain : ¬ (byte = 92 ∧ text.head? = some 120)) (beyond : List UInt8) :
    consumedFrom 0 (byte :: text ++ 0 :: beyond) = consumedFrom 0 (text ++ 0 :: beyond) := by
  rw [List.cons_append, consumedFrom, if_neg nonzero, if_neg (not_escape_append plain beyond)]

theorem Unescaped.malformed_of_push {byte : UInt8} {result : Unescaped}
    (pushed : result.push byte = .malformed) : result = .malformed := by
  cases result with
  | malformed => rfl
  | overrun written => cases pushed
  | done written => cases pushed

theorem Unescaped.push_eq_done {byte : UInt8} {result : Unescaped} {written : List UInt8}
    (pushed : result.push byte = .done written) : ∃ earlier, result = .done earlier := by
  cases result with
  | malformed => cases pushed
  | overrun earlier => cases pushed
  | done earlier => exact ⟨earlier, rfl⟩

/-- What follows a backslash-`x` that `sscanf` does not refuse. -/
theorem unescapeFrom_goes (ch : UInt8) {text : List UInt8} (goes : scanHex text ≠ .noMatch) :
    ∃ next, unescapeFrom ch 0 (92 :: 120 :: text) = (unescapeFrom next 2 text).push next := by
  rw [unescapeFrom_escape]
  cases scanned : scanHex text with
  | eof => exact ⟨ch, rfl⟩
  | noMatch => exact absurd scanned goes
  | value next => exact ⟨next, rfl⟩

theorem Stops.of_escape {text : List UInt8} (stops : Stops (92 :: 120 :: text)) :
    scanHex text = .noMatch ∨
      ∃ first second rest, text = first :: second :: rest ∧ Stops rest := by
  cases stops with
  | here refused => exact Or.inl refused
  | escape _goes later => exact Or.inr ⟨_, _, _, rfl, later⟩
  | literal plain _later => exact absurd ⟨rfl, rfl⟩ plain

theorem malformed_iff_stops {text : List UInt8} (string : 0 ∉ text) (ch : UInt8) :
    unescapeFrom ch 0 (text ++ [0]) = .malformed ↔ Stops text := by
  induction walk text generalizing ch with
  | nil =>
      constructor
      · intro impossible
        cases impossible
      · intro impossible
        cases impossible
  | cut =>
      constructor
      · intro impossible
        cases impossible
      · intro stops
        rcases stops.of_escape with impossible | ⟨_, _, _, impossible, _⟩
        · cases impossible
        · cases impossible
  | cutSecond first =>
      have behind : 0 ∉ [first] :=
        List.not_mem_of_not_mem_cons (List.not_mem_of_not_mem_cons string)
      have same := scanHex_terminated behind
      change unescapeFrom ch 0 (92 :: 120 :: ([first] ++ [0])) = .malformed ↔ _
      constructor
      · intro malformed
        apply Stops.here
        rw [← same]
        by_contra goes
        obtain ⟨next, pushed⟩ := unescapeFrom_goes ch goes
        rw [pushed] at malformed
        cases malformed
      · intro stops
        rcases stops.of_escape with refused | ⟨_, _, _, impossible, _⟩
        · rw [unescapeFrom_escape, same, refused]
        · cases impossible
  | @escape first second text _rest ih =>
      have behind : 0 ∉ first :: second :: text :=
        List.not_mem_of_not_mem_cons (List.not_mem_of_not_mem_cons string)
      have rest : 0 ∉ text :=
        List.not_mem_of_not_mem_cons (List.not_mem_of_not_mem_cons behind)
      have same := scanHex_terminated behind
      change unescapeFrom ch 0 (92 :: 120 :: (first :: second :: text ++ [0])) = .malformed ↔ _
      by_cases goes : scanHex (first :: second :: text) = .noMatch
      · rw [unescapeFrom_escape, same, goes]
        exact ⟨fun _malformed => Stops.here goes, fun _stops => rfl⟩
      · obtain ⟨next, pushed⟩ := unescapeFrom_goes ch (same.symm ▸ goes)
        rw [pushed]
        constructor
        · intro malformed
          exact Stops.escape goes ((ih rest next).mp (Unescaped.malformed_of_push malformed))
        · intro stops
          rcases stops.of_escape with refused | ⟨_, _, _, shape, later⟩
          · exact absurd refused goes
          · cases shape
            exact congrArg (Unescaped.push next) ((ih rest next).mpr later)
  | @literal byte text plain _rest ih =>
      obtain ⟨different, rest⟩ := List.ne_and_not_mem_of_not_mem_cons string
      have nonzero : byte ≠ 0 := different.symm
      rw [unescapeFrom_literal ch nonzero plain]
      constructor
      · intro malformed
        exact Stops.literal plain ((ih rest ch).mp (Unescaped.malformed_of_push malformed))
      · intro stops
        cases stops with
        | here refused => exact absurd ⟨rfl, rfl⟩ plain
        | escape goes later => exact absurd ⟨rfl, rfl⟩ plain
        | literal _plain later => exact congrArg (Unescaped.push byte) ((ih rest ch).mpr later)

theorem Escapes.consumed_twoDigits {bytes text : List UInt8} (escapes : Escapes bytes text) :
    ∀ behind ∈ consumedFrom 0 (text ++ [0]), TwoDigits behind := by
  induction escapes with
  | nil =>
      intro behind member
      cases member
  | @hex bytes text first second high low firstValue secondValue _rest ih =>
      have scanned := scanHex_digits firstValue secondValue (text ++ [0])
      have goes : scanHex (first :: second :: (text ++ [0])) ≠ .noMatch := by
        rw [scanned]
        exact Scanned.noConfusion
      have consumed : consumedFrom 0 (92 :: 120 :: first :: second :: (text ++ [0])) =
          (first :: second :: (text ++ [0])) :: consumedFrom 0 (text ++ [0]) :=
        consumedFrom_escape goes
      intro behind member
      change behind ∈ consumedFrom 0 (92 :: 120 :: first :: second :: (text ++ [0])) at member
      rw [consumed] at member
      rcases List.mem_cons.mp member with here | later
      · rw [here]
        constructor
        · rw [firstValue]
          rfl
        · rw [secondValue]
          rfl
      · exact ih behind later
  | @literal bytes text byte nonzero plain _rest ih =>
      rw [consumedFrom_literal nonzero plain]
      exact ih

theorem escapes_of_done {text : List UInt8} (string : 0 ∉ text) (ch : UInt8)
    {written : List UInt8} (done : unescapeFrom ch 0 (text ++ [0]) = .done written)
    (digits : ∀ behind ∈ consumedFrom 0 (text ++ [0]), TwoDigits behind) :
    ∃ bytes, Escapes bytes text := by
  induction walk text generalizing ch written with
  | nil => exact ⟨[], Escapes.nil⟩
  | cut => cases done
  | cutSecond first =>
      change unescapeFrom ch 0 (92 :: 120 :: ([first] ++ [0])) = _ at done
      by_cases goes : scanHex ([first] ++ [0]) = .noMatch
      · rw [unescapeFrom_escape, goes] at done
        cases done
      · obtain ⟨next, pushed⟩ := unescapeFrom_goes ch goes
        rw [pushed] at done
        cases done
  | @escape first second text _rest ih =>
      have behind : 0 ∉ first :: second :: text :=
        List.not_mem_of_not_mem_cons (List.not_mem_of_not_mem_cons string)
      have rest : 0 ∉ text :=
        List.not_mem_of_not_mem_cons (List.not_mem_of_not_mem_cons behind)
      change unescapeFrom ch 0 (92 :: 120 :: (first :: second :: text ++ [0])) = _ at done
      by_cases goes : scanHex (first :: second :: text ++ [0]) = .noMatch
      · rw [unescapeFrom_escape, goes] at done
        cases done
      · have consumed : consumedFrom 0 (92 :: 120 :: (first :: second :: text ++ [0])) =
            (first :: second :: text ++ [0]) :: consumedFrom 0 (text ++ [0]) :=
          consumedFrom_escape goes
        obtain ⟨next, pushed⟩ := unescapeFrom_goes ch goes
        rw [pushed] at done
        obtain ⟨earlier, later⟩ := Unescaped.push_eq_done done
        change ∀ behind ∈ consumedFrom 0 (92 :: 120 :: (first :: second :: text ++ [0])), _
          at digits
        rw [consumed, List.forall_mem_cons] at digits
        obtain ⟨bytes, escapes⟩ := ih rest next later digits.2
        obtain ⟨high, firstValue⟩ := Option.isSome_iff_exists.mp digits.1.1
        obtain ⟨low, secondValue⟩ := Option.isSome_iff_exists.mp digits.1.2
        exact ⟨_, Escapes.hex firstValue secondValue escapes⟩
  | @literal byte text plain _rest ih =>
      obtain ⟨different, rest⟩ := List.ne_and_not_mem_of_not_mem_cons string
      have nonzero : byte ≠ 0 := different.symm
      rw [unescapeFrom_literal ch nonzero plain] at done
      rw [consumedFrom_literal nonzero plain] at digits
      obtain ⟨earlier, later⟩ := Unescaped.push_eq_done done
      obtain ⟨bytes, escapes⟩ := ih rest ch later digits
      exact ⟨_, Escapes.literal nonzero plain escapes⟩

/-- The function stays within its string and its buffer, and consumes only
escapes of two digits, exactly on a well-formed string and on one that stops it. -/
theorem safe_iff {str : List UInt8} (string : 0 ∉ str) (ch : UInt8) :
    Safe ch str ↔ (∃ bytes, Escapes bytes str) ∨ Stops str := by
  constructor
  · intro safe
    unfold Safe unescape at safe
    cases result : unescapeFrom ch 0 (str ++ [0]) with
    | malformed => exact Or.inr ((malformed_iff_stops string ch).mp result)
    | overrun written =>
        rw [result] at safe
        exact safe.elim
    | done written =>
        rw [result] at safe
        exact Or.inl (escapes_of_done string ch result safe.2)
  · intro condition
    unfold Safe
    rcases condition with ⟨bytes, escapes⟩ | stops
    · rw [unescape_escapes escapes ch []]
      exact ⟨escapes.length_le, escapes.consumed_twoDigits⟩
    · have malformed := (malformed_iff_stops string ch).mpr stops
      rw [unescape, malformed]
      trivial

theorem safe_two_digits :
    (0 : UInt8) ∉ [92, 120, 50, 51] ∧
      (Safe 0 [92, 120, 50, 51] ↔
        (∃ bytes, Escapes bytes [92, 120, 50, 51]) ∨ Stops [92, 120, 50, 51]) := by
  have string : (0 : UInt8) ∉ [92, 120, 50, 51] := by decide
  exact ⟨string, safe_iff string 0⟩

/-- A backslash, an `x` and one digit: the step of four characters passes the
terminator.  With another character behind the digit it is consumed as well. -/
theorem one_digit_passes_terminator :
    (0 : UInt8) ∉ [92, 120, 52] ∧ unescape 0 ([92, 120, 52] ++ [0]) = .overrun [4] ∧
      ¬ Safe 0 [92, 120, 52] ∧ ¬ Safe 0 [92, 120, 52, 103] := by
  have overrun : unescape 0 ([92, 120, 52] ++ [0]) = .overrun [4] := by decide
  have consumed : unescape 0 ([92, 120, 52, 103] ++ [0]) = .done [4] := by decide
  refine ⟨by decide, overrun, ?_, ?_⟩
  · intro safe
    rw [Safe, overrun] at safe
    exact safe
  · intro safe
    rw [Safe, consumed] at safe
    have digits := safe.2 [52, 103, 0] (by decide)
    cases digits.2

/-! ### Escaping -/

/-- A text for a list of bytes: each as two hexadecimal digits of either case
behind a backslash and an `x`, or, if it is neither zero nor a backslash, as
itself. -/
inductive Escaped : List UInt8 → List UInt8 → Prop
  | nil : Escaped [] []
  | hex {byte first second : UInt8} {bytes text : List UInt8} :
      hexValue first = some (byte.toNat / 16) → hexValue second = some (byte.toNat % 16) →
      Escaped bytes text → Escaped (byte :: bytes) (92 :: 120 :: first :: second :: text)
  | literal {byte : UInt8} {bytes text : List UInt8} :
      byte ≠ 0 → byte ≠ 92 → Escaped bytes text → Escaped (byte :: bytes) (byte :: text)

theorem Escaped.escapes {bytes text : List UInt8} (escaped : Escaped bytes text) :
    Escapes bytes text := by
  induction escaped with
  | nil => exact Escapes.nil
  | @hex byte first second bytes text firstValue secondValue _rest ih =>
      have value : UInt8.ofNat (16 * (byte.toNat / 16) + byte.toNat % 16) = byte := by
        rw [Nat.div_add_mod]
        exact UInt8.ofNat_toNat
      have here := Escapes.hex firstValue secondValue ih
      rw [value] at here
      exact here
  | literal nonzero notBackslash _rest ih =>
      exact Escapes.literal nonzero (fun escape => notBackslash escape.1) ih

/-- `ret` is incremented with every byte that is written. -/
def Unescaped.ret : Unescaped → Option Nat
  | .done written => some written.length
  | _ => none

/-- Whatever `ch` holds before and whatever lies behind the text. -/
theorem unescape_escaped {bytes text : List UInt8} (escaped : Escaped bytes text) (ch : UInt8)
    (beyond : List UInt8) :
    unescape ch (text ++ 0 :: beyond) = .done bytes ∧
      (unescape ch (text ++ 0 :: beyond)).ret = some bytes.length := by
  have written := unescape_escapes escaped.escapes ch beyond
  rw [written]
  exact ⟨rfl, rfl⟩

theorem unescape_escaped_mixed :
    unescape 7 ([92, 120, 50, 70, 49, 92, 120, 53, 99] ++ 0 :: [1]) = .done [47, 49, 92] ∧
      (unescape 7 ([92, 120, 50, 70, 49, 92, 120, 53, 99] ++ 0 :: [1])).ret =
        some [47, 49, 92].length := by
  have escaped : Escaped [47, 49, 92] [92, 120, 50, 70, 49, 92, 120, 53, 99] :=
    Escaped.hex rfl rfl (Escaped.literal (by decide) (by decide)
      (Escaped.hex rfl rfl Escaped.nil))
  exact unescape_escaped escaped 7 [1]

end AmebaTests.Bus
