/-
`rtk_adc_test`, up to its floating point arithmetic.

Each attribute is read into one array that is never cleared or terminated, five
bytes for the count and for the offset.  `atoi` scans from the front of the array
and goes on, behind those five bytes, through whatever the memory holds.
-/

import AmebaTests.Foundation.Bytes
import AmebaTests.Foundation.Decimal
import AmebaTests.Foundation.Report

namespace AmebaTests.Adc

open Foundation Report

inductive Channel
  | single (adcCh : Int)
  | differential (vinpCh vinnCh : Int)
  deriving DecidableEq, Repr

inductive Attribute
  | raw
  | offset
  | scale
  deriving DecidableEq, Repr

/-- The descriptor that opening an attribute gives, and the text of the attribute
unless reading it fails. -/
structure Host where
  openAttribute : Attribute → Int
  contents : Attribute → Option (List UInt8)

/-- What a run leaves: its output, the texts that `sprintf` stored with the size of
their array, and the lines with a number.  The last two are printed from the
results of `strtod` and of `float` arithmetic. -/
inductive Line
  | stdout (text : String)
  | sprintf (capacity : Nat) (text : String)
  | reading (channel : Channel) (name : String) (value : Int)
  | scale (channel : Channel) (text : List UInt8)
  | millivolts (channel : Channel) (rawCnt value : Int) (scale : List UInt8)
  deriving DecidableEq

/-- A part of the program, which may end it with `exit(code)`. -/
abbrev Program := Report Line Int

def exitWith {Value : Type} (message : String) : Program Value := do
  say (.stdout message)
  halt 1

/-! ### The arguments -/

def supportedPairs : List (Int × Int) :=
  [(0, 1), (1, 0), (2, 3), (3, 2), (4, 5), (5, 4)]

def usage : Program Channel :=
  exitWith ("Usage: For single ended mode: 'rtk_adc_test <0~6>'; " ++
    "For differential mode: 'rtk_adc_test diff <0~5> <0~5>\n")

def singleEnded (adcCh : Int) : Program Channel :=
  if adcCh < 0 ∨ adcCh > 6 then
    exitWith ("Error: invalid channel " ++ toString adcCh ++
      ", please select a valid channel specified in DTS\n")
  else do
    say (.stdout ("Single ended mode test for channel = " ++ toString adcCh ++ "\n"))
    pure (.single adcCh)

def differentialPair (vinpCh vinnCh : Int) : Program Channel :=
  if (vinpCh, vinnCh) ∉ supportedPairs then
    exitWith ("Invalid differential channel pair <" ++ toString vinpCh ++ " " ++
      toString vinnCh ++ ">. Please note that only differential channel pairs <vinp vinn> " ++
      "that are supported are below:\n <0 1> <1 0> <2 3> <3 2> <4 5> <5 4>\n")
  else do
    say (.stdout ("Differential mode test for channel pair <vinp vinn> = <" ++
      toString vinpCh ++ " " ++ toString vinnCh ++ ">\n"))
    pure (.differential vinpCh vinnCh)

/-- `arguments` are `argv[1]` and those behind it; `[100, 105, 102, 102]` is `diff`. -/
def selectChannel (arguments : List (List UInt8)) : Program Channel :=
  match arguments with
  | [adcCh] => singleEnded (atoi adcCh)
  | [mode, vinpCh, vinnCh] =>
      if mode = [100, 105, 102, 102] then differentialPair (atoi vinpCh) (atoi vinnCh) else usage
  | _ => usage

/-! ### The attributes -/

def Channel.name : Channel → String
  | .single adcCh => toString adcCh
  | .differential vinpCh vinnCh => toString vinpCh ++ "-voltage" ++ toString vinnCh

def Attribute.name : Attribute → String
  | .raw => "_raw"
  | .offset => "_offset"
  | .scale => "_scale"

def devName (channel : Channel) (attr : Attribute) : String :=
  "/sys/bus/iio/devices/iio:device0/in_voltage" ++ channel.name ++ attr.name

def Attribute.openError : Attribute → String
  | .raw =>
      "Error: failed to open requested ADC channel, please check whether it is enabled in DTS\n"
  | .offset => "Error: fail to open ADC channel offset attribute\n"
  | .scale =>
      "Error: fail to open ADC channel scale attribute, please check whether it is enabled in DTS\n"

def Attribute.readError : Attribute → String
  | .raw => "Error: fail to read ADC channel\n"
  | .offset => "Error: fail to read ADC channel offset attribute\n"
  | .scale => "Error: fail to read ADC channel scale attribute\n"

/-- The size that `main` gives to `read`. -/
def Attribute.count : Attribute → Nat
  | .raw => 5
  | .offset => 5
  | .scale => 11

/-- Open and read an attribute; `memory` starts with the array `buffer`. -/
def readAttribute (channel : Channel) (host : Host) (attr : Attribute)
    (memory : List UInt8) : Program (List UInt8) := do
  say (.sprintf 50 (devName channel attr))
  whenever (host.openAttribute attr < 0) (exitWith attr.openError)
  match host.contents attr with
  | none => exitWith attr.readError
  | some text => pure (overlay (text.take attr.count) memory)

def measure (channel : Channel) (host : Host) (memory : List UInt8) : Program Int := do
  let memory ← readAttribute channel host .raw memory
  let rawCnt := atoi memory
  say (.reading channel "Raw ADC count" rawCnt)
  let memory ← readAttribute channel host .offset memory
  let value := atoi memory
  say (.reading channel "Calibration offset" value)
  let memory ← readAttribute channel host .scale memory
  say (.scale channel memory)
  say (.millivolts channel rawCnt value memory)
  pure 0

def main (arguments : List (List UInt8)) (host : Host) (memory : List UInt8) : Program Int := do
  let channel ← selectChannel arguments
  measure channel host memory

/-- The numbers a run prints under a name. -/
def printedAs (name : String) (lines : List Line) : List Int :=
  lines.filterMap fun line =>
    match line with
    | .reading _ printed value => if printed = name then some value else none
    | _ => none

/-! ### The window of five bytes -/

def attributeText (n : Int) : List UInt8 :=
  signedDecimal n ++ [10]

/-- The text and its newline fit into the window. -/
theorem length_le_four_iff (n : Int) :
    (signedDecimal n).length ≤ 4 ↔ -999 ≤ n ∧ n ≤ 9999 := by
  rw [length_signedDecimal_le_iff n 3]
  omega

theorem clampInt_of_lt {negative : Bool} {value : Nat} (small : value < 10 ^ 6) :
    clampInt (signedValue negative value) = signedValue negative value := by
  unfold clampInt signedValue
  split
  · omega
  · omega

theorem signedValue_natAbs (n : Int) : signedValue (n < 0) n.natAbs = n := by
  unfold signedValue
  by_cases negative : n < 0
  · rw [decide_eq_true negative, if_pos rfl]
    omega
  · rw [decide_eq_false negative, if_neg Bool.false_ne_true]
    omega

theorem atoi_attributeText {n : Int} (inside : -999 ≤ n ∧ n ≤ 9999) (memory : List UInt8) :
    atoi (overlay ((attributeText n).take 5) memory) = n := by
  have short := (length_le_four_iff n).mpr inside
  have whole : (attributeText n).take 5 = signedDecimal n ++ [10] := by
    apply List.take_of_length_le
    rw [attributeText, List.length_append, List.length_singleton]
    omega
  have number := atoi_withSign_append (n < 0) (decimal_ne_nil n.natAbs)
    (fun byte => isDigit_of_mem_decimal (n := n.natAbs)) (show isDigit 10 = false by decide)
  rw [overlay, whole, List.append_assoc, List.singleton_append, signedDecimal, number,
    digitsValue_decimal, clampInt_of_lt (by omega), signedValue_natAbs]

/-- A window that the text fills holds a sign or none and at most five digits. -/
theorem window_of_long {n : Int} (long : 4 < (signedDecimal n).length) :
    ∃ digits, (attributeText n).take 5 = withSign (n < 0) digits ∧ digits ≠ [] ∧
      digits.length ≤ 5 ∧ ∀ byte ∈ digits, isDigit byte = true := by
  have digit (count : Nat) (byte : UInt8) (member : byte ∈ (decimal n.natAbs).take count) :
      isDigit byte = true := isDigit_of_mem_decimal (List.mem_of_mem_take member)
  have full : (attributeText n).take 5 = (signedDecimal n).take 5 := by
    rw [attributeText, List.take_append_of_le_length long]
  rw [signedDecimal, length_withSign] at long
  by_cases negative : n < 0
  · rw [decide_eq_true negative, if_pos rfl] at long
    refine ⟨(decimal n.natAbs).take 4, ?_, ?_, ?_, digit 4⟩
    · rw [full, signedDecimal, decide_eq_true negative]
      rfl
    · rw [← List.length_pos_iff, List.length_take]
      omega
    · rw [List.length_take]
      omega
  · rw [decide_eq_false negative, if_neg Bool.false_ne_true] at long
    refine ⟨(decimal n.natAbs).take 5, ?_, ?_, ?_, digit 5⟩
    · rw [full, signedDecimal, decide_eq_false negative]
      rfl
    · rw [← List.length_pos_iff, List.length_take]
      omega
    · rw [List.length_take]
      omega

/-- Behind a full window a newline and a zero digit give different numbers, and at
most one of them is the number of the text. -/
theorem long_depends_on_memory {n : Int} (long : 4 < (signedDecimal n).length)
    (rest others : List UInt8) (ended : atoi ((attributeText n).take 5 ++ 10 :: rest) = n) :
    atoi ((attributeText n).take 5 ++ 48 :: 10 :: others) ≠ n := by
  intro continued
  obtain ⟨digits, window, nonempty, short, all⟩ := window_of_long long
  have extended : ∀ byte ∈ digits ++ [48], isDigit byte = true :=
    List.forall_mem_append.mpr ⟨all, List.forall_mem_singleton.mpr rfl⟩
  have bound : digitsValue digits < 10 ^ 5 :=
    lt_of_lt_of_le (digitsValue_lt all) (Nat.pow_le_pow_right (by decide) short)
  have appended : withSign (n < 0) digits ++ 48 :: 10 :: others =
      withSign (n < 0) (digits ++ [48]) ++ 10 :: others := by
    unfold withSign
    split
    · simp only [List.cons_append, List.append_assoc, List.nil_append]
    · simp only [List.append_assoc, List.cons_append, List.nil_append]
  rw [window, atoi_withSign_append _ nonempty all (by decide), clampInt_of_lt (by omega)] at ended
  rw [window, appended, atoi_withSign_append _ (List.append_ne_nil_of_right_ne_nil _ (by decide))
    extended (by decide), digitsValue_append_zero, clampInt_of_lt (by omega)] at continued
  have zero : n = 0 := by
    unfold signedValue at ended continued
    split at ended
    · rw [if_pos ‹_›] at continued
      omega
    · rw [if_neg ‹_›] at continued
      omega
  rw [zero] at long
  exact absurd long (by decide)

/-! ### The printed numbers -/

/-- The count and the offset can be opened, and read as their decimal text and a
newline. -/
structure Reads (host : Host) (raw off : Int) : Prop where
  rawOpened : 0 ≤ host.openAttribute .raw
  offsetOpened : 0 ≤ host.openAttribute .offset
  raw : host.contents .raw = some (attributeText raw)
  offset : host.contents .offset = some (attributeText off)

theorem printedAs_append (name : String) (first second : List Line) :
    printedAs name (first ++ second) = printedAs name first ++ printedAs name second :=
  List.filterMap_append

theorem readAttribute_eq {host : Host} {attr : Attribute} {text : List UInt8}
    (opened : 0 ≤ host.openAttribute attr) (contents : host.contents attr = some text)
    (channel : Channel) (memory : List UInt8) :
    readAttribute channel host attr memory =
      { lines := [.sprintf 50 (devName channel attr)]
        result := .ok (overlay (text.take attr.count) memory) } := by
  rw [readAttribute, say_bind, whenever, if_neg (Int.not_lt.mpr opened), pure_bind, contents]
  rfl

theorem printedAs_readAttribute (name : String) (channel : Channel) (host : Host)
    (attr : Attribute) (memory : List UInt8) :
    printedAs name (readAttribute channel host attr memory).lines = [] := by
  rw [readAttribute, say_bind, whenever]
  split
  · rfl
  · rw [pure_bind]
    cases host.contents attr with
    | none => rfl
    | some text => rfl

theorem printedAs_selectChannel (name : String) (arguments : List (List UInt8)) :
    printedAs name (selectChannel arguments).lines = [] := by
  unfold selectChannel singleEnded differentialPair usage
  split
  · split <;> rfl
  · split
    · split <;> rfl
    · rfl
  · rfl

/-- What follows the offset prints no further number of this kind. -/
theorem printedAs_rest (name : String) (channel : Channel) (host : Host) (rawCnt value : Int)
    (memory : List UInt8) :
    printedAs name (do
      let memory ← readAttribute channel host .scale memory
      say (.scale channel memory)
      say (.millivolts channel rawCnt value memory)
      pure 0 : Program Int).lines = [] := by
  have front := printedAs_readAttribute name channel host .scale memory
  cases ended : (readAttribute channel host .scale memory).result with
  | error code =>
      rw [bind_of_error ended]
      exact front
  | ok memory =>
      rw [bind_of_ok ended, printedAs_append, front]
      rfl

/-- The two numbers of a run, by the memory they are scanned from. -/
theorem main_printed {host : Host} {raw off : Int} (reads : Reads host raw off)
    {arguments : List (List UInt8)} {channel : Channel}
    (selected : (selectChannel arguments).result = .ok channel) (memory : List UInt8) :
    let first := overlay ((attributeText raw).take 5) memory
    let second := overlay ((attributeText off).take 5) first
    printedAs "Raw ADC count" (main arguments host memory).lines = [atoi first] ∧
      printedAs "Calibration offset" (main arguments host memory).lines = [atoi second] := by
  intro first second
  have front (name : String) : printedAs name (main arguments host memory).lines =
      printedAs name (measure channel host memory).lines := by
    rw [main, bind_of_ok selected, printedAs_append, printedAs_selectChannel, List.nil_append]
  rw [front, front, measure, readAttribute_eq reads.rawOpened reads.raw, mk_bind, say_bind,
    readAttribute_eq reads.offsetOpened reads.offset, mk_bind, say_bind]
  have rest (name : String) := printedAs_rest name channel host (atoi first) (atoi second) second
  constructor
  · exact congrArg (atoi first :: ·) (rest "Raw ADC count")
  · exact congrArg (atoi second :: ·) (rest "Calibration offset")

theorem drop_overlay {chunk : List UInt8} {count : Nat} (short : chunk.length ≤ count)
    (memory : List UInt8) : (overlay chunk memory).drop count = memory.drop count := by
  rw [overlay, List.drop_append, List.drop_eq_nil_of_le short, List.nil_append, List.drop_drop]
  congr 1
  omega

theorem window_append {n : Int} (long : 4 < (signedDecimal n).length) (memory : List UInt8) :
    overlay ((attributeText n).take 5) memory = (attributeText n).take 5 ++ memory.drop 5 := by
  have full : ((attributeText n).take 5).length = 5 := by
    rw [List.length_take, attributeText, List.length_append, List.length_singleton]
    omega
  rw [overlay, full]

/-- An array whose bytes behind the window start with a newline, or with a zero
digit and a newline. -/
def endedMemory : List UInt8 := List.replicate 15 10
def continuedMemory : List UInt8 := List.replicate 5 10 ++ 48 :: List.replicate 9 10

theorem inside_of_faithful {n : Int}
    (faithful : ∀ memory ∈ [endedMemory, continuedMemory],
      atoi (overlay ((attributeText n).take 5) memory) = n) : -999 ≤ n ∧ n ≤ 9999 := by
  rw [← length_le_four_iff]
  by_contra outside
  have long := Nat.lt_of_not_le outside
  have ended := faithful endedMemory List.mem_cons_self
  have continued := faithful continuedMemory (List.mem_cons_of_mem _ List.mem_cons_self)
  rw [window_append long] at ended continued
  exact long_depends_on_memory long _ _ ended continued

/-- The offset is scanned from the bytes behind the window as the count has left
them, that is, as they were. -/
theorem second_window {raw off : Int} (long : 4 < (signedDecimal off).length)
    (memory : List UInt8) :
    overlay ((attributeText off).take 5) (overlay ((attributeText raw).take 5) memory) =
      overlay ((attributeText off).take 5) memory := by
  rw [window_append long, window_append long, drop_overlay (List.length_take_le 5 _)]

/-- Both printed numbers are the ones of the attributes, whatever the array holds
before, if and only if both have a text of at most four characters. -/
theorem printed_faithful_iff {host : Host} {raw off : Int} (reads : Reads host raw off)
    {arguments : List (List UInt8)} {channel : Channel}
    (selected : (selectChannel arguments).result = .ok channel) :
    (∀ memory, 15 ≤ memory.length →
      printedAs "Raw ADC count" (main arguments host memory).lines = [raw] ∧
        printedAs "Calibration offset" (main arguments host memory).lines = [off]) ↔
      (-999 ≤ raw ∧ raw ≤ 9999) ∧ (-999 ≤ off ∧ off ≤ 9999) := by
  have printed := main_printed reads selected
  constructor
  · intro faithful
    have fits : ∀ memory ∈ [endedMemory, continuedMemory], 15 ≤ memory.length := by decide
    refine ⟨inside_of_faithful ?_, ?_⟩
    · intro memory member
      have first := (faithful memory (fits memory member)).1
      rw [(printed memory).1] at first
      exact List.singleton_inj.mp first
    · by_contra outside
      have long : 4 < (signedDecimal off).length := by
        rw [← length_le_four_iff] at outside
        exact Nat.lt_of_not_le outside
      apply outside
      apply inside_of_faithful
      intro memory member
      have second := (faithful memory (fits memory member)).2
      rw [(printed memory).2, second_window long] at second
      exact List.singleton_inj.mp second
  · intro inside memory _length
    rw [(printed memory).1, (printed memory).2, atoi_attributeText inside.1,
      atoi_attributeText inside.2]
    exact ⟨rfl, rfl⟩

def workingHost (raw off : Int) : Host where
  openAttribute := fun _ => 3
  contents := fun attr =>
    match attr with
    | .raw => some (attributeText raw)
    | .offset => some (attributeText off)
    | .scale => some [48, 46, 56, 52, 57, 51, 51, 52, 55, 49, 55, 10]

theorem workingHost_reads (raw off : Int) : Reads (workingHost raw off) raw off where
  rawOpened := Int.natCast_nonneg 3
  offsetOpened := Int.natCast_nonneg 3
  raw := rfl
  offset := rfl

/-- `diff 2 3`. -/
def diffTwoThree : List (List UInt8) :=
  [[100, 105, 102, 102], [50], [51]]

theorem printed_faithful_channel_zero :
    printedAs "Raw ADC count" (main [[48]] (workingHost 818 (-23)) continuedMemory).lines = [818] ∧
      printedAs "Calibration offset"
        (main [[48]] (workingHost 818 (-23)) continuedMemory).lines = [-23] := by
  have selected : (selectChannel [[48]]).result = .ok (.single 0) := rfl
  exact (printed_faithful_iff (workingHost_reads 818 (-23)) selected).mpr
    ⟨by decide, by decide⟩ continuedMemory (by decide)

/-- The offset -2016 that the readme shows for this pair, in an array with a 7 behind the
window. -/
theorem offset_continued_by_memory :
    Reads (workingHost 3235 (-2016)) 3235 (-2016) ∧
      (selectChannel diffTwoThree).result = .ok (.differential 2 3) ∧
      printedAs "Calibration offset"
        (main diffTwoThree (workingHost 3235 (-2016)) (List.replicate 5 0 ++ 55 ::
          List.replicate 9 0)).lines = [-20167] := by
  have reads := workingHost_reads 3235 (-2016)
  have selected : (selectChannel diffTwoThree).result = .ok (.differential 2 3) := rfl
  refine ⟨reads, selected, ?_⟩
  rw [(main_printed reads selected _).2]
  decide

end AmebaTests.Adc
