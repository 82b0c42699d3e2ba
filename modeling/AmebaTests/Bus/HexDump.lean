/-
`hex_dump`, which the SPI and the I2C test share word for word.

The cell loop and the padding loop use one counter.  A row is closed when the
counter reaches a multiple of the line size or the last byte has been printed.
-/

import Mathlib.Algebra.Ring.Nat
import Mathlib.Data.List.Basic

namespace AmebaTests.Bus

def upperHexDigit (digit : Nat) : Char :=
  if digit < 10 then Char.ofNat (48 + digit) else Char.ofNat (55 + digit)

def hexCell (byte : UInt8) : String :=
  String.ofList [upperHexDigit (byte.toNat / 16), upperHexDigit (byte.toNat % 16), ' ']

def dumpChar (byte : UInt8) : Char :=
  if byte < 32 ∨ byte > 126 then '.' else Char.ofNat byte.toNat

/-- `while (i++ % line_size) printf("__ ")`; it stops within a line. -/
def padCells (lineSize : Nat) : Nat → Nat → String
  | 0, _ => ""
  | fuel + 1, i => if i % lineSize ≠ 0 then "__ " ++ padCells lineSize fuel (i + 1) else ""

/-- The main loop: the bytes still to print, the counter, and the bytes between
`line` and `address`. -/
def dumpLoop (lineSize : Nat) (label : String) : List UInt8 → Nat → List UInt8 → String
  | [], _, _ => ""
  | byte :: rest, i, line =>
      hexCell byte ++
        if (i + 1) % lineSize = 0 ∨ (rest = [] ∧ (i + 1) % lineSize ≠ 0) then
          (if rest = [] then padCells lineSize lineSize (i + 1) else "") ++
            " |" ++ String.ofList ((line ++ [byte]).map dumpChar) ++ "|\n" ++
            (if rest ≠ [] then label ++ " | " else "") ++
            dumpLoop lineSize label rest (i + 1) []
        else dumpLoop lineSize label rest (i + 1) (line ++ [byte])

def hexDump (bytes : List UInt8) (lineSize : Nat) (label : String) : String :=
  label ++ " | " ++ dumpLoop lineSize label bytes 0 []

/-! ### The rows of a dump -/

def cellsText (bytes : List UInt8) : String :=
  String.join (bytes.map hexCell)

def padding (count : Nat) : String :=
  String.join (List.replicate count "__ ")

/-- The end of a row behind its cells. -/
def rowEnd (bytes : List UInt8) : String :=
  " |" ++ String.ofList (bytes.map dumpChar) ++ "|\n"

def rowText (lineSize : Nat) (label : String) (bytes : List UInt8) : String :=
  label ++ " | " ++ (cellsText bytes ++ padding (lineSize - bytes.length)) ++ rowEnd bytes

def rowBytes (lineSize : Nat) (bytes : List UInt8) (row : Nat) : List UInt8 :=
  (bytes.drop (row * lineSize)).take lineSize

/-- The quotient rounded up. -/
def rowCount (lineSize length : Nat) : Nat :=
  (length + lineSize - 1) / lineSize

theorem cellsText_nil : cellsText [] = "" := String.join_nil

theorem cellsText_cons (byte : UInt8) (bytes : List UInt8) :
    cellsText (byte :: bytes) = hexCell byte ++ cellsText bytes := by
  rw [cellsText, List.map_cons, String.join_cons]
  rfl

theorem padding_succ (count : Nat) : padding (count + 1) = "__ " ++ padding count := by
  rw [padding, List.replicate_succ, String.join_cons]
  rfl

theorem padCells_eq {lineSize fuel i : Nat} (started : 0 < i) (inside : i ≤ lineSize)
    (enough : lineSize - i ≤ fuel) : padCells lineSize fuel i = padding (lineSize - i) := by
  induction fuel generalizing i with
  | zero =>
      have full : lineSize - i = 0 := Nat.le_zero.mp enough
      rw [full]
      rfl
  | succ fuel ih =>
      by_cases full : i = lineSize
      · rw [padCells, full, Nat.mod_self, Nat.sub_self]
        rfl
      · have remainder : i % lineSize = i := Nat.mod_eq_of_lt (by omega)
        have missing : lineSize - i = lineSize - (i + 1) + 1 := by omega
        rw [padCells, remainder, if_pos (by omega), ih (by omega) (by omega) (by omega), missing,
          padding_succ]

theorem padCells_add_lineSize (lineSize fuel i : Nat) :
    padCells lineSize fuel (i + lineSize) = padCells lineSize fuel i := by
  induction fuel generalizing i with
  | zero => rfl
  | succ fuel ih =>
      have next : i + lineSize + 1 = i + 1 + lineSize := by omega
      rw [padCells, padCells, Nat.add_mod_right, next, ih]

/-- The counter matters only up to whole lines. -/
theorem dumpLoop_add_lineSize (lineSize : Nat) (label : String) (bytes : List UInt8) (i : Nat)
    (line : List UInt8) :
    dumpLoop lineSize label bytes (i + lineSize) line = dumpLoop lineSize label bytes i line := by
  induction bytes generalizing i line with
  | nil => rfl
  | cons byte rest ih =>
      have next : i + lineSize + 1 = i + 1 + lineSize := by omega
      rw [dumpLoop, dumpLoop, next, Nat.add_mod_right, padCells_add_lineSize, ih, ih]

/-- A byte that closes its row. -/
theorem dumpLoop_closing {lineSize : Nat} (label : String) (byte : UInt8) (rest : List UInt8)
    {i : Nat} (inside : i < lineSize) (line : List UInt8)
    (closes : i + 1 = lineSize ∨ rest = []) :
    dumpLoop lineSize label (byte :: rest) i line =
      hexCell byte ++ padding (if rest = [] then lineSize - (i + 1) else 0) ++
        rowEnd (line ++ [byte]) ++
        if rest = [] then "" else label ++ " | " ++ dumpLoop lineSize label rest 0 [] := by
  have closing : (i + 1) % lineSize = 0 ∨ (rest = [] ∧ (i + 1) % lineSize ≠ 0) := by
    rcases closes with full | ended
    · rw [full, Nat.mod_self]
      exact Or.inl rfl
    · by_cases full : (i + 1) % lineSize = 0
      · exact Or.inl full
      · exact Or.inr ⟨ended, full⟩
  rw [dumpLoop, if_pos closing]
  by_cases ended : rest = []
  · have pad := padCells_eq (Nat.succ_pos i) inside (Nat.sub_le lineSize (i + 1))
    rw [if_pos ended, if_neg (not_not_intro ended), if_pos ended, if_pos ended, pad, ended]
    simp only [rowEnd, dumpLoop, String.append_assoc, String.append_empty]
  · have full : i + 1 = 0 + lineSize := by
      rcases closes with full | impossible
      · omega
      · exact absurd impossible ended
    rw [if_neg ended, if_pos ended, if_neg ended, if_neg ended, full, dumpLoop_add_lineSize]
    simp only [rowEnd, padding, List.replicate_zero, String.join_nil, String.append_assoc,
      String.empty_append]

/-- What the loop prints from inside a row: the cells that are left of the row,
its end, and the dump of the bytes behind it. -/
theorem dumpLoop_row (lineSize : Nat) (label : String) {bytes : List UInt8} (filled : bytes ≠ [])
    {i : Nat} (inside : i < lineSize) (line : List UInt8) :
    dumpLoop lineSize label bytes i line =
      cellsText (bytes.take (lineSize - i)) ++ padding (lineSize - i - bytes.length) ++
        rowEnd (line ++ bytes.take (lineSize - i)) ++
        if bytes.drop (lineSize - i) = [] then ""
        else label ++ " | " ++ dumpLoop lineSize label (bytes.drop (lineSize - i)) 0 [] := by
  induction bytes generalizing i line with
  | nil => exact absurd rfl filled
  | cons byte rest ih =>
      have room : lineSize - i = lineSize - (i + 1) + 1 := by omega
      rw [room, List.take_succ_cons, List.drop_succ_cons, cellsText_cons, List.length_cons]
      by_cases closes : i + 1 = lineSize ∨ rest = []
      · have front : rest.take (lineSize - (i + 1)) = [] ∧ rest.drop (lineSize - (i + 1)) = rest := by
          rcases closes with full | ended
          · rw [full, Nat.sub_self]
            exact ⟨rfl, rfl⟩
          · rw [ended]
            exact ⟨List.take_nil, List.drop_nil⟩
        have pad : (if rest = [] then lineSize - (i + 1) else 0) =
            lineSize - (i + 1) + 1 - (rest.length + 1) := by
          rcases closes with full | ended
          · rw [full, Nat.sub_self, ite_self]
            omega
          · rw [if_pos ended, ended, List.length_nil]
            omega
        rw [dumpLoop_closing label byte rest inside line closes, front.1, front.2, pad,
          cellsText_nil, String.append_empty]
      · have more : rest ≠ [] := fun ended => closes (Or.inr ended)
        have next : i + 1 < lineSize := by
          have notFull : i + 1 ≠ lineSize := fun full => closes (Or.inl full)
          omega
        have open_ : ¬ ((i + 1) % lineSize = 0 ∨ (rest = [] ∧ (i + 1) % lineSize ≠ 0)) := by
          rw [Nat.mod_eq_of_lt next]
          rintro (impossible | impossible)
          · omega
          · exact more impossible.1
        have pad : lineSize - (i + 1) + 1 - (rest.length + 1) =
            lineSize - (i + 1) - rest.length := by omega
        rw [dumpLoop, if_neg open_, ih more next, pad, List.append_assoc, List.singleton_append]
        simp only [String.append_assoc]

theorem hexDump_row {lineSize : Nat} (positive : 0 < lineSize) (label : String)
    {bytes : List UInt8} (filled : bytes ≠ []) :
    hexDump bytes lineSize label =
      rowText lineSize label (bytes.take lineSize) ++
        if bytes.drop lineSize = [] then "" else hexDump (bytes.drop lineSize) lineSize label := by
  have missing : lineSize - (bytes.take lineSize).length = lineSize - bytes.length := by
    rw [List.length_take]
    omega
  rw [hexDump, dumpLoop_row lineSize label filled positive, rowText, missing, Nat.sub_zero,
    List.nil_append]
  simp only [hexDump, String.append_assoc]

theorem rowCount_of_le {lineSize length : Nat} (nonempty : 0 < length) (fits : length ≤ lineSize) :
    rowCount lineSize length = 1 := by
  rw [rowCount, Nat.div_eq_of_lt_le]
  · omega
  · omega

theorem rowCount_of_lt {lineSize length : Nat} (positive : 0 < lineSize)
    (more : lineSize < length) :
    rowCount lineSize length = rowCount lineSize (length - lineSize) + 1 := by
  have split : length + lineSize - 1 = length - lineSize + lineSize - 1 + lineSize := by omega
  rw [rowCount, split, Nat.add_div_right _ positive]
  rfl

theorem rowBytes_succ (lineSize : Nat) (bytes : List UInt8) (row : Nat) :
    rowBytes lineSize bytes (row + 1) = rowBytes lineSize (bytes.drop lineSize) row := by
  rw [rowBytes, rowBytes, List.drop_drop, Nat.succ_mul, Nat.add_comm lineSize]

theorem rowBytes_zero (lineSize : Nat) (bytes : List UInt8) :
    rowBytes lineSize bytes 0 = bytes.take lineSize := by
  rw [rowBytes, Nat.zero_mul, List.drop_zero]

theorem rows_succ (lineSize : Nat) (label : String) (bytes : List UInt8) (rows : Nat) :
    (List.range (rows + 1)).map (fun row => rowText lineSize label (rowBytes lineSize bytes row)) =
      rowText lineSize label (bytes.take lineSize) :: (List.range rows).map fun row =>
        rowText lineSize label (rowBytes lineSize (bytes.drop lineSize) row) := by
  rw [List.range_succ_eq_map, List.map_cons, List.map_map, rowBytes_zero]
  congr 1
  apply List.map_congr_left
  intro row _member
  exact congrArg (rowText lineSize label) (rowBytes_succ lineSize bytes row)

/-- The dump is its rows, one behind the other. -/
theorem hexDump_rows {lineSize : Nat} (positive : 0 < lineSize) (label : String)
    (bytes : List UInt8) (filled : bytes ≠ []) :
    hexDump bytes lineSize label =
      String.join ((List.range (rowCount lineSize bytes.length)).map fun row =>
        rowText lineSize label (rowBytes lineSize bytes row)) := by
  have nonempty : 0 < bytes.length := List.length_pos_iff.mpr filled
  rw [hexDump_row positive label filled]
  by_cases fits : bytes.length ≤ lineSize
  · rw [if_pos (List.drop_eq_nil_of_le fits), rowCount_of_le nonempty fits, rows_succ,
      String.join_cons]
    rfl
  · have more : lineSize < bytes.length := Nat.lt_of_not_le fits
    have left : bytes.drop lineSize ≠ [] := by
      intro ended
      rw [List.drop_eq_nil_iff] at ended
      omega
    rw [if_neg left, hexDump_rows positive label (bytes.drop lineSize) left, List.length_drop,
      rowCount_of_lt positive more, rows_succ, String.join_cons]
termination_by bytes.length
decreasing_by
  rw [List.length_drop]
  omega

/-! ### Reading a dump back -/

def upperHexValue (digit : Char) : Option Nat :=
  if '0' ≤ digit ∧ digit ≤ '9' then some (digit.toNat - 48)
  else if 'A' ≤ digit ∧ digit ≤ 'F' then some (digit.toNat - 55)
  else none

/-- The byte of a cell of three characters, unless it is a cell of padding. -/
def readCell : List Char → Option UInt8
  | [high, low, ' '] =>
      match upperHexValue high, upperHexValue low with
      | some high, some low => some (UInt8.ofNat (16 * high + low))
      | _, _ => none
  | _ => none

def readCells : Nat → List Char → List UInt8
  | 0, _ => []
  | cells + 1, text => (readCell (text.take 3)).toList ++ readCells cells (text.drop 3)

/-- The bytes of a number of rows.  A row has `skip` characters in front of its
cells and, behind them, two characters, one for each byte, and two more. -/
def readRows (lineSize skip : Nat) : Nat → List Char → List UInt8
  | 0, _ => []
  | rows + 1, text =>
      let cells := text.drop skip
      let bytes := readCells lineSize cells
      bytes ++ readRows lineSize skip rows (cells.drop (3 * lineSize + (bytes.length + 4)))

theorem upperHexValue_upperHexDigit {digit : Nat} (small : digit < 16) :
    upperHexValue (upperHexDigit digit) = some digit := by
  have all : ∀ digit < 16, upperHexValue (upperHexDigit digit) = some digit := by decide
  exact all digit small

theorem readCell_hexCell (byte : UInt8) : readCell (hexCell byte).toList = some byte := by
  have bound := byte.toNat_lt
  have high : upperHexValue (upperHexDigit (byte.toNat / 16)) = some (byte.toNat / 16) :=
    upperHexValue_upperHexDigit (by omega)
  have low : upperHexValue (upperHexDigit (byte.toNat % 16)) = some (byte.toNat % 16) :=
    upperHexValue_upperHexDigit (by omega)
  rw [hexCell, String.toList_ofList, readCell, high, low]
  dsimp only
  rw [Nat.div_add_mod, UInt8.ofNat_toNat]

theorem readCells_padding (cells : Nat) (text : List Char) :
    readCells cells ((padding cells).toList ++ text) = [] := by
  induction cells with
  | zero => rfl
  | succ cells ih =>
      rw [padding_succ, String.toList_append, List.append_assoc]
      exact ih

theorem readCells_row (lineSize : Nat) {bytes : List UInt8} (fits : bytes.length ≤ lineSize)
    (text : List Char) :
    readCells lineSize
      ((cellsText bytes ++ padding (lineSize - bytes.length)).toList ++ text) = bytes := by
  induction bytes generalizing lineSize with
  | nil =>
      rw [cellsText_nil, String.empty_append]
      exact readCells_padding lineSize text
  | cons byte rest ih =>
      rw [List.length_cons] at fits
      obtain ⟨smaller, rfl⟩ : ∃ smaller, lineSize = smaller + 1 := ⟨lineSize - 1, by omega⟩
      have missing : smaller + 1 - (rest.length + 1) = smaller - rest.length := by omega
      have cell : (hexCell byte).toList.length = 3 := by
        rw [hexCell, String.toList_ofList]
        rfl
      rw [cellsText_cons, List.length_cons, missing, String.append_assoc, String.toList_append,
        List.append_assoc, readCells, List.take_left' cell, List.drop_left' cell,
        readCell_hexCell, ih smaller (by omega)]
      rfl

theorem length_cells (lineSize : Nat) {bytes : List UInt8} (fits : bytes.length ≤ lineSize) :
    (cellsText bytes ++ padding (lineSize - bytes.length)).toList.length = 3 * lineSize := by
  have pads : ∀ count, (padding count).toList.length = 3 * count := by
    intro count
    induction count with
    | zero => rfl
    | succ count ih =>
        rw [padding_succ, String.toList_append, List.length_append, ih]
        change 3 + 3 * count = 3 * (count + 1)
        omega
  have cells : ∀ bytes, (cellsText bytes).toList.length = 3 * bytes.length := by
    intro bytes
    induction bytes with
    | nil =>
        rw [cellsText_nil]
        rfl
    | cons byte rest ih =>
        rw [cellsText_cons, String.toList_append, List.length_append, ih, hexCell,
          String.toList_ofList, List.length_cons]
        change 3 + 3 * rest.length = 3 * (rest.length + 1)
        omega
  rw [String.toList_append, List.length_append, pads, cells]
  omega

theorem length_rowEnd (bytes : List UInt8) :
    (rowEnd bytes).toList.length = bytes.length + 4 := by
  have chars : (String.ofList (bytes.map dumpChar)).toList = bytes.map dumpChar :=
    String.toList_ofList
  rw [rowEnd, String.toList_append, String.toList_append, List.length_append, List.length_append,
    chars, List.length_map]
  change 2 + bytes.length + 2 = bytes.length + 4
  omega

/-- Reading a row gives its bytes and goes on behind it. -/
theorem readRows_row (lineSize : Nat) (label : String) {bytes : List UInt8}
    (fits : bytes.length ≤ lineSize) (rows : Nat) (text : List Char) :
    readRows lineSize (label.toList.length + 3) (rows + 1)
        ((rowText lineSize label bytes).toList ++ text) =
      bytes ++ readRows lineSize (label.toList.length + 3) rows text := by
  have front : (label ++ " | ").toList.length = label.toList.length + 3 := by
    rw [String.toList_append, List.length_append]
    rfl
  have shape : (rowText lineSize label bytes).toList ++ text =
      (label ++ " | ").toList ++ ((cellsText bytes ++ padding (lineSize - bytes.length)).toList ++
        ((rowEnd bytes).toList ++ text)) := by
    rw [rowText, String.toList_append, String.toList_append, List.append_assoc, List.append_assoc]
  have cells := length_cells lineSize fits
  have behind := length_rowEnd bytes
  rw [shape, readRows, List.drop_left' front, readCells_row lineSize fits, ← List.drop_drop, List.drop_left' cells,
    List.drop_left' behind]

theorem readRows_rows (lineSize : Nat) (label : String) (bytes : List UInt8) (rows : Nat) :
    readRows lineSize (label.toList.length + 3) rows
        (String.join ((List.range rows).map fun row =>
          rowText lineSize label (rowBytes lineSize bytes row))).toList =
      bytes.take (rows * lineSize) := by
  induction rows generalizing bytes with
  | zero =>
      rw [Nat.zero_mul, List.take_zero]
      rfl
  | succ rows ih =>
      have fits : (bytes.take lineSize).length ≤ lineSize := List.length_take_le lineSize bytes
      rw [rows_succ, String.join_cons, String.toList_append, readRows_row lineSize label fits, ih,
        Nat.succ_mul, Nat.add_comm, List.take_add]

theorem length_le_rows {lineSize : Nat} (positive : 0 < lineSize) (length : Nat) :
    length ≤ rowCount lineSize length * lineSize := by
  have division := Nat.div_add_mod (length + lineSize - 1) lineSize
  have remainder := Nat.mod_lt (length + lineSize - 1) positive
  rw [Nat.mul_comm] at division
  change (length + lineSize - 1) / lineSize * lineSize + _ = _ at division
  rw [rowCount]
  omega

/-- All rows but the last one are full. -/
theorem length_rowBytes_full {lineSize : Nat} (positive : 0 < lineSize) (bytes : List UInt8)
    {row : Nat} (notLast : row + 1 < rowCount lineSize bytes.length) :
    (rowBytes lineSize bytes row).length = lineSize := by
  have behind : (row + 2) * lineSize ≤ bytes.length + lineSize - 1 :=
    (Nat.le_div_iff_mul_le positive).mp notLast
  have spread : (row + 2) * lineSize = row * lineSize + lineSize + lineSize := by
    rw [Nat.add_mul, Nat.two_mul, Nat.add_assoc]
  rw [rowBytes, List.length_take, List.length_drop]
  omega

/-- For every list of bytes but the empty one, every line size and every label: the dump
is one row for each line size of bytes or part of it, only the last row has cells of
padding, and the cells read back as the bytes. -/
theorem hexDump_faithful (bytes : List UInt8) (lineSize : Nat) (label : String)
    (filled : bytes ≠ []) (positive : 1 ≤ lineSize) :
    hexDump bytes lineSize label =
        String.join ((List.range (rowCount lineSize bytes.length)).map fun row =>
          rowText lineSize label (rowBytes lineSize bytes row)) ∧
      (∀ row, row + 1 < rowCount lineSize bytes.length →
        (rowBytes lineSize bytes row).length = lineSize) ∧
      readRows lineSize (label.toList.length + 3) (rowCount lineSize bytes.length)
        (hexDump bytes lineSize label).toList = bytes := by
  have rows := hexDump_rows positive label bytes filled
  refine ⟨rows, fun row => length_rowBytes_full positive bytes, ?_⟩
  rw [rows, readRows_rows, List.take_of_length_le (length_le_rows positive bytes.length)]

theorem hexDump_faithful_five_bytes :
    hexDump [0, 65, 66, 255, 32] 4 "TX" =
        String.join ((List.range (rowCount 4 5)).map fun row =>
          rowText 4 "TX" (rowBytes 4 [0, 65, 66, 255, 32] row)) ∧
      (∀ row, row + 1 < rowCount 4 5 →
        (rowBytes 4 [0, 65, 66, 255, 32] row).length = 4) ∧
      readRows 4 ("TX".toList.length + 3) (rowCount 4 5)
        (hexDump [0, 65, 66, 255, 32] 4 "TX").toList = [0, 65, 66, 255, 32] :=
  hexDump_faithful [0, 65, 66, 255, 32] 4 "TX" (List.cons_ne_nil _ _) (by decide)

end AmebaTests.Bus
