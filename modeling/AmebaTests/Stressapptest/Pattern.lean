/-
The data patterns of the memory test.

A pattern repeats a table of 32-bit units, each unit as often as the bus is
wide, plain or inverted.  The table has a power of two units, 128 at most, so
that 4096 bytes always contain a whole number of periods: the checksum of the
first block of a page is the checksum of each of its blocks.
-/

import AmebaTests.Stressapptest.Adler

namespace AmebaTests.Stressapptest

/-- `struct PatternData`.  The mask of the source is one less than the length. -/
structure PatternData where
  name : String
  pat : List (BitVec 32)
  weight : Nat × Nat × Nat × Nat
  bits : Nat
  size : pat.length = 2 ^ bits
  small : bits ≤ 7

def PatternData.mask (data : PatternData) : Nat := data.pat.length - 1

def walkingOnesData : List (BitVec 32) := [
    0x00000001, 0x00000002, 0x00000004, 0x00000008, 0x00000010, 0x00000020,
    0x00000040, 0x00000080, 0x00000100, 0x00000200, 0x00000400, 0x00000800,
    0x00001000, 0x00002000, 0x00004000, 0x00008000, 0x00010000, 0x00020000,
    0x00040000, 0x00080000, 0x00100000, 0x00200000, 0x00400000, 0x00800000,
    0x01000000, 0x02000000, 0x04000000, 0x08000000, 0x10000000, 0x20000000,
    0x40000000, 0x80000000, 0x40000000, 0x20000000, 0x10000000, 0x08000000,
    0x04000000, 0x02000000, 0x01000000, 0x00800000, 0x00400000, 0x00200000,
    0x00100000, 0x00080000, 0x00040000, 0x00020000, 0x00010000, 0x00008000,
    0x00004000, 0x00002000, 0x00001000, 0x00000800, 0x00000400, 0x00000200,
    0x00000100, 0x00000080, 0x00000040, 0x00000020, 0x00000010, 0x00000008,
    0x00000004, 0x00000002, 0x00000001, 0x00000000]

def walkingOnes : PatternData := ⟨"walkingOnes", walkingOnesData, (1, 1, 2, 1), 6, rfl, by decide⟩

def walkingInvOnesData : List (BitVec 32) := [
    0x00000001, 0xfffffffe, 0x00000002, 0xfffffffd, 0x00000004, 0xfffffffb,
    0x00000008, 0xfffffff7, 0x00000010, 0xffffffef, 0x00000020, 0xffffffdf,
    0x00000040, 0xffffffbf, 0x00000080, 0xffffff7f, 0x00000100, 0xfffffeff,
    0x00000200, 0xfffffdff, 0x00000400, 0xfffffbff, 0x00000800, 0xfffff7ff,
    0x00001000, 0xffffefff, 0x00002000, 0xffffdfff, 0x00004000, 0xffffbfff,
    0x00008000, 0xffff7fff, 0x00010000, 0xfffeffff, 0x00020000, 0xfffdffff,
    0x00040000, 0xfffbffff, 0x00080000, 0xfff7ffff, 0x00100000, 0xffefffff,
    0x00200000, 0xffdfffff, 0x00400000, 0xffbfffff, 0x00800000, 0xff7fffff,
    0x01000000, 0xfeffffff, 0x02000000, 0xfdffffff, 0x04000000, 0xfbffffff,
    0x08000000, 0xf7ffffff, 0x10000000, 0xefffffff, 0x20000000, 0xdfffffff,
    0x40000000, 0xbfffffff, 0x80000000, 0x7fffffff, 0x40000000, 0xbfffffff,
    0x20000000, 0xdfffffff, 0x10000000, 0xefffffff, 0x08000000, 0xf7ffffff,
    0x04000000, 0xfbffffff, 0x02000000, 0xfdffffff, 0x01000000, 0xfeffffff,
    0x00800000, 0xff7fffff, 0x00400000, 0xffbfffff, 0x00200000, 0xffdfffff,
    0x00100000, 0xffefffff, 0x00080000, 0xfff7ffff, 0x00040000, 0xfffbffff,
    0x00020000, 0xfffdffff, 0x00010000, 0xfffeffff, 0x00008000, 0xffff7fff,
    0x00004000, 0xffffbfff, 0x00002000, 0xffffdfff, 0x00001000, 0xffffefff,
    0x00000800, 0xfffff7ff, 0x00000400, 0xfffffbff, 0x00000200, 0xfffffdff,
    0x00000100, 0xfffffeff, 0x00000080, 0xffffff7f, 0x00000040, 0xffffffbf,
    0x00000020, 0xffffffdf, 0x00000010, 0xffffffef, 0x00000008, 0xfffffff7,
    0x00000004, 0xfffffffb, 0x00000002, 0xfffffffd, 0x00000001, 0xfffffffe,
    0x00000000, 0xffffffff]

set_option maxRecDepth 1000 in
def walkingInvOnes : PatternData := ⟨"walkingInvOnes", walkingInvOnesData, (2, 2, 5, 5), 7, rfl, by decide⟩

def walkingZerosData : List (BitVec 32) := [
    0xfffffffe, 0xfffffffd, 0xfffffffb, 0xfffffff7, 0xffffffef, 0xffffffdf,
    0xffffffbf, 0xffffff7f, 0xfffffeff, 0xfffffdff, 0xfffffbff, 0xfffff7ff,
    0xffffefff, 0xffffdfff, 0xffffbfff, 0xffff7fff, 0xfffeffff, 0xfffdffff,
    0xfffbffff, 0xfff7ffff, 0xffefffff, 0xffdfffff, 0xffbfffff, 0xff7fffff,
    0xfeffffff, 0xfdffffff, 0xfbffffff, 0xf7ffffff, 0xefffffff, 0xdfffffff,
    0xbfffffff, 0x7fffffff, 0xbfffffff, 0xdfffffff, 0xefffffff, 0xf7ffffff,
    0xfbffffff, 0xfdffffff, 0xfeffffff, 0xff7fffff, 0xffbfffff, 0xffdfffff,
    0xffefffff, 0xfff7ffff, 0xfffbffff, 0xfffdffff, 0xfffeffff, 0xffff7fff,
    0xffffbfff, 0xffffdfff, 0xffffefff, 0xfffff7ff, 0xfffffbff, 0xfffffdff,
    0xfffffeff, 0xffffff7f, 0xffffffbf, 0xffffffdf, 0xffffffef, 0xfffffff7,
    0xfffffffb, 0xfffffffd, 0xfffffffe, 0xffffffff]

def walkingZeros : PatternData := ⟨"walkingZeros", walkingZerosData, (1, 1, 2, 1), 6, rfl, by decide⟩

def oneZeroData : List (BitVec 32) := [0x00000000, 0xffffffff]

def oneZero : PatternData := ⟨"OneZero", oneZeroData, (5, 5, 15, 5), 1, rfl, by decide⟩

def justZeroData : List (BitVec 32) := [0x00000000, 0x00000000]

def justZero : PatternData := ⟨"JustZero", justZeroData, (2, 0, 0, 0), 1, rfl, by decide⟩

def justOneData : List (BitVec 32) := [0xffffffff, 0xffffffff]

def justOne : PatternData := ⟨"JustOne", justOneData, (2, 0, 0, 0), 1, rfl, by decide⟩

def justFiveData : List (BitVec 32) := [0x55555555, 0x55555555]

def justFive : PatternData := ⟨"JustFive", justFiveData, (2, 0, 0, 0), 1, rfl, by decide⟩

def justAData : List (BitVec 32) := [0xaaaaaaaa, 0xaaaaaaaa]

def justA : PatternData := ⟨"JustA", justAData, (2, 0, 0, 0), 1, rfl, by decide⟩

def fiveAData : List (BitVec 32) := [0x55555555, 0xaaaaaaaa]

def fiveA : PatternData := ⟨"FiveA", fiveAData, (1, 1, 1, 1), 1, rfl, by decide⟩

def fiveA8Data : List (BitVec 32) := [0x5aa5a55a, 0xa55a5aa5, 0xa55a5aa5, 0x5aa5a55a]

def fiveA8 : PatternData := ⟨"FiveA8", fiveA8Data, (1, 1, 1, 1), 2, rfl, by decide⟩

def long8b10bData : List (BitVec 32) := [0x16161616, 0x16161616]

def long8b10b : PatternData := ⟨"Long8b10b", long8b10bData, (2, 0, 0, 0), 1, rfl, by decide⟩

def short8b10bData : List (BitVec 32) := [0xb5b5b5b5, 0xb5b5b5b5]

def short8b10b : PatternData := ⟨"Short8b10b", short8b10bData, (2, 0, 0, 0), 1, rfl, by decide⟩

def checker8b10bData : List (BitVec 32) := [0xb5b5b5b5, 0x4a4a4a4a]

def checker8b10b : PatternData := ⟨"Checker8b10b", checker8b10bData, (1, 0, 0, 1), 1, rfl, by decide⟩

def five7Data : List (BitVec 32) := [0x55555557, 0x55575555]

def five7 : PatternData := ⟨"Five7", five7Data, (0, 2, 0, 0), 1, rfl, by decide⟩

def zero2fdData : List (BitVec 32) := [0x00020002, 0xfffdfffd]

def zero2fd : PatternData := ⟨"Zero2fd", zero2fdData, (0, 2, 0, 0), 1, rfl, by decide⟩

/-- `pattern_array`. -/
def patternArray : List PatternData :=
  [walkingOnes, walkingInvOnes, walkingZeros, oneZero, justZero, justOne, justFive, justA, fiveA,
    fiveA8, long8b10b, short8b10b, checker8b10b, five7, zero2fd]

structure Pattern where
  data : PatternData
  busshift : Nat
  inverse : Bool
  name : String
  weight : Nat
  shiftLe : busshift ≤ 3

namespace Pattern

/-- `Pattern::pattern`: the unit at an offset. -/
def pattern (self : Pattern) (offset : Nat) : BitVec 32 :=
  let data := self.data.pat.getD ((offset >>> self.busshift) &&& self.data.mask) 0
  if self.inverse then ~~~data else data

/-- The iterations of `CalculateCrc`, four units each. -/
def crcLoop (self : Pattern) : Nat → AdlerChecksum
  | 0 => .initial
  | count + 1 =>
      let i := 4 * count
      ((((self.crcLoop count).addFirst (self.pattern i)).addFirst (self.pattern (i + 1))).addSecond
        (self.pattern (i + 2))).addSecond (self.pattern (i + 3))

/-- `CalculateCrc`, over the first 4096 bytes. -/
def crc (self : Pattern) : AdlerChecksum :=
  self.crcLoop (4096 / 4 / 4)

/-- The 64-bit word the fill loops write at an index. -/
def word (self : Pattern) (i : Nat) : BitVec 64 :=
  castWord (self.pattern (2 * i)) (self.pattern (2 * i + 1))

/-- `Pattern::Initialize`, with its result. -/
def initializePattern (data : PatternData) (buswidth : Nat) (invert : Bool) (weight : Nat) :
    Pattern × Bool :=
  let name := if invert then data.name ++ "~" else data.name
  match buswidth with
  | 32 => (⟨data, 0, invert, name ++ "32", weight, by decide⟩, true)
  | 64 => (⟨data, 1, invert, name ++ "64", weight, by decide⟩, true)
  | 128 => (⟨data, 2, invert, name ++ "128", weight, by decide⟩, true)
  | 256 => (⟨data, 3, invert, name ++ "256", weight, by decide⟩, true)
  | _ => (⟨data, 2, invert, name ++ "Broken", weight, by decide⟩, false)

end Pattern

/-- `PatternList`, after `Initialize`. -/
structure PatternList where
  patterns : List Pattern
  weightcount : Nat
  counted : weightcount = (patterns.map Pattern.weight).sum

/-- The eight versions of one table: four widths, plain and inverted. -/
def versions (data : PatternData) : List Pattern :=
  let (w32, w64, w128, w256) := data.weight
  [false, true].flatMap fun invert =>
    [(32, w32), (64, w64), (128, w128), (256, w256)].map fun (buswidth, weight) =>
      (Pattern.initializePattern data buswidth invert weight).1

def initializePatternList (array : List PatternData) : PatternList where
  patterns := array.flatMap versions
  weightcount := ((array.flatMap versions).map Pattern.weight).sum
  counted := rfl

/-- The list the program uses. -/
def globalPatternList : PatternList := initializePatternList patternArray

/-- The `do` loop of `GetRandomPattern`, on the patterns from the index on. -/
def pickWeighted : List Pattern → Int → Nat → Option Nat
  | [], _, _ => none
  | pattern :: rest, target, i =>
      if target - pattern.weight ≤ 0 then some i
      else pickWeighted rest (target - pattern.weight) (i + 1)

/-- `GetRandomPattern`, with the index of the pattern it points to. -/
def getRandomPattern (list : PatternList) (random : Nat) : Option Nat :=
  pickWeighted list.patterns (random % list.weightcount + 1 : Nat) 0

/-! ### The words of a pattern -/

section Period

variable (pattern : Pattern)

theorem Pattern.mask_eq (data : PatternData) (index : Nat) :
    index &&& data.mask = index % 2 ^ data.bits := by
  rw [PatternData.mask, data.size, Nat.and_two_pow_sub_one_eq_mod]

/-- 4096 bytes are a whole number of periods. -/
theorem Pattern.pattern_periodic (offset : Nat) :
    pattern.pattern (offset + 1024) = pattern.pattern offset := by
  have shift : 2 ^ pattern.busshift * 2 ^ (10 - pattern.busshift) = 1024 := by
    rw [← pow_add, Nat.add_sub_cancel' (pattern.shiftLe.trans (by decide))]
    rfl
  have moved : (offset + 1024) >>> pattern.busshift =
      offset >>> pattern.busshift + 2 ^ (10 - pattern.busshift) := by
    rw [Nat.shiftRight_eq_div_pow, Nat.shiftRight_eq_div_pow, ← shift, Nat.mul_comm,
      Nat.add_mul_div_right _ _ (Nat.two_pow_pos _)]
  have whole : 2 ^ pattern.data.bits ∣ 2 ^ (10 - pattern.busshift) := by
    apply pow_dvd_pow
    have := pattern.shiftLe
    have := pattern.data.small
    omega
  have same : (offset + 1024) >>> pattern.busshift &&& pattern.data.mask =
      offset >>> pattern.busshift &&& pattern.data.mask := by
    rw [Pattern.mask_eq, Pattern.mask_eq, moved, Nat.add_mod, Nat.mod_eq_zero_of_dvd whole,
      Nat.add_zero, Nat.mod_mod]
  rw [Pattern.pattern, Pattern.pattern, same]

theorem Pattern.word_periodic (i : Nat) : pattern.word (i + 512) = pattern.word i := by
  have first := pattern.pattern_periodic (2 * i)
  have second := pattern.pattern_periodic (2 * i + 1)
  rw [Pattern.word, Pattern.word, show 2 * (i + 512) = 2 * i + 1024 by ring, first,
    show 2 * i + 1024 + 1 = 2 * i + 1 + 1024 by ring, second]

theorem Pattern.word_block (block i : Nat) : pattern.word (512 * block + i) = pattern.word i := by
  induction block with
  | zero => rw [Nat.mul_zero, Nat.zero_add]
  | succ block ih =>
      rw [show 512 * (block + 1) + i = 512 * block + i + 512 by ring, Pattern.word_periodic, ih]

@[simp] theorem low_castWord (l h : BitVec 32) : low (castWord l h) = l := by
  unfold low castWord
  exact BitVec.extractLsb'_append_eq_right

@[simp] theorem high_castWord (l h : BitVec 32) : high (castWord l h) = h := by
  unfold high castWord
  exact BitVec.extractLsb'_append_eq_left

/-- The loop over units agrees with the loop over the words of a block. -/
theorem Pattern.crc_eq : pattern.crc = sumPairs pattern.word 256 := by
  have loops : ∀ count, pattern.crcLoop count = sumPairs pattern.word count := by
    intro count
    induction count with
    | zero => rfl
    | succ count ih =>
        rw [Pattern.crcLoop, sumPairs, ih, AdlerChecksum.addPair]
        simp only [Pattern.word, low_castWord, high_castWord]
        rw [show 2 * (2 * count) = 4 * count by ring,
          show 2 * (2 * count + 1) = 4 * count + 2 by ring]
  exact loops 256

end Period

/-! ### The choice of a pattern -/

section Choice

theorem pickWeighted_cons_low {pattern : Pattern} {rest : List Pattern} {target : Nat}
    (within : target ≤ pattern.weight) (i : Nat) :
    pickWeighted (pattern :: rest) target i = some i := by
  rw [pickWeighted, if_pos (by omega)]

theorem pickWeighted_cons_high {pattern : Pattern} {rest : List Pattern} {target : Nat}
    (positive : 0 < target) (i : Nat) :
    pickWeighted (pattern :: rest) (pattern.weight + target : Nat) i =
      pickWeighted rest target (i + 1) := by
  rw [pickWeighted, if_neg (by omega)]
  congr 1
  omega

theorem pickWeighted_inside {patterns : List Pattern} {target : Nat} (positive : 0 < target)
    (within : target ≤ (patterns.map Pattern.weight).sum) (i : Nat) :
    ∃ j < patterns.length, pickWeighted patterns target i = some (i + j) := by
  induction patterns generalizing target i with
  | nil =>
      rw [List.map_nil, List.sum_nil] at within
      omega
  | cons pattern rest ih =>
      rw [List.map_cons, List.sum_cons] at within
      rcases Nat.lt_or_ge pattern.weight target with high | low
      · obtain ⟨left, rfl⟩ := Nat.exists_eq_add_of_le high.le
        obtain ⟨j, inside, found⟩ := @ih left (by omega) (by omega) (i + 1)
        refine ⟨j + 1, by rw [List.length_cons]; omega, ?_⟩
        rw [pickWeighted_cons_high (by omega), found]
        congr 1
        omega
      · exact ⟨0, Nat.succ_pos _, pickWeighted_cons_low low i⟩

theorem le_of_pickWeighted {patterns : List Pattern} {target : Int} {i index : Nat}
    (found : pickWeighted patterns target i = some index) : i ≤ index := by
  induction patterns generalizing target i with
  | nil => simp [pickWeighted] at found
  | cons pattern rest ih =>
      rw [pickWeighted] at found
      split at found
      · exact (Option.some.inj found).le
      · exact Nat.le_of_succ_le (ih found)

/-- Each pattern is the choice of as many targets as its weight. -/
theorem countP_pickWeighted {patterns : List Pattern} {j : Nat} (inside : j < patterns.length)
    (i : Nat) :
    (List.range (patterns.map Pattern.weight).sum).countP (fun random =>
      pickWeighted patterns (random + 1 : Nat) i = some (i + j)) = patterns[j].weight := by
  induction patterns generalizing i j with
  | nil => exact absurd inside (Nat.not_lt_zero j)
  | cons pattern rest ih =>
      rw [List.map_cons, List.sum_cons, List.range_add, List.countP_append, List.countP_map]
      have low : ∀ random ∈ List.range pattern.weight,
          pickWeighted (pattern :: rest) (random + 1 : Nat) i = some i := by
        intro random member
        exact pickWeighted_cons_low (List.mem_range.mp member) i
      have high : ∀ random, pickWeighted (pattern :: rest)
          (pattern.weight + random + 1 : Nat) i = pickWeighted rest (random + 1 : Nat) (i + 1) := by
        intro random
        rw [Nat.add_assoc]
        exact pickWeighted_cons_high (Nat.succ_pos random) i
      cases j with
      | zero =>
          rw [List.countP_eq_length.mpr, List.countP_eq_zero.mpr, List.length_range]
          · rfl
          · intro random _ found
            rw [Function.comp_apply, high, Nat.add_zero, decide_eq_true_eq] at found
            have := le_of_pickWeighted found
            omega
          · intro random member
            rw [low random member]
            simp
      | succ j =>
          have later := ih (Nat.lt_of_succ_lt_succ inside) (i + 1)
          rw [List.countP_eq_zero.mpr, Nat.zero_add, List.getElem_cons_succ, ← later]
          · apply List.countP_congr
            intro random _
            rw [Function.comp_apply, high, show i + (j + 1) = i + 1 + j by omega]
          · intro random member
            rw [low random member]
            simp

/-- The choice never leaves the list, and over the numbers up to the total
weight each pattern comes up as often as it weighs. -/
theorem random_pattern_is_weighted (list : PatternList) (positive : 0 < list.weightcount) :
    (∀ random, ∃ index < list.patterns.length, getRandomPattern list random = some index) ∧
      ∀ index (inside : index < list.patterns.length),
        (List.range list.weightcount).countP (fun random =>
          getRandomPattern list random = some index) = list.patterns[index].weight := by
  constructor
  · intro random
    have below := Nat.mod_lt random positive
    have within : random % list.weightcount + 1 ≤ (list.patterns.map Pattern.weight).sum := by
      rw [← list.counted]
      omega
    obtain ⟨index, inside, found⟩ := pickWeighted_inside (Nat.succ_pos _) within 0
    exact ⟨index, inside, by rw [getRandomPattern, found, Nat.zero_add]⟩
  · intro index inside
    have counted := countP_pickWeighted inside 0
    rw [← list.counted] at counted
    rw [← counted]
    apply List.countP_congr
    intro random member
    rw [getRandomPattern, Nat.mod_eq_of_lt (List.mem_range.mp member), Nat.zero_add]

theorem globalPatternList_weightcount : globalPatternList.weightcount = 160 := rfl

theorem global_random_pattern_is_weighted :
    (∀ random, ∃ index < globalPatternList.patterns.length,
      getRandomPattern globalPatternList random = some index) ∧
    ∀ index (inside : index < globalPatternList.patterns.length),
      (List.range globalPatternList.weightcount).countP (fun random =>
        getRandomPattern globalPatternList random = some index) =
          globalPatternList.patterns[index].weight :=
  random_pattern_is_weighted globalPatternList (by rw [globalPatternList_weightcount]; decide)

end Choice

end AmebaTests.Stressapptest
