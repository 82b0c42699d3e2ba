/-
The Adler checksum of the memory test, and the copy that computes it.

Memory is addressed by 64-bit words.  The words with an even number belong to
the first pair of sums and the others to the second, and each word gives its
low half before its high half.  The sums are 64 bits wide and wrap.
-/

import Mathlib.Algebra.Order.BigOperators.Group.List
import Mathlib.Data.BitVec
import AmebaTests.Foundation.RunningSums

namespace AmebaTests.Stressapptest

open Foundation

abbrev Memory := Nat → BitVec 64

def store (memory : Memory) (address : Nat) (value : BitVec 64) : Memory :=
  Function.update memory address value

/-- The halves of a word, as `datacast_t` gives them on a little-endian machine. -/
def low (word : BitVec 64) : BitVec 32 := word.extractLsb' 0 32

def high (word : BitVec 64) : BitVec 32 := word.extractLsb' 32 32

/-- The word with these halves. -/
def castWord (l h : BitVec 32) : BitVec 64 := h ++ l

structure AdlerChecksum where
  a1 : BitVec 64
  a2 : BitVec 64
  b1 : BitVec 64
  b2 : BitVec 64
  deriving DecidableEq, Repr

namespace AdlerChecksum

def initial : AdlerChecksum := ⟨1, 1, 0, 0⟩

def addFirst (sums : AdlerChecksum) (unit : BitVec 32) : AdlerChecksum :=
  let a1 := sums.a1 + unit.setWidth 64
  { sums with a1 := a1, b1 := sums.b1 + a1 }

def addSecond (sums : AdlerChecksum) (unit : BitVec 32) : AdlerChecksum :=
  let a2 := sums.a2 + unit.setWidth 64
  { sums with a2 := a2, b2 := sums.b2 + a2 }

/-- One iteration of the checksum loops, on an even word and the odd one after it. -/
def addPair (sums : AdlerChecksum) (even odd : BitVec 64) : AdlerChecksum :=
  (((sums.addFirst (low even)).addFirst (high even)).addSecond (low odd)).addSecond (high odd)

end AdlerChecksum

/-- The sums after so many iterations. -/
def sumPairs (data : Nat → BitVec 64) : Nat → AdlerChecksum
  | 0 => .initial
  | pairs + 1 => (sumPairs data pairs).addPair (data (2 * pairs)) (data (2 * pairs + 1))

theorem sumPairs_congr {data other : Nat → BitVec 64} {pairs : Nat}
    (same : ∀ i < 2 * pairs, data i = other i) : sumPairs data pairs = sumPairs other pairs := by
  induction pairs with
  | zero => rfl
  | succ pairs ih =>
      rw [sumPairs, sumPairs, ih fun i below => same i (by omega), same (2 * pairs) (by omega),
        same (2 * pairs + 1) (by omega)]

/-- The largest number of words the functions accept. -/
def maxWords : Nat := 2 ^ 19

/-- The iterations of `while (i < count)`, which takes two words at a time. -/
def pairCount (sizeInBytes : Nat) : Nat :=
  (sizeInBytes / 8 + 1) / 2

def CalculateAdlerChecksum (memory : Memory) (data64 sizeInBytes : Nat) :
    Option AdlerChecksum :=
  if maxWords < sizeInBytes / 8 then none
  else some (sumPairs (fun i => memory (data64 + i)) (pairCount sizeInBytes))

/-- The loop of `AdlerMemcpyC`: each word is stored right after it was added. -/
def copyPairs (memory : Memory) (dstmem64 srcmem64 : Nat) : Nat → Memory × AdlerChecksum
  | 0 => (memory, .initial)
  | pairs + 1 =>
      let (before, sums) := copyPairs memory dstmem64 srcmem64 pairs
      let even := before (srcmem64 + 2 * pairs)
      let between := store before (dstmem64 + 2 * pairs) even
      let odd := between (srcmem64 + (2 * pairs + 1))
      (store between (dstmem64 + (2 * pairs + 1)) odd, sums.addPair even odd)

/-- `AdlerMemcpyC`, and `AdlerMemcpyWarmC` without its floating point work. -/
def AdlerMemcpyC (memory : Memory) (dstmem64 srcmem64 sizeInBytes : Nat) :
    Option (Memory × AdlerChecksum) :=
  if maxWords < sizeInBytes / 8 then none
  else some (copyPairs memory dstmem64 srcmem64 (pairCount sizeInBytes))

/-- Memory with the words of one region in another. -/
def copied (memory : Memory) (target source words : Nat) : Memory := fun address =>
  if target ≤ address ∧ address < target + words then memory (source + (address - target))
  else memory address

/-! ### The copy -/

section Copy

variable {memory : Memory} {dstmem64 srcmem64 : Nat}

theorem store_copied {words : Nat}
    (apart : dstmem64 + (words + 1) ≤ srcmem64 ∨ srcmem64 + (words + 1) ≤ dstmem64) :
    store (copied memory dstmem64 srcmem64 words) (dstmem64 + words)
        (copied memory dstmem64 srcmem64 words (srcmem64 + words)) =
      copied memory dstmem64 srcmem64 (words + 1) := by
  have outside : copied memory dstmem64 srcmem64 words (srcmem64 + words) =
      memory (srcmem64 + words) := by
    rw [copied, if_neg (by omega)]
  rw [outside]
  funext address
  by_cases last : address = dstmem64 + words
  · rw [last, store, Function.update_self, copied, if_pos (by omega), Nat.add_sub_cancel_left]
  · rw [store, Function.update_of_ne last]
    by_cases inside : dstmem64 ≤ address ∧ address < dstmem64 + words
    · rw [copied, copied, if_pos inside, if_pos (by omega)]
    · rw [copied, copied, if_neg inside, if_neg (by omega)]

/-- Between regions that do not overlap the loop copies, and its sums are those
of the source. -/
theorem copyPairs_eq {pairs : Nat}
    (apart : dstmem64 + 2 * pairs ≤ srcmem64 ∨ srcmem64 + 2 * pairs ≤ dstmem64) :
    copyPairs memory dstmem64 srcmem64 pairs =
      (copied memory dstmem64 srcmem64 (2 * pairs),
        sumPairs (fun i => memory (srcmem64 + i)) pairs) := by
  induction pairs with
  | zero =>
      rw [copyPairs, sumPairs]
      congr 1
      funext address
      rw [copied, if_neg (by omega)]
  | succ pairs ih =>
      have evenApart : dstmem64 + (2 * pairs + 1) ≤ srcmem64 ∨
          srcmem64 + (2 * pairs + 1) ≤ dstmem64 := by omega
      have oddApart : dstmem64 + (2 * pairs + 1 + 1) ≤ srcmem64 ∨
          srcmem64 + (2 * pairs + 1 + 1) ≤ dstmem64 := by omega
      have source : ∀ words, 2 * pairs ≤ words → words ≤ 2 * pairs + 1 →
          copied memory dstmem64 srcmem64 words (srcmem64 + words) = memory (srcmem64 + words) := by
        intro words _ _
        rw [copied, if_neg (by omega)]
      rw [copyPairs, ih (by omega)]
      simp only [store_copied evenApart, store_copied oddApart, sumPairs]
      rw [source (2 * pairs) le_rfl (by omega), source (2 * pairs + 1) (by omega) le_rfl]
      rfl

end Copy

/-! ### The sums -/

section Sums

/-- The units of the words with an even (0) or an odd (1) number, in order. -/
def lane (data : Nat → BitVec 64) (parity : Nat) (pairs : Nat) : List Nat :=
  (List.range pairs).flatMap fun pair =>
    [(low (data (2 * pair + parity))).toNat, (high (data (2 * pair + parity))).toNat]

variable (data : Nat → BitVec 64)

theorem lane_succ (parity pairs : Nat) :
    lane data parity (pairs + 1) =
      lane data parity pairs ++ [(low (data (2 * pairs + parity))).toNat] ++
        [(high (data (2 * pairs + parity))).toNat] := by
  rw [lane, List.range_succ, List.flatMap_append, List.flatMap_singleton, lane,
    List.append_assoc]
  rfl

theorem length_lane (parity pairs : Nat) : (lane data parity pairs).length = 2 * pairs := by
  induction pairs with
  | zero => rfl
  | succ pairs ih =>
      rw [lane_succ, List.length_append, List.length_append, ih]
      rfl

theorem lane_lt (parity pairs : Nat) : ∀ unit ∈ lane data parity pairs, unit < 2 ^ 32 := by
  intro unit member
  obtain ⟨pair, _, inside⟩ := List.mem_flatMap.mp member
  rcases List.mem_cons.mp inside with rfl | inside
  · exact (low (data (2 * pair + parity))).isLt
  · rw [List.mem_singleton.mp inside]
    exact (high (data (2 * pair + parity))).isLt

/-- A pair of 64-bit sums against the exact sums of its units. -/
structure Sums (units : List Nat) (a b : BitVec 64) : Prop where
  plain : a.toNat ≡ 1 + units.sum [MOD 2 ^ 64]
  prefixes : b.toNat ≡ units.length + RunningSums.prefixSum units [MOD 2 ^ 64]

theorem Sums.add {units : List Nat} {a b : BitVec 64} (sums : Sums units a b)
    (unit : BitVec 32) :
    Sums (units ++ [unit.toNat]) (a + unit.setWidth 64) (b + (a + unit.setWidth 64)) := by
  have wide : (unit.setWidth 64).toNat = unit.toNat := by
    rw [BitVec.toNat_setWidth, Nat.mod_eq_of_lt (unit.isLt.trans (by norm_num))]
  have plain : (a + unit.setWidth 64).toNat ≡ 1 + (units ++ [unit.toNat]).sum [MOD 2 ^ 64] := by
    rw [BitVec.toNat_add, wide, List.sum_append, List.sum_singleton, ← add_assoc]
    exact (Nat.mod_modEq _ _).trans (sums.plain.add_right _)
  refine ⟨plain, ?_⟩
  rw [BitVec.toNat_add, RunningSums.prefixSum_concat, List.length_append, List.length_singleton]
  rw [List.sum_append, List.sum_singleton] at plain
  calc (b.toNat + (a + unit.setWidth 64).toNat) % 2 ^ 64
      ≡ b.toNat + (a + unit.setWidth 64).toNat [MOD 2 ^ 64] := Nat.mod_modEq _ _
    _ ≡ units.length + RunningSums.prefixSum units + (1 + (units.sum + unit.toNat)) [MOD 2 ^ 64] :=
        sums.prefixes.add plain
    _ = units.length + 1 + (RunningSums.prefixSum units + units.sum + unit.toNat) := by ring

theorem sumPairs_sums (pairs : Nat) :
    Sums (lane data 0 pairs) (sumPairs data pairs).a1 (sumPairs data pairs).b1 ∧
      Sums (lane data 1 pairs) (sumPairs data pairs).a2 (sumPairs data pairs).b2 := by
  induction pairs with
  | zero => exact ⟨⟨rfl, rfl⟩, ⟨rfl, rfl⟩⟩
  | succ pairs ih =>
      rw [lane_succ, lane_succ, sumPairs]
      exact ⟨(ih.1.add _).add _, (ih.2.add _).add _⟩

/-- The 32-bit units of a region, in the order of their addresses. -/
def units (words : Nat) : List (BitVec 32) :=
  (List.range words).flatMap fun i => [low (data i), high (data i)]

theorem units_succ (words : Nat) :
    units data (words + 1) = units data words ++ [low (data words), high (data words)] := by
  rw [units, List.range_succ, List.flatMap_append, List.flatMap_singleton, units]

theorem length_units (words : Nat) : (units data words).length = 2 * words := by
  induction words with
  | zero => rfl
  | succ words ih =>
      rw [units_succ, List.length_append, ih]
      rfl

/-- A difference of two regions lies in one of their lanes. -/
theorem distance_units (other : Nat → BitVec 64) (pairs : Nat) :
    RunningSums.distance (units data (2 * pairs)) (units other (2 * pairs)) =
      RunningSums.distance (lane data 0 pairs) (lane other 0 pairs) +
        RunningSums.distance (lane data 1 pairs) (lane other 1 pairs) := by
  have numbers : Function.Injective (BitVec.toNat (w := 32)) := fun _ _ => BitVec.eq_of_toNat_eq
  induction pairs with
  | zero => rfl
  | succ pairs ih =>
      have lanes : ∀ parity,
          RunningSums.distance (lane data parity (pairs + 1)) (lane other parity (pairs + 1)) =
            RunningSums.distance (lane data parity pairs) (lane other parity pairs) +
              RunningSums.distance
                [low (data (2 * pairs + parity)), high (data (2 * pairs + parity))]
                [low (other (2 * pairs + parity)), high (other (2 * pairs + parity))] := by
        intro parity
        rw [← RunningSums.distance_map numbers, lane_succ, lane_succ, List.append_assoc,
          List.append_assoc,
          RunningSums.distance_append (by rw [length_lane, length_lane])]
        rfl
      have same : ∀ words, (units data words).length = (units other words).length := by
        intro words
        rw [length_units, length_units]
      rw [show 2 * (pairs + 1) = 2 * pairs + 1 + 1 from rfl, units_succ, units_succ,
        units_succ, units_succ, RunningSums.distance_append (by simp [length_units]),
        RunningSums.distance_append (same _), ih, lanes 0, lanes 1]
      simp only [Nat.add_zero]
      omega

theorem lane_eq_or_far {other : Nat → BitVec 64} {parity pairs : Nat} {a b : BitVec 64}
    (few : pairs ≤ 2 ^ 30) (sums : Sums (lane data parity pairs) a b)
    (others : Sums (lane other parity pairs) a b) :
    lane data parity pairs = lane other parity pairs ∨
      3 ≤ RunningSums.distance (lane data parity pairs) (lane other parity pairs) := by
  have same : (lane data parity pairs).length = (lane other parity pairs).length := by
    rw [length_lane, length_lane]
  refine RunningSums.eq_or_far (M := 2 ^ 64) (Nat.two_pow_pos 32) same
    (lane_lt data parity pairs) (lane_lt other parity pairs) (by norm_num) ?_ ?_ ?_
  · rw [length_lane]
    omega
  · exact Nat.ModEq.add_left_cancel' 1 (sums.plain.symm.trans others.plain)
  · have prefixes := sums.prefixes.symm.trans others.prefixes
    rw [same] at prefixes
    exact Nat.ModEq.add_left_cancel' _ prefixes

/-- Where the sums agree, the regions agree or differ in three units at least. -/
theorem sumPairs_detects {other : Nat → BitVec 64} {pairs : Nat} (few : pairs ≤ 2 ^ 30)
    (equal : sumPairs data pairs = sumPairs other pairs) :
    RunningSums.distance (units data (2 * pairs)) (units other (2 * pairs)) = 0 ∨
      3 ≤ RunningSums.distance (units data (2 * pairs)) (units other (2 * pairs)) := by
  obtain ⟨first, second⟩ := sumPairs_sums data pairs
  obtain ⟨otherFirst, otherSecond⟩ := sumPairs_sums other pairs
  rw [← equal] at otherFirst otherSecond
  rw [distance_units]
  rcases lane_eq_or_far data few first otherFirst with even | far
  · rcases lane_eq_or_far data few second otherSecond with odd | far
    · rw [(RunningSums.distance_eq_zero_iff (congrArg List.length even)).mpr even,
        (RunningSums.distance_eq_zero_iff (congrArg List.length odd)).mpr odd]
      exact .inl rfl
    · exact .inr (by omega)
  · exact .inr (by omega)

theorem castWord_halves (word : BitVec 64) : castWord (low word) (high word) = word := by
  unfold castWord low high
  rw [BitVec.extractLsb'_append_extractLsb'_eq_extractLsb' (show 32 = 0 + 32 from rfl)]
  exact BitVec.extractLsb'_eq_self

variable {data} in
theorem eq_of_units {other : Nat → BitVec 64} {words : Nat}
    (equal : units data words = units other words) : ∀ i < words, data i = other i := by
  induction words with
  | zero =>
      intro i below
      exact absurd below (Nat.not_lt_zero i)
  | succ words ih =>
      rw [units_succ, units_succ] at equal
      obtain ⟨before, last⟩ := List.append_inj equal (by rw [length_units, length_units])
      obtain ⟨lows, highs⟩ := List.cons.inj last
      intro i below
      rcases Nat.lt_succ_iff_lt_or_eq.mp below with earlier | rfl
      · exact ih before i earlier
      · rw [← castWord_halves (data i), ← castWord_halves (other i), lows,
          (List.cons.inj highs).1]

end Sums

/-! ### What the sums detect -/

/-- Two buffers with one checksum are equal, or they differ in at least three of
their 32-bit units: one or two damaged units never go unseen, although the sums
wrap. -/
theorem checksum_detects_two_units {memory other : Memory}
    {data64 other64 sizeInBytes : Nat} {checksum : AdlerChecksum} (whole : sizeInBytes % 16 = 0)
    (first : CalculateAdlerChecksum memory data64 sizeInBytes = some checksum)
    (second : CalculateAdlerChecksum other other64 sizeInBytes = some checksum) :
    (∀ i < sizeInBytes / 8, memory (data64 + i) = other (other64 + i)) ∨
      3 ≤ RunningSums.distance (units (fun i => memory (data64 + i)) (sizeInBytes / 8))
        (units (fun i => other (other64 + i)) (sizeInBytes / 8)) := by
  rw [CalculateAdlerChecksum] at first second
  split at first
  · exact absurd first (by simp)
  rename_i accepted
  rw [if_neg accepted] at second
  have pairs : sizeInBytes / 8 = 2 * pairCount sizeInBytes := by
    rw [pairCount]
    omega
  have few : pairCount sizeInBytes ≤ 2 ^ 30 := by
    rw [maxWords] at accepted
    omega
  have equal := Option.some.inj (first.trans second.symm)
  rw [pairs]
  rcases sumPairs_detects _ few equal with none | far
  · left
    exact eq_of_units ((RunningSums.distance_eq_zero_iff (by
      rw [length_units, length_units])).mp none)
  · exact .inr far

theorem checksum_compares_two_pairs :
    ∃ checksum, CalculateAdlerChecksum (fun _ => 5) 0 32 = some checksum ∧
      ((∀ i < 32 / 8, (5 : BitVec 64) = if 8 + i = 3 then 4 else 5) ∨
        3 ≤ RunningSums.distance (units (fun _ => 5) (32 / 8))
          (units (fun i => if 8 + i = 3 then 4 else 5) (32 / 8))) :=
  ⟨_, rfl, @checksum_detects_two_units (fun _ => 5) (fun address => if address = 3 then 4 else 5)
    0 8 32 _ (by decide) rfl (by decide)⟩

/-! ### Sums without a wrap -/

theorem Sums.exact {units : List Nat} {a b : BitVec 64} (sums : Sums units a b)
    (small : ∀ unit ∈ units, unit < 2 ^ 32) (short : units.length ≤ 2 ^ 16) :
    a.toNat = 1 + units.sum ∧ b.toNat = units.length + RunningSums.prefixSum units := by
  have each : ∀ unit ∈ units, unit ≤ 2 ^ 32 - 1 := fun unit member =>
    Nat.le_sub_one_of_lt (small unit member)
  constructor
  · apply sums.plain.eq_of_lt_of_lt a.isLt
    have bound := List.sum_le_card_nsmul units (2 ^ 32 - 1) each
    calc 1 + units.sum ≤ 1 + units.length * (2 ^ 32 - 1) := Nat.add_le_add_left bound 1
      _ ≤ 1 + 2 ^ 16 * (2 ^ 32 - 1) := by gcongr
      _ < 2 ^ 64 := by norm_num
  · apply sums.prefixes.eq_of_lt_of_lt b.isLt
    have bound := RunningSums.prefixSum_le each
    calc units.length + RunningSums.prefixSum units
        ≤ units.length + units.length * units.length * (2 ^ 32 - 1) :=
          Nat.add_le_add_left bound _
      _ ≤ 2 ^ 16 + 2 ^ 16 * 2 ^ 16 * (2 ^ 32 - 1) := by gcongr
      _ < 2 ^ 64 := by norm_num

/-- Below 512 KB nothing wraps: the sums are those of the natural numbers. -/
theorem checksum_is_exact {memory : Memory} {data64 sizeInBytes : Nat}
    (small : sizeInBytes < 2 ^ 19) :
    ∃ checksum first second,
      CalculateAdlerChecksum memory data64 sizeInBytes = some checksum ∧
        first = lane (fun i => memory (data64 + i)) 0 (pairCount sizeInBytes) ∧
        second = lane (fun i => memory (data64 + i)) 1 (pairCount sizeInBytes) ∧
        checksum.a1.toNat = 1 + first.sum ∧
        checksum.b1.toNat = first.length + RunningSums.prefixSum first ∧
        checksum.a2.toNat = 1 + second.sum ∧
        checksum.b2.toNat = second.length + RunningSums.prefixSum second := by
  have accepted : ¬ maxWords < sizeInBytes / 8 := by
    rw [maxWords]
    omega
  have short : ∀ parity, (lane (fun i => memory (data64 + i)) parity
      (pairCount sizeInBytes)).length ≤ 2 ^ 16 := by
    intro parity
    rw [length_lane, pairCount]
    omega
  obtain ⟨first, second⟩ := sumPairs_sums (fun i => memory (data64 + i)) (pairCount sizeInBytes)
  obtain ⟨plain, prefixes⟩ := first.exact (lane_lt _ 0 _) (short 0)
  obtain ⟨otherPlain, otherPrefixes⟩ := second.exact (lane_lt _ 1 _) (short 1)
  exact ⟨_, _, _, if_neg accepted, rfl, rfl, plain, prefixes, otherPlain, otherPrefixes⟩

theorem checksum_of_a_block_is_exact :
    ∃ checksum first second,
      CalculateAdlerChecksum (fun _ => 5) 0 4096 = some checksum ∧
        first = lane (fun _ => 5) 0 (pairCount 4096) ∧
        second = lane (fun _ => 5) 1 (pairCount 4096) ∧
        checksum.a1.toNat = 1 + first.sum ∧
        checksum.b1.toNat = first.length + RunningSums.prefixSum first ∧
        checksum.a2.toNat = 1 + second.sum ∧
        checksum.b2.toNat = second.length + RunningSums.prefixSum second :=
  checksum_is_exact (by norm_num)

end AmebaTests.Stressapptest
