/-
The cache coherency threads, one on each processor.

Each thread counts in a byte of its own in every line and compares the sum with
the number of its increments.  The bytes of different threads lie side by side,
so that a processor with a stale line would lose an increment.
-/

import Mathlib.Data.BitVec
import Mathlib.Algebra.BigOperators.Group.Finset.Piecewise
import Mathlib.Tactic.LinearCombination
import Mathlib.Tactic.Ring
import AmebaTests.Foundation.Runs

namespace AmebaTests.Stressapptest

open Foundation

/-! ### The threads and their bytes -/

/-- What the threads are made with.  The option for the increments is not checked. -/
structure CoherencyTest where
  numCpus : Nat
  cachelineCount : Nat
  lineSize : Nat
  incCount : Int
  errorInjection : Bool
  charSigned : Bool
  lines : 0 < cachelineCount
  bytes : 0 < lineSize

inductive CoherencyPhase
  | counting (i : Nat)
  | incrementing (i clineNum : Nat) (num : BitVec 8)
  | summing (clineNum : Nat) (globalNum : BitVec 32)
  | resetting (clineNum : Nat) (globalNum : BitVec 32)
  deriving DecidableEq, Repr

structure CoherencyThread where
  r : BitVec 64
  phase : CoherencyPhase
  errorcount : Nat
  rounds : Nat
  deriving DecidableEq, Repr

/-- The array behind all lines, and the threads. -/
structure Coherency (test : CoherencyTest) where
  memory : Nat → BitVec 8
  threads : Fin test.numCpus → CoherencyThread

/-- A thread takes its next step, or a byte of memory is spoilt. -/
inductive CoherencyEvent (test : CoherencyTest)
  | access (thread : Fin test.numCpus)
  | fault (address : Nat) (num : BitVec 8)

def kRandomPolynomial : BitVec 64 := 0xD800000000000000#64

def simpleRandom (seed : BitVec 64) : BitVec 64 :=
  seed >>> 1 ^^^ (-(seed &&& 1#64) &&& kRandomPolynomial)

namespace CoherencyTest

variable (test : CoherencyTest)

def neededLines : Nat := (test.numCpus + test.lineSize - 1) / test.lineSize

/-- The bytes of a line, which are whole cache lines. -/
def stride : Nat := test.lineSize * test.neededLines

/-- The bytes `posix_memalign` is asked for, which are multiplied as `int`s and wrap. -/
def allocated : Int :=
  (BitVec.ofNat 32 test.lineSize * BitVec.ofNat 32 test.neededLines *
    BitVec.ofNat 32 test.cachelineCount).toInt

/-- The order is reversed for odd threads in odd lines. -/
def offset (threadNum clineNum : Nat) : Nat :=
  if clineNum &&& threadNum &&& 1 ≠ 0 then test.numCpus - test.numCpus % 2 - threadNum
  else threadNum

def cell (threadNum clineNum : Nat) : Nat :=
  clineNum * test.stride + test.offset threadNum clineNum

/-- A `char` as an `int`. -/
def widen (num : BitVec 8) : BitVec 32 :=
  if test.charSigned then num.signExtend 32 else num.setWidth 32

/-- The comparison after a round. -/
def mismatch (globalNum : BitVec 32) : Bool :=
  (if test.errorInjection then -1#32 else globalNum) &&& 0xff#32 !=
    BitVec.ofInt 32 test.incCount &&& 0xff#32

end CoherencyTest

/-- One access of a thread to its bytes, which are read and written through `own`. -/
def CoherencyThread.next (test : CoherencyTest) (own : Nat → BitVec 8)
    (thread : CoherencyThread) : CoherencyThread × Option (Nat × BitVec 8) :=
  match thread.phase with
  | .counting i =>
      if (i : Int) < test.incCount then
        let r := simpleRandom thread.r
        let clineNum := r.toNat % test.cachelineCount
        ({ thread with r := r, phase := .incrementing i clineNum (own clineNum) }, none)
      else ({ thread with phase := .summing 0 0#32 }, none)
  | .incrementing i clineNum num =>
      ({ thread with phase := .counting (i + 1) }, some (clineNum, num + 1#8))
  | .summing clineNum globalNum =>
      if clineNum < test.cachelineCount then
        ({ thread with
          phase := .resetting clineNum (globalNum + test.widen (own clineNum)) }, none)
      else
        ({ thread with
          phase := .counting 0
          errorcount := thread.errorcount + (test.mismatch globalNum).toNat
          rounds := thread.rounds + 1 }, none)
  | .resetting clineNum globalNum =>
      ({ thread with phase := .summing (clineNum + 1) globalNum }, some (clineNum, 0#8))

namespace Coherency

variable {test : CoherencyTest}

def own (state : Coherency test) (thread : Fin test.numCpus) (clineNum : Nat) : BitVec 8 :=
  state.memory (test.cell thread clineNum)

/-- The state with what a thread has become and what it has written. -/
def access (state : Coherency test) (thread : Fin test.numCpus)
    (result : CoherencyThread × Option (Nat × BitVec 8)) : Coherency test where
  memory :=
    match result.2 with
    | none => state.memory
    | some (clineNum, num) => Function.update state.memory (test.cell thread clineNum) num
  threads := Function.update state.threads thread result.1

def step (state : Coherency test) : CoherencyEvent test → Option (Coherency test)
  | .access thread =>
      some (state.access thread ((state.threads thread).next test (state.own thread)))
  | .fault address num => some { state with memory := Function.update state.memory address num }

/-- What `memset` and the constructors leave. -/
structure Initial (state : Coherency test) : Prop where
  zero : ∀ clineNum < test.cachelineCount, ∀ place < test.numCpus,
    state.memory (clineNum * test.stride + place) = 0#8
  begin : ∀ thread, (state.threads thread).phase = .counting 0
  clean : ∀ thread, (state.threads thread).errorcount = 0 ∧ (state.threads thread).rounds = 0

end Coherency

/-! ### Where the bytes lie -/

namespace CoherencyTest

variable {test : CoherencyTest}

theorem numCpus_le_stride : test.numCpus ≤ test.stride := by
  have lines := Nat.div_add_mod (test.numCpus + test.lineSize - 1) test.lineSize
  have rest := Nat.mod_lt (test.numCpus + test.lineSize - 1) test.bytes
  rw [stride, neededLines]
  omega

theorem reversed_iff {clineNum threadNum : Nat} :
    clineNum &&& threadNum &&& 1 ≠ 0 ↔ clineNum % 2 = 1 ∧ threadNum % 2 = 1 := by
  rw [Nat.and_one_is_mod, ← Nat.and_mod_two_eq_one]
  omega

theorem offset_lt {threadNum : Nat} (inside : threadNum < test.numCpus) (clineNum : Nat) :
    test.offset threadNum clineNum < test.numCpus := by
  unfold offset
  split
  · next reversed =>
      have odd := (reversed_iff.mp reversed).2
      omega
  · exact inside

/-- No two threads share a byte of a line. -/
theorem offset_injective {first second clineNum : Nat} (one : first < test.numCpus)
    (other : second < test.numCpus)
    (same : test.offset first clineNum = test.offset second clineNum) : first = second := by
  simp only [offset, reversed_iff] at same
  split at same <;> split at same <;> omega

theorem cell_injective {first second line line' : Nat} (one : first < test.numCpus)
    (other : second < test.numCpus) (same : test.cell first line = test.cell second line') :
    first = second ∧ line = line' := by
  have below := Nat.lt_of_lt_of_le (offset_lt one line) numCpus_le_stride
  have below' := Nat.lt_of_lt_of_le (offset_lt other line') numCpus_le_stride
  have lines : line = line' := by
    have quotient := congrArg (· / test.stride) same
    simp only [cell, Nat.mul_comm _ test.stride] at quotient
    rwa [Nat.mul_add_div (by omega), Nat.mul_add_div (by omega), Nat.div_eq_of_lt below,
      Nat.div_eq_of_lt below'] at quotient
  subst lines
  exact ⟨offset_injective one other (Nat.add_left_cancel same), rfl⟩

theorem cell_lt {threadNum clineNum : Nat} (inside : threadNum < test.numCpus)
    (line : clineNum < test.cachelineCount) :
    test.cell threadNum clineNum < test.stride * test.cachelineCount := by
  have below := Nat.lt_of_lt_of_le (offset_lt inside clineNum) numCpus_le_stride
  calc
    test.cell threadNum clineNum < clineNum * test.stride + test.stride :=
      Nat.add_lt_add_left below _
    _ = test.stride * (clineNum + 1) := by rw [Nat.mul_succ, Nat.mul_comm]
    _ ≤ test.stride * test.cachelineCount := Nat.mul_le_mul_left _ line

theorem allocated_eq_bmod :
    test.allocated = ((test.stride * test.cachelineCount : Nat) : Int).bmod (2 ^ 32) := by
  rw [allocated, ← BitVec.ofNat_mul, ← BitVec.ofNat_mul, BitVec.toInt_ofNat', stride]

theorem allocated_eq (fits : test.stride * test.cachelineCount < 2 ^ 31) :
    test.allocated = (test.stride * test.cachelineCount : Nat) := by
  rw [allocated_eq_bmod, Int.bmod_def]
  omega

/-- Every byte a thread uses is in the allocated array, unless the product wraps: then the
first byte of the last line is behind the array. -/
theorem cells_allocated_iff (cpus : 0 < test.numCpus) (line : test.stride < 2 ^ 31) :
    (∀ threadNum < test.numCpus, ∀ clineNum < test.cachelineCount,
      (test.cell threadNum clineNum : Int) < test.allocated) ↔
    test.stride * test.cachelineCount < 2 ^ 31 := by
  constructor
  · intro inside
    by_contra wraps
    have last := inside 0 cpus (test.cachelineCount - 1) (by have := test.lines; omega)
    have start : test.cell 0 (test.cachelineCount - 1) =
        test.stride * test.cachelineCount - test.stride := by
      rw [cell, offset, Nat.and_zero, Nat.zero_and, if_neg (by simp), Nat.add_zero,
        Nat.sub_one_mul, Nat.mul_comm]
    rw [start, allocated_eq_bmod, Int.bmod_def] at last
    omega
  · intro fits threadNum thread clineNum inside
    rw [allocated_eq fits]
    exact_mod_cast cell_lt thread inside

example : CoherencyTest.allocated
    { numCpus := 1, cachelineCount := 67108865, lineSize := 64, incCount := 1000
      errorInjection := false, charSigned := false, lines := by decide, bytes := by decide } =
    64 := by
  decide

/-! ### What a round is off by -/

theorem widen_low (num : BitVec 8) : (test.widen num).setWidth 8 = num := by
  unfold widen
  split
  · ext i inside
    simp [inside, BitVec.getLsbD_signExtend]
    omega
  · rw [BitVec.setWidth_setWidth_of_le _ (by decide), BitVec.setWidth_eq]

theorem low_byte {first second : BitVec 32} :
    first &&& 0xff#32 = second &&& 0xff#32 ↔ first.setWidth 8 = second.setWidth 8 := by
  rw [← BitVec.toNat_inj, ← BitVec.toNat_inj, BitVec.toNat_and, BitVec.toNat_and]
  have mask : ∀ x : Nat, x &&& (0xff#32).toNat = x % 2 ^ 8 := fun x =>
    Nat.and_two_pow_sub_one_eq_mod x 8
  rw [mask, mask, BitVec.toNat_setWidth, BitVec.toNat_setWidth]

/-- The increments of a round, which are none for a negative option. -/
def increments (test : CoherencyTest) : BitVec 8 := BitVec.ofNat 8 test.incCount.toNat

/-- The options under which the comparison is met by healthy memory. -/
def Silent (test : CoherencyTest) : Prop :=
  if test.errorInjection then test.incCount % 256 = 255
  else 0 ≤ test.incCount ∨ test.incCount % 256 = 0

instance : Decidable test.Silent := by
  unfold Silent
  infer_instance

theorem mismatch_iff {globalNum : BitVec 32} (counted : globalNum.setWidth 8 = test.increments) :
    test.mismatch globalNum = true ↔ ¬ test.Silent := by
  have low : ((BitVec.ofInt 32 test.incCount).setWidth 8).toNat = (test.incCount % 256).toNat := by
    rw [BitVec.toNat_setWidth, BitVec.toNat_ofInt]
    omega
  rw [mismatch, bne_iff_ne, ne_eq, low_byte, ← BitVec.toNat_inj, low, not_iff_not, Silent]
  split
  · have minus : ((-1#32).setWidth 8).toNat = 255 := rfl
    rw [minus]
    omega
  · rw [counted, increments, BitVec.toNat_ofNat]
    omega

/-- The count of a thread over its bytes in the first lines, as a byte. -/
def total (own : Nat → BitVec 8) (lines : Nat) : BitVec 8 :=
  ∑ clineNum ∈ Finset.range lines, own clineNum

theorem total_update {lines clineNum : Nat} (own : Nat → BitVec 8) (inside : clineNum < lines)
    (num : BitVec 8) :
    total (Function.update own clineNum num) lines + own clineNum = total own lines + num := by
  have member := Finset.mem_range.mpr inside
  rw [total, total, Finset.sum_update_of_mem member, ← Finset.add_sum_erase _ own member,
    Finset.sdiff_singleton_eq_erase, add_right_comm, add_comm num, add_right_comm]

theorem total_update_outside {lines clineNum : Nat} (own : Nat → BitVec 8)
    (outside : lines ≤ clineNum) (num : BitVec 8) :
    total (Function.update own clineNum num) lines = total own lines :=
  Finset.sum_congr rfl fun line member =>
    Function.update_of_ne (by have := Finset.mem_range.mp member; omega) ..

theorem total_succ (own : Nat → BitVec 8) (lines : Nat) :
    total own (lines + 1) = total own lines + own lines :=
  Finset.sum_range_succ ..

def Placed (test : CoherencyTest) : CoherencyPhase → Prop
  | .counting i => i ≤ test.incCount.toNat
  | .incrementing i clineNum _ => i < test.incCount.toNat ∧ clineNum < test.cachelineCount
  | .summing clineNum _ => clineNum ≤ test.cachelineCount
  | .resetting clineNum _ => clineNum < test.cachelineCount

/-- What the round of a thread will be off by, and what the next one is off by already:
the bytes that are reset do not count for this round any more. -/
def off (test : CoherencyTest) (own : Nat → BitVec 8) : CoherencyPhase → BitVec 8 × BitVec 8
  | .counting i => (total own test.cachelineCount - BitVec.ofNat 8 i, 0)
  | .incrementing i clineNum num =>
      (total own test.cachelineCount - own clineNum + num - BitVec.ofNat 8 i, 0)
  | .summing clineNum globalNum =>
      (total own test.cachelineCount - total own clineNum + globalNum.setWidth 8 - test.increments,
        total own clineNum)
  | .resetting clineNum globalNum =>
      (total own test.cachelineCount - total own (clineNum + 1) + globalNum.setWidth 8 -
        test.increments, total own clineNum)

theorem off_congr {phase : CoherencyPhase} (placed : test.Placed phase)
    {own own' : Nat → BitVec 8} (same : ∀ line < test.cachelineCount, own line = own' line) :
    test.off own phase = test.off own' phase := by
  have totals : ∀ lines ≤ test.cachelineCount, total own lines = total own' lines :=
    fun lines bound => Finset.sum_congr rfl fun line member =>
      same line (Nat.lt_of_lt_of_le (Finset.mem_range.mp member) bound)
  cases phase with
  | counting i => simp only [off, totals _ (Nat.le_refl _)]
  | incrementing i line num => simp only [off, totals _ (Nat.le_refl _), same line placed.2]
  | summing line globalNum => simp only [off, totals _ (Nat.le_refl _), totals line placed]
  | resetting line globalNum =>
      simp only [off, totals _ (Nat.le_refl _), totals (line + 1) placed,
        totals line (Nat.le_of_lt placed)]

/-- A spoilt byte counts for one of the two rounds only. -/
theorem off_fault {phase : CoherencyPhase} (placed : test.Placed phase) (own : Nat → BitVec 8)
    (clineNum : Nat) (num : BitVec 8) :
    (test.off (Function.update own clineNum num) phase).1 = (test.off own phase).1 ∨
      (test.off (Function.update own clineNum num) phase).2 = (test.off own phase).2 := by
  cases phase with
  | counting i => exact .inr rfl
  | incrementing i line read => exact .inr rfl
  | summing line globalNum =>
      change line ≤ test.cachelineCount at placed
      by_cases reset : clineNum < line
      · left
        have all := total_update own (Nat.lt_of_lt_of_le reset placed) num
        have below := total_update own reset num
        simp only [off]
        linear_combination all - below
      · exact .inr (total_update_outside own (Nat.le_of_not_lt reset) num)
  | resetting line globalNum =>
      change line < test.cachelineCount at placed
      by_cases reset : clineNum < line
      · left
        have all := total_update own (Nat.lt_trans reset placed) num
        have below := total_update own (Nat.lt_succ_of_lt reset) num
        simp only [off]
        linear_combination all - below
      · exact .inr (total_update_outside own (Nat.le_of_not_lt reset) num)

end CoherencyTest

/-! ### A step of one thread -/

namespace CoherencyThread

open CoherencyTest

variable {test : CoherencyTest} {own : Nat → BitVec 8} {thread after : CoherencyThread}

/-- The bytes of a thread after its write. -/
def stored (own : Nat → BitVec 8) : Option (Nat × BitVec 8) → Nat → BitVec 8
  | none => own
  | some (clineNum, num) => Function.update own clineNum num

/-- The thread is in the same round, which is off by as much as before. -/
structure Goes (test : CoherencyTest) (own own' : Nat → BitVec 8)
    (thread after : CoherencyThread) : Prop where
  off : test.off own' after.phase = test.off own thread.phase
  errors : after.errorcount = thread.errorcount
  rounds : after.rounds = thread.rounds

/-- The thread has compared its sum, and what the next round was off by is now what this
one is off by. -/
structure Compares (test : CoherencyTest) (own own' : Nat → BitVec 8)
    (thread after : CoherencyThread) (globalNum : BitVec 32) : Prop where
  compared : globalNum.setWidth 8 - test.increments = (test.off own thread.phase).1
  off : test.off own' after.phase = ((test.off own thread.phase).2, 0)
  errors : after.errorcount = thread.errorcount + (test.mismatch globalNum).toNat
  rounds : after.rounds = thread.rounds + 1

theorem next_inside (placed : test.Placed thread.phase) {clineNum : Nat} {num : BitVec 8}
    (writes : (thread.next test own).2 = some (clineNum, num)) :
    clineNum < test.cachelineCount := by
  unfold CoherencyThread.next at writes
  cases phase : thread.phase with
  | counting i =>
      simp only [phase] at writes
      split at writes <;> cases writes
  | incrementing i line read =>
      simp only [phase, Placed] at writes placed
      cases writes
      exact placed.2
  | summing line globalNum =>
      simp only [phase] at writes
      split at writes <;> cases writes
  | resetting line globalNum =>
      simp only [phase, Placed] at writes placed
      cases writes
      exact placed

/-- What a thread does alone, one case for each phase. -/
theorem next_cases (placed : test.Placed thread.phase) :
    test.Placed (thread.next test own).1.phase ∧
      (Goes test own (stored own (thread.next test own).2) thread (thread.next test own).1 ∨
        ∃ globalNum, Compares test own (stored own (thread.next test own).2) thread
          (thread.next test own).1 globalNum) := by
  cases phase : thread.phase with
  | counting i =>
      simp only [phase, Placed] at placed
      by_cases more : (i : Int) < test.incCount
      · simp only [CoherencyThread.next, phase, if_pos more, stored]
        refine ⟨⟨by omega, Nat.mod_lt _ test.lines⟩, .inl ⟨?_, rfl, rfl⟩⟩
        simp only [phase, CoherencyTest.off, sub_add_cancel]
      · simp only [CoherencyThread.next, phase, if_neg more, stored]
        refine ⟨Nat.zero_le _, .inl ⟨?_, rfl, rfl⟩⟩
        have all : test.increments = BitVec.ofNat 8 i := by
          rw [increments]
          congr
          omega
        have none : total own 0 = 0 := Finset.sum_range_zero _
        have zero : (0#32).setWidth 8 = 0 := rfl
        simp only [phase, CoherencyTest.off, all, none, zero, sub_zero, add_zero]
  | incrementing i clineNum num =>
      simp only [phase, Placed] at placed
      simp only [CoherencyThread.next, phase, stored]
      refine ⟨placed.1, .inl ⟨?_, rfl, rfl⟩⟩
      have changed := total_update own placed.2 (num + 1#8)
      simp only [phase, CoherencyTest.off, BitVec.ofNat_add, Prod.mk.injEq, and_true]
      linear_combination changed
  | summing clineNum globalNum =>
      simp only [phase, Placed] at placed
      by_cases more : clineNum < test.cachelineCount
      · simp only [CoherencyThread.next, phase, if_pos more, stored]
        refine ⟨more, .inl ⟨?_, rfl, rfl⟩⟩
        simp only [phase, CoherencyTest.off, BitVec.setWidth_add _ _ (by decide : 8 ≤ 32),
          widen_low, total_succ, Prod.mk.injEq, and_true]
        ring
      · simp only [CoherencyThread.next, phase, if_neg more, stored]
        have all : clineNum = test.cachelineCount := by omega
        refine ⟨Nat.zero_le _, .inr ⟨globalNum, ?_, ?_, rfl, rfl⟩⟩
        · simp only [phase, CoherencyTest.off, all, sub_self, zero_add]
        · simp only [phase, CoherencyTest.off, all, Prod.mk.injEq, and_true]
          exact sub_zero _
  | resetting clineNum globalNum =>
      simp only [phase, Placed] at placed
      simp only [CoherencyThread.next, phase, stored]
      refine ⟨placed, .inl ⟨?_, rfl, rfl⟩⟩
      have changed := total_update own placed 0
      have zero : (0#8 : BitVec 8) = 0 := rfl
      simp only [phase, CoherencyTest.off, total_succ, Function.update_self,
        total_update_outside own (Nat.le_refl _), zero, add_zero, Prod.mk.injEq, and_true]
      linear_combination changed

/-- The rounds that are off, of this one and the next. -/
def pending (off : BitVec 8 × BitVec 8) : Nat :=
  (decide (off.1 ≠ 0)).toNat + (decide (off.2 ≠ 0)).toNat

theorem pending_change {before after : BitVec 8 × BitVec 8}
    (one : after.1 = before.1 ∨ after.2 = before.2) : pending after ≤ pending before + 1 := by
  have first := Bool.toNat_le (decide (after.1 ≠ 0))
  have second := Bool.toNat_le (decide (after.2 ≠ 0))
  rcases one with same | same
  · rw [pending, pending, same]
    omega
  · rw [pending, pending, same]
    omega

/-- An error is reported for a round that was off. -/
theorem Compares.pending_le {own' : Nat → BitVec 8} {globalNum : BitVec 32}
    (compares : Compares test own own' thread after globalNum) (silent : test.Silent) :
    after.errorcount + pending (test.off own' after.phase) ≤
      thread.errorcount + pending (test.off own thread.phase) := by
  have raised : (test.mismatch globalNum).toNat ≤
      (decide ((test.off own thread.phase).1 ≠ 0)).toNat := by
    by_cases met : globalNum.setWidth 8 = test.increments
    · have mismatch : test.mismatch globalNum = false :=
        Bool.eq_false_iff.mpr fun raised => (mismatch_iff met).mp raised silent
      rw [mismatch]
      exact Nat.zero_le _
    · rw [← compares.compared, decide_eq_true (sub_ne_zero.mpr met)]
      exact Bool.toNat_le _
  rw [compares.errors, compares.off, pending, pending]
  simp only [ne_eq, not_true_eq_false, decide_false, Bool.toNat_false]
  simp only [ne_eq] at raised
  omega

/-- While no byte was spoilt, errors are what the options make them. -/
structure Right (test : CoherencyTest) (own : Nat → BitVec 8) (thread : CoherencyThread) :
    Prop where
  off : test.off own thread.phase = (0, 0)
  errors : thread.errorcount = if test.Silent then 0 else thread.rounds

theorem Compares.right {own' : Nat → BitVec 8} {globalNum : BitVec 32}
    (compares : Compares test own own' thread after globalNum) (right : thread.Right test own) :
    after.Right test own' := by
  constructor
  · rw [compares.off, right.off]
  · have mismatch := mismatch_iff (sub_eq_zero.mp (compares.compared.trans (by rw [right.off])))
    rw [compares.errors, compares.rounds, right.errors]
    by_cases silent : test.Silent
    · have met := Bool.eq_false_iff.mpr fun raised => mismatch.mp raised silent
      rw [met, if_pos silent, if_pos silent]
      rfl
    · rw [mismatch.mpr silent, if_neg silent, if_neg silent]
      rfl

end CoherencyThread

/-! ### Whole runs -/

namespace Coherency

open CoherencyTest CoherencyThread

variable {test : CoherencyTest} {state start successor : Coherency test}

/-- A thread sees its own write, and the write of no other thread. -/
theorem own_access (thread other : Fin test.numCpus)
    (result : CoherencyThread × Option (Nat × BitVec 8)) :
    (state.access thread result).own other =
      if other = thread then stored (state.own thread) result.2 else state.own other := by
  obtain ⟨after, written⟩ := result
  cases written with
  | none =>
      split
      · next same =>
          rw [same]
          rfl
      · rfl
  | some access =>
      obtain ⟨clineNum, num⟩ := access
      funext line
      change Function.update state.memory (test.cell thread clineNum) num (test.cell other line) = _
      split
      · next same =>
          rw [same]
          change _ = Function.update (state.own thread) clineNum num line
          by_cases here : line = clineNum
          · rw [here, Function.update_self, Function.update_self]
          · rw [Function.update_of_ne here, Function.update_of_ne]
            · rfl
            · exact fun address => here (cell_injective thread.isLt thread.isLt address).2
      · next different =>
          rw [Function.update_of_ne]
          · rfl
          · exact fun address =>
              different (Fin.ext (cell_injective other.isLt thread.isLt address).1)

theorem outside_access (thread : Fin test.numCpus)
    {result : CoherencyThread × Option (Nat × BitVec 8)}
    (inside : ∀ clineNum num, result.2 = some (clineNum, num) → clineNum < test.cachelineCount)
    {address : Nat} (behind : test.stride * test.cachelineCount ≤ address) :
    (state.access thread result).memory address = state.memory address := by
  obtain ⟨after, written⟩ := result
  cases written with
  | none => rfl
  | some access =>
      obtain ⟨clineNum, num⟩ := access
      have below := cell_lt thread.isLt (inside clineNum num rfl)
      exact Function.update_of_ne (by omega) ..

/-- Whether this byte is one of a thread's. -/
def Hits (test : CoherencyTest) (thread : Fin test.numCpus) (address : Nat) : Prop :=
  ∃ line < test.cachelineCount, test.cell thread line = address

instance (thread : Fin test.numCpus) (address : Nat) : Decidable (Hits test thread address) := by
  unfold Hits
  infer_instance

/-- The faults of a run that spoilt a byte of a thread. -/
def faults (thread : Fin test.numCpus) (history : History (Coherency test) (CoherencyEvent test)) :
    Nat :=
  history.countP fun entry =>
    match entry.2 with
    | .access _ => false
    | .fault address _ => decide (Hits test thread address)

variable {history : History (Coherency test) (CoherencyEvent test)}

/-- Each thread by itself. -/
structure Kept (history : History (Coherency test) (CoherencyEvent test))
    (state : Coherency test) (thread : Fin test.numCpus) : Prop where
  placed : test.Placed (state.threads thread).phase
  bounded : test.Silent → (state.threads thread).errorcount +
    pending (test.off (state.own thread) (state.threads thread).phase) ≤ faults thread history
  right : faults thread history = 0 → (state.threads thread).Right test (state.own thread)

theorem Initial.kept (initial : start.Initial) (thread : Fin test.numCpus) :
    Kept [] start thread := by
  have right : (start.threads thread).Right test (start.own thread) := by
    constructor
    · have zero : total (start.own thread) test.cachelineCount = 0 :=
        Finset.sum_eq_zero fun line member =>
          initial.zero line (Finset.mem_range.mp member) _ (offset_lt thread.isLt line)
      rw [initial.begin thread, CoherencyTest.off, zero]
      rfl
    · rw [(initial.clean thread).1, (initial.clean thread).2, ite_self]
  constructor
  · rw [initial.begin thread]
    exact Nat.zero_le _
  · intro _
    rw [right.off, (initial.clean thread).1]
    exact Nat.le_refl _
  · exact fun _ => right

theorem Kept.access {thread : Fin test.numCpus} (kept : Kept history state thread)
    (stepping : Fin test.numCpus) :
    Kept ((state, .access stepping) :: history)
      (state.access stepping ((state.threads stepping).next test (state.own stepping))) thread := by
  have same : faults thread ((state, .access stepping) :: history) = faults thread history :=
    List.countP_cons_of_neg (by simp)
  by_cases own : thread = stepping
  · subst own
    obtain ⟨placed, goes⟩ := @CoherencyThread.next_cases test (state.own thread) _ kept.placed
    have becomes : (state.access thread ((state.threads thread).next test
        (state.own thread))).threads thread =
        ((state.threads thread).next test (state.own thread)).1 := Function.update_self ..
    have sees := @own_access test state thread thread
      ((state.threads thread).next test (state.own thread))
    rw [if_pos rfl] at sees
    constructor
    · rw [becomes]
      exact placed
    · intro silent
      rw [becomes, sees, same]
      rcases goes with goes | ⟨globalNum, compares⟩
      · rw [goes.errors, goes.off]
        exact kept.bounded silent
      · exact Nat.le_trans (compares.pending_le silent) (kept.bounded silent)
    · intro none
      rw [same] at none
      rw [becomes, sees]
      rcases goes with goes | ⟨globalNum, compares⟩
      · constructor
        · rw [goes.off]
          exact (kept.right none).off
        · rw [goes.errors, goes.rounds]
          exact (kept.right none).errors
      · exact compares.right (kept.right none)
  · have stays : (state.access stepping ((state.threads stepping).next test
        (state.own stepping))).threads thread = state.threads thread :=
      Function.update_of_ne own ..
    have sees := @own_access test state stepping thread
      ((state.threads stepping).next test (state.own stepping))
    rw [if_neg own] at sees
    constructor
    · rw [stays]
      exact kept.placed
    · rw [stays, sees, same]
      exact kept.bounded
    · rw [stays, sees, same]
      exact kept.right

/-- A fault in a byte of the thread can make one round more be off. -/
theorem Kept.fault {thread : Fin test.numCpus} (kept : Kept history state thread)
    (address : Nat) (num : BitVec 8) :
    Kept ((state, .fault address num) :: history)
      { state with memory := Function.update state.memory address num } thread := by
  by_cases hit : Hits test thread address
  · have more : faults thread ((state, .fault address num) :: history) =
        faults thread history + 1 := List.countP_cons_of_pos (by simp [hit])
    obtain ⟨line, inside, here⟩ := hit
    have sees : Coherency.own { state with memory := Function.update state.memory address num }
        thread = Function.update (state.own thread) line num := by
      funext other
      change Function.update state.memory address num (test.cell thread other) = _
      by_cases same : other = line
      · rw [same, here, Function.update_self, Function.update_self]
      · rw [Function.update_of_ne same, Function.update_of_ne]
        · rfl
        · exact fun equal =>
            same (cell_injective thread.isLt thread.isLt (equal.trans here.symm)).2
    refine ⟨kept.placed, fun silent => ?_, fun none => ?_⟩
    · rw [more, sees]
      have changed := pending_change (off_fault kept.placed (state.own thread) line num)
      have bounded := kept.bounded silent
      change (state.threads thread).errorcount +
        pending (test.off _ (state.threads thread).phase) ≤ _
      omega
    · rw [more] at none
      cases none
  · have same : faults thread ((state, .fault address num) :: history) = faults thread history :=
      List.countP_cons_of_neg (by simp [hit])
    have sees := @off_congr test (state.threads thread).phase kept.placed
      (Coherency.own { state with memory := Function.update state.memory address num } thread)
      (state.own thread) fun line inside =>
        Function.update_of_ne (fun equal => hit ⟨line, inside, equal⟩) ..
    refine ⟨kept.placed, fun silent => ?_, fun none => ⟨?_, ?_⟩⟩
    · rw [same, sees]
      exact kept.bounded silent
    · rw [sees]
      exact (kept.right (same.symm.trans none)).off
    · exact (kept.right (same.symm.trans none)).errors

theorem run_kept (initial : start.Initial) (run : Run Coherency.step start history state)
    (thread : Fin test.numCpus) : Kept history state thread := by
  refine run.invariant (fun history state => Kept history state thread) (initial.kept thread) ?_
  intro history state event successor _ kept taken
  cases event with
  | access stepping =>
      cases taken
      exact kept.access stepping
  | fault address num =>
      cases taken
      exact kept.fault address num

/-- A byte behind the array is what it was, unless it was spoilt. -/
theorem run_outside (initial : start.Initial) (run : Run Coherency.step start history state)
    {address : Nat} (behind : test.stride * test.cachelineCount ≤ address)
    (sound : ∀ entry ∈ history, ∀ num, entry.2 ≠ .fault address num) :
    state.memory address = start.memory address := by
  induction run with
  | start => rfl
  | @next history state successor event earlier taken ih =>
      have before := ih fun entry member => sound entry (List.mem_cons_of_mem _ member)
      cases event with
      | access stepping =>
          cases taken
          have placed := (run_kept initial earlier stepping).placed
          exact (outside_access stepping (fun _ _ => CoherencyThread.next_inside placed)
            behind).trans before
      | fault spoilt num =>
          cases taken
          have other : address ≠ spoilt := fun same =>
            sound _ List.mem_cons_self num (by rw [same])
          exact (Function.update_of_ne other ..).trans before

/-- A thread whose bytes were not spoilt finds no error, unless the options make it find
one in each round; else the faults are not fewer than the errors.  Nothing behind the
allocated array is written. -/
theorem coherency_errors (fits : test.stride * test.cachelineCount < 2 ^ 31)
    (initial : start.Initial) (run : Run Coherency.step start history state) :
    (∀ thread, faults thread history = 0 → (state.threads thread).errorcount =
      if test.Silent then 0 else (state.threads thread).rounds) ∧
    (test.Silent → ∀ thread, (state.threads thread).errorcount ≤ faults thread history) ∧
    ∀ address : Nat, test.allocated ≤ address →
      (∀ entry ∈ history, ∀ num, entry.2 ≠ .fault address num) →
        state.memory address = start.memory address := by
  refine ⟨fun thread none => ((run_kept initial run thread).right none).errors, ?_, ?_⟩
  · intro silent thread
    exact Nat.le_trans (Nat.le_add_right _ _) ((run_kept initial run thread).bounded silent)
  · intro address behind sound
    rw [allocated_eq fits] at behind
    exact run_outside initial run (by omega) sound

/-- Three processors and a count of minus one, which the options accept. -/
def negativeTest : CoherencyTest where
  numCpus := 3
  cachelineCount := 2
  lineSize := 64
  incCount := -1
  errorInjection := false
  charSigned := false
  lines := by decide
  bytes := by decide

/-- A round without an increment is reported, whatever another thread's byte becomes. -/
theorem negative_count_is_an_error : ∃ history, ∃ start state : Coherency negativeTest,
    Run Coherency.step start history state ∧
      @faults negativeTest (1 : Fin 3) history = 0 ∧
      (state.threads (1 : Fin 3)).rounds = 1 ∧
      (∀ thread, faults thread history = 0 → (state.threads thread).errorcount =
        if negativeTest.Silent then 0 else (state.threads thread).rounds) ∧
      (negativeTest.Silent → ∀ thread, (state.threads thread).errorcount ≤ faults thread history) ∧
      ∀ address : Nat, negativeTest.allocated ≤ address →
        (∀ entry ∈ history, ∀ num, entry.2 ≠ .fault address num) →
          state.memory address = start.memory address := by
  let start : Coherency negativeTest := ⟨fun _ => 0, fun _ => ⟨1, .counting 0, 0, 0⟩⟩
  have initial : start.Initial := ⟨fun _ _ _ _ => rfl, fun _ => rfl, fun _ => ⟨rfl, rfl⟩⟩
  let one : CoherencyEvent negativeTest := .access (1 : Fin 3)
  have first := @Run.next _ _ Coherency.step start _ _ _ one .start rfl
  have second := @Run.next _ _ Coherency.step start _ _ _ (.fault 0 7) first rfl
  have third := @Run.next _ _ Coherency.step start _ _ _ one second rfl
  have fourth := @Run.next _ _ Coherency.step start _ _ _ one third rfl
  have fifth := @Run.next _ _ Coherency.step start _ _ _ one fourth rfl
  have sixth := @Run.next _ _ Coherency.step start _ _ _ one fifth rfl
  have run := @Run.next _ _ Coherency.step start _ _ _ one sixth rfl
  exact ⟨_, start, _, run, rfl, rfl, coherency_errors (by decide) initial run⟩

end Coherency

end AmebaTests.Stressapptest
