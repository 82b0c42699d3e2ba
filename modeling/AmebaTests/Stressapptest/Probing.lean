/-
The order in which `FineLockPEQueue` probes its pages.

The constructor builds a linear congruential generator for the size of the
queue, and `GetRandomWithPredicateTag` follows it from a random offset.  The
multiplier is one more than the product of the primes of the modulus, the
increment a prime near three quarters of it.  A modulus whose multiplier comes
out as one is replaced by the next larger one that does better, and the results
beyond the queue are discarded.
-/

import Mathlib.Data.Nat.Squarefree
import Mathlib.NumberTheory.Bertrand
import Mathlib.RingTheory.Radical.NatInt
import AmebaTests.Foundation.Congruential

namespace AmebaTests.Stressapptest

open Foundation.Congruential

/-- The `while` of `getA`: keep dividing `i` out of what remains. -/
def divideOut (i : Nat) : Nat → Nat → Nat
  | 0, remaining => remaining
  | fuel + 1, remaining =>
      if remaining / i * i = remaining then divideOut i fuel (remaining / i) else remaining

/-- One candidate of the `for` of `getA`, on what remains and the product so far. -/
def tryFactor (state : Nat × Nat) (i : Nat) : Nat × Nat :=
  if state.1 / i * i = state.1 then
    (divideOut i (state.1 / i) (state.1 / i), state.2 * i)
  else state

/-- The product that `getA` has collected when its loop ends. -/
def factorProduct (m : Nat) : Nat :=
  ((List.range' 2 (m - 1)).foldl tryFactor (m, if m / 4 * 4 = m then 2 else 1)).2

def getA (m : Nat) : Nat :=
  (factorProduct m + 1) % m

/-- The inner loop of `getC`: no `i` from two on divides the candidate. -/
def trialPrime (candidate : Nat) : Bool :=
  (List.range' 2 (candidate - 2)).all fun i => candidate / i * i != candidate

/-- The outer loop of `getC`, which counts down to two. -/
def primeBelow : Nat → Nat
  | 0 | 1 => 1
  | candidate + 2 =>
      if trialPrime (candidate + 2) then candidate + 2 else primeBelow (candidate + 1)

def getC (m : Nat) : Nat :=
  primeBelow (3 * m / 4 + 1)

structure Generator where
  a : Nat
  c : Nat
  modlength : Nat
  deriving DecidableEq, Repr

/-- The `while (a == 1)` of the constructor. -/
def nontrivialModulus : Nat → Nat → Option Nat
  | 0, _ => none
  | fuel + 1, modlength =>
      if getA modlength % modlength = 1 then nontrivialModulus fuel (modlength + 1)
      else some modlength

/-- The generator the constructor leaves in `a_`, `c_` and `modlength_`.  Every
eighth modulus ends its search. -/
def makeGenerator (queuesize : Nat) : Option Generator :=
  if queuesize < 3 then
    some ⟨1, 1, queuesize⟩
  else do
    let modlength ← nontrivialModulus 8 queuesize
    return ⟨getA modlength % modlength, getC modlength, modlength⟩

namespace Generator

/-- The 64-bit update of `next_try`. -/
def nextTry (generator : Generator) (tried : Nat) : Nat :=
  (generator.a * tried + generator.c) % 2 ^ 64 % generator.modlength

/-- The update with the discarding of results beyond the queue. -/
def advance (generator : Generator) (qSize tried : Nat) : Option Nat :=
  discard generator.nextTry (fun next => decide (next < qSize)) generator.modlength
    (generator.nextTry tried)

/-- The values of `next_try` in the iterations of the search. -/
def tries (generator : Generator) (qSize : Nat) : Option (List Nat) :=
  walk generator.nextTry (fun next => decide (next < qSize)) generator.modlength qSize 1

/-- The pages the search looks at, in order, when no page satisfies it. -/
def indices (generator : Generator) (qSize firstTry : Nat) : Option (List Nat) :=
  (generator.tries qSize).map fun tried =>
    tried.map fun next => (next + firstTry) % 2 ^ 64 % qSize

end Generator

/-! ### The factors -/

section Factors

theorem div_mul_eq_iff (i n : Nat) : n / i * i = n ↔ i ∣ n :=
  ⟨fun equal => ⟨n / i, by rw [Nat.mul_comm, equal]⟩, Nat.div_mul_cancel⟩

theorem divideOut_dvd (i fuel remaining : Nat) : divideOut i fuel remaining ∣ remaining := by
  induction fuel generalizing remaining with
  | zero => exact dvd_rfl
  | succ fuel ih =>
      rw [divideOut]
      split
      · exact (ih (remaining / i)).trans (Nat.div_dvd_of_dvd ((div_mul_eq_iff i _).mp ‹_›))
      · exact dvd_rfl

/-- A prime other than the candidate is not divided out. -/
theorem dvd_divideOut {i p : Nat} (prime : p.Prime) (other : ¬ p ∣ i) {fuel remaining : Nat}
    (divides : p ∣ remaining) : p ∣ divideOut i fuel remaining := by
  induction fuel generalizing remaining with
  | zero => exact divides
  | succ fuel ih =>
      rw [divideOut]
      split
      · rename_i whole
        rw [← whole] at divides
        exact ih ((prime.dvd_mul.mp divides).resolve_right other)
      · exact divides

theorem not_dvd_divideOut {i : Nat} (large : 2 ≤ i) {fuel remaining : Nat}
    (positive : 0 < remaining) (enough : remaining ≤ fuel) :
    ¬ i ∣ divideOut i fuel remaining := by
  induction fuel generalizing remaining with
  | zero => omega
  | succ fuel ih =>
      rw [divideOut]
      split
      · rename_i whole
        have divides := (div_mul_eq_iff i remaining).mp whole
        have below : remaining / i < remaining := Nat.div_lt_self positive large
        exact ih (Nat.div_pos (Nat.le_of_dvd positive divides) (by omega)) (by omega)
      · rwa [← div_mul_eq_iff]

/-- What the loop of `getA` knows once the candidates up to `last` are done. -/
structure Collected (m start last : Nat) (state : Nat × Nat) : Prop where
  positive : 0 < state.1
  divides : state.1 ∣ m
  stripped : ∀ p, p.Prime → p ≤ last → ¬ p ∣ state.1
  kept : ∀ p, p.Prime → last < p → p ∣ m → p ∣ state.1
  product : state.2 = start * ∏ p ∈ m.primeFactors.filter (· ≤ last), p

variable {m start last : Nat} {state : Nat × Nat}

/-- Only primes are collected: a composite candidate has lost its factors. -/
theorem Collected.dvd_iff (collected : Collected m start last state) (large : 1 ≤ last) :
    last + 1 ∣ state.1 ↔ (last + 1).Prime ∧ last + 1 ∣ m := by
  constructor
  · intro whole
    refine ⟨?_, whole.trans collected.divides⟩
    have least : (last + 1).minFac.Prime := Nat.minFac_prime (by omega)
    have divides := Nat.minFac_dvd (last + 1)
    rcases Nat.lt_or_ge (last + 1).minFac (last + 1) with smaller | whole_
    · exact absurd (divides.trans whole) (collected.stripped _ least (by omega))
    · rwa [Nat.le_antisymm (Nat.le_of_dvd (Nat.succ_pos last) divides) whole_] at least
  · intro ⟨prime, divides⟩
    exact collected.kept _ prime (Nat.lt_succ_self last) divides

theorem filter_succ_of_mem (member : last + 1 ∈ m.primeFactors) :
    m.primeFactors.filter (· ≤ last + 1) =
      insert (last + 1) (m.primeFactors.filter (· ≤ last)) := by
  ext p
  simp only [Finset.mem_filter, Finset.mem_insert]
  constructor
  · rintro ⟨factor, bound⟩
    rcases Nat.lt_or_eq_of_le bound with below | equal
    · exact .inr ⟨factor, by omega⟩
    · exact .inl equal
  · rintro (rfl | ⟨factor, bound⟩)
    · exact ⟨member, le_rfl⟩
    · exact ⟨factor, by omega⟩

theorem filter_succ_of_not_mem (absent : last + 1 ∉ m.primeFactors) :
    m.primeFactors.filter (· ≤ last + 1) = m.primeFactors.filter (· ≤ last) := by
  apply Finset.filter_congr
  intro p factor
  have differs : p ≠ last + 1 := fun equal => absent (equal ▸ factor)
  omega

theorem Collected.tryFactor (collected : Collected m start last state) (large : 1 ≤ last)
    (nonzero : m ≠ 0) : Collected m start (last + 1) (tryFactor state (last + 1)) := by
  have when_divides := collected.dvd_iff large
  rw [Stressapptest.tryFactor]
  split
  · rename_i whole
    have divides := (div_mul_eq_iff _ _).mp whole
    obtain ⟨prime, factor⟩ := when_divides.mp divides
    have quotient : 0 < state.1 / (last + 1) :=
      Nat.div_pos (Nat.le_of_dvd collected.positive divides) (Nat.succ_pos last)
    have remains : divideOut (last + 1) (state.1 / (last + 1)) (state.1 / (last + 1)) ∣ state.1 :=
      (divideOut_dvd _ _ _).trans (Nat.div_dvd_of_dvd divides)
    refine ⟨Nat.pos_of_dvd_of_pos remains collected.positive,
      remains.trans collected.divides, ?_, ?_, ?_⟩
    · intro p primeP bound inside
      rcases Nat.lt_or_eq_of_le bound with below | rfl
      · exact collected.stripped p primeP (by omega) (inside.trans remains)
      · exact not_dvd_divideOut primeP.two_le quotient le_rfl inside
    · intro p primeP above dividesM
      have other : ¬ p ∣ last + 1 := fun d => by
        have := Nat.le_of_dvd (Nat.succ_pos last) d
        omega
      apply dvd_divideOut primeP other
      have inside := collected.kept p primeP (by omega) dividesM
      rw [← whole] at inside
      exact (primeP.dvd_mul.mp inside).resolve_right other
    · have member : last + 1 ∈ m.primeFactors := Nat.mem_primeFactors.mpr ⟨prime, factor, nonzero⟩
      have fresh : last + 1 ∉ m.primeFactors.filter (· ≤ last) := by simp
      rw [filter_succ_of_mem member, Finset.prod_insert fresh]
      simp only [collected.product]
      ring
  · rename_i whole
    have not_factor : ¬ ((last + 1).Prime ∧ last + 1 ∣ m) := by
      rw [← when_divides, ← div_mul_eq_iff]
      exact whole
    have absent : last + 1 ∉ m.primeFactors := fun member =>
      not_factor ⟨Nat.prime_of_mem_primeFactors member, Nat.dvd_of_mem_primeFactors member⟩
    refine ⟨collected.positive, collected.divides, ?_, ?_, ?_⟩
    · intro p primeP bound inside
      rcases Nat.lt_or_eq_of_le bound with below | rfl
      · exact collected.stripped p primeP (by omega) inside
      · exact not_factor (when_divides.mp inside)
    · intro p primeP above
      exact collected.kept p primeP (by omega)
    · rw [filter_succ_of_not_mem absent]
      exact collected.product

theorem Collected.loop (start : Nat) {m : Nat} (positive : 0 < m) (count : Nat) :
    Collected m start (count + 1)
      ((List.range' 2 count).foldl Stressapptest.tryFactor (m, start)) := by
  induction count with
  | zero =>
      refine ⟨positive, dvd_rfl, ?_, fun _ _ _ divides => divides, ?_⟩
      · intro p prime bound
        exact absurd prime.two_le (by omega)
      · have none : m.primeFactors.filter (· ≤ 0 + 1) = ∅ := by
          apply Finset.filter_eq_empty_iff.mpr
          intro p factor
          have := (Nat.prime_of_mem_primeFactors factor).two_le
          omega
        rw [none, Finset.prod_empty, mul_one]
        rfl
  | succ count ih =>
      rw [List.range'_concat, List.foldl_append]
      have stepped := ih.tryFactor (by omega) positive.ne'
      simpa [Nat.add_comm, Nat.add_left_comm] using stepped

end Factors

/-! ### The multiplier -/

section Multiplier

open UniqueFactorizationMonoid (radical squarefree_radical radical_dvd_self)

variable {m : Nat}

theorem factorProduct_eq (positive : 0 < m) :
    factorProduct m = (if 4 ∣ m then 2 else 1) * radical m := by
  have collected := Collected.loop (if m / 4 * 4 = m then 2 else 1) positive (m - 1)
  have all : m.primeFactors.filter (· ≤ m - 1 + 1) = m.primeFactors := by
    apply Finset.filter_true_of_mem
    intro p factor
    have := Nat.le_of_mem_primeFactors factor
    omega
  rw [factorProduct, collected.product, all, Nat.radical_eq_prod_primeFactors]
  simp only [div_mul_eq_iff]

theorem radical_even (four : 4 ∣ m) (positive : 0 < m) :
    ∃ r, radical m = 2 * r ∧ Nat.Coprime 4 r := by
  have even : 2 ∣ m := dvd_trans (by decide) four
  obtain ⟨r, equal⟩ : 2 ∣ radical m := by
    rw [Nat.radical_eq_prod_primeFactors]
    exact Finset.dvd_prod_of_mem _
      (Nat.mem_primeFactors.mpr ⟨Nat.prime_two, even, positive.ne'⟩)
  have free : Squarefree (2 * r) := equal ▸ squarefree_radical
  have coprime : Nat.Coprime 2 r := (Nat.squarefree_mul_iff.mp free).1
  exact ⟨r, equal, Nat.Coprime.pow_left 2 coprime⟩

theorem factorProduct_dvd (positive : 0 < m) : factorProduct m ∣ m := by
  rw [factorProduct_eq positive]
  split
  · rename_i four
    obtain ⟨r, equal, coprime⟩ := radical_even four positive
    have inner : r ∣ m := (Dvd.intro_left 2 equal.symm).trans radical_dvd_self
    have both := coprime.mul_dvd_of_dvd_of_dvd four inner
    rwa [equal, ← mul_assoc]
  · rw [one_mul]
    exact radical_dvd_self

theorem factorProduct_pos (positive : 0 < m) : 0 < factorProduct m :=
  Nat.pos_of_dvd_of_pos (factorProduct_dvd positive) positive

theorem dvd_factorProduct (positive : 0 < m) {p : Nat} (prime : p.Prime) (divides : p ∣ m) :
    p ∣ factorProduct m := by
  rw [factorProduct_eq positive, Nat.radical_eq_prod_primeFactors]
  apply Dvd.dvd.mul_left
  exact Finset.dvd_prod_of_mem _ (Nat.mem_primeFactors.mpr ⟨prime, divides, positive.ne'⟩)

theorem four_dvd_factorProduct (positive : 0 < m) (four : 4 ∣ m) : 4 ∣ factorProduct m := by
  obtain ⟨r, equal, _⟩ := radical_even four positive
  rw [factorProduct_eq positive, if_pos four, equal, ← mul_assoc]
  exact Dvd.intro r rfl

theorem factorProduct_ne_of_eight (positive : 0 < m) (eight : 8 ∣ m) : factorProduct m ≠ m := by
  have four : 4 ∣ m := dvd_trans (by decide) eight
  obtain ⟨r, equal, coprime⟩ := radical_even four positive
  intro same
  rw [factorProduct_eq positive, if_pos four, equal, ← mul_assoc] at same
  have even : 2 ∣ r := by
    obtain ⟨k, rfl⟩ := eight
    exact ⟨k, by omega⟩
  have two : 2 ∣ Nat.gcd 4 r := Nat.dvd_gcd (by decide) even
  rw [coprime] at two
  exact absurd two (by decide)

/-- Twice a prime has no nontrivial generator. -/
theorem factorProduct_two_mul {p : Nat} (prime : p.Prime) : factorProduct (2 * p) = 2 * p := by
  have positive : 0 < 2 * p := Nat.mul_pos Nat.two_pos prime.pos
  rw [factorProduct_eq positive, Nat.radical_eq_prod_primeFactors]
  rcases prime.eq_two_or_odd' with rfl | odd
  · have primes : (2 * 2).primeFactors = {2} := by
      rw [show 2 * 2 = 2 ^ 2 from rfl, Nat.primeFactors_prime_pow two_ne_zero Nat.prime_two]
    rw [primes, Finset.prod_singleton]
    rfl
  · have coprime : Nat.Coprime 2 p := Nat.coprime_two_left.mpr odd
    have free : Squarefree (2 * p) := (Nat.squarefree_mul coprime).mpr
      ⟨Nat.prime_two.squarefree, prime.squarefree⟩
    have notFour : ¬ 4 ∣ 2 * p := by
      obtain ⟨k, rfl⟩ := odd
      omega
    rw [if_neg notFour, one_mul, Nat.prod_primeFactors_of_squarefree free]

/-- The multiplier is one exactly where the product is the modulus itself. -/
theorem getA_mod (large : 3 ≤ m) :
    getA m % m = if factorProduct m = m then 1 else factorProduct m + 1 := by
  have positive : 0 < m := by omega
  have divides := factorProduct_dvd positive
  rw [getA, Nat.mod_mod]
  split
  · rename_i whole
    rw [whole, Nat.add_mod_left, Nat.mod_eq_of_lt (by omega)]
  · rename_i proper
    obtain ⟨k, equal⟩ := divides
    have several : 2 ≤ k := by
      rcases Nat.lt_or_ge k 2 with small | several
      · interval_cases k
        · omega
        · exact absurd equal.symm (by rwa [mul_one])
      · exact several
    have half : factorProduct m * 2 ≤ m := by
      calc factorProduct m * 2 ≤ factorProduct m * k := Nat.mul_le_mul_left _ several
        _ = m := equal.symm
    exact Nat.mod_eq_of_lt (by omega)

end Multiplier

/-! ### The increment -/

section Increment

variable {m : Nat}

theorem trialPrime_iff {candidate : Nat} (large : 2 ≤ candidate) :
    trialPrime candidate = true ↔ candidate.Prime := by
  rw [trialPrime, List.all_eq_true]
  constructor
  · intro none
    by_contra composite
    have least := Nat.minFac_prime (n := candidate) (by omega)
    have below : candidate.minFac < candidate :=
      (Nat.not_prime_iff_minFac_lt large).mp composite
    have checked := none candidate.minFac
      (List.mem_range'_1.mpr ⟨least.two_le, by omega⟩)
    rw [bne_iff_ne, ne_eq, div_mul_eq_iff] at checked
    exact checked (Nat.minFac_dvd candidate)
  · intro prime i member
    obtain ⟨lower, upper⟩ := List.mem_range'_1.mp member
    rw [bne_iff_ne, ne_eq, div_mul_eq_iff]
    intro divides
    rcases (Nat.dvd_prime prime).mp divides with one | whole <;> omega

/-- The search comes down to a prime, and passes none on the way. -/
theorem primeBelow_spec {bound p : Nat} (prime : p.Prime) (below : p ≤ bound) :
    (primeBelow bound).Prime ∧ p ≤ primeBelow bound ∧ primeBelow bound ≤ bound := by
  induction bound with
  | zero => exact absurd prime.two_le (by omega)
  | succ bound ih =>
      cases bound with
      | zero => exact absurd prime.two_le (by omega)
      | succ candidate =>
          rw [primeBelow]
          split
          · rename_i passed
            exact ⟨(trialPrime_iff (by omega)).mp passed, below, le_rfl⟩
          · rename_i failed
            have differs : p ≠ candidate + 2 := by
              intro same
              exact failed ((trialPrime_iff (by omega)).mpr (same ▸ prime))
            obtain ⟨found, lower, upper⟩ := ih (by omega)
            exact ⟨found, lower, by omega⟩

/-- Only twice the increment could be a modulus that it divides. -/
theorem getC_coprime (large : 5 ≤ m) (nontrivial : factorProduct m ≠ m) :
    Nat.Coprime (getC m) m := by
  obtain ⟨p, prime, above, atMost⟩ :=
    Nat.exists_prime_lt_and_le_two_mul ((3 * m / 4 + 1) / 2) (by omega)
  obtain ⟨found, lower, upper⟩ := primeBelow_spec prime (show p ≤ 3 * m / 4 + 1 by omega)
  rw [getC, found.coprime_iff_not_dvd]
  rintro ⟨k, equal⟩
  have two : k = 2 := by
    rcases Nat.lt_or_ge k 2 with small | several
    · interval_cases k <;> omega
    · rcases Nat.lt_or_ge 2 k with more | least
      · have triple : primeBelow (3 * m / 4 + 1) * 3 ≤ primeBelow (3 * m / 4 + 1) * k :=
          Nat.mul_le_mul_left _ more
        omega
      · omega
  rw [two, mul_comm] at equal
  apply nontrivial
  rw [equal]
  exact factorProduct_two_mul found

end Increment

/-! ### The whole search -/

section Search

theorem nontrivialModulus_spec {fuel start offset : Nat} (large : 3 ≤ start)
    (inside : offset < fuel) (eight : 8 ∣ start + offset) :
    ∃ modlength, nontrivialModulus fuel start = some modlength ∧ start ≤ modlength ∧
      modlength ≤ start + offset ∧ factorProduct modlength ≠ modlength := by
  induction fuel generalizing start offset with
  | zero => exact absurd inside (Nat.not_lt_zero offset)
  | succ fuel ih =>
      rw [nontrivialModulus, getA_mod large]
      by_cases whole : factorProduct start = start
      · rw [if_pos whole, if_pos rfl]
        have nonzero : offset ≠ 0 := by
          rintro rfl
          exact factorProduct_ne_of_eight (by omega) eight whole
        have shifted : 8 ∣ start + 1 + (offset - 1) := by
          rwa [show start + 1 + (offset - 1) = start + offset by omega]
        obtain ⟨modlength, found, lower, upper, proper⟩ := ih (by omega) (by omega) shifted
        exact ⟨modlength, found, by omega, by omega, proper⟩
      · have nonzero := factorProduct_pos (m := start) (by omega)
        rw [if_neg whole, if_neg (by omega)]
        exact ⟨start, rfl, le_rfl, by omega, whole⟩

/-- What the constructor guarantees of its generator. -/
structure Generator.Suits (generator : Generator) (qSize : Nat) : Prop where
  full : FullPeriod generator.a generator.c generator.modlength
  covers : qSize ≤ generator.modlength
  close : generator.modlength ≤ qSize + 7
  multiplierLe : generator.a ≤ generator.modlength
  incrementLe : generator.c ≤ generator.modlength
  nontrivial : 3 ≤ qSize → 1 < generator.a

theorem fullPeriod_of_nontrivial {m : Nat} (large : 3 ≤ m) (proper : factorProduct m ≠ m) :
    FullPeriod (getA m % m) (getC m) m := by
  have positive : 0 < m := by omega
  have five : 5 ≤ m := by
    by_contra small
    interval_cases m
    · exact proper (by decide)
    · exact proper (by decide)
  rw [getA_mod large, if_neg proper]
  refine ⟨positive, Nat.succ_pos _, getC_coprime five proper, ?_, ?_⟩
  · intro p prime divides
    exact dvd_factorProduct positive prime divides
  · exact four_dvd_factorProduct positive

theorem makeGenerator_spec {queuesize : Nat} (positive : 0 < queuesize) :
    ∃ generator, makeGenerator queuesize = some generator ∧ generator.Suits queuesize := by
  rw [makeGenerator]
  split
  · rename_i small
    refine ⟨_, rfl, ⟨positive, Nat.one_pos, Nat.coprime_one_left _, ?_, ?_⟩, le_rfl,
      Nat.le_add_right _ _, positive, positive, ?_⟩
    · intro p _ _
      exact dvd_zero p
    · intro _
      exact dvd_zero 4
    · intro large
      exact absurd small (by omega)
  · rename_i large
    have eight : 8 ∣ queuesize + (8 - queuesize % 8) % 8 := by omega
    have within : (8 - queuesize % 8) % 8 < 8 := Nat.mod_lt _ (by decide)
    obtain ⟨modlength, found, lower, upper, proper⟩ :=
      nontrivialModulus_spec (by omega) within eight
    have close : modlength ≤ queuesize + 7 := by omega
    refine ⟨⟨getA modlength % modlength, getC modlength, modlength⟩, by simp [found],
      fullPeriod_of_nontrivial (by omega) proper, lower, close, ?_, ?_, ?_⟩
    · exact (Nat.mod_lt _ (by omega)).le
    · obtain ⟨p, prime, _, atMost⟩ :=
        Nat.exists_prime_lt_and_le_two_mul 1 Nat.one_ne_zero
      have upper := (primeBelow_spec prime (show p ≤ 3 * modlength / 4 + 1 by omega)).2.2
      change primeBelow (3 * modlength / 4 + 1) ≤ modlength
      omega
    · intro _
      have := factorProduct_pos (m := modlength) (by omega)
      change 1 < getA modlength % modlength
      rw [getA_mod (by omega), if_neg proper]
      omega

variable {generator : Generator} {qSize : Nat}

/-- The 64-bit update does not wrap on the residues of the modulus. -/
theorem Generator.Suits.nextTry_eq (suits : generator.Suits qSize) (bound : qSize + 8 ≤ 2 ^ 32)
    {tried : Nat} (below : tried < generator.modlength) :
    generator.nextTry tried =
      successor generator.a generator.c generator.modlength tried := by
  have small : generator.modlength < 2 ^ 32 := by
    have := suits.close
    omega
  have wide : generator.a * tried + generator.c < 2 ^ 64 := by
    calc generator.a * tried + generator.c
        ≤ generator.modlength * tried + generator.modlength :=
          Nat.add_le_add (Nat.mul_le_mul_right _ suits.multiplierLe) suits.incrementLe
      _ = generator.modlength * (tried + 1) := by ring
      _ ≤ generator.modlength * generator.modlength := Nat.mul_le_mul_left _ below
      _ < 2 ^ 32 * 2 ^ 32 := Nat.mul_lt_mul'' small small
      _ = 2 ^ 64 := by norm_num
  rw [Generator.nextTry, Nat.mod_eq_of_lt wide, successor]

theorem Generator.Suits.tries_perm (suits : generator.Suits qSize) (bound : qSize + 8 ≤ 2 ^ 32)
    (several : 1 < qSize) :
    ∃ tried, generator.tries qSize = some tried ∧ tried.Perm (List.range qSize) := by
  obtain ⟨points, visited, permuted⟩ := suits.full.walk_perm suits.covers several
  refine ⟨points, ?_, permuted⟩
  rw [Generator.tries, ← visited]
  apply walk_congr (fun tried => tried < generator.modlength)
  · intro tried below
    exact ⟨suits.nextTry_eq bound below, successor_lt suits.full.modulusPos _ _ _⟩
  · have := suits.covers
    omega

theorem shifted_perm {size : Nat} (positive : 0 < size) (offset : Nat) :
    ((List.range size).map fun next => (next + offset) % size).Perm (List.range size) := by
  have distinct : ((List.range size).map fun next => (next + offset) % size).Nodup := by
    refine List.Nodup.map_on ?_ List.nodup_range
    intro x xBelow y yBelow same
    have congruent : x ≡ y [MOD size] := Nat.ModEq.add_right_cancel' offset same
    exact congruent.eq_of_lt_of_lt (List.mem_range.mp xBelow) (List.mem_range.mp yBelow)
  refine (distinct.subperm ?_).perm_of_length_le (by simp)
  intro index member
  obtain ⟨next, _, rfl⟩ := List.mem_map.mp member
  exact List.mem_range.mpr (Nat.mod_lt _ positive)

theorem makeGenerator_suits (positive : 0 < qSize)
    (made : makeGenerator qSize = some generator) : generator.Suits qSize := by
  obtain ⟨other, found, suits⟩ := makeGenerator_spec positive
  rw [made] at found
  rwa [Option.some.inj found]

/-- Every offset probes each page of the queue once. -/
theorem indices_perm (made : makeGenerator qSize = some generator)
    (bound : qSize + 8 ≤ 2 ^ 32) {firstTry : Nat} (below : firstTry < qSize) :
    ∃ visited, generator.indices qSize firstTry = some visited ∧
      visited.Perm (List.range qSize) := by
  have suits := makeGenerator_suits (Nat.zero_lt_of_lt below) made
  rcases Nat.lt_or_ge 1 qSize with several | single
  · obtain ⟨tried, walked, permuted⟩ := suits.tries_perm bound several
    refine ⟨tried.map fun next => (next + firstTry) % 2 ^ 64 % qSize,
      by rw [Generator.indices, walked]; rfl, ?_⟩
    have unwrapped : tried.map (fun next => (next + firstTry) % 2 ^ 64 % qSize) =
        tried.map fun next => (next + firstTry) % qSize := by
      apply List.map_congr_left
      intro next member
      have small : next < qSize := List.mem_range.mp (permuted.mem_iff.mp member)
      rw [Nat.mod_eq_of_lt (show next + firstTry < 2 ^ 64 by omega)]
    rw [unwrapped]
    exact (permuted.map _).trans (shifted_perm (by omega) firstTry)
  · -- With one page the first try lies beyond the queue and is still reduced to it.
    obtain ⟨rfl, rfl⟩ : qSize = 1 ∧ firstTry = 0 := by omega
    obtain rfl : (⟨1, 1, 1⟩ : Generator) = generator := Option.some.inj made
    exact ⟨[0], rfl, List.Perm.refl _⟩

/-- The generator of every queue is a nontrivial one, and from every random
number the search probes each page exactly once. -/
theorem search_probes_every_page {queuesize : Nat} (positive : 0 < queuesize)
    (bound : queuesize + 8 ≤ 2 ^ 32) :
    ∃ generator, makeGenerator queuesize = some generator ∧
      (3 ≤ queuesize → 1 < generator.a) ∧
      ∀ random, ∃ visited,
        generator.indices queuesize (random % queuesize) = some visited ∧
          visited.Perm (List.range queuesize) := by
  obtain ⟨generator, made, suits⟩ := makeGenerator_spec positive
  refine ⟨generator, made, suits.nontrivial, ?_⟩
  intro random
  exact indices_perm made bound (Nat.mod_lt random positive)

theorem search_probes_ten_pages :
    ∃ generator, makeGenerator 10 = some generator ∧ (3 ≤ 10 → 1 < generator.a) ∧
      ∀ random, ∃ visited, generator.indices 10 (random % 10) = some visited ∧
        visited.Perm (List.range 10) :=
  search_probes_every_page (by decide) (by decide)

end Search

end AmebaTests.Stressapptest
