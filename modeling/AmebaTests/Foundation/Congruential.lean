/-
Linear congruential sequences of full period.

The map sends `x` to `(a * x + c) % m`.  Under the conditions of `FullPeriod`
every residue comes back after exactly `m` steps, so one period visits each
residue once.  A walk that discards the residues outside a set then visits each
residue of that set once.
-/

import Mathlib.Data.Nat.Factorization.Basic
import Mathlib.Dynamics.PeriodicPts.Defs
import Mathlib.NumberTheory.Multiplicity
import Mathlib.Data.List.Iterate
import Mathlib.Data.List.Perm.Subperm

namespace AmebaTests.Foundation.Congruential

def successor (a c m x : Nat) : Nat :=
  (a * x + c) % m

/-- The sufficient conditions for the longest possible period. -/
structure FullPeriod (a c m : Nat) : Prop where
  modulusPos : 0 < m
  multiplierPos : 0 < a
  coprime : Nat.Coprime c m
  primes : ∀ p, p.Prime → p ∣ m → p ∣ a - 1
  four : 4 ∣ m → 4 ∣ a - 1

def geometric (a n : Nat) : Nat :=
  ∑ i ∈ Finset.range n, a ^ i

theorem geometric_succ (a n : Nat) : geometric a (n + 1) = a * geometric a n + 1 := by
  unfold geometric
  rw [Finset.sum_range_succ', Finset.mul_sum]
  simp only [pow_succ', pow_zero]

theorem geometric_one (n : Nat) : geometric 1 n = n := by
  simp [geometric]

/-- The `n`-th iterate, up to the modulus. -/
theorem iterate_modEq (a c m x n : Nat) :
    (successor a c m)^[n] x ≡ a ^ n * x + c * geometric a n [MOD m] := by
  induction n with
  | zero =>
      rw [Function.iterate_zero, id_eq, pow_zero, one_mul, geometric, Finset.sum_range_zero,
        mul_zero, add_zero]
  | succ n ih =>
      rw [Function.iterate_succ_apply', geometric_succ]
      calc successor a c m ((successor a c m)^[n] x)
          ≡ a * (successor a c m)^[n] x + c [MOD m] := Nat.mod_modEq _ _
        _ ≡ a * (a ^ n * x + c * geometric a n) + c [MOD m] := (ih.mul_left a).add_right c
        _ = a ^ (n + 1) * x + c * (a * geometric a n + 1) := by ring

theorem pow_eq_geometric {a : Nat} (positive : 0 < a) (n : Nat) :
    a ^ n = (a - 1) * geometric a n + 1 := by
  induction n with
  | zero => simp [geometric]
  | succ n ih =>
      obtain ⟨b, rfl⟩ : ∃ b, a = b + 1 := ⟨a - 1, by omega⟩
      rw [geometric_succ, pow_succ, ih, Nat.add_sub_cancel]
      ring

section Divisibility

variable {a p : Nat}

theorem geometric_modEq (divides : p ∣ a - 1) (positive : 0 < a) (n : Nat) :
    geometric a n ≡ n [MOD p] := by
  have one : a ≡ 1 [MOD p] := ((Nat.modEq_iff_dvd' positive).mpr divides).symm
  induction n with
  | zero => rfl
  | succ n ih =>
      rw [geometric_succ]
      calc a * geometric a n + 1 ≡ 1 * n + 1 [MOD p] := (one.mul ih).add_right 1
        _ = n + 1 := by rw [one_mul]

/-- Lifting the exponent through the power difference. -/
theorem emultiplicity_pow_sub_one (prime : p.Prime) (divides : p ∣ a - 1) (large : 1 < a)
    (four : p = 2 → 4 ∣ a - 1) (n : Nat) :
    emultiplicity (p : ℤ) ((a : ℤ) ^ n - 1) =
      emultiplicity (p : ℤ) ((a : ℤ) - 1) + emultiplicity (p : ℤ) (n : ℤ) := by
  have cast : ((a - 1 : Nat) : ℤ) = (a : ℤ) - 1 := by push_cast [large.le]; rfl
  have difference : (p : ℤ) ∣ (a : ℤ) - 1 := by
    rw [← cast]
    exact_mod_cast divides
  have notDivides : ¬ (p : ℤ) ∣ (a : ℤ) := by
    intro whole
    have one : (p : ℤ) ∣ 1 := by
      have := dvd_sub whole difference
      rwa [sub_sub_cancel] at this
    exact prime.one_lt.ne' (Nat.dvd_one.mp (by exact_mod_cast one))
  rcases prime.eq_two_or_odd' with two | odd
  · subst two
    have fourth : (4 : ℤ) ∣ (a : ℤ) - 1 := by
      rw [← cast]
      exact_mod_cast four rfl
    have lifted := Int.two_pow_sub_pow' n fourth notDivides
    rwa [one_pow] at lifted
  · have lifted := Int.emultiplicity_pow_sub_pow prime odd difference notDivides n
    rwa [one_pow, ← Int.natCast_emultiplicity] at lifted

theorem pow_dvd_geometric_iff (prime : p.Prime) (divides : p ∣ a - 1) (positive : 0 < a)
    {k : Nat} (four : p = 2 → k ≤ 1 ∨ 4 ∣ a - 1) (n : Nat) :
    p ^ k ∣ geometric a n ↔ p ^ k ∣ n := by
  by_cases single : k ≤ 1
  · have congruent := geometric_modEq divides positive n
    interval_cases k
    · simp
    · rw [pow_one]
      exact congruent.dvd_iff dvd_rfl
  rcases Nat.lt_or_ge 1 a with large | small
  · have lifted := emultiplicity_pow_sub_one prime divides large
      (fun two => (four two).resolve_left single) n
    -- The geometric sum is the power difference divided by `a - 1`.
    have split : (a : ℤ) ^ n - 1 = ((a : ℤ) - 1) * (geometric a n : ℤ) := by
      have closed := congrArg (Nat.cast : Nat → ℤ) (pow_eq_geometric positive n)
      push_cast [positive] at closed
      linarith
    have finite : FiniteMultiplicity (p : ℤ) ((a : ℤ) - 1) := by
      rw [Int.finiteMultiplicity_iff]
      constructor
      · rw [Int.natAbs_natCast]
        exact prime.ne_one
      · omega
    rw [split, emultiplicity_mul (Nat.prime_iff_prime_int.mp prime)] at lifted
    have equal : emultiplicity (p : ℤ) (geometric a n : ℤ) = emultiplicity (p : ℤ) (n : ℤ) :=
      ENat.add_right_injective_of_ne_top
        (finiteMultiplicity_iff_emultiplicity_ne_top.mp finite) lifted
    rw [Int.natCast_emultiplicity, Int.natCast_emultiplicity] at equal
    rw [pow_dvd_iff_le_emultiplicity, pow_dvd_iff_le_emultiplicity, equal]
  · have one : a = 1 := by omega
    rw [one, geometric_one]

end Divisibility

section Period

variable {a c m : Nat}

theorem FullPeriod.dvd_geometric_iff (full : FullPeriod a c m) (n : Nat) :
    m ∣ geometric a n ↔ m ∣ n := by
  have local_iff : ∀ p k, p.Prime → p ^ k ∣ m →
      (p ^ k ∣ geometric a n ↔ p ^ k ∣ n) := by
    intro p k prime power
    rcases Nat.eq_zero_or_pos k with zero | positive
    · simp [zero]
    have divides := full.primes p prime ((dvd_pow_self p positive.ne').trans power)
    refine pow_dvd_geometric_iff prime divides full.multiplierPos ?_ n
    intro two
    rcases Nat.lt_or_ge k 2 with single | several
    · exact .inl (by omega)
    · right
      apply full.four
      have square : p ^ 2 ∣ m := (pow_dvd_pow p several).trans power
      rwa [two] at square
  rw [Nat.dvd_iff_prime_pow_dvd_dvd, Nat.dvd_iff_prime_pow_dvd_dvd]
  constructor
  · intro every p k prime power
    exact (local_iff p k prime power).mp (every p k prime power)
  · intro every p k prime power
    exact (local_iff p k prime power).mpr (every p k prime power)

/-- The displacement of a residue in one step is a unit. -/
theorem FullPeriod.coprime_displacement (full : FullPeriod a c m) (x : Nat) :
    Nat.Coprime m ((a - 1) * x + c) := by
  apply Nat.coprime_of_dvd
  intro p prime divides displacement
  have multiple : p ∣ (a - 1) * x := (full.primes p prime divides).mul_right x
  have increment : p ∣ c := (Nat.dvd_add_right multiple).mp displacement
  exact prime.one_lt.ne' (Nat.eq_one_of_dvd_coprimes full.coprime increment divides)

theorem successor_lt (positive : 0 < m) (a c x : Nat) : successor a c m x < m :=
  Nat.mod_lt _ positive

theorem iterate_lt (positive : 0 < m) {x : Nat} (below : x < m) (n : Nat) :
    (successor a c m)^[n] x < m := by
  cases n with
  | zero => exact below
  | succ n =>
      rw [Function.iterate_succ_apply']
      exact successor_lt positive a c _

/-- A residue is back exactly at the multiples of the modulus. -/
theorem FullPeriod.iterate_eq_self_iff (full : FullPeriod a c m) {x : Nat} (below : x < m)
    (n : Nat) : (successor a c m)^[n] x = x ↔ m ∣ n := by
  have closed : a ^ n * x + c * geometric a n =
      x + ((a - 1) * x + c) * geometric a n := by
    rw [pow_eq_geometric full.multiplierPos n]
    ring
  have iterated : (successor a c m)^[n] x ≡ x + ((a - 1) * x + c) * geometric a n [MOD m] := by
    rw [← closed]
    exact iterate_modEq a c m x n
  rw [← full.dvd_geometric_iff, ← (full.coprime_displacement x).dvd_mul_left]
  constructor
  · intro back
    rw [back] at iterated
    have := (Nat.modEq_iff_dvd' (Nat.le_add_right x _)).mp iterated
    rwa [Nat.add_sub_cancel_left] at this
  · intro divides
    have same : x + ((a - 1) * x + c) * geometric a n ≡ x [MOD m] := by
      have := (Nat.modEq_zero_iff_dvd.mpr divides).add_left x
      rwa [add_zero] at this
    exact (iterated.trans same).eq_of_lt_of_lt (iterate_lt full.modulusPos below n) below

theorem FullPeriod.minimalPeriod_eq (full : FullPeriod a c m) {x : Nat} (below : x < m) :
    Function.minimalPeriod (successor a c m) x = m := by
  apply Nat.dvd_antisymm
  · apply Function.isPeriodicPt_iff_minimalPeriod_dvd.mp
    exact (full.iterate_eq_self_iff below m).mpr dvd_rfl
  · apply (full.iterate_eq_self_iff below _).mp
    exact Function.isPeriodicPt_minimalPeriod (successor a c m) x

/-- One period, from any residue, visits each residue once. -/
theorem FullPeriod.orbit_perm (full : FullPeriod a c m) {x : Nat} (below : x < m) :
    (List.iterate (successor a c m) x m).Perm (List.range m) := by
  have distinct : (List.iterate (successor a c m) x m).Nodup := by
    rw [← List.range_map_iterate]
    refine List.Nodup.map_on ?_ List.nodup_range
    intro i iBelow j jBelow same
    have period := full.minimalPeriod_eq below
    refine Function.iterate_injOn_Iio_minimalPeriod (f := successor a c m) (x := x) ?_ ?_ same
    · rw [period]
      exact List.mem_range.mp iBelow
    · rw [period]
      exact List.mem_range.mp jBelow
  have inside : List.iterate (successor a c m) x m ⊆ List.range m := by
    intro y member
    obtain ⟨n, _, rfl⟩ := List.mem_iterate.mp member
    exact List.mem_range.mpr (iterate_lt full.modulusPos below n)
  apply (distinct.subperm inside).perm_of_length_le
  rw [List.length_iterate, List.length_range]

end Period

section Walk

/-!
A walk along the iterates of a map that discards the points outside a set.  The
search for the next point of the set is bounded, and a search that runs out
has no result.
-/

variable {α : Type} (f : α → α) (inside : α → Bool)

def discard : Nat → α → Option α
  | 0, _ => none
  | fuel + 1, x => if inside x then some x else discard fuel (f x)

/-- The first points of the walk, beginning at `x`; after each point the next
one is searched. -/
def walk (fuel : Nat) : Nat → α → Option (List α)
  | 0, _ => some []
  | steps + 1, x => do
      let next ← discard f inside fuel (f x)
      let rest ← walk fuel steps next
      return x :: rest

variable {f inside}

theorem discard_eq_some_of_filter {fuel : Nat} {x y : α} {rest : List α}
    (points : (List.iterate f x fuel).filter inside = y :: rest) :
    discard f inside fuel x = some y ∧ inside y = true ∧
      ∃ shorter, (List.iterate f y shorter).filter inside = y :: rest := by
  induction fuel generalizing x with
  | zero => simp at points
  | succ fuel ih =>
      rw [List.iterate] at points
      rw [discard]
      cases member : inside x with
      | true =>
          rw [List.filter_cons_of_pos member] at points
          obtain ⟨rfl, tail⟩ := List.cons.inj points
          refine ⟨rfl, member, fuel + 1, ?_⟩
          rw [List.iterate, List.filter_cons_of_pos member, tail]
      | false =>
          rw [List.filter_cons_of_neg (by simp [member])] at points
          exact ih points

theorem discard_extend {fuel : Nat} {x y : α} (found : discard f inside fuel x = some y)
    {more : Nat} (enough : fuel ≤ more) : discard f inside more x = some y := by
  induction fuel generalizing x more with
  | zero => simp [discard] at found
  | succ fuel ih =>
      obtain ⟨more, rfl⟩ : ∃ k, more = k + 1 := ⟨more - 1, by omega⟩
      rw [discard] at found ⊢
      split
      · rw [if_pos ‹_›] at found
        exact found
      · rw [if_neg ‹_›] at found
        exact ih found (by omega)

theorem discard_of_iterate {fuel n : Nat} {x : α} (reached : inside (f^[n] x) = true)
    (enough : n < fuel) : ∃ y, discard f inside fuel x = some y := by
  induction fuel generalizing x n with
  | zero => exact absurd enough (Nat.not_lt_zero n)
  | succ fuel ih =>
      rw [discard]
      cases member : inside x with
      | true => exact ⟨x, rfl⟩
      | false =>
          cases n with
          | zero =>
              rw [Function.iterate_zero, id_eq, member] at reached
              exact absurd reached (by simp)
          | succ n =>
              rw [Function.iterate_succ_apply] at reached
              exact ih reached (by omega)

theorem discard_congr {g : α → α} (closed : α → Prop)
    (agree : ∀ x, closed x → f x = g x ∧ closed (g x)) {fuel : Nat} {x : α} (member : closed x) :
    discard f inside fuel x = discard g inside fuel x := by
  induction fuel generalizing x with
  | zero => rfl
  | succ fuel ih =>
      obtain ⟨equal, next⟩ := agree x member
      rw [discard, discard, equal, ih next]

theorem discard_closed {g : α → α} (closed : α → Prop) (preserved : ∀ x, closed x → closed (g x))
    {fuel : Nat} {x y : α} (member : closed x) (found : discard g inside fuel x = some y) :
    closed y := by
  induction fuel generalizing x with
  | zero => simp [discard] at found
  | succ fuel ih =>
      rw [discard] at found
      split at found
      · rwa [← Option.some.inj found]
      · exact ih (preserved x member) found

theorem walk_congr {g : α → α} (closed : α → Prop)
    (agree : ∀ x, closed x → f x = g x ∧ closed (g x)) {fuel steps : Nat} {x : α}
    (member : closed x) : walk f inside fuel steps x = walk g inside fuel steps x := by
  induction steps generalizing x with
  | zero => rfl
  | succ steps ih =>
      obtain ⟨equal, next⟩ := agree x member
      rw [walk, walk, equal, discard_congr closed agree next]
      cases found : discard g inside fuel (g x) with
      | none => rfl
      | some y =>
          have reached := discard_closed closed (fun z inner => (agree z inner).2) next found
          simp [ih reached]

/-- Where the points of the set all return, the walk is the orbit without the
points outside. -/
theorem walk_eq_filter {fuel : Nat} (positive : 0 < fuel)
    (returns : ∀ y, inside y = true → f^[fuel] y = y)
    {points : List α} {x : α} {length : Nat} (member : inside x = true)
    (orbit : (List.iterate f x length).filter inside = points) :
    walk f inside fuel points.length x = some points := by
  induction points generalizing x length with
  | nil => rfl
  | cons y rest ih =>
      obtain ⟨length, rfl⟩ : ∃ k, length = k + 1 := by
        cases length with
        | zero => simp at orbit
        | succ k => exact ⟨k, rfl⟩
      rw [List.iterate, List.filter_cons_of_pos member] at orbit
      obtain ⟨rfl, tail⟩ := List.cons.inj orbit
      obtain ⟨next, found⟩ : ∃ next, discard f inside fuel (f x) = some next := by
        refine discard_of_iterate (n := fuel - 1) ?_ (by omega)
        rw [← Function.iterate_succ_apply, Nat.succ_eq_add_one, Nat.sub_add_cancel positive,
          returns x member]
        exact member
      have following : walk f inside fuel rest.length next = some rest := by
        cases rest with
        | nil => rfl
        | cons z others =>
            obtain ⟨first, inner, shorter, points⟩ := discard_eq_some_of_filter tail
            have longer := discard_extend first (Nat.le_max_left length fuel)
            rw [discard_extend found (Nat.le_max_right length fuel)] at longer
            rw [Option.some.inj longer]
            exact ih inner points
      rw [List.length_cons, walk, found]
      simp [following]

theorem FullPeriod.walk_perm {a c m : Nat} (full : FullPeriod a c m) {size x : Nat}
    (fits : size ≤ m) (below : x < size) :
    ∃ points, walk (successor a c m) (fun y => decide (y < size)) m size x = some points ∧
      points.Perm (List.range size) := by
  have filtered := (full.orbit_perm (below.trans_le fits)).filter fun y => decide (y < size)
  have kept : (List.range m).filter (fun y => decide (y < size)) = List.range size := by
    obtain ⟨extra, rfl⟩ := Nat.exists_eq_add_of_le fits
    rw [List.range_add, List.filter_append, List.filter_eq_self.mpr, List.filter_eq_nil_iff.mpr,
      List.append_nil]
    · simp
    · simp
  rw [kept] at filtered
  refine ⟨_, ?_, filtered⟩
  have returns : ∀ y, decide (y < size) = true → (successor a c m)^[m] y = y := by
    intro y member
    have small : y < m := (of_decide_eq_true member).trans_le fits
    exact (full.iterate_eq_self_iff small m).mpr dvd_rfl
  have visited := walk_eq_filter full.modulusPos returns (decide_eq_true below)
    (Eq.refl ((List.iterate (successor a c m) x m).filter fun y => decide (y < size)))
  rwa [filtered.length_eq, List.length_range] at visited

end Walk

end AmebaTests.Foundation.Congruential
