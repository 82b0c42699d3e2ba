/-
Inverting a page.

The passes go through a page in 32-bit units, upwards or downwards.  The number
of units in a block is that of 64-bit words, so that the blocks of a page lie
side by side in its first half.
-/

import AmebaTests.Stressapptest.Page

namespace AmebaTests.Stressapptest

/-- A unit of the page at an address. -/
def loadUnit (memory : Memory) (addr index : Nat) : BitVec 32 :=
  if index % 2 = 0 then low (memory (addr + index / 2)) else high (memory (addr + index / 2))

def storeUnit (memory : Memory) (addr index : Nat) (value : BitVec 32) : Memory :=
  let word := memory (addr + index / 2)
  store memory (addr + index / 2)
    (if index % 2 = 0 then castWord value (high word) else castWord (low word) value)

def invertUnit (addr : Nat) (memory : Memory) (index : Nat) : Memory :=
  storeUnit memory addr index (~~~ loadUnit memory addr index)

/-- The units in the order of the loops of `InvertPageUp`. -/
def upOrder (blocks : Nat) : List Nat :=
  (List.range blocks).flatMap fun currentblock =>
    (List.range (blockwords / 32)).flatMap fun i =>
      (List.range 32).map fun index => currentblock * blockwords + (i * 32 + index)

/-- The units in the order of the loops of `InvertPageDown`. -/
def downOrder (blocks : Nat) : List Nat :=
  (List.range blocks).reverse.flatMap fun currentblock =>
    (List.range (blockwords / 32)).reverse.flatMap fun i =>
      (List.range 32).reverse.map fun index => currentblock * blockwords + (i * 32 + index)

def invertPageUp (setup : Setup) (addr : Nat) (memory : Memory) : Memory :=
  (upOrder setup.blocks).foldl (invertUnit addr) memory

def invertPageDown (setup : Setup) (addr : Nat) (memory : Memory) : Memory :=
  (downOrder setup.blocks).foldl (invertUnit addr) memory

/-! ### The orders of the units -/

section Orders

theorem range_rows (rows columns : Nat) :
    (List.range rows).flatMap (fun row => (List.range columns).map (row * columns + ·)) =
      List.range (rows * columns) := by
  induction rows with
  | zero => rw [Nat.zero_mul]; rfl
  | succ rows ih =>
      rw [List.range_succ, List.flatMap_append, ih, List.flatMap_singleton, Nat.succ_mul,
        List.range_add]

theorem upOrder_eq (blocks : Nat) : upOrder blocks = List.range (blocks * blockwords) := by
  rw [← range_rows, upOrder]
  apply List.flatMap_congr
  intro currentblock _
  rw [show blockwords = blockwords / 32 * 32 from rfl, ← range_rows (blockwords / 32) 32,
    List.map_flatMap]
  apply List.flatMap_congr
  intro i _
  rw [List.map_map]
  rfl

theorem downOrder_eq (blocks : Nat) :
    downOrder blocks = (List.range (blocks * blockwords)).reverse := by
  rw [← upOrder_eq, upOrder, List.reverse_flatMap, downOrder]
  apply List.flatMap_congr
  intro currentblock _
  rw [Function.comp_apply, List.reverse_flatMap]
  apply List.flatMap_congr
  intro i _
  rw [Function.comp_apply, List.map_reverse]

end Orders

/-! ### Units and words -/

section Units

variable {memory : Memory} {addr : Nat}

theorem loadUnit_storeUnit (value : BitVec 32) (index other : Nat) :
    loadUnit (storeUnit memory addr index value) addr other =
      if other = index then value else loadUnit memory addr other := by
  rw [loadUnit, loadUnit, storeUnit, store]
  by_cases word : other / 2 = index / 2
  · rw [word, Function.update_self]
    by_cases same : other = index
    · subst same
      by_cases even : other % 2 = 0
      · simp only [even, if_true, low_castWord]
      · simp only [even, if_true, if_false, high_castWord]
    · rw [if_neg same]
      by_cases even : other % 2 = 0
      · have odd : ¬ index % 2 = 0 := by omega
        simp only [even, odd, if_true, if_false, low_castWord]
      · have odd : index % 2 = 0 := by omega
        simp only [even, odd, if_true, if_false, high_castWord]
  · have address : addr + other / 2 ≠ addr + index / 2 := fun equal => word (by omega)
    rw [Function.update_of_ne address, if_neg fun same => word (congrArg (· / 2) same)]

theorem storeUnit_rest {value : BitVec 32} {index address : Nat}
    (differs : address ≠ addr + index / 2) :
    storeUnit memory addr index value address = memory address :=
  Function.update_of_ne differs _ _

/-- Each unit that the pass comes to once is inverted. -/
theorem invertUnits_load {indices : List Nat} (distinct : indices.Nodup) (index : Nat) :
    loadUnit (indices.foldl (invertUnit addr) memory) addr index =
      if index ∈ indices then ~~~ loadUnit memory addr index else loadUnit memory addr index := by
  induction indices generalizing memory with
  | nil => rw [if_neg List.not_mem_nil]; rfl
  | cons first rest ih =>
      obtain ⟨fresh, later⟩ := List.nodup_cons.mp distinct
      rw [List.foldl_cons, ih later, invertUnit, loadUnit_storeUnit]
      by_cases same : index = first
      · subst same
        rw [if_neg fresh, if_pos rfl, if_pos List.mem_cons_self]
      · simp only [same, if_false, List.mem_cons, false_or]

theorem invertUnits_rest {indices : List Nat} {address : Nat}
    (outside : ∀ index ∈ indices, address ≠ addr + index / 2) :
    indices.foldl (invertUnit addr) memory address = memory address := by
  induction indices generalizing memory with
  | nil => rfl
  | cons first rest ih =>
      obtain ⟨differs, later⟩ := List.forall_mem_cons.mp outside
      rw [List.foldl_cons, ih later]
      exact storeUnit_rest differs

/-- Memory with so many words inverted. -/
def inverted (addr words : Nat) (memory : Memory) : Memory := fun address =>
  if addr ≤ address ∧ address < addr + words then ~~~ memory address else memory address

theorem eq_of_loadUnit {memory other : Memory} {i : Nat}
    (even : loadUnit memory addr (2 * i) = loadUnit other addr (2 * i))
    (odd : loadUnit memory addr (2 * i + 1) = loadUnit other addr (2 * i + 1)) :
    memory (addr + i) = other (addr + i) := by
  have half : (2 * i + 1) / 2 = i := by omega
  have parity : ¬ (2 * i + 1) % 2 = 0 := by omega
  rw [loadUnit, loadUnit, Nat.mul_mod_right, if_pos rfl, if_pos rfl,
    Nat.mul_div_cancel_left i Nat.two_pos] at even
  rw [loadUnit, loadUnit, if_neg parity, if_neg parity, half] at odd
  rw [← castWord_halves (memory (addr + i)), ← castWord_halves (other (addr + i)), even, odd]

theorem low_not (word : BitVec 64) : low (~~~ word) = ~~~ low word :=
  BitVec.extractLsb'_not_of_lt (by decide)

theorem high_not (word : BitVec 64) : high (~~~ word) = ~~~ high word := by
  ext i inside
  have within : 32 + i < 64 := by omega
  simp [high, within]

theorem loadUnit_inverted {words index : Nat} (inside : index / 2 < words) :
    loadUnit (inverted addr words memory) addr index = ~~~ loadUnit memory addr index := by
  have here : inverted addr words memory (addr + index / 2) = ~~~ memory (addr + index / 2) :=
    if_pos ⟨by omega, by omega⟩
  rw [loadUnit, loadUnit, here, low_not, high_not]
  split <;> rfl

/-- A pass that comes to each unit of the first words once inverts these words. -/
theorem invertUnits_eq {indices : List Nat} {words : Nat} (distinct : indices.Nodup)
    (covers : ∀ index, index ∈ indices ↔ index < 2 * words) :
    indices.foldl (invertUnit addr) memory = inverted addr words memory := by
  have units : ∀ index, index / 2 < words →
      loadUnit (indices.foldl (invertUnit addr) memory) addr index =
        loadUnit (inverted addr words memory) addr index := by
    intro index inside
    rw [invertUnits_load distinct, if_pos ((covers index).mpr (by omega)),
      loadUnit_inverted inside]
  funext address
  by_cases inside : addr ≤ address ∧ address < addr + words
  · obtain ⟨i, rfl⟩ := Nat.exists_eq_add_of_le inside.1
    exact eq_of_loadUnit (units (2 * i) (by omega)) (units (2 * i + 1) (by omega))
  · rw [invertUnits_rest, inverted, if_neg inside]
    intro index member equal
    have below := (covers index).mp member
    omega

end Units

/-! ### Whole passes -/

section Passes

variable (setup : Setup) (addr : Nat) (memory : Memory)

theorem invertPageUp_eq :
    invertPageUp setup addr memory = inverted addr (setup.blocks * 256) memory := by
  rw [invertPageUp, upOrder_eq]
  apply invertUnits_eq List.nodup_range
  intro index
  rw [List.mem_range, blockwords]
  omega

theorem invertPageDown_eq :
    invertPageDown setup addr memory = inverted addr (setup.blocks * 256) memory := by
  rw [invertPageDown, downOrder_eq]
  apply invertUnits_eq (List.nodup_reverse.mpr List.nodup_range)
  intro index
  rw [List.mem_reverse, List.mem_range, blockwords]
  omega

theorem inverted_inverted (words : Nat) :
    inverted addr words (inverted addr words memory) = memory := by
  funext address
  rw [inverted, inverted]
  split
  · exact BitVec.not_not
  · rfl

/-- Either pass inverts the first half of the whole blocks of a page, each word of it
once, and never comes to the second half; the four passes of an invert thread leave
memory as it was. -/
theorem invert_passes_stop_halfway :
    (∀ address,
      invertPageUp setup addr memory address =
          (if addr ≤ address ∧ address < addr + setup.blocks * blockwords / 2
            then ~~~ memory address else memory address) ∧
        invertPageDown setup addr memory address = invertPageUp setup addr memory address) ∧
      invertPageUp setup addr (invertPageDown setup addr (invertPageDown setup addr
        (invertPageUp setup addr memory))) = memory := by
  have half : setup.blocks * blockwords / 2 = setup.blocks * 256 := by
    rw [blockwords]
    omega
  refine ⟨?_, ?_⟩
  · intro address
    rw [invertPageDown_eq, invertPageUp_eq, half]
    exact ⟨rfl, rfl⟩
  · rw [invertPageUp_eq, invertPageDown_eq, invertPageDown_eq, invertPageUp_eq,
      inverted_inverted, inverted_inverted]

end Passes

end AmebaTests.Stressapptest
