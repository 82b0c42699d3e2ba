/-
The blocks a disk thread writes, and the random disk threads that would read them.

The table finds a block by its first sector and the sector by its position, so
that a random position gives a random block.  One disk thread puts blocks in and
takes them out again; the random threads of the device only take references.
-/

import Mathlib.Logic.Function.Basic
import AmebaTests.Foundation.Runs

namespace AmebaTests.Stressapptest

open Foundation

/-! ### The device and its table -/

/-- What `SetParameters` stores; sizes of blocks in bytes, those of the device and of its
segments in sectors.  A segment size of -1 is none.  No division is by zero. -/
structure Device where
  sectorSize : Nat
  writeBlockSize : Nat
  deviceSectors : Nat
  segmentSize : Option Nat
  sector : 0 < sectorSize
  block : 0 < writeBlockSize / sectorSize
  room : writeBlockSize / sectorSize ≤ deviceSectors
  segments : ∀ size, segmentSize = some size → writeBlockSize / sectorSize ≤ size

def Device.numSectors (device : Device) : Nat := device.writeBlockSize / device.sectorSize

structure BlockData where
  address : Nat
  size : Nat
  references : Int
  initialized : Bool
  deriving DecidableEq, Repr

structure StorageData where
  block : Nat
  pos : Nat
  deriving DecidableEq, Repr

/-- The table and the blocks on the heap, by names that are given out in order.  A
freed block is none. -/
structure DiskBlockTable where
  posToAddr : Nat → Nat
  addrToBlock : Nat → Option StorageData
  size : Nat
  blocks : Nat → Option BlockData
  fresh : Nat

namespace DiskBlockTable

def empty : DiskBlockTable := ⟨fun _ => 0, fun _ => none, 0, fun _ => none, 0⟩

/-- The sector one try of `GetUnusedBlock` draws, unless it is out of range. -/
def trySector (device : Device) (segment random : Nat) : Option Nat :=
  match device.segmentSize with
  | none =>
      let sector := random % (device.deviceSectors / device.numSectors) * device.numSectors
      if device.deviceSectors < sector + device.numSectors then none else some sector
  | some size =>
      let sector := random % (size / device.numSectors) * device.numSectors + segment * size
      if (segment + 1) * size < sector + device.numSectors then none
      else if device.deviceSectors < sector + device.numSectors then none
      else some sector

def findUnused (table : DiskBlockTable) (device : Device) (segment : Nat) :
    List Nat → Option Nat
  | [] => none
  | random :: rest =>
      match trySector device segment random with
      | none => table.findUnused device segment rest
      | some sector =>
          if (table.addrToBlock sector).isSome then table.findUnused device segment rest
          else some sector

def kBlockRetry : Nat := 100

def insertOnStructure (table : DiskBlockTable) (block address : Nat) : DiskBlockTable :=
  { table with
    posToAddr := Function.update table.posToAddr table.size address
    addrToBlock := Function.update table.addrToBlock address (some ⟨block, table.size⟩)
    size := table.size + 1 }

/-- The block on the heap, with the reference of the thread that writes it. -/
def newBlock (table : DiskBlockTable) (device : Device) (sector : Nat) : DiskBlockTable :=
  { table with
    blocks := Function.update table.blocks table.fresh
      (some ⟨sector, device.writeBlockSize, 1, false⟩)
    fresh := table.fresh + 1 }

/-- `GetUnusedBlock` over the random numbers it draws, with the name of the new block. -/
def getUnusedBlock (table : DiskBlockTable) (device : Device) (segment : Nat)
    (randoms : List Nat) : DiskBlockTable × Option Nat :=
  match table.findUnused device segment (randoms.take kBlockRetry) with
  | none => (table, none)
  | some sector =>
      ((table.newBlock device sector).insertOnStructure table.fresh sector, some table.fresh)

/-- `DecreaseReferenceCounter`, and `delete` where none is left. -/
def decrease (table : DiskBlockTable) (name : Nat) (block : BlockData) :
    DiskBlockTable × Bool :=
  let references := block.references - 1
  if references = 0 then
    ({ table with blocks := Function.update table.blocks name none }, true)
  else
    ({ table with
      blocks := Function.update table.blocks name (some { block with references := references }) },
      decide (0 < references))

/-- The last address moves to the position that becomes free. -/
def eraseFromStructure (table : DiskBlockTable) (address : Nat) (it lastIt : StorageData) :
    DiskBlockTable :=
  let last := table.posToAddr (table.size - 1)
  { table with
    posToAddr := Function.update table.posToAddr it.pos last
    addrToBlock := Function.update
      (Function.update table.addrToBlock last (some { lastIt with pos := it.pos })) address none
    size := table.size - 1 }

/-- `RemoveBlock`: nothing where the block is freed already or an assertion fails. -/
def removeBlock (table : DiskBlockTable) (name : Nat) : Option (DiskBlockTable × Bool) :=
  match table.blocks name with
  | none => none
  | some block =>
      match table.addrToBlock block.address with
      | none => some (table, false)
      | some it =>
          if table.size = 0 then none
          else
            match table.addrToBlock (table.posToAddr (table.size - 1)) with
            | none => none
            | some lastIt =>
                some ((table.eraseFromStructure block.address it lastIt).decrease name block)

/-- `GetRandomBlock`: nothing while it waits for a block, or where the assertion fails. -/
def getRandomBlock (table : DiskBlockTable) (timedOut : Bool) (random : Nat) :
    Option (DiskBlockTable × Option Nat) :=
  if timedOut then some (table, none)
  else if table.size = 0 then none
  else
    match table.addrToBlock (table.posToAddr (random % table.size)) with
    | none => none
    | some it =>
        match table.blocks it.block with
        | none => none
        | some block =>
            if block.initialized then
              some ({ table with
                blocks := Function.update table.blocks it.block
                  (some { block with references := block.references + 1 }) }, some it.block)
            else some (table, none)

def releaseBlock (table : DiskBlockTable) (name : Nat) : Option (DiskBlockTable × Bool) :=
  match table.blocks name with
  | none => none
  | some block =>
      if block.references = 1 then
        some ({ table with blocks := Function.update table.blocks name none }, true)
      else if 0 < block.references then
        some ({ table with
          blocks := Function.update table.blocks name
            (some { block with references := block.references - 1 }) }, true)
      else some (table, false)

end DiskBlockTable

/-! ### The threads of a device -/

/-- The call of `DoWork` the disk thread is at, with the block in its hand.  `left` is the
block whose check failed and ended the work. -/
inductive DiskPhase
  | between
  | writing (block : Option Nat)
  | pushing (block : Nat)
  | checking (block : Nat)
  | removing (block : Nat) (goesOn : Bool)
  | ended (left : Option Nat)
  deriving DecidableEq, Repr

def DiskPhase.inHand : DiskPhase → List Nat
  | .between => []
  | .writing block => block.toList
  | .pushing block => [block]
  | .checking block => [block]
  | .removing block _ => [block]
  | .ended left => left.toList

/-- The call of its `DoWork` a random thread is at. -/
inductive RandomPhase
  | between
  | checking (block : Nat)
  | releasing (block : Nat)
  deriving DecidableEq, Repr

/-- The disk thread of a device with its `in_flight_sectors_`, and the random threads with
their `blocks_read_`. -/
structure DiskTest (Thread : Type) where
  table : DiskBlockTable
  phase : DiskPhase
  inFlight : List Nat
  randomPhase : Thread → RandomPhase
  blocksRead : Thread → Nat

/-- One event for each call.  Only the disk thread changes the structure of the table, so
that what a call of it reads before it locks the table still holds behind the lock. -/
inductive DiskEvent (Thread : Type)
  | getUnusedBlock (segment : Nat) (randoms : List Nat)
  | writeBlockToDisk (written : Bool)
  | push
  | pop
  | validateBlockOnDisk (valid : Bool)
  | removeBlock
  | getRandomBlock (thread : Thread) (timedOut : Bool) (random : Nat)
  | validateRandomBlock (thread : Thread)
  | releaseBlock (thread : Thread)

namespace DiskTest

variable {Thread : Type}

def start : DiskTest Thread := ⟨.empty, .between, [], fun _ => .between, fun _ => 0⟩

/-- What the disk thread does next.  `written` also holds where the test is not
destructive, and nothing is written. -/
def diskStep (device : Device) (test : DiskTest Thread) :
    DiskEvent Thread → Option (DiskTest Thread)
  | .getUnusedBlock segment randoms =>
      match test.phase with
      | .between =>
          let got := test.table.getUnusedBlock device segment randoms
          some { test with table := got.1, phase := .writing got.2 }
      | _ => none
  | .writeBlockToDisk written =>
      match test.phase with
      -- No line excludes the null pointer, which is followed here.
      | .writing none => none
      | .writing (some name) =>
          some { test with phase := if written then .pushing name else .removing name false }
      | _ => none
  | .push =>
      match test.phase with
      -- `block->initialized()` only reads the flag.
      | .pushing name =>
          some { test with phase := .between, inFlight := test.inFlight ++ [name] }
      | _ => none
  | .pop =>
      match test.phase, test.inFlight with
      | .between, name :: rest => some { test with phase := .checking name, inFlight := rest }
      | _, _ => none
  | .validateBlockOnDisk valid =>
      match test.phase with
      | .checking name =>
          some { test with
            phase := if valid then .removing name true else .ended (some name) }
      | _ => none
  | .removeBlock =>
      match test.phase with
      | .removing name goesOn =>
          (test.table.removeBlock name).map fun removed =>
            { test with
              table := removed.1
              phase := if goesOn then .between else .ended none }
      | _ => none
  | _ => none

variable [DecidableEq Thread]

/-- What a random thread does next.  It ignores whether the block was read. -/
def randomStep (test : DiskTest Thread) : DiskEvent Thread → Option (DiskTest Thread)
  | .getRandomBlock thread timedOut random =>
      match test.randomPhase thread with
      | .between =>
          (test.table.getRandomBlock timedOut random).map fun got =>
            { test with
              table := got.1
              randomPhase := Function.update test.randomPhase thread
                (match got.2 with
                | none => .between
                | some name => .checking name) }
      | _ => none
  | .validateRandomBlock thread =>
      match test.randomPhase thread with
      | .checking name =>
          some { test with
            randomPhase := Function.update test.randomPhase thread (.releasing name) }
      | _ => none
  | .releaseBlock thread =>
      match test.randomPhase thread with
      | .releasing name =>
          (test.table.releaseBlock name).map fun released =>
            { test with
              table := released.1
              randomPhase := Function.update test.randomPhase thread .between
              blocksRead := Function.update test.blocksRead thread (test.blocksRead thread + 1) }
      | _ => none
  | _ => none

def step (device : Device) (test : DiskTest Thread) (event : DiskEvent Thread) :
    Option (DiskTest Thread) :=
  (test.diskStep device event).or (test.randomStep event)

end DiskTest

/-! ### Where blocks lie -/

/-- An address `GetUnusedBlock` may draw. -/
def Device.Fits (device : Device) (address : Nat) : Prop :=
  address + device.numSectors ≤ device.deviceSectors ∧
    match device.segmentSize with
    | none => ∃ place, address = place * device.numSectors
    | some size => ∃ segment place, address = place * device.numSectors + segment * size ∧
        address + device.numSectors ≤ (segment + 1) * size

theorem Device.Fits.segment {device : Device} {address size : Nat} (fits : device.Fits address)
    (segmented : device.segmentSize = some size) :
    ∃ segment place, address = place * device.numSectors + segment * size ∧
      address + device.numSectors ≤ (segment + 1) * size := by
  have located := fits.2
  simp only [segmented] at located
  exact located

theorem multiples_apart {first second size : Nat} (different : first ≠ second) :
    first * size + size ≤ second * size ∨ second * size + size ≤ first * size := by
  rcases Nat.lt_or_gt_of_ne different with less | greater
  · left
    rw [← Nat.succ_mul]
    exact Nat.mul_le_mul_right size less
  · right
    rw [← Nat.succ_mul]
    exact Nat.mul_le_mul_right size greater

/-- The source looks up the first sector of a block only, since the blocks are aligned. -/
theorem Device.Fits.apart {device : Device} {first second : Nat} (one : device.Fits first)
    (other : device.Fits second) (different : first ≠ second) :
    first + device.numSectors ≤ second ∨ second + device.numSectors ≤ first := by
  obtain ⟨_, one⟩ := one
  obtain ⟨_, other⟩ := other
  cases segments : device.segmentSize with
  | none =>
      simp only [segments] at one other
      obtain ⟨place, rfl⟩ := one
      obtain ⟨place', rfl⟩ := other
      exact multiples_apart fun same => different (by rw [same])
  | some size =>
      simp only [segments] at one other
      obtain ⟨segment, place, address, inside⟩ := one
      obtain ⟨segment', place', address', inside'⟩ := other
      by_cases same : segment = segment'
      · subst same
        have places : place ≠ place' := fun equal => different (by rw [address, address', equal])
        rcases @multiples_apart _ _ device.numSectors places with before | after
        · left; omega
        · right; omega
      · rw [Nat.succ_mul] at inside inside'
        rcases @multiples_apart _ _ size same with before | after
        · left; omega
        · right; omega

namespace DiskBlockTable

variable {table : DiskBlockTable} {device : Device}

theorem trySector_fits {segment random sector : Nat}
    (found : trySector device segment random = some sector) : device.Fits sector := by
  unfold trySector at found
  unfold Device.Fits
  cases segments : device.segmentSize with
  | none =>
      simp only [segments] at found ⊢
      split at found
      · cases found
      · next inside =>
          cases found
          exact ⟨Nat.le_of_not_lt inside, _, rfl⟩
  | some size =>
      simp only [segments] at found ⊢
      split at found
      · cases found
      · next segmental =>
          split at found
          · cases found
          · next inside =>
              cases found
              exact ⟨Nat.le_of_not_lt inside, segment, _, rfl, Nat.le_of_not_lt segmental⟩

theorem findUnused_unused {segment sector : Nat} {randoms : List Nat}
    (found : table.findUnused device segment randoms = some sector) :
    table.addrToBlock sector = none ∧ device.Fits sector := by
  induction randoms with
  | nil => cases found
  | cons random rest ih =>
      rw [findUnused] at found
      split at found
      · exact ih found
      · next drawn =>
          split at found
          · exact ih found
          · next unused =>
              cases found
              exact ⟨Option.not_isSome_iff_eq_none.mp unused, trySector_fits drawn⟩

/-! ### A sound table -/

/-- Positions and addresses are each other's inverse, and every block on the heap is in
the table, with the reference of the disk thread only and not initialized. -/
structure Sound (table : DiskBlockTable) : Prop where
  placed : ∀ pos < table.size, ∃ data,
    table.addrToBlock (table.posToAddr pos) = some data ∧ data.pos = pos
  found : ∀ address data, table.addrToBlock address = some data →
    data.pos < table.size ∧ table.posToAddr data.pos = address ∧
      ∃ block, table.blocks data.block = some block ∧ block.address = address
  alive : ∀ name block, table.blocks name = some block →
    name < table.fresh ∧ block.references = 1 ∧ block.initialized = false ∧
      ∃ data, table.addrToBlock block.address = some data ∧ data.block = name

theorem empty_sound : empty.Sound where
  placed := fun _ below => absurd below (Nat.not_lt_zero _)
  found := fun _ _ known => nomatch known
  alive := fun _ _ known => nomatch known

theorem Sound.fresh_none (sound : table.Sound) : table.blocks table.fresh = none := by
  by_contra known
  obtain ⟨block, known⟩ := Option.ne_none_iff_exists'.mp known
  exact absurd (sound.alive _ _ known).1 (Nat.lt_irrefl _)

/-- Two blocks of one address are one. -/
theorem Sound.address_injective (sound : table.Sound) {first second : Nat}
    {block block' : BlockData} (one : table.blocks first = some block)
    (other : table.blocks second = some block') (same : block.address = block'.address) :
    first = second := by
  obtain ⟨data, entry, name⟩ := (sound.alive _ _ one).2.2.2
  obtain ⟨data', entry', name'⟩ := (sound.alive _ _ other).2.2.2
  rw [same, entry'] at entry
  cases entry
  exact name.symm.trans name'

theorem Sound.insert (sound : table.Sound) {sector : Nat}
    (unused : table.addrToBlock sector = none) :
    ((table.newBlock device sector).insertOnStructure table.fresh sector).Sound := by
  constructor
  · intro pos below
    change pos < table.size + 1 at below
    change ∃ data, Function.update table.addrToBlock sector _
      (Function.update table.posToAddr table.size sector pos) = some data ∧ data.pos = pos
    by_cases last : pos = table.size
    · rw [last, Function.update_self, Function.update_self]
      exact ⟨_, rfl, rfl⟩
    · obtain ⟨data, entry, back⟩ := sound.placed pos (by omega)
      rw [Function.update_of_ne last, Function.update_of_ne]
      · exact ⟨data, entry, back⟩
      · intro same
        rw [same, unused] at entry
        cases entry
  · intro address data entry
    change Function.update table.addrToBlock sector (some ⟨table.fresh, table.size⟩) address =
      some data at entry
    change data.pos < table.size + 1 ∧
      Function.update table.posToAddr table.size sector data.pos = address ∧
      ∃ block, Function.update table.blocks table.fresh _ data.block = some block ∧ _
    by_cases new : address = sector
    · rw [new, Function.update_self] at entry
      cases entry
      refine ⟨Nat.lt_succ_self _, ?_, _, Function.update_self .., new.symm⟩
      rw [Function.update_self, new]
    · rw [Function.update_of_ne new] at entry
      obtain ⟨below, back, block, known, starts⟩ := sound.found address data entry
      refine ⟨Nat.lt_succ_of_lt below, ?_, block, ?_, starts⟩
      · rw [Function.update_of_ne (Nat.ne_of_lt below), back]
      · rw [Function.update_of_ne (Nat.ne_of_lt (sound.alive _ _ known).1), known]
  · intro name block known
    change Function.update table.blocks table.fresh _ name = some block at known
    change name < table.fresh + 1 ∧ _ ∧ _ ∧
      ∃ data, Function.update table.addrToBlock sector _ block.address = some data ∧ _
    by_cases new : name = table.fresh
    · rw [new, Function.update_self] at known
      cases known
      refine ⟨by omega, rfl, rfl, _, Function.update_self .., new.symm⟩
    · rw [Function.update_of_ne new] at known
      obtain ⟨below, single, unset, data, entry, back⟩ := sound.alive name block known
      refine ⟨by omega, single, unset, data, ?_, back⟩
      rw [Function.update_of_ne, entry]
      intro same
      rw [same, unused] at entry
      cases entry

theorem getUnusedBlock_none {segment : Nat} {randoms : List Nat} {after : DiskBlockTable}
    (got : table.getUnusedBlock device segment randoms = (after, none)) : after = table := by
  unfold DiskBlockTable.getUnusedBlock at got
  split at got
  · cases got
    rfl
  · cases got

theorem Sound.getUnusedBlock (sound : table.Sound) {segment name : Nat} {randoms : List Nat}
    {after : DiskBlockTable}
    (got : table.getUnusedBlock device segment randoms = (after, some name)) :
    after.Sound ∧ table.blocks name = none ∧ ∃ sector, device.Fits sector ∧
      after.blocks = Function.update table.blocks name
        (some ⟨sector, device.writeBlockSize, 1, false⟩) := by
  unfold DiskBlockTable.getUnusedBlock at got
  split at got
  · cases got
  · next sector drawn =>
      obtain ⟨unused, fits⟩ := findUnused_unused drawn
      cases got
      exact ⟨sound.insert unused, sound.fresh_none, sector, fits, rfl⟩

/-- What is left of the table when the last address took the place of the block's. -/
theorem Sound.erase (sound : table.Sound) {name : Nat} {block : BlockData}
    {it lastIt : StorageData} (known : table.blocks name = some block)
    (entry : table.addrToBlock block.address = some it)
    (lastEntry : table.addrToBlock (table.posToAddr (table.size - 1)) = some lastIt) :
    Sound { table.eraseFromStructure block.address it lastIt with
      blocks := Function.update table.blocks name none } := by
  obtain ⟨below, back, _⟩ := sound.found _ _ entry
  have lastPos : lastIt.pos = table.size - 1 := by
    obtain ⟨data, lastKnown, lastPos⟩ := sound.placed (table.size - 1) (by omega)
    rw [lastEntry] at lastKnown
    cases lastKnown
    exact lastPos
  -- The removed block is the last one exactly where its position is the last.
  have last : it.pos = table.size - 1 ↔ table.posToAddr (table.size - 1) = block.address := by
    constructor
    · intro same
      rw [← same, back]
    · intro same
      rw [same, entry] at lastEntry
      cases lastEntry
      exact lastPos
  constructor
  · intro pos inside
    change pos < table.size - 1 at inside
    change ∃ data, Function.update (Function.update table.addrToBlock _ _) block.address none
      (Function.update table.posToAddr it.pos _ pos) = some data ∧ data.pos = pos
    by_cases moved : pos = it.pos
    · rw [moved, Function.update_self, Function.update_of_ne, Function.update_self]
      · exact ⟨_, rfl, rfl⟩
      · intro same
        have := last.mpr same
        omega
    · obtain ⟨data, kept, position⟩ := sound.placed pos (by omega)
      rw [Function.update_of_ne moved, Function.update_of_ne, Function.update_of_ne]
      · exact ⟨data, kept, position⟩
      · intro same
        rw [same, lastEntry] at kept
        cases kept
        omega
      · intro same
        rw [same, entry] at kept
        cases kept
        exact moved position.symm
  · intro address data kept
    change Function.update (Function.update table.addrToBlock _ _) block.address none address =
      some data at kept
    change data.pos < table.size - 1 ∧
      Function.update table.posToAddr it.pos _ data.pos = address ∧
      ∃ other, Function.update table.blocks name none data.block = some other ∧ _
    by_cases removed : address = block.address
    · rw [removed, Function.update_self] at kept
      cases kept
    rw [Function.update_of_ne removed] at kept
    have others : ∀ index other, table.blocks index = some other → other.address = address →
        Function.update table.blocks name none index = some other := by
      intro index other isBlock starts
      rw [Function.update_of_ne, isBlock]
      intro same
      rw [same, known] at isBlock
      cases isBlock
      exact removed starts.symm
    by_cases moved : address = table.posToAddr (table.size - 1)
    · rw [moved, Function.update_self] at kept
      cases kept
      obtain ⟨_, _, other, isBlock, starts⟩ := sound.found _ _ lastEntry
      have notLast : it.pos ≠ table.size - 1 := fun same =>
        removed (moved.trans (last.mp same))
      refine ⟨by change it.pos < _; omega, ?_, other, ?_, starts.trans moved.symm⟩
      · rw [moved]
        exact Function.update_self ..
      · exact others _ _ isBlock (starts.trans moved.symm)
    · rw [Function.update_of_ne moved] at kept
      obtain ⟨inside, position, other, isBlock, starts⟩ := sound.found _ _ kept
      have notLast : data.pos ≠ table.size - 1 := by
        intro same
        rw [same] at position
        exact moved position.symm
      refine ⟨by omega, ?_, other, others _ _ isBlock starts, starts⟩
      rw [Function.update_of_ne, position]
      intro same
      rw [same, back] at position
      exact removed position.symm
  · intro index other isBlock
    change Function.update table.blocks name none index = some other at isBlock
    change index < table.fresh ∧ _ ∧ _ ∧ ∃ data,
      Function.update (Function.update table.addrToBlock _ _) block.address none other.address =
        some data ∧ _
    by_cases removed : index = name
    · rw [removed, Function.update_self] at isBlock
      cases isBlock
    rw [Function.update_of_ne removed] at isBlock
    obtain ⟨older, single, unset, data, kept, named⟩ := sound.alive _ _ isBlock
    refine ⟨older, single, unset, ?_⟩
    rw [Function.update_of_ne fun same => removed (sound.address_injective isBlock known same)]
    by_cases moved : other.address = table.posToAddr (table.size - 1)
    · rw [moved, lastEntry] at kept
      cases kept
      rw [moved, Function.update_self]
      exact ⟨_, rfl, named⟩
    · rw [Function.update_of_ne moved]
      exact ⟨data, kept, named⟩

/-- The assertions of `RemoveBlock` hold, and the block is freed at once. -/
theorem Sound.removeBlock (sound : table.Sound) {name : Nat} {block : BlockData}
    (known : table.blocks name = some block) :
    ∃ after, table.removeBlock name = some (after, true) ∧ after.Sound ∧
      after.blocks = Function.update table.blocks name none := by
  obtain ⟨_, single, _, it, entry, _⟩ := sound.alive _ _ known
  obtain ⟨below, _⟩ := sound.found _ _ entry
  obtain ⟨lastIt, lastEntry, _⟩ := sound.placed (table.size - 1) (by omega)
  refine ⟨_, ?_, sound.erase known entry lastEntry, rfl⟩
  have filled : table.size ≠ 0 := by omega
  simp only [DiskBlockTable.removeBlock, known, entry, lastEntry, if_neg filled, decrease, single]
  rfl

theorem Sound.getRandomBlock_asserts (sound : table.Sound) (filled : 0 < table.size)
    (random : Nat) : table.getRandomBlock false random = some (table, none) := by
  obtain ⟨it, entry, _⟩ := sound.placed _ (Nat.mod_lt random filled)
  obtain ⟨_, _, block, known, _⟩ := sound.found _ _ entry
  have unset := (sound.alive _ _ known).2.2.1
  have nonempty : table.size ≠ 0 := by omega
  simp only [DiskBlockTable.getRandomBlock, if_neg nonempty, entry, known, unset]
  rfl

theorem Sound.getRandomBlock (sound : table.Sound) {timedOut : Bool} {random : Nat}
    {got : DiskBlockTable × Option Nat}
    (returned : table.getRandomBlock timedOut random = some got) : got = (table, none) := by
  cases timedOut with
  | true =>
      cases returned
      rfl
  | false =>
      by_cases filled : 0 < table.size
      · rw [sound.getRandomBlock_asserts filled] at returned
        cases returned
        rfl
      · have empty : table.size = 0 := by omega
        simp only [DiskBlockTable.getRandomBlock, if_pos empty] at returned
        cases returned

def Fitting (table : DiskBlockTable) (device : Device) : Prop :=
  ∀ name block, table.blocks name = some block →
    device.Fits block.address ∧ block.size = device.writeBlockSize

theorem Fitting.update {after : DiskBlockTable} {name : Nat} {value : Option BlockData}
    (fits : table.Fitting device) (blocks : after.blocks = Function.update table.blocks name value)
    (new : ∀ block, value = some block →
      device.Fits block.address ∧ block.size = device.writeBlockSize) :
    after.Fitting device := by
  intro index block known
  rw [blocks] at known
  by_cases same : index = name
  · rw [same, Function.update_self] at known
    exact new block known
  · rw [Function.update_of_ne same] at known
    exact fits index block known

theorem Fitting.remove {after : DiskBlockTable} {name : Nat} (fits : table.Fitting device)
    (blocks : after.blocks = Function.update table.blocks name none) : after.Fitting device :=
  fits.update blocks fun _ known => nomatch known

end DiskBlockTable

/-! ### The blocks on the heap -/

namespace DiskBlockTable

variable {table after : DiskBlockTable} {device : Device}

/-- The blocks on the heap are those listed, each listed once. -/
structure Owned (table : DiskBlockTable) (names : List Nat) : Prop where
  alive : ∀ name, (table.blocks name).isSome ↔ name ∈ names
  once : names.Nodup

theorem Owned.perm {names others : List Nat} (owned : table.Owned names)
    (same : names.Perm others) : table.Owned others where
  alive := fun name => (owned.alive name).trans same.mem_iff
  once := same.nodup_iff.mp owned.once

theorem Owned.add {names : List Nat} (owned : table.Owned names) {name : Nat} {block : BlockData}
    (new : table.blocks name = none)
    (blocks : after.blocks = Function.update table.blocks name (some block)) :
    after.Owned (name :: names) where
  alive := by
    intro index
    rw [blocks, List.mem_cons, ← owned.alive]
    by_cases same : index = name
    · rw [same, Function.update_self]
      exact ⟨fun _ => .inl rfl, fun _ => rfl⟩
    · rw [Function.update_of_ne same]
      exact ⟨.inr, fun either => either.resolve_left same⟩
  once := by
    refine List.nodup_cons.mpr ⟨fun member => ?_, owned.once⟩
    have known := (owned.alive name).mpr member
    rw [new] at known
    cases known

theorem Owned.remove {names : List Nat} {name : Nat} (owned : table.Owned (name :: names))
    (blocks : after.blocks = Function.update table.blocks name none) : after.Owned names where
  alive := by
    have once := List.nodup_cons.mp owned.once
    intro index
    rw [blocks]
    by_cases same : index = name
    · rw [same, Function.update_self]
      exact ⟨(fun known => nomatch known), fun member => absurd member once.1⟩
    · rw [Function.update_of_ne same, owned.alive, List.mem_cons]
      exact ⟨fun either => either.resolve_left same, .inr⟩
  once := (List.nodup_cons.mp owned.once).2

end DiskBlockTable

/-! ### Whole runs -/

namespace DiskTest

open DiskBlockTable

variable {Thread : Type}

/-- The blocks on the heap are those in flight and the one in the disk thread's hand; no
random thread has one. -/
structure Kept (device : Device) (test : DiskTest Thread) : Prop where
  sound : test.table.Sound
  fits : test.table.Fitting device
  owned : test.table.Owned (test.phase.inHand ++ test.inFlight)
  idle : ∀ thread, test.randomPhase thread = .between
  unread : ∀ thread, test.blocksRead thread = 0

variable {device : Device} {test successor : DiskTest Thread}

theorem start_kept : (start : DiskTest Thread).Kept device where
  sound := empty_sound
  fits := fun _ _ known => nomatch known
  owned := ⟨fun _ => ⟨(fun known => nomatch known), fun member => nomatch member⟩, List.nodup_nil⟩
  idle := fun _ => rfl
  unread := fun _ => rfl

/-- A block that passes from one place to another is still owned once. -/
theorem Kept.pass (kept : test.Kept device) {phase : DiskPhase} {inFlight : List Nat}
    (same : (test.phase.inHand ++ test.inFlight).Perm (phase.inHand ++ inFlight)) :
    Kept device { test with phase := phase, inFlight := inFlight } where
  sound := kept.sound
  fits := kept.fits
  owned := kept.owned.perm same
  idle := kept.idle
  unread := kept.unread

theorem Kept.getUnusedBlock (kept : test.Kept device) (between : test.phase = .between)
    (segment : Nat) (randoms : List Nat) :
    Kept device { test with
      table := (test.table.getUnusedBlock device segment randoms).1
      phase := .writing (test.table.getUnusedBlock device segment randoms).2 } := by
  have owned : test.table.Owned test.inFlight := by
    have owned := kept.owned
    rw [between] at owned
    exact owned
  generalize got : test.table.getUnusedBlock device segment randoms = drawn
  obtain ⟨after, block⟩ := drawn
  cases block with
  | none =>
      have unchanged := getUnusedBlock_none got
      subst unchanged
      exact ⟨kept.sound, kept.fits, owned, kept.idle, kept.unread⟩
  | some name =>
      obtain ⟨sound, new, sector, fits, blocks⟩ := kept.sound.getUnusedBlock got
      refine ⟨sound, kept.fits.update blocks fun block same => ?_, owned.add new blocks,
        kept.idle, kept.unread⟩
      cases same
      exact ⟨fits, rfl⟩

theorem Kept.removeBlock (kept : test.Kept device) {name : Nat} {goesOn : Bool}
    (removing : test.phase = .removing name goesOn) :
    ∃ after, test.table.removeBlock name = some (after, true) ∧ ∀ phase : DiskPhase,
      phase.inHand = [] → Kept device { test with table := after, phase := phase } := by
  have owned : test.table.Owned (name :: test.inFlight) := by
    have owned := kept.owned
    rw [removing] at owned
    exact owned
  obtain ⟨block, known⟩ :=
    Option.isSome_iff_exists.mp ((owned.alive name).mpr List.mem_cons_self)
  obtain ⟨after, removes, sound, left⟩ := kept.sound.removeBlock known
  refine ⟨after, removes, fun phase empty => ?_⟩
  refine ⟨sound, kept.fits.remove left, ?_, kept.idle, kept.unread⟩
  change after.Owned (phase.inHand ++ test.inFlight)
  rw [empty]
  exact owned.remove left

theorem Kept.diskStep (kept : test.Kept device) {event : DiskEvent Thread}
    (taken : test.diskStep device event = some successor) : successor.Kept device := by
  cases event with
  | getUnusedBlock segment randoms =>
      simp only [DiskTest.diskStep] at taken
      split at taken
      · next between =>
          cases taken
          exact kept.getUnusedBlock between segment randoms
      · cases taken
  | writeBlockToDisk written =>
      simp only [DiskTest.diskStep] at taken
      split at taken
      · cases taken
      · next name writing =>
          cases taken
          apply kept.pass
          rw [writing]
          cases written <;> exact .refl _
      · cases taken
  | push =>
      simp only [DiskTest.diskStep] at taken
      split at taken
      · next name pushing =>
          cases taken
          apply kept.pass
          rw [pushing]
          exact List.perm_append_comm
      · cases taken
  | pop =>
      simp only [DiskTest.diskStep] at taken
      split at taken
      · next name rest between order =>
          cases taken
          apply kept.pass
          rw [between, order]
          exact .refl _
      · cases taken
  | validateBlockOnDisk valid =>
      simp only [DiskTest.diskStep] at taken
      split at taken
      · next name checking =>
          cases taken
          apply kept.pass
          rw [checking]
          cases valid <;> exact .refl _
      · cases taken
  | removeBlock =>
      simp only [DiskTest.diskStep] at taken
      split at taken
      · next name goesOn removing =>
          obtain ⟨after, removes, keeps⟩ := kept.removeBlock removing
          rw [removes] at taken
          cases taken
          apply keeps
          cases goesOn <;> rfl
      · cases taken
  | getRandomBlock => cases taken
  | validateRandomBlock => cases taken
  | releaseBlock => cases taken

variable [DecidableEq Thread]

theorem Kept.randomStep (kept : test.Kept device) {event : DiskEvent Thread}
    (taken : test.randomStep event = some successor) : successor.Kept device := by
  cases event with
  | getRandomBlock thread timedOut random =>
      simp only [DiskTest.randomStep, kept.idle] at taken
      obtain ⟨got, returned, rfl⟩ := Option.map_eq_some_iff.mp taken
      rw [kept.sound.getRandomBlock returned]
      refine ⟨kept.sound, kept.fits, kept.owned, fun other => ?_, kept.unread⟩
      change Function.update test.randomPhase thread .between other = .between
      by_cases same : other = thread
      · rw [same, Function.update_self]
      · rw [Function.update_of_ne same, kept.idle]
  | validateRandomBlock thread =>
      simp only [DiskTest.randomStep, kept.idle] at taken
      cases taken
  | releaseBlock thread =>
      simp only [DiskTest.randomStep, kept.idle] at taken
      cases taken
  | _ => cases taken

theorem run_kept {history : History (DiskTest Thread) (DiskEvent Thread)}
    (run : Run (DiskTest.step device) start history test) : test.Kept device := by
  refine run.invariant (fun _ state => state.Kept device) start_kept ?_
  intro _ _ _ _ _ kept taken
  rcases Option.or_eq_some_iff.mp taken with ofDisk | ⟨_, ofRandom⟩
  · exact kept.diskStep ofDisk
  · exact kept.randomStep ofRandom

end DiskTest

variable {Thread : Type} [DecidableEq Thread] {device : Device} {test : DiskTest Thread}
  {history : History (DiskTest Thread) (DiskEvent Thread)}

/-- No block is ever initialized, so the random threads get none.  The disk thread alone
has references: the blocks on the heap are those in flight and the one in its hand, and
the removal of any of them frees it and nothing else. -/
theorem random_threads_read_nothing
    (run : Run (DiskTest.step device) DiskTest.start history test) :
    (∀ thread, test.randomPhase thread = .between ∧ test.blocksRead thread = 0) ∧
    (∀ random, 0 < test.table.size →
      test.table.getRandomBlock false random = some (test.table, none)) ∧
    (∀ name, (test.table.blocks name).isSome ↔
      name ∈ test.phase.inHand ∨ name ∈ test.inFlight) ∧
    ∀ name, (test.table.blocks name).isSome →
      ∃ after, test.table.removeBlock name = some (after, true) ∧
        after.blocks = Function.update test.table.blocks name none := by
  have kept := DiskTest.run_kept run
  refine ⟨fun thread => ⟨kept.idle thread, kept.unread thread⟩,
    fun random filled => kept.sound.getRandomBlock_asserts filled random, fun name => ?_, ?_⟩
  · rw [kept.owned.alive, List.mem_append]
  · intro name alive
    obtain ⟨block, known⟩ := Option.isSome_iff_exists.mp alive
    obtain ⟨after, removes, _, left⟩ := kept.sound.removeBlock known
    exact ⟨after, removes, left⟩

/-- Blocks of four sectors in segments of ten. -/
def segmentedDevice : Device where
  sectorSize := 512
  writeBlockSize := 2048
  deviceSectors := 64
  segmentSize := some 10
  sector := by decide
  block := by decide
  room := by decide
  segments := by
    intro size same
    cases same
    decide

/-- One block is in flight and a second one, found by the second try, is about to be
written, when the random thread asks for a block. -/
theorem two_blocks_are_taken : ∃ history, ∃ test : DiskTest Unit,
    Run (DiskTest.step segmentedDevice) DiskTest.start history test ∧
      test.table.blocks 0 = some ⟨14, 2048, 1, false⟩ ∧
      test.table.blocks 1 = some ⟨10, 2048, 1, false⟩ ∧
      test.phase = .writing (some 1) ∧ test.inFlight = [0] := by
  have next := @Run.next (DiskTest Unit) _ (DiskTest.step segmentedDevice) DiskTest.start
  have first := @next _ _ _ (.getUnusedBlock 1 [7]) .start rfl
  have written := @next _ _ _ (.writeBlockToDisk true) first rfl
  have pushed := @next _ _ _ .push written rfl
  have second := @next _ _ _ (.getUnusedBlock 1 [9, 4]) pushed rfl
  have run := @next _ _ _ (.getRandomBlock () false 3) second rfl
  exact ⟨_, _, run, rfl, rfl, rfl, rfl⟩

theorem one_random_thread_reads_nothing : ∃ test : DiskTest Unit,
    test.phase = .writing (some 1) ∧ test.inFlight = [0] ∧
    (∀ thread, test.randomPhase thread = .between ∧ test.blocksRead thread = 0) ∧
    (∀ random, 0 < test.table.size →
      test.table.getRandomBlock false random = some (test.table, none)) ∧
    (∀ name, (test.table.blocks name).isSome ↔
      name ∈ test.phase.inHand ∨ name ∈ test.inFlight) ∧
    ∀ name, (test.table.blocks name).isSome →
      ∃ after, test.table.removeBlock name = some (after, true) ∧
        after.blocks = Function.update test.table.blocks name none := by
  obtain ⟨_, test, run, _, _, phase, inFlight⟩ := two_blocks_are_taken
  exact ⟨test, phase, inFlight, random_threads_read_nothing run⟩

/-- Each block on the heap lies in the device and in one of its segments, and no two of
them share a sector. -/
theorem blocks_never_overlap
    (run : Run (DiskTest.step device) DiskTest.start history test) :
    (∀ name block, test.table.blocks name = some block →
      block.address + device.numSectors ≤ device.deviceSectors ∧
      ∀ size, device.segmentSize = some size → ∃ segment,
        segment * size ≤ block.address ∧
          block.address + device.numSectors ≤ (segment + 1) * size) ∧
    ∀ first second block other, test.table.blocks first = some block →
      test.table.blocks second = some other → first ≠ second →
      block.address + device.numSectors ≤ other.address ∨
        other.address + device.numSectors ≤ block.address := by
  have kept := DiskTest.run_kept run
  constructor
  · intro name block known
    have fits := (kept.fits _ _ known).1
    refine ⟨fits.1, fun size segmented => ?_⟩
    obtain ⟨segment, place, address, inside⟩ := fits.segment segmented
    exact ⟨segment, by omega, inside⟩
  · intro first second block other one two different
    apply (kept.fits _ _ one).1.apart (kept.fits _ _ two).1
    exact fun same => different (kept.sound.address_injective one two same)

theorem two_blocks_never_overlap : ∃ test : DiskTest Unit,
    test.table.blocks 0 = some ⟨14, 2048, 1, false⟩ ∧
    test.table.blocks 1 = some ⟨10, 2048, 1, false⟩ ∧
    (∀ name block, test.table.blocks name = some block →
      block.address + segmentedDevice.numSectors ≤ segmentedDevice.deviceSectors ∧
      ∀ size, segmentedDevice.segmentSize = some size → ∃ segment,
        segment * size ≤ block.address ∧
          block.address + segmentedDevice.numSectors ≤ (segment + 1) * size) ∧
    ∀ first second block other, test.table.blocks first = some block →
      test.table.blocks second = some other → first ≠ second →
      block.address + segmentedDevice.numSectors ≤ other.address ∨
        other.address + segmentedDevice.numSectors ≤ block.address := by
  obtain ⟨_, test, run, one, two, _⟩ := two_blocks_are_taken
  exact ⟨test, one, two, blocks_never_overlap run⟩

end AmebaTests.Stressapptest
