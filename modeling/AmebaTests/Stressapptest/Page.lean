/-
Filling and checking a page.

A page is checked in blocks of 4096 bytes.  The checksum of a block is compared
with that of the pattern, and only a block with another checksum is looked at
word by word.  With tags, the checksum loop checks the tagged words itself and
takes the pattern's words in their place.
-/

import AmebaTests.Stressapptest.Region

namespace AmebaTests.Stressapptest

open Foundation

/-- What the worker threads share: the patterns, the tag mode and the page length. -/
structure Setup where
  patterns : List Pattern
  tagMode : Bool
  pageLength : Nat

namespace Setup

/-- A pointer to a pattern of the list. -/
abbrev Ref (setup : Setup) : Type := Fin setup.patterns.length

def pattern (setup : Setup) (ref : setup.Ref) : Pattern := setup.patterns[ref]

/-- `pageLength / wordsize_`. -/
def words (setup : Setup) : Nat := setup.pageLength / 8

/-- The number of whole blocks. -/
def blocks (setup : Setup) : Nat := setup.pageLength / 4096

end Setup

/-- The words of a block. -/
def blockwords : Nat := 4096 / 8

variable (setup : Setup)

/-- The word `FillPage` writes at an index of the page at this address. -/
def fillWord (pattern : Pattern) (addr i : Nat) : BitVec 64 :=
  if setup.tagMode ∧ i &&& 7 = 0 then addrToTag (addr + i) else pattern.word i

def fillPage (pattern : Pattern) (addr : Nat) (memory : Memory) : Memory :=
  (List.range setup.words).foldl (fun memory i =>
    store memory (addr + i) (fillWord setup pattern addr i)) memory

/-- `ReportTagError`, with what `ProcessTagError` does: the tag is counted and written back. -/
def reportTagError (state : Checker) (mem64 : Nat) (actual : BitVec 64) : Option Checker :=
  (processError state ⟨actual, addrToTag mem64, mem64⟩ 0 "Hardware Error").map
    fun reported => { reported with errorcount := reported.errorcount + 1 }

/-- A tag the loops have read: it is reported if it is not its own address. -/
def checkTag (state : Checker) (mem64 : Nat) (actual : BitVec 64) : Option Checker :=
  if actual = addrToTag mem64 then some state else reportTagError state mem64 actual

/-- The loop of `AdlerAddrCrcC`. -/
def adlerAddrCrc (pattern : Pattern) (srcmem64 : Nat) (state : Checker) :
    Nat → Option (Checker × AdlerChecksum)
  | 0 => some (state, .initial)
  | pairs + 1 => do
      let (before, sums) ← adlerAddrCrc pattern srcmem64 state pairs
      let i := 2 * pairs
      let checked ← if i &&& 7 = 0 then
          checkTag before (srcmem64 + i) (before.memory (srcmem64 + i))
        else some before
      let even := if i &&& 7 = 0 then pattern.word i else checked.memory (srcmem64 + i)
      let odd := checked.memory (srcmem64 + (i + 1))
      return (checked, sums.addPair even odd)

/-- The checksum of a block, in either mode. -/
def blockCrc (pattern : Pattern) (memslice : Nat) (state : Checker) :
    Option (Checker × AdlerChecksum) :=
  if setup.tagMode then adlerAddrCrc pattern memslice state (pairCount 4096)
  else (CalculateAdlerChecksum state.memory memslice 4096).map fun crc => (state, crc)

/-- A region of a page, as `CheckRegion` is called for it. -/
def slice (memslice words : Nat) : Region := ⟨memslice, words, 0, setup.tagMode⟩

/-- One iteration of `CrcCheckPage`. -/
def crcCheckBlock (ref : setup.Ref) (memslice : Nat) (state : Checker) : Option (Checker × Nat) := do
  let (summed, crc) ← blockCrc setup (setup.pattern ref) memslice state
  if crc = (setup.pattern ref).crc then return (summed, 0)
  else
    checkRegion setup.patterns (setup.pattern ref) ref (slice setup memslice blockwords) summed

def crcCheckBlocks (ref : setup.Ref) (memblock : Nat) (state : Checker) :
    Nat → Option (Checker × Nat)
  | 0 => some (state, 0)
  | currentblock + 1 => do
      let (before, errors) ← crcCheckBlocks ref memblock state currentblock
      let (after, errorcount) ←
        crcCheckBlock setup ref (memblock + currentblock * blockwords) before
      return (after, errors + errorcount)

/-- `CrcCheckPage`, for the page at an address with a pattern. -/
def crcCheckPage (ref : setup.Ref) (memblock : Nat) (state : Checker) :
    Option (Checker × Nat) := do
  let (checked, errors) ← crcCheckBlocks setup ref memblock state setup.blocks
  let leftovers := setup.pageLength % 4096
  if leftovers = 0 then return (checked, errors)
  else
    let (after, errorcount) ←
      checkRegion setup.patterns (setup.pattern ref) ref
        (slice setup (memblock + setup.blocks * blockwords) (leftovers / 8)) checked
    return (after, errors + errorcount)

/-! ### The fill -/

section Fill

variable {setup} {pattern : Pattern} {addr : Nat}

/-- The page at this address holds the pattern. -/
def Holds (setup : Setup) (pattern : Pattern) (addr : Nat) (memory : Memory) : Prop :=
  ∀ i < setup.words, memory (addr + i) = fillWord setup pattern addr i

theorem fill_loop (memory : Memory) (count : Nat) (address : Nat) :
    (List.range count).foldl (fun memory i =>
        store memory (addr + i) (fillWord setup pattern addr i)) memory address =
      if addr ≤ address ∧ address < addr + count then
        fillWord setup pattern addr (address - addr)
      else memory address := by
  induction count with
  | zero => rw [if_neg (by omega)]; rfl
  | succ count ih =>
      rw [List.range_succ, List.foldl_append, List.foldl_cons, List.foldl_nil, store]
      by_cases last : address = addr + count
      · rw [last, Function.update_self, if_pos (by omega), Nat.add_sub_cancel_left]
      · rw [Function.update_of_ne last, ih]
        by_cases inside : addr ≤ address ∧ address < addr + count
        · rw [if_pos inside, if_pos (by omega)]
        · rw [if_neg inside, if_neg (by omega)]

theorem fillPage_holds (memory : Memory) :
    Holds setup pattern addr (fillPage setup pattern addr memory) := by
  intro i inside
  rw [fillPage, fill_loop, if_pos (by omega), Nat.add_sub_cancel_left]

theorem fillPage_outside (memory : Memory) {address : Nat}
    (outside : address < addr ∨ addr + setup.words ≤ address) :
    fillPage setup pattern addr memory address = memory address := by
  rw [fillPage, fill_loop, if_neg (by omega)]

end Fill

/-! ### The check -/

section Tags

variable {setup} {pattern : Pattern}

/-- The indices, of these, whose words are tags. -/
def tagged (setup : Setup) (indices : List Nat) : List Nat :=
  indices.filter fun i => setup.tagMode ∧ i &&& 7 = 0

/-- The word the checksum loop takes at an index. -/
def seenWord (setup : Setup) (pattern : Pattern) (memory : Memory) (memslice i : Nat) : BitVec 64 :=
  if setup.tagMode ∧ i &&& 7 = 0 then pattern.word i else memory (memslice + i)

theorem and_seven (n : Nat) : n &&& 7 = n % 8 :=
  Nat.and_two_pow_sub_one_eq_mod n 3

theorem eight_mul_and (n : Nat) : 8 * n &&& 0x3f = 0 ↔ n % 8 = 0 := by
  rw [show (0x3f : Nat) = 2 ^ 6 - 1 from rfl, Nat.and_two_pow_sub_one_eq_mod]
  omega

/-- A slice expects what filling the page has put there. -/
theorem slice_expected {addr : Nat} (aligned : addr % 8 = 0) (block words i : Nat) :
    (slice setup (addr + block * blockwords) words).expected pattern i =
      fillWord setup pattern addr (block * blockwords + i) := by
  have offset : block * blockwords = 512 * block := Nat.mul_comm block 512
  have word : (slice setup (addr + block * blockwords) words).patternWord pattern i =
      pattern.word (512 * block + i) := (pattern.word_block block i).symm
  have tag : 8 * (addr + (512 * block + i)) &&& 0x3f = 0 ↔ (512 * block + i) &&& 7 = 0 := by
    rw [eight_mul_and, and_seven]
    omega
  rw [Region.expected, word, fillWord, offset]
  simp only [slice, Nat.add_assoc, tag]

theorem slice_expected_tag {memslice : Nat} (aligned : memslice % 8 = 0) (words : Nat) {i : Nat}
    (tag : setup.tagMode ∧ i &&& 7 = 0) :
    (slice setup memslice words).expected pattern i = addrToTag (memslice + i) := by
  rw [Region.expected, if_pos]
  · rfl
  · refine ⟨tag.1, ?_⟩
    have := tag.2
    rw [and_seven] at this
    rw [eight_mul_and]
    change (memslice + i) % 8 = 0
    omega

theorem slice_expected_untagged {memslice : Nat} (aligned : memslice % 8 = 0) (words : Nat) {i : Nat}
    (untagged : ¬ (setup.tagMode ∧ i &&& 7 = 0)) :
    (slice setup memslice words).expected pattern i = pattern.word i := by
  rw [Region.expected, if_neg]
  · rfl
  · rintro ⟨mode, tag⟩
    rw [eight_mul_and] at tag
    have word : (memslice + i) % 8 = 0 := tag
    rw [and_seven] at untagged
    exact untagged ⟨mode, by omega⟩

/-- A tag is reported, counted and put right if it was wrong. -/
theorem checkTag_repairs (state : Checker) (mem64 : Nat) :
    ∃ after, checkTag state mem64 (state.memory mem64) = some after ∧
      after.memory = store state.memory mem64 (addrToTag mem64) ∧
      Logged state after (if state.memory mem64 = addrToTag mem64 then 0 else 1) := by
  rw [checkTag]
  by_cases same : state.memory mem64 = addrToTag mem64
  · rw [if_pos same, if_pos same]
    refine ⟨state, rfl, ?_, Logged.refl state⟩
    rw [← same, store, Function.update_eq_self]
  · obtain ⟨reported, made, written, report⟩ :=
      @processError_reported "Hardware Error" state
        ⟨state.memory mem64, addrToTag mem64, mem64⟩ 0 same
    have kept := report.among (show "Hardware Error" ∈ checkMessages from List.mem_cons_self)
    rw [if_neg same, if_neg same, reportTagError, made]
    exact ⟨_, rfl, written, congrArg (· + 1) kept.count, kept.reports⟩

theorem tagged_pair (k : Nat) :
    tagged setup (List.range (2 * (k + 1))) =
      if setup.tagMode ∧ 2 * k &&& 7 = 0 then tagged setup (List.range (2 * k)) ++ [2 * k]
      else tagged setup (List.range (2 * k)) := by
  have odd : ¬ (setup.tagMode ∧ (2 * k + 1) &&& 7 = 0) := by
    rw [and_seven]
    omega
  rw [show 2 * (k + 1) = 2 * k + 1 + 1 from rfl, tagged, List.range_succ, List.range_succ,
    List.filter_append, List.filter_append, List.filter_singleton, List.filter_singleton,
    decide_eq_false odd]
  by_cases even : setup.tagMode ∧ 2 * k &&& 7 = 0
  · rw [if_pos even, decide_eq_true even]
    exact List.append_nil _
  · rw [if_neg even, decide_eq_false even]
    exact (List.append_nil _).trans (List.append_nil _)

theorem mem_tagged {i count : Nat} :
    i ∈ tagged setup (List.range count) ↔ i < count ∧ setup.tagMode ∧ i &&& 7 = 0 := by
  rw [tagged, List.mem_filter, List.mem_range, decide_eq_true_eq]

theorem not_mem_tagged {i count : Nat} (beyond : count ≤ i) :
    i ∉ tagged setup (List.range count) := fun member =>
  absurd (mem_tagged.mp member).1 (Nat.not_lt.mpr beyond)

/-- What a loop over the words has done to the state: these indices are checked
and repaired, and what was wrong is counted. -/
structure Swept (region : Region) (pattern : Pattern) (indices : List Nat)
    (before after : Checker) : Prop where
  memory : after.memory = region.repaired pattern before.memory indices
  logged : Logged before after (region.wrong pattern before.memory indices).length

namespace Swept

variable {region : Region} {start middle after : Checker} {first second : List Nat}

theorem none (region : Region) (pattern : Pattern) (state : Checker) :
    Swept region pattern [] state state :=
  ⟨repaired_nil.symm, Logged.refl state⟩

/-- A sweep of other words has left these as they were. -/
theorem wrong_apart (swept : Swept region pattern first start middle)
    (apart : ∀ i ∈ second, i ∉ first) :
    region.wrong pattern middle.memory second = region.wrong pattern start.memory second := by
  rw [swept.memory, wrong_repaired]
  apply List.filter_eq_self.mpr
  intro i member
  exact decide_eq_true (apart i (List.mem_of_mem_filter member))

theorem append (swept : Swept region pattern first start middle)
    (more : Swept region pattern second middle after)
    (apart : ∀ i ∈ second, i ∉ first) :
    Swept region pattern (first ++ second) start after := by
  have later := more.logged
  rw [swept.wrong_apart apart] at later
  refine ⟨by rw [more.memory, swept.memory, repaired_append], ?_⟩
  rw [Region.wrong, List.filter_append, List.length_append]
  exact swept.logged.trans later

theorem wrong_shift {page : Region} {offset : Nat} (base : region.addr = page.addr + offset)
    (expected : ∀ i, region.expected pattern i = page.expected pattern (offset + i))
    {memory : Memory} {indices : List Nat} :
    page.wrong pattern memory (indices.map (offset + ·)) =
      (region.wrong pattern memory indices).map (offset + ·) := by
  rw [Region.wrong, Region.wrong, List.filter_map]
  congr 1
  apply List.filter_congr
  intro i _
  rw [Function.comp_apply, expected, base, Nat.add_assoc]

/-- A sweep of a slice is one of the page. -/
theorem shift {page : Region} {offset : Nat} (base : region.addr = page.addr + offset)
    (expected : ∀ i, region.expected pattern i = page.expected pattern (offset + i))
    (swept : Swept region pattern first start after) :
    Swept page pattern (first.map (offset + ·)) start after := by
  refine ⟨?_, by rw [wrong_shift base expected, List.length_map]; exact swept.logged⟩
  rw [swept.memory]
  funext address
  rw [Region.repaired, Region.repaired, base, expected]
  by_cases inside : page.addr + offset ≤ address
  · obtain ⟨i, rfl⟩ := Nat.exists_eq_add_of_le inside
    have here : page.addr + offset + i - page.addr = offset + i := by omega
    rw [Nat.add_sub_cancel_left, here]
    have same : page.addr + offset ≤ page.addr + offset + i ∧ i ∈ first ↔
        page.addr ≤ page.addr + offset + i ∧ offset + i ∈ first.map (offset + ·) := by
      have member : offset + i ∈ first.map (offset + ·) ↔ i ∈ first :=
        List.mem_map_of_injective (add_right_injective offset)
      rw [member]
      exact and_congr_left fun _ => ⟨fun _ => by omega, fun _ => by omega⟩
    simp only [same]
  · rw [if_neg (fun both => inside both.1), if_neg]
    rintro ⟨_, member⟩
    obtain ⟨i, _, equal⟩ := List.mem_map.mp member
    omega

/-- What a sweep of some of the words leaves wrong. -/
theorem wrong_left {chosen : Nat → Bool}
    (swept : Swept region pattern ((List.range region.words).filter chosen) start middle) :
    region.wrong pattern middle.memory (List.range region.words) =
      (region.wrong pattern start.memory (List.range region.words)).filter fun i =>
        ! chosen i := by
  rw [swept.memory, wrong_repaired]
  apply List.filter_congr
  intro i member
  have inside := List.mem_of_mem_filter member
  cases kind : chosen i <;> simp [List.mem_filter, kind, List.mem_range.mp inside]

/-- After a sweep of some of the words, a sweep that leaves nothing wrong. -/
theorem restore {chosen : Nat → Bool}
    (swept : Swept region pattern ((List.range region.words).filter chosen) start middle)
    (memory : after.memory = region.restored pattern middle.memory)
    (logged : Logged middle after
      (region.wrong pattern middle.memory (List.range region.words)).length) :
    Swept region pattern (List.range region.words) start after := by
  refine ⟨?_, ?_⟩
  · rw [memory, swept.memory, restored_repaired (List.filter_subset_self _)]
    rfl
  · have chosenWrong : region.wrong pattern start.memory
        ((List.range region.words).filter chosen) =
          (region.wrong pattern start.memory (List.range region.words)).filter chosen := by
      rw [Region.wrong, Region.wrong, List.filter_filter, List.filter_filter]
      apply List.filter_congr
      intro i _
      exact Bool.and_comm _ _
    have parts := @List.length_eq_countP_add_countP _ chosen
      (region.wrong pattern start.memory (List.range region.words))
    have total := swept.logged.trans logged
    rw [chosenWrong, swept.wrong_left, ← List.countP_eq_length_filter,
      ← List.countP_eq_length_filter] at total
    rw [parts]
    simpa using total

end Swept

theorem Swept.checkTag {region : Region} {indices : List Nat} {start state : Checker} {i : Nat}
    (swept : Swept region pattern indices start state)
    (tag : region.expected pattern i = addrToTag (region.addr + i)) (fresh : i ∉ indices) :
    ∃ after, checkTag state (region.addr + i) (state.memory (region.addr + i)) = some after ∧
      Swept region pattern (indices ++ [i]) start after := by
  obtain ⟨after, checked, memory, logged⟩ := checkTag_repairs state (region.addr + i)
  have one : (region.wrong pattern state.memory [i]).length =
      if state.memory (region.addr + i) = addrToTag (region.addr + i) then 0 else 1 := by
    rw [Region.wrong, ← tag]
    by_cases same : state.memory (region.addr + i) = region.expected pattern i
    · simp [same]
    · simp [same]
  have single : Swept region pattern [i] state after := by
    refine ⟨?_, one ▸ logged⟩
    rw [memory, repaired_cons, repaired_nil, tag]
  refine ⟨after, checked, swept.append single ?_⟩
  intro j member
  rwa [List.mem_singleton.mp member]

/-- The checksum loop with tags: the tags are swept, and the sums are those of
the words with the pattern's in the place of the tags. -/
theorem adlerAddrCrc_sweeps (mode : setup.tagMode = true) {memslice : Nat}
    (aligned : memslice % 8 = 0) (words : Nat) (state : Checker) (pairs : Nat) :
    ∃ after, adlerAddrCrc pattern memslice state pairs =
        some (after, sumPairs (seenWord setup pattern state.memory memslice) pairs) ∧
      Swept (slice setup memslice words) pattern (tagged setup (List.range (2 * pairs)))
        state after := by
  induction pairs with
  | zero => exact ⟨state, rfl, Swept.none _ pattern state⟩
  | succ pairs ih =>
      obtain ⟨before, looped, swept⟩ := ih
      have fresh := @not_mem_tagged setup (2 * pairs) (2 * pairs) le_rfl
      have oddFresh : 2 * pairs + 1 ∉ tagged setup (List.range (2 * (pairs + 1))) := by
        intro member
        have tag := (List.mem_filter.mp member).2
        rw [and_seven, decide_eq_true_eq] at tag
        omega
      have oddSeen : seenWord setup pattern state.memory memslice (2 * pairs + 1) =
          state.memory (memslice + (2 * pairs + 1)) := by
        rw [seenWord, if_neg]
        rw [and_seven]
        omega
      rw [adlerAddrCrc, looped, sumPairs]
      by_cases tag : 2 * pairs &&& 7 = 0
      · obtain ⟨after, checked, sweptMore⟩ := swept.checkTag
          (slice_expected_tag aligned words ⟨mode, tag⟩) fresh
        have all : tagged setup (List.range (2 * (pairs + 1))) =
            tagged setup (List.range (2 * pairs)) ++ [2 * pairs] := by
          rw [tagged_pair, if_pos ⟨mode, tag⟩]
        rw [← all] at sweptMore
        have odd : after.memory (memslice + (2 * pairs + 1)) =
            state.memory (memslice + (2 * pairs + 1)) := by
          rw [sweptMore.memory]
          exact (repaired_index (2 * pairs + 1)).trans (if_neg oddFresh)
        refine ⟨after, ?_, sweptMore⟩
        have evenSeen : seenWord setup pattern state.memory memslice (2 * pairs) =
            pattern.word (2 * pairs) := if_pos ⟨mode, tag⟩
        rw [evenSeen, oddSeen, ← odd]
        have checkedHere : checkTag before (memslice + 2 * pairs)
            (before.memory (memslice + 2 * pairs)) = some after := checked
        simp [tag, checkedHere]
      · have all : tagged setup (List.range (2 * (pairs + 1))) =
            tagged setup (List.range (2 * pairs)) := by
          rw [tagged_pair, if_neg (fun both => tag both.2)]
        rw [all] at oddFresh ⊢
        refine ⟨before, ?_, swept⟩
        have odd : before.memory (memslice + (2 * pairs + 1)) =
            state.memory (memslice + (2 * pairs + 1)) := by
          rw [swept.memory]
          exact (repaired_index (2 * pairs + 1)).trans (if_neg oddFresh)
        have even : before.memory (memslice + 2 * pairs) =
            state.memory (memslice + 2 * pairs) := by
          rw [swept.memory]
          exact (repaired_index (2 * pairs)).trans (if_neg fresh)
        have evenSeen : seenWord setup pattern state.memory memslice (2 * pairs) =
            state.memory (memslice + 2 * pairs) := if_neg fun both => tag both.2
        rw [evenSeen, oddSeen, ← odd, ← even]
        simp [tag]

/-- The checksum of a block, in either mode. -/
theorem blockCrc_sweeps {memslice : Nat} (aligned : memslice % 8 = 0) (state : Checker) :
    ∃ after, blockCrc setup pattern memslice state =
        some (after, sumPairs (seenWord setup pattern state.memory memslice) 256) ∧
      Swept (slice setup memslice blockwords) pattern (tagged setup (List.range blockwords))
        state after := by
  rw [blockCrc]
  by_cases mode : setup.tagMode = true
  · rw [if_pos mode]
    exact adlerAddrCrc_sweeps mode aligned blockwords state 256
  · have plain : seenWord setup pattern state.memory memslice =
        fun i => state.memory (memslice + i) := by
      funext i
      exact if_neg fun both => mode both.1
    have untagged : tagged setup (List.range blockwords) = [] :=
      List.filter_eq_nil_iff.mpr fun i _ => by simp [mode]
    rw [if_neg mode, untagged, plain]
    exact ⟨state, rfl, Swept.none _ pattern state⟩

/-- The 32-bit units of a block that the checksum takes and that are not the pattern's. -/
def damage (setup : Setup) (pattern : Pattern) (memory : Memory) (memslice : Nat) : Nat :=
  RunningSums.distance (units (seenWord setup pattern memory memslice) blockwords)
    (units pattern.word blockwords)

/-- With the pattern's checksum and little damage there is no damage. -/
theorem seenWord_of_crc {memory : Memory} {memslice : Nat}
    (few : damage setup pattern memory memslice ≤ 2)
    (equal : sumPairs (seenWord setup pattern memory memslice) 256 = pattern.crc) :
    ∀ i < blockwords, seenWord setup pattern memory memslice i = pattern.word i := by
  rw [pattern.crc_eq] at equal
  have same : (units (seenWord setup pattern memory memslice) blockwords).length =
      (units pattern.word blockwords).length := by
    rw [length_units, length_units]
  rcases sumPairs_detects (seenWord setup pattern memory memslice) (by norm_num) equal with
    none | far
  · exact eq_of_units ((RunningSums.distance_eq_zero_iff same).mp none)
  · exact absurd far (Nat.not_le_of_lt (Nat.lt_succ_of_le few))

/-- A sweep with the number of errors that is returned: a wrong tag is counted
by its report only. -/
structure Checked (setup : Setup) (region : Region) (pattern : Pattern) (indices : List Nat)
    (before after : Checker) (errors : Nat) : Prop where
  swept : Swept region pattern indices before after
  errors : errors = ((region.wrong pattern before.memory indices).filter fun i =>
    ¬ (setup.tagMode ∧ i &&& 7 = 0)).length

namespace Checked

variable {region : Region} {start middle after : Checker} {first second : List Nat}
  {errors more : Nat}

theorem append (checked : Checked setup region pattern first start middle errors)
    (later : Checked setup region pattern second middle after more)
    (apart : ∀ i ∈ second, i ∉ first) :
    Checked setup region pattern (first ++ second) start after (errors + more) := by
  refine ⟨checked.swept.append later.swept apart, ?_⟩
  rw [checked.errors, later.errors, checked.swept.wrong_apart apart, Region.wrong, Region.wrong,
    Region.wrong, List.filter_append, List.filter_append, List.length_append]

/-- A check of a slice is one of the page. -/
theorem shift {page : Region} {offset : Nat} (base : region.addr = page.addr + offset)
    (aligned : offset % 8 = 0)
    (expected : ∀ i, region.expected pattern i = page.expected pattern (offset + i))
    (checked : Checked setup region pattern first start after errors) :
    Checked setup page pattern (first.map (offset + ·)) start after errors := by
  refine ⟨checked.swept.shift base expected, ?_⟩
  rw [checked.errors, Swept.wrong_shift base expected, List.filter_map, List.length_map]
  congr 1
  apply List.filter_congr
  intro i _
  have same : (offset + i) &&& 7 = i &&& 7 := by
    rw [and_seven, and_seven]
    omega
  rw [Function.comp_apply, same]

end Checked

/-- One block with little damage: whichever way it goes, all of it is checked. -/
theorem crcCheckBlock_checks {ref : setup.Ref} {memslice : Nat} (aligned : memslice % 8 = 0)
    {state : Checker} (few : damage setup (setup.pattern ref) state.memory memslice ≤ 2) :
    ∃ after errors, crcCheckBlock setup ref memslice state = some (after, errors) ∧
      Checked setup (slice setup memslice blockwords) (setup.pattern ref)
        (List.range blockwords) state after errors := by
  obtain ⟨summed, summedEq, swept⟩ :=
    @blockCrc_sweeps setup (setup.pattern ref) memslice aligned state
  have left : (slice setup memslice blockwords).wrong (setup.pattern ref) summed.memory
      (List.range blockwords) =
        ((slice setup memslice blockwords).wrong (setup.pattern ref) state.memory
          (List.range blockwords)).filter fun i => ¬ (setup.tagMode ∧ i &&& 7 = 0) := by
    refine swept.wrong_left.trans (List.filter_congr fun i _ => ?_)
    exact (decide_not).symm
  rw [crcCheckBlock, summedEq]
  by_cases equal : sumPairs (seenWord setup (setup.pattern ref) state.memory memslice) 256 =
      (setup.pattern ref).crc
  · have right := seenWord_of_crc few equal
    have none : (slice setup memslice blockwords).wrong (setup.pattern ref) summed.memory
        (List.range blockwords) = [] := by
      rw [left, List.filter_eq_nil_iff]
      intro i member
      obtain ⟨inside, wrong⟩ := List.mem_filter.mp member
      intro untagged
      have seen := right i (List.mem_range.mp inside)
      rw [seenWord, if_neg (of_decide_eq_true untagged),
        ← slice_expected_untagged aligned blockwords (of_decide_eq_true untagged)] at seen
      exact of_decide_eq_true wrong seen
    refine ⟨summed, 0, ?_, swept.restore ?_ ?_, ?_⟩
    · simp [equal]
    · exact (restored_right none).symm
    · have nothing := Logged.refl summed
      rwa [← @List.length_nil Nat, ← none] at nothing
    · rw [← left, none]
      rfl
  · obtain ⟨after, checked, memory, logged⟩ :=
      @checkRegion_restores (slice setup memslice blockwords) (setup.pattern ref)
        setup.patterns ref summed
    refine ⟨after, _, ?_, swept.restore memory logged, congrArg List.length left⟩
    simp [equal, checked]
    rfl

theorem units_congr {data other : Nat → BitVec 64} {words : Nat}
    (same : ∀ i < words, data i = other i) : units data words = units other words := by
  rw [units, units]
  apply List.flatMap_congr
  intro i member
  rw [same i (List.mem_range.mp member)]

/-- The damage of a block is that of its own words. -/
theorem damage_congr {memory other : Memory} {memslice : Nat}
    (same : ∀ i < blockwords, memory (memslice + i) = other (memslice + i)) :
    damage setup pattern memory memslice = damage setup pattern other memslice := by
  have seen : ∀ i < blockwords, seenWord setup pattern memory memslice i =
      seenWord setup pattern other memslice i := by
    intro i inside
    rw [seenWord, seenWord, same i inside]
  rw [damage, damage, units_congr seen]

/-- The page at this address, as one region. -/
def wholePage (setup : Setup) (addr : Nat) : Region := slice setup addr setup.words

theorem wholePage_expected {addr : Nat} (aligned : addr % 8 = 0) (i : Nat) :
    (wholePage setup addr).expected pattern i = fillWord setup pattern addr i := by
  have whole := @slice_expected setup pattern addr aligned 0 setup.words i
  rwa [Nat.zero_mul, Nat.zero_add, Nat.add_zero] at whole

/-- The number of words, of these, that are not what filling the page puts there. -/
def wrongAt (setup : Setup) (pattern : Pattern) (memory : Memory) (addr : Nat)
    (indices : List Nat) : Nat :=
  indices.countP fun i => memory (addr + i) ≠ fillWord setup pattern addr i

theorem wrongAt_wrong {addr : Nat} (aligned : addr % 8 = 0) (words : Nat) (memory : Memory)
    (indices : List Nat) :
    ((slice setup addr words).wrong pattern memory indices).length =
      wrongAt setup pattern memory addr indices := by
  rw [Region.wrong, ← List.countP_eq_length_filter, wrongAt]
  have expected : ∀ i, (slice setup addr words).expected pattern i =
      fillWord setup pattern addr i := wholePage_expected aligned
  simp only [expected]
  rfl

theorem shift_apart {first more : Nat} :
    ∀ i ∈ (List.range more).map (first + ·), i ∉ List.range first := by
  intro i member early
  obtain ⟨j, _, rfl⟩ := List.mem_map.mp member
  exact absurd (List.mem_range.mp early) (Nat.not_lt.mpr (Nat.le_add_right first j))

/-- A check of a slice, after a check of the page up to it. -/
theorem Checked.slice {addr block more : Nat} (aligned : addr % 8 = 0)
    {start middle after : Checker} {errors errorcount : Nat}
    (before : Checked setup (wholePage setup addr) pattern (List.range (block * blockwords))
      start middle errors)
    (checked : Checked setup (slice setup (addr + block * blockwords) more) pattern
      (List.range more) middle after errorcount) :
    Checked setup (wholePage setup addr) pattern (List.range (block * blockwords + more))
      start after (errors + errorcount) := by
  have boundary : block * blockwords % 8 = 0 := by
    rw [blockwords]
    omega
  have shifted : Checked setup (wholePage setup addr) pattern
      ((List.range more).map (block * blockwords + ·)) middle after errorcount :=
    checked.shift rfl boundary fun i => by
      rw [slice_expected aligned, wholePage_expected aligned]
  rw [List.range_add]
  exact before.append shifted shift_apart

theorem crcCheckBlocks_checks {ref : setup.Ref} {addr : Nat} (aligned : addr % 8 = 0)
    {state : Checker} (blocks : Nat)
    (few : ∀ block < blocks,
      damage setup (setup.pattern ref) state.memory (addr + block * blockwords) ≤ 2) :
    ∃ after errors, crcCheckBlocks setup ref addr state blocks = some (after, errors) ∧
      Checked setup (wholePage setup addr) (setup.pattern ref)
        (List.range (blocks * blockwords)) state after errors := by
  induction blocks with
  | zero => exact ⟨state, 0, rfl, Swept.none _ _ state, rfl⟩
  | succ blocks ih =>
      obtain ⟨before, errors, looped, checked⟩ :=
        ih fun block below => few block (Nat.lt_succ_of_lt below)
      have boundary : (addr + blocks * blockwords) % 8 = 0 := by
        rw [blockwords]
        omega
      have untouched : ∀ i < blockwords, before.memory (addr + blocks * blockwords + i) =
          state.memory (addr + blocks * blockwords + i) := by
        intro i _
        have later : blocks * blockwords + i ∉ List.range (blocks * blockwords) := by
          rw [List.mem_range]
          omega
        rw [checked.swept.memory, Nat.add_assoc]
        exact (@repaired_index (wholePage setup addr) _ _ _ _).trans (if_neg later)
      have small := few blocks (Nat.lt_succ_self blocks)
      rw [← damage_congr untouched] at small
      obtain ⟨after, errorcount, stepped, block⟩ := crcCheckBlock_checks boundary small
      refine ⟨after, errors + errorcount, ?_, ?_⟩
      · rw [crcCheckBlocks, looped]
        simp [stepped]
      · rw [Nat.succ_mul]
        exact checked.slice aligned block

/-- The words whose damage the check of a page returns.  A tag of a whole block
is only counted. -/
def Returned (setup : Setup) (i : Nat) : Prop :=
  ¬ (setup.tagMode ∧ i &&& 7 = 0 ∧ i < setup.blocks * blockwords)

instance (setup : Setup) : DecidablePred (Returned setup) := fun i =>
  inferInstanceAs (Decidable (¬ (setup.tagMode ∧ i &&& 7 = 0 ∧ i < setup.blocks * blockwords)))

/-- The check of the words after the last whole block. -/
theorem leftovers_sweeps {ref : setup.Ref} {addr left : Nat} (aligned : addr % 8 = 0)
    {start middle : Checker}
    (swept : Swept (wholePage setup addr) (setup.pattern ref)
      (List.range (setup.blocks * blockwords)) start middle) :
    ∃ after errorcount, checkRegion setup.patterns (setup.pattern ref) ref
        (slice setup (addr + setup.blocks * blockwords) left) middle = some (after, errorcount) ∧
      Swept (wholePage setup addr) (setup.pattern ref)
        (List.range (setup.blocks * blockwords + left)) start after ∧
      errorcount = (((wholePage setup addr).wrong (setup.pattern ref) start.memory
        ((List.range left).map (setup.blocks * blockwords + ·))).filter (Returned setup)).length := by
  obtain ⟨after, checked, memory, logged⟩ :=
    @checkRegion_restores (slice setup (addr + setup.blocks * blockwords) left)
      (setup.pattern ref) setup.patterns ref middle
  have base : (slice setup (addr + setup.blocks * blockwords) left).addr =
      (wholePage setup addr).addr + setup.blocks * blockwords := rfl
  have expected : ∀ i, (slice setup (addr + setup.blocks * blockwords) left).expected
      (setup.pattern ref) i =
        (wholePage setup addr).expected (setup.pattern ref) (setup.blocks * blockwords + i) := by
    intro i
    rw [slice_expected aligned, wholePage_expected aligned]
  have more : Swept (slice setup (addr + setup.blocks * blockwords) left) (setup.pattern ref)
      (List.range left) middle after := ⟨memory, logged⟩
  have all : ∀ i ∈ (wholePage setup addr).wrong (setup.pattern ref) start.memory
      ((List.range left).map (setup.blocks * blockwords + ·)),
        decide (Returned setup i) = true := by
    intro i member
    obtain ⟨j, _, rfl⟩ := List.mem_map.mp (List.mem_of_mem_filter member)
    apply decide_eq_true
    rintro ⟨_, _, below⟩
    exact absurd below (Nat.not_lt.mpr (Nat.le_add_right _ j))
  refine ⟨after, _, checked, ?_, ?_⟩
  · rw [List.range_add]
    exact swept.append (more.shift base expected) shift_apart
  · rw [List.filter_eq_self.mpr all, ← swept.wrong_apart shift_apart,
      Swept.wrong_shift base expected, List.length_map]
    rfl

theorem crcCheckPage_sweeps {ref : setup.Ref} {addr : Nat} (aligned : addr % 8 = 0)
    {state : Checker}
    (few : ∀ block < setup.blocks,
      damage setup (setup.pattern ref) state.memory (addr + block * blockwords) ≤ 2) :
    ∃ after errors, crcCheckPage setup ref addr state = some (after, errors) ∧
      Swept (wholePage setup addr) (setup.pattern ref) (List.range setup.words) state after ∧
      errors = (((wholePage setup addr).wrong (setup.pattern ref) state.memory
        (List.range setup.words)).filter (Returned setup)).length := by
  obtain ⟨middle, errors, looped, blocks⟩ := crcCheckBlocks_checks aligned setup.blocks few
  have length : setup.words =
      setup.blocks * blockwords + setup.pageLength % 4096 / 8 := by
    unfold Setup.words Setup.blocks blockwords
    omega
  have early : errors = (((wholePage setup addr).wrong (setup.pattern ref) state.memory
      (List.range (setup.blocks * blockwords))).filter (Returned setup)).length := by
    rw [blocks.errors]
    congr 1
    apply List.filter_congr
    intro i member
    have below := List.mem_range.mp (List.mem_of_mem_filter member)
    simp only [Returned, below, and_true]
  rw [crcCheckPage, looped]
  by_cases whole : setup.pageLength % 4096 = 0
  · have noMore : setup.words = setup.blocks * blockwords := by
      rw [length, whole, Nat.zero_div, Nat.add_zero]
    refine ⟨middle, errors, ?_, ?_, ?_⟩
    · simp [whole]
    · rw [noMore]
      exact blocks.swept
    · rw [noMore]
      exact early
  · obtain ⟨after, errorcount, checked, swept, rest⟩ :=
      @leftovers_sweeps setup ref addr (setup.pageLength % 4096 / 8) aligned _ _ blocks.swept
    refine ⟨after, errors + errorcount, ?_, ?_, ?_⟩
    · simp [whole, checked]
    · rw [length]
      exact swept
    · rw [early, rest, length, List.range_add, Region.wrong, Region.wrong, Region.wrong,
        List.filter_append, List.filter_append, List.length_append]

/-- A check with little damage in each block restores the page. -/
theorem crcCheckPage_restores {ref : setup.Ref} {addr : Nat} (aligned : addr % 8 = 0)
    {state : Checker}
    (few : ∀ block < setup.blocks,
      damage setup (setup.pattern ref) state.memory (addr + block * blockwords) ≤ 2) :
    ∃ after errors, crcCheckPage setup ref addr state = some (after, errors) ∧
      Holds setup (setup.pattern ref) addr after.memory ∧
      (∀ address, (∀ i < setup.words, address ≠ addr + i) →
        after.memory address = state.memory address) ∧
      Logged state after
        (wrongAt setup (setup.pattern ref) state.memory addr (List.range setup.words)) ∧
      errors = (List.range setup.words).countP (fun i =>
        state.memory (addr + i) ≠ fillWord setup (setup.pattern ref) addr i ∧ Returned setup i) := by
  obtain ⟨after, errors, checked, swept, returned⟩ := crcCheckPage_sweeps aligned few
  refine ⟨after, errors, checked, ?_, ?_, ?_, ?_⟩
  · intro i inside
    rw [swept.memory]
    refine (@restored_index (wholePage setup addr) (setup.pattern ref) state.memory i inside).trans ?_
    exact wholePage_expected aligned i
  · intro address outside
    rw [swept.memory]
    apply repaired_rest
    intro i member
    exact outside i (List.mem_range.mp member)
  · rw [← wrongAt_wrong aligned setup.words]
    exact swept.logged
  · rw [returned, Region.wrong, List.filter_filter, ← List.countP_eq_length_filter]
    apply List.countP_congr
    intro i _
    rw [wholePage_expected aligned, ← Bool.decide_and, decide_eq_true_eq, decide_eq_true_eq]
    exact and_comm

/-- The page check against damage of at most two units a block: every wrong word,
tags included, is counted once and repaired, and nothing else is written. -/
theorem page_check_repairs_little_damage {ref : setup.Ref} {addr : Nat} (aligned : addr % 8 = 0)
    {state : Checker}
    (few : ∀ block < setup.blocks,
      damage setup (setup.pattern ref) state.memory (addr + block * blockwords) ≤ 2) :
    ∃ after errors, crcCheckPage setup ref addr state = some (after, errors) ∧
      after.errorcount = state.errorcount + (List.range setup.words).countP (fun i =>
        state.memory (addr + i) ≠ fillWord setup (setup.pattern ref) addr i) ∧
      errors = (List.range setup.words).countP (fun i =>
        state.memory (addr + i) ≠ fillWord setup (setup.pattern ref) addr i ∧ Returned setup i) ∧
      Holds setup (setup.pattern ref) addr after.memory ∧
      (∀ address, address < addr ∨ addr + setup.words ≤ address →
        after.memory address = state.memory address) ∧
      ∃ made, after.reports = state.reports ++ made ∧
        ∀ report ∈ made, report.message ∈ checkMessages := by
  obtain ⟨after, errors, checked, holds, outside, logged, returned⟩ :=
    crcCheckPage_restores aligned few
  refine ⟨after, errors, checked, logged.count, returned, holds, ?_, logged.reports⟩
  intro address away
  exact outside address fun i inside => by omega

/-- A tagged page of one block. -/
def oneBlock : Setup := ⟨[(Pattern.initializePattern oneZero 32 false 5).1], true, 4096⟩

def onePattern : oneBlock.Ref := ⟨0, Nat.zero_lt_one⟩

/-- The page at address 0, with a wrong tag and a wrong word. -/
def twoWrong : Checker where
  memory := store (store (fillWord oneBlock (oneBlock.pattern onePattern) 0) 3 5) 16 5
  errorcount := 0
  reports := []

theorem page_check_repairs_two_words :
    ∃ after errors, crcCheckPage oneBlock onePattern 0 twoWrong = some (after, errors) ∧
      after.errorcount = twoWrong.errorcount + (List.range oneBlock.words).countP (fun i =>
        twoWrong.memory (0 + i) ≠ fillWord oneBlock (oneBlock.pattern onePattern) 0 i) ∧
      errors = (List.range oneBlock.words).countP (fun i =>
        twoWrong.memory (0 + i) ≠ fillWord oneBlock (oneBlock.pattern onePattern) 0 i ∧
          Returned oneBlock i) ∧
      Holds oneBlock (oneBlock.pattern onePattern) 0 after.memory ∧
      (∀ address, address < 0 ∨ 0 + oneBlock.words ≤ address →
        after.memory address = twoWrong.memory address) ∧
      ∃ made, after.reports = twoWrong.reports ++ made ∧
        ∀ report ∈ made, report.message ∈ checkMessages :=
  page_check_repairs_little_damage rfl (by decide +kernel)

end Tags

end AmebaTests.Stressapptest
