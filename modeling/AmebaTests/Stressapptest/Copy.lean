/-
Copying a page.

A page is copied in blocks of 4096 bytes, and the checksum of a block is taken
from the words as they are copied.  A block with another checksum is checked word
by word afterwards, and a page with errors is filled anew.  The copy that warms
the processor differs in the loop over a block only.
-/

import AmebaTests.Stressapptest.Page

namespace AmebaTests.Stressapptest

open Foundation

def Checker.put (state : Checker) (address : Nat) (value : BitVec 64) : Checker :=
  { state with memory := store state.memory address value }

/-- A loop that copies a block and takes its checksum. -/
abbrev BlockCopy := Pattern → (targetmem sourcemem : Nat) → Checker → Option (Checker × AdlerChecksum)

/-- The loop of `AdlerAddrMemcpyC`.  The tag of the target is read before that of
the source is reported. -/
def adlerAddrCopy (pattern : Pattern) (dstmem64 srcmem64 : Nat) (state : Checker) :
    Nat → Option (Checker × AdlerChecksum)
  | 0 => some (state, .initial)
  | pairs + 1 => do
      let (before, sums) ← adlerAddrCopy pattern dstmem64 srcmem64 state pairs
      let i := 2 * pairs
      let (between, even) ←
        if i &&& 7 = 0 then do
          let dstdata := before.memory (dstmem64 + i)
          let source ← checkTag before (srcmem64 + i) (before.memory (srcmem64 + i))
          let target ← checkTag source (dstmem64 + i) dstdata
          some (target.put (dstmem64 + i) (addrToTag (dstmem64 + i)), pattern.word i)
        else
          let data := before.memory (srcmem64 + i)
          some (before.put (dstmem64 + i) data, data)
      let odd := between.memory (srcmem64 + (i + 1))
      return (between.put (dstmem64 + (i + 1)) odd, sums.addPair even odd)

/-- `AdlerMemcpyC` or `AdlerMemcpyWarm` on a block. -/
def memcpyBlock (targetmem sourcemem : Nat) (state : Checker) : Option (Checker × AdlerChecksum) :=
  (AdlerMemcpyC state.memory targetmem sourcemem 4096).map fun (memory, crc) =>
    ({ state with memory := memory }, crc)

/-- `TagAddrC`, on a block. -/
def tagAddr (memwords : Nat) (memory : Memory) : Memory :=
  (List.range (blockwords / 8)).foldl (fun memory k =>
    store memory (memwords + 8 * k) (addrToTag (memwords + 8 * k))) memory

/-- `AdlerAddrMemcpyWarm`: the tags of the target are not looked at. -/
def adlerAddrMemcpyWarm (pattern : Pattern) (targetmem sourcemem : Nat) (state : Checker) :
    Option (Checker × AdlerChecksum) := do
  let (copied, _) ← memcpyBlock targetmem sourcemem state
  let (checked, crc) ← adlerAddrCrc pattern sourcemem copied (pairCount 4096)
  return ({ checked with memory := tagAddr targetmem checked.memory }, crc)

variable (setup : Setup)

/-- The block loop of `CrcCopyPage`. -/
def plainCopy : BlockCopy := fun pattern targetmem sourcemem state =>
  if setup.tagMode then adlerAddrCopy pattern targetmem sourcemem state (pairCount 4096)
  else memcpyBlock targetmem sourcemem state

/-- The block loop of `CrcWarmCopyPage`. -/
def warmCopy : BlockCopy := fun pattern targetmem sourcemem state =>
  if setup.tagMode then adlerAddrMemcpyWarm pattern targetmem sourcemem state
  else memcpyBlock targetmem sourcemem state

/-- The part of an iteration after a second check without miscompares. -/
def reportChecksum (bad : BitVec 64) (sourcemem : Nat) (state : Checker) :
    Option (Checker × Nat) :=
  (processError state ⟨state.memory sourcemem, bad, sourcemem⟩ 0 "Hardware Error").map
    fun reported => ({ reported with errorcount := reported.errorcount + 1 }, 1)

/-- One iteration of the copy functions, with the word they expect in vain. -/
def crcCopyBlock (copy : BlockCopy) (bad : BitVec 64) (ref : setup.Ref)
    (targetmem sourcemem : Nat) (state : Checker) : Option (Checker × Nat) := do
  let pattern := setup.pattern ref
  let region := slice setup sourcemem blockwords
  let (summed, crc) ← copy pattern targetmem sourcemem state
  if crc = pattern.crc then return (summed, 0)
  else
    let (checked, errorcount) ← checkRegion setup.patterns pattern ref region summed
    if errorcount = 0 ∧ ¬ setup.tagMode then
      -- The data first read is copied back, and checked again.
      let fresh := { checked with memory := copied checked.memory sourcemem targetmem blockwords }
      let (again, errorcount) ← checkRegion setup.patterns pattern ref region fresh
      if errorcount = 0 then reportChecksum bad sourcemem again else return (again, errorcount)
    else return (checked, errorcount)

def crcCopyBlocks (copy : BlockCopy) (bad : BitVec 64) (ref : setup.Ref)
    (targetmembase sourcemembase : Nat) (state : Checker) : Nat → Option (Checker × Nat)
  | 0 => some (state, 0)
  | currentblock + 1 => do
      let (before, errors) ←
        crcCopyBlocks copy bad ref targetmembase sourcemembase state currentblock
      let (after, errorcount) ← crcCopyBlock setup copy bad ref
        (targetmembase + currentblock * blockwords) (sourcemembase + currentblock * blockwords)
        before
      return (after, errors + errorcount)

/-- The loop over the words after the last whole block. -/
def copyLeftovers (targetmem sourcemem leftoverwords : Nat) (memory : Memory) : Memory :=
  (List.range leftoverwords).foldl (fun memory i =>
    store memory (targetmem + i) (memory (sourcemem + i))) memory

/-- The part of the copy functions after the blocks. -/
def crcCopyLeftovers (ref : setup.Ref) (targetmembase sourcemembase : Nat) (state : Checker) :
    Option (Checker × Nat) :=
  let leftovers := setup.pageLength % 4096
  if leftovers = 0 then some (state, 0)
  else do
    let targetmem := targetmembase + setup.blocks * blockwords
    let sourcemem := sourcemembase + setup.blocks * blockwords
    let (checked, errorcount) ← checkRegion setup.patterns (setup.pattern ref) ref
      (slice setup sourcemem (leftovers / 8)) state
    return ({ checked with
      memory := copyLeftovers targetmem sourcemem (leftovers / 8) checked.memory }, errorcount)

/-- `CrcCopyPage` and `CrcWarmCopyPage`, for the pages at two addresses and the
pattern of the source, which becomes that of the target. -/
def crcCopyWith (copy : BlockCopy) (bad : BitVec 64) (ref : setup.Ref)
    (targetmembase sourcemembase : Nat) (state : Checker) : Option (Checker × Nat) := do
  let (copied, errors) ←
    crcCopyBlocks setup copy bad ref targetmembase sourcemembase state setup.blocks
  let (checked, errorcount) ← crcCopyLeftovers setup ref targetmembase sourcemembase copied
  if errors + errorcount = 0 then return (checked, 0)
  else
    return ({ checked with
      memory := fillPage setup (setup.pattern ref) targetmembase checked.memory },
      errors + errorcount)

def crcCopyPage : setup.Ref → (targetmembase sourcemembase : Nat) → Checker →
    Option (Checker × Nat) :=
  crcCopyWith setup (plainCopy setup) 0xbad0000000000000

def crcWarmCopyPage : setup.Ref → (targetmembase sourcemembase : Nat) → Checker →
    Option (Checker × Nat) :=
  crcCopyWith setup (warmCopy setup) 0xbad

/-! ### Wrong words -/

section Words

variable {setup} {pattern : Pattern}

/-- The word a block loop puts into the target. -/
def copiedWord (setup : Setup) (memory : Memory) (dst src i : Nat) : BitVec 64 :=
  if setup.tagMode ∧ i &&& 7 = 0 then addrToTag (dst + i) else memory (src + i)

theorem wrongAt_append (memory : Memory) (addr : Nat) (first second : List Nat) :
    wrongAt setup pattern memory addr (first ++ second) =
      wrongAt setup pattern memory addr first + wrongAt setup pattern memory addr second :=
  List.countP_append

theorem wrongAt_congr {memory other : Memory} {addr : Nat} {indices : List Nat}
    (same : ∀ i ∈ indices, memory (addr + i) = other (addr + i)) :
    wrongAt setup pattern memory addr indices = wrongAt setup pattern other addr indices := by
  apply List.countP_congr
  intro i member
  rw [same i member]

theorem offset_tag (block i : Nat) :
    (block * blockwords + i) &&& 7 = 0 ↔ i &&& 7 = 0 := by
  rw [and_seven, and_seven, blockwords]
  omega

theorem fillWord_block (addr block i : Nat) :
    fillWord setup pattern (addr + block * blockwords) i =
      fillWord setup pattern addr (block * blockwords + i) := by
  have word : pattern.word (block * blockwords + i) = pattern.word i := by
    rw [show block * blockwords = 512 * block from Nat.mul_comm block 512]
    exact pattern.word_block block i
  simp only [fillWord, offset_tag, word, Nat.add_assoc]

theorem wrongAt_block (memory : Memory) (addr block : Nat) (indices : List Nat) :
    wrongAt setup pattern memory (addr + block * blockwords) indices =
      wrongAt setup pattern memory addr (indices.map (block * blockwords + ·)) := by
  rw [wrongAt, wrongAt, List.countP_map]
  apply List.countP_congr
  intro i _
  rw [fillWord_block, Function.comp_apply, Nat.add_assoc]

theorem tagged_block (block count : Nat) :
    tagged setup (List.range (block * blockwords + count)) =
      tagged setup (List.range (block * blockwords)) ++
        (tagged setup (List.range count)).map (block * blockwords + ·) := by
  rw [List.range_add, tagged, List.filter_append, List.filter_map]
  congr 2
  apply List.filter_congr
  intro i _
  simp only [Function.comp_apply, offset_tag]

end Words

/-! ### The loops of a copy -/

section Loops

variable {setup} {pattern : Pattern} {dst src : Nat}

/-- Two pages of this many words have no word in common. -/
def Apart (dst src words : Nat) : Prop :=
  dst + words ≤ src ∨ src + words ≤ dst

/-- So many words are copied, and the source holds these words afterwards. -/
structure Copying (setup : Setup) (dst src count : Nat) (words : Nat → BitVec 64)
    (before after : Memory) : Prop where
  source : ∀ i < count, after (src + i) = words i
  target : ∀ i < count, after (dst + i) = copiedWord setup before dst src i
  rest : ∀ address, (∀ i < count, address ≠ src + i ∧ address ≠ dst + i) →
    after address = before address

theorem Copying.none (words : Nat → BitVec 64) (memory : Memory) :
    Copying setup dst src 0 words memory memory :=
  ⟨fun _ below => absurd below (Nat.not_lt_zero _), fun _ below => absurd below (Nat.not_lt_zero _),
    fun _ _ => rfl⟩

namespace Copying

variable {count total : Nat} {words : Nat → BitVec 64} {start middle : Memory}

/-- The words that come next are as they were. -/
theorem ahead (copying : Copying setup dst src count words start middle)
    (apart : Apart dst src total) {i : Nat} (here : count ≤ i) (inside : i < total) :
    middle (src + i) = start (src + i) ∧ middle (dst + i) = start (dst + i) := by
  rcases apart with before | after
  · exact ⟨copying.rest _ fun j _ => ⟨by omega, by omega⟩,
      copying.rest _ fun j _ => ⟨by omega, by omega⟩⟩
  · exact ⟨copying.rest _ fun j _ => ⟨by omega, by omega⟩,
      copying.rest _ fun j _ => ⟨by omega, by omega⟩⟩

/-- One more word. -/
theorem word (copying : Copying setup dst src count words start middle)
    (apart : Apart dst src total) (inside : count < total) :
    Copying setup dst src (count + 1) words start
      (store (store middle (src + count) (words count)) (dst + count)
        (copiedWord setup start dst src count)) := by
  have differ : ∀ i < total, ∀ j < total, src + i ≠ dst + j := by
    intro i _ j _ equal
    rcases apart with before | after <;> omega
  refine ⟨?_, ?_, ?_⟩
  · intro i below
    rw [store, Function.update_of_ne (differ i (by omega) count inside), store]
    by_cases last : i = count
    · rw [last, Function.update_self]
    · rw [Function.update_of_ne (by omega)]
      exact copying.source i (by omega)
  · intro i below
    by_cases last : i = count
    · rw [last, store, Function.update_self]
    · rw [store, Function.update_of_ne (by omega), store,
        Function.update_of_ne (differ count inside i (by omega)).symm]
      exact copying.target i (by omega)
  · intro address outside
    obtain ⟨notSource, notTarget⟩ := outside count (Nat.lt_succ_self count)
    rw [store, Function.update_of_ne notTarget, store, Function.update_of_ne notSource]
    exact copying.rest address fun i below => outside i (Nat.lt_succ_of_lt below)

/-- One more word that is only read from the source. -/
theorem read (copying : Copying setup dst src count words start middle)
    (apart : Apart dst src total) (inside : count < total)
    (same : words count = start (src + count)) :
    Copying setup dst src (count + 1) words start
      (store middle (dst + count) (copiedWord setup start dst src count)) := by
  have more := copying.word apart inside
  have kept : store middle (src + count) (words count) = middle := by
    rw [same, ← (copying.ahead apart le_rfl inside).1, store, Function.update_eq_self]
  rwa [kept] at more

end Copying

theorem wrongAt_tag {memory : Memory} {addr i : Nat} (tag : setup.tagMode ∧ i &&& 7 = 0) :
    wrongAt setup pattern memory addr [i] =
      if memory (addr + i) = addrToTag (addr + i) then 0 else 1 := by
  have expected : fillWord setup pattern addr i = addrToTag (addr + i) := if_pos tag
  rw [wrongAt, List.countP_singleton, expected]
  by_cases same : memory (addr + i) = addrToTag (addr + i)
  · simp [same]
  · simp [same]

theorem wrongAt_tagged_pair (mode : setup.tagMode = true) {memory : Memory} {addr pairs : Nat} :
    wrongAt setup pattern memory addr (tagged setup (List.range (2 * (pairs + 1)))) =
      wrongAt setup pattern memory addr (tagged setup (List.range (2 * pairs))) +
        if 2 * pairs &&& 7 = 0 then
          if memory (addr + 2 * pairs) = addrToTag (addr + 2 * pairs) then 0 else 1
        else 0 := by
  rw [tagged_pair]
  by_cases tag : 2 * pairs &&& 7 = 0
  · rw [if_pos ⟨mode, tag⟩, if_pos tag, wrongAt_append, wrongAt_tag ⟨mode, tag⟩]
  · rw [if_neg (fun both => tag both.2), if_neg tag, Nat.add_zero]

theorem copiedWord_odd (memory : Memory) (first second pairs : Nat) :
    copiedWord setup memory first second (2 * pairs + 1) =
      memory (second + (2 * pairs + 1)) := by
  rw [copiedWord, if_neg]
  rw [and_seven]
  omega

/-- The copy with tags: both tags are put right and counted, and the sums are
those of the words with the pattern's in the place of the tags. -/
theorem adlerAddrCopy_copies (mode : setup.tagMode = true) {total : Nat}
    (apart : Apart dst src total) (state : Checker) {pairs : Nat} (inside : 2 * pairs ≤ total) :
    ∃ after, adlerAddrCopy pattern dst src state pairs =
        some (after, sumPairs (seenWord setup pattern state.memory src) pairs) ∧
      Copying setup dst src (2 * pairs) (copiedWord setup state.memory src src)
        state.memory after.memory ∧
      Logged state after
        (wrongAt setup pattern state.memory src (tagged setup (List.range (2 * pairs))) +
          wrongAt setup pattern state.memory dst (tagged setup (List.range (2 * pairs)))) := by
  induction pairs with
  | zero => exact ⟨state, rfl, Copying.none _ _, Logged.refl state⟩
  | succ pairs ih =>
      obtain ⟨before, looped, copying, logged⟩ := ih (by omega)
      obtain ⟨evenSource, evenTarget⟩ := copying.ahead apart le_rfl (show 2 * pairs < total by omega)
      have oddSeen : seenWord setup pattern state.memory src (2 * pairs + 1) =
          state.memory (src + (2 * pairs + 1)) := by
        rw [seenWord, if_neg]
        rw [and_seven]
        omega
      rw [adlerAddrCopy, looped, sumPairs, wrongAt_tagged_pair mode, wrongAt_tagged_pair mode]
      by_cases tag : 2 * pairs &&& 7 = 0
      · obtain ⟨source, sourceChecked, sourceWritten, sourceLogged⟩ :=
          checkTag_repairs before (src + 2 * pairs)
        obtain ⟨target, targetChecked, targetWritten, targetLogged⟩ :=
          checkTag_repairs source (dst + 2 * pairs)
        have differ : dst + 2 * pairs ≠ src + 2 * pairs := by
          rcases apart with first | second <;> omega
        have targetRead : source.memory (dst + 2 * pairs) = before.memory (dst + 2 * pairs) := by
          rw [sourceWritten, store, Function.update_of_ne differ]
        have sourceWord : copiedWord setup state.memory src src (2 * pairs) =
            addrToTag (src + 2 * pairs) := if_pos ⟨mode, tag⟩
        have targetWord : copiedWord setup state.memory dst src (2 * pairs) =
            addrToTag (dst + 2 * pairs) := if_pos ⟨mode, tag⟩
        have written : (target.put (dst + 2 * pairs) (addrToTag (dst + 2 * pairs))).memory =
            store (store before.memory (src + 2 * pairs) (addrToTag (src + 2 * pairs)))
              (dst + 2 * pairs) (addrToTag (dst + 2 * pairs)) := by
          rw [Checker.put, targetWritten, sourceWritten, store, store, Function.update_idem]
        have even := copying.word apart (show 2 * pairs < total by omega)
        rw [sourceWord, targetWord, ← written] at even
        obtain ⟨oddSource, _⟩ := even.ahead apart le_rfl (show 2 * pairs + 1 < total by omega)
        have odd := even.read apart (by omega) (copiedWord_odd state.memory src src pairs)
        rw [copiedWord_odd, ← oddSource] at odd
        refine ⟨(target.put (dst + 2 * pairs) (addrToTag (dst + 2 * pairs))).put
          (dst + (2 * pairs + 1)) _, ?_, odd, ?_⟩
        · have evenSeen : seenWord setup pattern state.memory src (2 * pairs) =
              pattern.word (2 * pairs) := if_pos ⟨mode, tag⟩
          rw [targetRead] at targetChecked
          rw [evenSeen, oddSeen, ← oddSource]
          simp [tag, sourceChecked, targetChecked]
        · have all := (logged.trans sourceLogged).trans targetLogged
          rw [targetRead, evenSource, evenTarget, Nat.add_assoc, Nat.add_add_add_comm] at all
          rw [if_pos tag, if_pos tag]
          exact ⟨all.count, all.reports⟩
      · have sourceWord : copiedWord setup state.memory src src (2 * pairs) =
            state.memory (src + 2 * pairs) := if_neg fun both => tag both.2
        have targetWord : copiedWord setup state.memory dst src (2 * pairs) =
            state.memory (src + 2 * pairs) := if_neg fun both => tag both.2
        have even := copying.read apart (by omega) sourceWord
        rw [targetWord, ← evenSource] at even
        obtain ⟨oddSource, _⟩ := even.ahead apart le_rfl (show 2 * pairs + 1 < total by omega)
        have odd := even.read apart (by omega) (copiedWord_odd state.memory src src pairs)
        rw [copiedWord_odd, ← oddSource] at odd
        refine ⟨(before.put (dst + 2 * pairs) (before.memory (src + 2 * pairs))).put
          (dst + (2 * pairs + 1)) _, ?_, odd, ?_⟩
        · have evenSeen : seenWord setup pattern state.memory src (2 * pairs) =
              state.memory (src + 2 * pairs) := if_neg fun both => tag both.2
          rw [evenSeen, oddSeen, ← oddSource, ← evenSource]
          simp only [Option.bind_eq_bind, Option.bind_some, tag, if_false]
          rfl
        · rw [if_neg tag, if_neg tag, Nat.add_zero, Nat.add_zero]
          exact ⟨logged.count, logged.reports⟩

theorem memcpyBlock_eq (apart : Apart dst src blockwords) (state : Checker) :
    memcpyBlock dst src state =
      some ({ state with memory := copied state.memory dst src blockwords },
        sumPairs (fun i => state.memory (src + i)) 256) := by
  have small : ¬ maxWords < 4096 / 8 := by decide
  rw [memcpyBlock, AdlerMemcpyC, if_neg small]
  have pairs : copyPairs state.memory dst src (pairCount 4096) =
      (copied state.memory dst src blockwords,
        sumPairs (fun i => state.memory (src + i)) 256) := copyPairs_eq apart
  rw [pairs]
  rfl

theorem copied_source {memory : Memory} {words : Nat} (apart : Apart dst src words) {i : Nat}
    (inside : i < words) : copied memory dst src words (src + i) = memory (src + i) := by
  rw [copied, if_neg]
  rcases apart with before | after <;> omega

theorem copied_target {memory : Memory} {words i : Nat} (inside : i < words) :
    copied memory dst src words (dst + i) = memory (src + i) := by
  rw [copied, if_pos (by omega), Nat.add_sub_cancel_left]

theorem copied_rest {memory : Memory} {words address : Nat}
    (outside : ∀ i < words, address ≠ dst + i) :
    copied memory dst src words address = memory address := by
  rw [copied, if_neg]
  rintro ⟨low, high⟩
  exact outside (address - dst) (by omega) (by omega)

theorem tagAddr_eq (memwords : Nat) (memory : Memory) (address : Nat) :
    tagAddr memwords memory address =
      if ∃ k < blockwords / 8, address = memwords + 8 * k then addrToTag address
      else memory address := by
  have loop : ∀ count, (List.range count).foldl (fun memory k =>
      store memory (memwords + 8 * k) (addrToTag (memwords + 8 * k))) memory address =
        if ∃ k < count, address = memwords + 8 * k then addrToTag address
        else memory address := by
    intro count
    induction count with
    | zero => rw [if_neg (fun ⟨_, below, _⟩ => absurd below (Nat.not_lt_zero _))]; rfl
    | succ count ih =>
        rw [List.range_succ, List.foldl_append, List.foldl_cons, List.foldl_nil, store]
        by_cases last : address = memwords + 8 * count
        · rw [last, Function.update_self, if_pos ⟨count, Nat.lt_succ_self count, rfl⟩]
        · rw [Function.update_of_ne last, ih]
          have same : (∃ k < count + 1, address = memwords + 8 * k) ↔
              ∃ k < count, address = memwords + 8 * k := by
            constructor
            · rintro ⟨k, below, equal⟩
              refine ⟨k, ?_, equal⟩
              rcases Nat.lt_succ_iff_lt_or_eq.mp below with earlier | rfl
              · exact earlier
              · exact absurd equal last
            · rintro ⟨k, below, equal⟩
              exact ⟨k, Nat.lt_succ_of_lt below, equal⟩
          simp only [same]
  exact loop (blockwords / 8)

theorem tagAddr_index (memwords : Nat) (memory : Memory) {i : Nat} (inside : i < blockwords) :
    tagAddr memwords memory (memwords + i) =
      if i &&& 7 = 0 then addrToTag (memwords + i) else memory (memwords + i) := by
  rw [blockwords] at inside
  have tag : (∃ k < blockwords / 8, memwords + i = memwords + 8 * k) ↔ i &&& 7 = 0 := by
    rw [and_seven, blockwords]
    constructor
    · rintro ⟨k, _, equal⟩
      omega
    · intro zero
      exact ⟨i / 8, by omega, by omega⟩
  rw [tagAddr_eq]
  simp only [tag]

theorem tagAddr_rest {memwords address : Nat} {memory : Memory}
    (outside : ∀ i < blockwords, address ≠ memwords + i) :
    tagAddr memwords memory address = memory address := by
  rw [tagAddr_eq, if_neg]
  rintro ⟨k, below, equal⟩
  rw [blockwords] at below
  exact outside (8 * k) (by rw [blockwords]; omega) equal

/-- What the copy functions need of their block loop: the words arrive, the tags
of both blocks are right afterwards, and the wrong tags of the source, with those
of the target where these are counted, are reported. -/
def CopiesBlock (setup : Setup) (copy : BlockCopy) (counted : Bool) : Prop :=
  ∀ pattern dst src state, dst % 8 = 0 → src % 8 = 0 → Apart dst src blockwords →
    ∃ after, copy pattern dst src state =
        some (after, sumPairs (seenWord setup pattern state.memory src) 256) ∧
      Copying setup dst src blockwords (copiedWord setup state.memory src src)
        state.memory after.memory ∧
      Logged state after
        (wrongAt setup pattern state.memory src (tagged setup (List.range blockwords)) +
          if counted then wrongAt setup pattern state.memory dst
            (tagged setup (List.range blockwords))
          else 0)

theorem tagged_untagged (mode : setup.tagMode ≠ true) (indices : List Nat) :
    tagged setup indices = [] :=
  List.filter_eq_nil_iff.mpr fun i _ => by simp [mode]

theorem memcpyBlock_copies (mode : setup.tagMode ≠ true) (counted : Bool)
    (apart : Apart dst src blockwords) (state : Checker) :
    ∃ after, memcpyBlock dst src state =
        some (after, sumPairs (seenWord setup pattern state.memory src) 256) ∧
      Copying setup dst src blockwords (copiedWord setup state.memory src src)
        state.memory after.memory ∧
      Logged state after
        (wrongAt setup pattern state.memory src (tagged setup (List.range blockwords)) +
          if counted then wrongAt setup pattern state.memory dst
            (tagged setup (List.range blockwords))
          else 0) := by
  have plain : seenWord setup pattern state.memory src = fun i => state.memory (src + i) := by
    funext i
    exact if_neg fun both => mode both.1
  have nothing : (wrongAt setup pattern state.memory src [] +
      if counted then wrongAt setup pattern state.memory dst [] else 0) = 0 := by
    cases counted <;> rfl
  rw [memcpyBlock_eq apart, tagged_untagged mode, nothing, plain]
  refine ⟨_, rfl, ⟨?_, ?_, ?_⟩, rfl, (Logged.refl state).reports⟩
  · intro i inside
    rw [copiedWord, if_neg (fun both => mode both.1)]
    exact copied_source apart inside
  · intro i inside
    rw [copiedWord, if_neg (fun both => mode both.1)]
    exact copied_target inside
  · intro address outside
    exact copied_rest fun i inside => (outside i inside).2

theorem plainCopy_copies : CopiesBlock setup (plainCopy setup) true := by
  intro pattern dst src state _ _ apart
  rw [plainCopy]
  by_cases mode : setup.tagMode = true
  · rw [if_pos mode, if_pos rfl]
    exact @adlerAddrCopy_copies setup pattern dst src mode blockwords apart state 256 le_rfl
  · rw [if_neg mode]
    exact memcpyBlock_copies mode true apart state

theorem adlerAddrMemcpyWarm_copies (mode : setup.tagMode = true) (aligned : src % 8 = 0)
    (apart : Apart dst src blockwords) (state : Checker) :
    ∃ after, adlerAddrMemcpyWarm pattern dst src state =
        some (after, sumPairs (seenWord setup pattern state.memory src) 256) ∧
      Copying setup dst src blockwords (copiedWord setup state.memory src src)
        state.memory after.memory ∧
      Logged state after
        (wrongAt setup pattern state.memory src (tagged setup (List.range blockwords))) := by
  let moved : Checker := { state with memory := copied state.memory dst src blockwords }
  obtain ⟨checked, looped, swept⟩ : ∃ checked, adlerAddrCrc pattern src moved 256 =
        some (checked, sumPairs (seenWord setup pattern moved.memory src) 256) ∧
      Swept (slice setup src blockwords) pattern (tagged setup (List.range blockwords))
        moved checked :=
    adlerAddrCrc_sweeps mode aligned blockwords moved 256
  have source : ∀ i < blockwords, moved.memory (src + i) = state.memory (src + i) :=
    fun i inside => copied_source apart inside
  have sums : sumPairs (seenWord setup pattern moved.memory src) 256 =
      sumPairs (seenWord setup pattern state.memory src) 256 := by
    apply sumPairs_congr
    intro i inside
    rw [seenWord, seenWord, source i inside]
  have differ : ∀ i < blockwords, ∀ j < blockwords, dst + i ≠ src + j := by
    intro i _ j _ equal
    rcases apart with before | after <;> omega
  have same : wrongAt setup pattern moved.memory src (tagged setup (List.range blockwords)) =
      wrongAt setup pattern state.memory src (tagged setup (List.range blockwords)) :=
    wrongAt_congr fun i member => source i (mem_tagged.mp member).1
  have logged := swept.logged
  rw [wrongAt_wrong aligned, same] at logged
  have repaired : ∀ address, (∀ i < blockwords, address ≠ src + i) →
      checked.memory address = moved.memory address := by
    intro address outside
    rw [swept.memory]
    apply repaired_rest
    intro i member
    exact outside i (mem_tagged.mp member).1
  have copying : Copying setup dst src blockwords (copiedWord setup state.memory src src)
      state.memory (tagAddr dst checked.memory) := by
    refine ⟨?_, ?_, ?_⟩
    · intro i inside
      rw [tagAddr_rest fun j below => (differ j below i inside).symm, swept.memory]
      refine (@repaired_index (slice setup src blockwords) pattern moved.memory _ i).trans ?_
      rw [copiedWord]
      simp only [mem_tagged, inside, true_and]
      by_cases tag : setup.tagMode ∧ i &&& 7 = 0
      · rw [if_pos tag, if_pos tag]
        exact slice_expected_tag aligned blockwords tag
      · rw [if_neg tag, if_neg tag]
        exact source i inside
    · intro i inside
      rw [tagAddr_index _ _ inside, repaired _ (differ i inside), copiedWord]
      simp only [mode, true_and]
      exact congrArg (fun word => if i &&& 7 = 0 then addrToTag (dst + i) else word)
        (copied_target inside)
    · intro address outside
      rw [tagAddr_rest fun i inside => (outside i inside).2,
        repaired _ fun i inside => (outside i inside).1]
      exact copied_rest fun i inside => (outside i inside).2
  have run : adlerAddrCrc pattern src
      { state with memory := copied state.memory dst src blockwords } (pairCount 4096) =
        some (checked, sumPairs (seenWord setup pattern state.memory src) 256) := sums ▸ looped
  rw [adlerAddrMemcpyWarm, memcpyBlock_eq apart]
  refine ⟨{ checked with memory := tagAddr dst checked.memory }, ?_, copying,
    logged.count, logged.reports⟩
  simp only [Option.bind_eq_bind, Option.bind_some, run]
  rfl

theorem warmCopy_copies : CopiesBlock setup (warmCopy setup) false := by
  intro pattern dst src state _ aligned apart
  rw [warmCopy]
  by_cases mode : setup.tagMode = true
  · rw [if_pos mode, if_neg Bool.false_ne_true, Nat.add_zero]
    exact adlerAddrMemcpyWarm_copies mode aligned apart state
  · rw [if_neg mode]
    exact memcpyBlock_copies mode false apart state

end Loops

end AmebaTests.Stressapptest
