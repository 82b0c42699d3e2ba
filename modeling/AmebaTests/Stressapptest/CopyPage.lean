/-
The copy of a whole page, block by block.

With at most two damaged units in a block, a copy leaves the pattern in both
pages and counts each wrong word once, in the plain way and in the warm one.
-/

import AmebaTests.Stressapptest.Copy

namespace AmebaTests.Stressapptest

/-! ### Blocks -/

section Blocks

variable {setup : Setup} {pattern : Pattern} {dst src : Nat} {copy : BlockCopy} {counted : Bool}

/-- The indices, of these, whose words are the pattern's. -/
def untagged (setup : Setup) (indices : List Nat) : List Nat :=
  indices.filter fun i => ¬ (setup.tagMode ∧ i &&& 7 = 0)

theorem untagged_plain (mode : setup.tagMode ≠ true) (indices : List Nat) :
    untagged setup indices = indices :=
  List.filter_eq_self.mpr fun i _ => by simp [mode]

theorem wrongAt_split (memory : Memory) (addr : Nat) (indices : List Nat) :
    wrongAt setup pattern memory addr indices =
      wrongAt setup pattern memory addr (tagged setup indices) +
        wrongAt setup pattern memory addr (untagged setup indices) := by
  rw [wrongAt, List.countP_eq_countP_filter_add _ _ fun i => setup.tagMode ∧ i &&& 7 = 0]
  congr 2
  apply List.filter_congr
  intro i _
  exact decide_not.symm

theorem wrongAt_eq_zero {memory : Memory} {addr : Nat} {indices : List Nat} :
    wrongAt setup pattern memory addr indices = 0 ↔
      ∀ i ∈ indices, memory (addr + i) = fillWord setup pattern addr i := by
  rw [wrongAt, List.countP_eq_zero]
  simp

/-- The checksum sees the pattern where the words that are not tags are right. -/
theorem seenWord_iff {memory : Memory} {count : Nat} :
    wrongAt setup pattern memory src (untagged setup (List.range count)) = 0 ↔
      ∀ i < count, seenWord setup pattern memory src i = pattern.word i := by
  rw [wrongAt_eq_zero]
  constructor
  · intro right i inside
    rw [seenWord]
    by_cases tag : setup.tagMode ∧ i &&& 7 = 0
    · rw [if_pos tag]
    · have here := right i (List.mem_filter.mpr ⟨List.mem_range.mpr inside, decide_eq_true tag⟩)
      rw [if_neg tag, here, fillWord, if_neg tag]
  · intro seen i member
    obtain ⟨inside, plain⟩ := List.mem_filter.mp member
    have here := seen i (List.mem_range.mp inside)
    rw [seenWord, if_neg (of_decide_eq_true plain)] at here
    rw [here, fillWord, if_neg (of_decide_eq_true plain)]

/-- What the copy functions do to so many words of two pages. -/
structure CopiedPage (setup : Setup) (pattern : Pattern) (counted : Bool) (dst src count : Nat)
    (before after : Checker) (errors : Nat) : Prop where
  copying : Copying setup dst src count (fillWord setup pattern src) before.memory after.memory
  logged : Logged before after
    (wrongAt setup pattern before.memory src (List.range count) +
      if counted then wrongAt setup pattern before.memory dst (tagged setup (List.range count))
      else 0)
  errors : errors = wrongAt setup pattern before.memory src (untagged setup (List.range count))

theorem copiedWord_right {memory : Memory} {count : Nat}
    (right : wrongAt setup pattern memory src (untagged setup (List.range count)) = 0) :
    ∀ i < count, copiedWord setup memory dst src i = fillWord setup pattern dst i := by
  intro i inside
  rw [copiedWord, fillWord]
  by_cases tag : setup.tagMode ∧ i &&& 7 = 0
  · rw [if_pos tag, if_pos tag]
  · have seen := seenWord_iff.mp right i inside
    rw [seenWord, if_neg tag] at seen
    rw [if_neg tag, if_neg tag, seen]

/-- After the loop over a block, only words that are no tags can be wrong in the source. -/
theorem wrongAt_copied {memory other : Memory} {count : Nat}
    (source : ∀ i < count, other (src + i) = copiedWord setup memory src src i) :
    wrongAt setup pattern other src (List.range count) =
      wrongAt setup pattern memory src (untagged setup (List.range count)) := by
  have tags : wrongAt setup pattern other src (tagged setup (List.range count)) = 0 := by
    rw [wrongAt_eq_zero]
    intro i member
    obtain ⟨inside, tag⟩ := mem_tagged.mp member
    rw [source i inside, copiedWord, fillWord, if_pos tag, if_pos tag]
  rw [wrongAt_split, tags, Nat.zero_add]
  apply wrongAt_congr
  intro i member
  obtain ⟨inside, plain⟩ := List.mem_filter.mp member
  rw [source i (List.mem_range.mp inside), copiedWord, if_neg (of_decide_eq_true plain)]

theorem crcCopyBlock_copies (copies : CopiesBlock setup copy counted) (bad : BitVec 64)
    {ref : setup.Ref} (dstAligned : dst % 8 = 0) (srcAligned : src % 8 = 0)
    (apart : Apart dst src blockwords) {state : Checker}
    (few : damage setup (setup.pattern ref) state.memory src ≤ 2) :
    ∃ after errors, crcCopyBlock setup copy bad ref dst src state = some (after, errors) ∧
      CopiedPage setup (setup.pattern ref) counted dst src blockwords state after errors := by
  obtain ⟨summed, ran, copying, logged⟩ :=
    copies (setup.pattern ref) dst src state dstAligned srcAligned apart
  have left := @wrongAt_copied setup (setup.pattern ref) src _ _ _ copying.source
  rw [crcCopyBlock]
  by_cases equal : sumPairs (seenWord setup (setup.pattern ref) state.memory src) 256 =
      (setup.pattern ref).crc
  · have none := seenWord_iff.mpr (seenWord_of_crc few equal)
    refine ⟨summed, 0, ?_, ⟨?_, copying.target, copying.rest⟩, ?_, none.symm⟩
    · simp [ran, equal]
    · intro i inside
      rw [copying.source i inside, copiedWord_right none i inside]
    · rw [wrongAt_split, none, Nat.add_zero]
      exact logged
  · have some : wrongAt setup (setup.pattern ref) state.memory src
        (untagged setup (List.range blockwords)) ≠ 0 := by
      intro none
      apply equal
      rw [(setup.pattern ref).crc_eq]
      exact sumPairs_congr (seenWord_iff.mp none)
    obtain ⟨after, checked, memory, more⟩ :=
      @checkRegion_restores (slice setup src blockwords) (setup.pattern ref)
        setup.patterns ref summed
    rw [show (slice setup src blockwords).words = blockwords from rfl,
      wrongAt_wrong srcAligned, left] at checked more
    have kept : ∀ address, (∀ i < blockwords, address ≠ src + i) →
        after.memory address = summed.memory address := by
      intro address outside
      rw [memory]
      apply repaired_rest
      intro i member
      exact outside i (List.mem_range.mp member)
    have total := logged.trans more
    rw [Nat.add_right_comm, ← wrongAt_split] at total
    refine ⟨after, _, ?_, ⟨?_, ?_, ?_⟩, total, rfl⟩
    · simp [ran, equal, checked, some]
    · intro i inside
      rw [memory]
      exact (@restored_index (slice setup src blockwords) _ _ i inside).trans
        (wholePage_expected srcAligned i)
    · intro i inside
      rw [kept _ fun j below => by rcases apart with before | after <;> omega]
      exact copying.target i inside
    · intro address outside
      rw [kept _ fun i inside => (outside i inside).1]
      exact copying.rest address outside

theorem untagged_block (block count : Nat) :
    untagged setup (List.range (block * blockwords + count)) =
      untagged setup (List.range (block * blockwords)) ++
        (untagged setup (List.range count)).map (block * blockwords + ·) := by
  rw [List.range_add, untagged, List.filter_append, List.filter_map]
  congr 2
  apply List.filter_congr
  intro i _
  simp only [Function.comp_apply, offset_tag]

theorem copiedWord_block {memory other : Memory} (block i : Nat)
    (same : other (src + (block * blockwords + i)) = memory (src + (block * blockwords + i))) :
    copiedWord setup other (dst + block * blockwords) (src + block * blockwords) i =
      copiedWord setup memory dst src (block * blockwords + i) := by
  simp only [copiedWord, offset_tag, Nat.add_assoc, same]

/-- So many words more, from a block boundary on. -/
theorem Copying.append {block count : Nat} {start middle after : Memory}
    (apart : Apart dst src (block * blockwords + count))
    (before : Copying setup dst src (block * blockwords) (fillWord setup pattern src) start middle)
    (more : Copying setup (dst + block * blockwords) (src + block * blockwords) count
      (fillWord setup pattern (src + block * blockwords)) middle after) :
    Copying setup dst src (block * blockwords + count) (fillWord setup pattern src) start after := by
  have later : ∀ i < block * blockwords + count, ¬ i < block * blockwords →
      ∃ j < count, i = block * blockwords + j := by
    intro i inside here
    exact ⟨i - block * blockwords, by omega, by omega⟩
  refine ⟨?_, ?_, ?_⟩
  · intro i inside
    by_cases early : i < block * blockwords
    · rw [more.rest _ fun j below => by rcases apart with first | second <;> omega]
      exact before.source i early
    · obtain ⟨j, below, rfl⟩ := later i inside early
      rw [← fillWord_block, ← Nat.add_assoc]
      exact more.source j below
  · intro i inside
    by_cases early : i < block * blockwords
    · rw [more.rest _ fun j below => by rcases apart with first | second <;> omega]
      exact before.target i early
    · obtain ⟨j, below, rfl⟩ := later i inside early
      rw [← copiedWord_block block j (before.ahead apart (Nat.le_add_right _ j) inside).1,
        ← Nat.add_assoc]
      exact more.target j below
  · intro address outside
    rw [more.rest address fun i below => by
      have here := outside (block * blockwords + i) (by omega)
      rwa [← Nat.add_assoc, ← Nat.add_assoc] at here]
    exact before.rest address fun i below => outside i (by omega)

theorem CopiedPage.append {block count : Nat} {start middle after : Checker}
    {errors errorcount : Nat} (apart : Apart dst src (block * blockwords + count))
    (before : CopiedPage setup pattern counted dst src (block * blockwords) start middle errors)
    (more : CopiedPage setup pattern counted (dst + block * blockwords)
      (src + block * blockwords) count middle after errorcount) :
    CopiedPage setup pattern counted dst src (block * blockwords + count) start after
      (errors + errorcount) := by
  have ahead : ∀ i ∈ (List.range count).map (block * blockwords + ·),
      middle.memory (src + i) = start.memory (src + i) ∧
        middle.memory (dst + i) = start.memory (dst + i) := by
    intro i member
    obtain ⟨j, inside, rfl⟩ := List.mem_map.mp member
    have below := List.mem_range.mp inside
    exact before.copying.ahead apart (by omega) (by omega)
  have chosen : ∀ (choice : Nat → Bool) i,
      i ∈ ((List.range count).filter choice).map (block * blockwords + ·) →
        i ∈ (List.range count).map (block * blockwords + ·) := by
    intro choice i member
    obtain ⟨j, inside, rfl⟩ := List.mem_map.mp member
    exact List.mem_map_of_mem (List.mem_of_mem_filter inside)
  have source : wrongAt setup pattern middle.memory (src + block * blockwords)
      (List.range count) =
        wrongAt setup pattern start.memory src ((List.range count).map (block * blockwords + ·)) := by
    rw [wrongAt_block]
    exact wrongAt_congr fun i member => (ahead i member).1
  have target : wrongAt setup pattern middle.memory (dst + block * blockwords)
      (tagged setup (List.range count)) =
        wrongAt setup pattern start.memory dst
          ((tagged setup (List.range count)).map (block * blockwords + ·)) := by
    rw [wrongAt_block]
    exact wrongAt_congr fun i member => (ahead i (chosen _ i member)).2
  have returned : errorcount = wrongAt setup pattern start.memory src
      ((untagged setup (List.range count)).map (block * blockwords + ·)) := by
    rw [more.errors, wrongAt_block]
    exact wrongAt_congr fun i member => (ahead i (chosen _ i member)).1
  refine ⟨Copying.append apart before.copying more.copying, ?_, ?_⟩
  · have total := before.logged.trans more.logged
    rw [source, target, Nat.add_add_add_comm, ← wrongAt_append, ← List.range_add] at total
    cases counted with
    | false => exact total
    | true =>
        rw [tagged_block, wrongAt_append]
        exact total
  · rw [before.errors, returned, untagged_block, wrongAt_append]

theorem crcCopyBlocks_copies (copies : CopiesBlock setup copy counted) (bad : BitVec 64)
    {ref : setup.Ref} (dstAligned : dst % 8 = 0) (srcAligned : src % 8 = 0) {state : Checker}
    (blocks : Nat) (apart : Apart dst src (blocks * blockwords))
    (few : ∀ block < blocks,
      damage setup (setup.pattern ref) state.memory (src + block * blockwords) ≤ 2) :
    ∃ after errors, crcCopyBlocks setup copy bad ref dst src state blocks = some (after, errors) ∧
      CopiedPage setup (setup.pattern ref) counted dst src (blocks * blockwords) state after
        errors := by
  induction blocks with
  | zero =>
      rw [Nat.zero_mul]
      refine ⟨state, 0, rfl, Copying.none _ _, ?_, rfl⟩
      cases counted <;> exact Logged.refl state
  | succ blocks ih =>
      rw [Nat.succ_mul] at apart ⊢
      have earlier : Apart dst src (blocks * blockwords) := by
        rcases apart with first | second
        · exact .inl (by omega)
        · exact .inr (by omega)
      obtain ⟨before, errors, looped, copied⟩ :=
        ih earlier fun block below => few block (Nat.lt_succ_of_lt below)
      have untouched : ∀ i < blockwords, before.memory (src + blocks * blockwords + i) =
          state.memory (src + blocks * blockwords + i) := by
        intro i inside
        rw [Nat.add_assoc]
        exact (copied.copying.ahead apart (by omega) (by omega)).1
      have small := few blocks (Nat.lt_succ_self blocks)
      rw [← damage_congr untouched] at small
      have here : Apart (dst + blocks * blockwords) (src + blocks * blockwords) blockwords := by
        rcases apart with first | second
        · exact .inl (by omega)
        · exact .inr (by omega)
      have boundary : blocks * blockwords % 8 = 0 := by
        rw [blockwords]
        omega
      obtain ⟨after, errorcount, stepped, block⟩ :=
        crcCopyBlock_copies copies bad (by omega) (by omega) here small
      refine ⟨after, errors + errorcount, ?_, copied.append apart block⟩
      rw [crcCopyBlocks, looped]
      simp [stepped]

end Blocks

/-! ### Whole pages -/

section Pages

variable {setup : Setup} {pattern : Pattern} {dst src : Nat} {copy : BlockCopy} {counted : Bool}

theorem copyLeftovers_eq {words : Nat} (apart : Apart dst src words) (memory : Memory) :
    copyLeftovers dst src words memory = copied memory dst src words := by
  unfold copyLeftovers
  induction words with
  | zero =>
      funext address
      rw [copied, if_neg (by omega)]
      rfl
  | succ words ih =>
      have earlier : Apart dst src words := by
        rcases apart with first | second
        · exact .inl (by omega)
        · exact .inr (by omega)
      rw [List.range_succ, List.foldl_append, List.foldl_cons, List.foldl_nil, ih earlier]
      exact store_copied apart

theorem words_eq : setup.words = setup.blocks * blockwords + setup.pageLength % 4096 / 8 := by
  unfold Setup.words Setup.blocks blockwords
  omega

theorem Apart.slice {words block count : Nat} (apart : Apart dst src words)
    (inside : block * blockwords + count ≤ words) :
    Apart (dst + block * blockwords) (src + block * blockwords) count := by
  rcases apart with first | second
  · exact .inl (by omega)
  · exact .inr (by omega)

/-- The words after the last block, without tags: they are checked and then copied. -/
theorem crcCopyLeftovers_fills {ref : setup.Ref} (srcAligned : src % 8 = 0)
    (mode : setup.tagMode ≠ true) (more : setup.pageLength % 4096 ≠ 0)
    (apart : Apart dst src setup.words) (state : Checker) :
    ∃ after, crcCopyLeftovers setup ref dst src state =
        some (after, wrongAt setup (setup.pattern ref) state.memory
          (src + setup.blocks * blockwords) (List.range (setup.pageLength % 4096 / 8))) ∧
      (∀ i < setup.pageLength % 4096 / 8,
        after.memory (src + setup.blocks * blockwords + i) =
            fillWord setup (setup.pattern ref) (src + setup.blocks * blockwords) i ∧
          after.memory (dst + setup.blocks * blockwords + i) =
            fillWord setup (setup.pattern ref) (dst + setup.blocks * blockwords) i) ∧
      (∀ address, (∀ i < setup.pageLength % 4096 / 8,
          address ≠ src + setup.blocks * blockwords + i ∧
            address ≠ dst + setup.blocks * blockwords + i) →
        after.memory address = state.memory address) ∧
      Logged state after (wrongAt setup (setup.pattern ref) state.memory
        (src + setup.blocks * blockwords) (List.range (setup.pageLength % 4096 / 8))) := by
  have boundary : setup.blocks * blockwords % 8 = 0 := by
    rw [blockwords]
    omega
  have aligned : (src + setup.blocks * blockwords) % 8 = 0 := by omega
  have rest := apart.slice words_eq.ge
  obtain ⟨checked, ran, memory, logged⟩ :=
    @checkRegion_restores (slice setup (src + setup.blocks * blockwords)
      (setup.pageLength % 4096 / 8)) (setup.pattern ref) setup.patterns ref state
  rw [show (slice setup (src + setup.blocks * blockwords) (setup.pageLength % 4096 / 8)).words =
    setup.pageLength % 4096 / 8 from rfl, wrongAt_wrong aligned] at ran logged
  have source : ∀ i < setup.pageLength % 4096 / 8,
      checked.memory (src + setup.blocks * blockwords + i) =
        fillWord setup (setup.pattern ref) (src + setup.blocks * blockwords) i := by
    intro i inside
    rw [memory]
    exact (@restored_index (slice setup (src + setup.blocks * blockwords) _) _ _ i inside).trans
      (wholePage_expected aligned i)
  have plain : ∀ addr i, fillWord setup (setup.pattern ref) addr i = (setup.pattern ref).word i :=
    fun addr i => if_neg fun both => mode both.1
  rw [crcCopyLeftovers, if_neg more]
  simp only [Option.bind_eq_bind, ran, Option.bind_some, copyLeftovers_eq rest]
  refine ⟨_, rfl, ?_, ?_, logged.count, logged.reports⟩
  · intro i inside
    refine ⟨(copied_source rest inside).trans (source i inside), ?_⟩
    refine (copied_target inside).trans ?_
    rw [source i inside, plain, plain]
  · intro address outside
    refine (copied_rest fun i inside => (outside i inside).2).trans ?_
    rw [memory]
    apply repaired_rest
    intro i member
    exact (outside i (List.mem_range.mp member)).1

/-- The end of a copy: a page without errors in its source is copied as it is. -/
theorem crcCopyLeftovers_copies {ref : setup.Ref} (srcAligned : src % 8 = 0)
    (tags : setup.tagMode → setup.pageLength % 4096 = 0)
    (apart : Apart dst src setup.words) {start middle : Checker} {errors : Nat}
    (before : CopiedPage setup (setup.pattern ref) counted dst src
      (setup.blocks * blockwords) start middle errors) :
    ∃ after errorcount, crcCopyLeftovers setup ref dst src middle = some (after, errorcount) ∧
      Holds setup (setup.pattern ref) src after.memory ∧
      (errors + errorcount = 0 → Holds setup (setup.pattern ref) dst after.memory) ∧
      (∀ address, (∀ i < setup.words, address ≠ src + i ∧ address ≠ dst + i) →
        after.memory address = start.memory address) ∧
      Logged start after
        (wrongAt setup (setup.pattern ref) start.memory src (List.range setup.words) +
          if counted then wrongAt setup (setup.pattern ref) start.memory dst
            (tagged setup (List.range setup.words))
          else 0) ∧
      errors + errorcount = wrongAt setup (setup.pattern ref) start.memory src
        (untagged setup (List.range setup.words)) := by
  have early : errors = 0 → ∀ i < setup.blocks * blockwords,
      middle.memory (dst + i) = fillWord setup (setup.pattern ref) dst i := by
    intro none i inside
    rw [before.copying.target i inside]
    exact copiedWord_right (before.errors.symm.trans none) i inside
  by_cases none : setup.pageLength % 4096 = 0
  · have noMore : setup.words = setup.blocks * blockwords := by
      rw [words_eq, none, Nat.zero_div, Nat.add_zero]
    rw [crcCopyLeftovers, if_pos none]
    refine ⟨middle, 0, rfl, ?_, ?_, ?_, ?_, ?_⟩
    · exact fun i inside => before.copying.source i (noMore ▸ inside)
    · exact fun clean i inside => early clean i (noMore ▸ inside)
    · exact fun address outside =>
        before.copying.rest address fun i inside => outside i (noMore ▸ inside)
    · rw [noMore]
      exact before.logged
    · rw [noMore]
      exact before.errors
  · have mode : setup.tagMode ≠ true := fun mode => none (tags mode)
    obtain ⟨after, ran, words, rest, logged⟩ :=
      @crcCopyLeftovers_fills setup dst src ref srcAligned mode none apart middle
    have ahead : wrongAt setup (setup.pattern ref) middle.memory
        (src + setup.blocks * blockwords) (List.range (setup.pageLength % 4096 / 8)) =
          wrongAt setup (setup.pattern ref) start.memory src
            ((List.range (setup.pageLength % 4096 / 8)).map (setup.blocks * blockwords + ·)) := by
      rw [wrongAt_block]
      apply wrongAt_congr
      intro i member
      obtain ⟨j, inside, rfl⟩ := List.mem_map.mp member
      have below := List.mem_range.mp inside
      exact (before.copying.ahead apart (Nat.le_add_right _ j) (by rw [words_eq]; omega)).1
    rw [ahead] at ran logged
    have length := @words_eq setup
    have late : ∀ i < setup.words, ¬ i < setup.blocks * blockwords →
        ∃ j < setup.pageLength % 4096 / 8, i = setup.blocks * blockwords + j := by
      intro i inside here
      exact ⟨i - setup.blocks * blockwords, by omega, by omega⟩
    have kept : ∀ i < setup.blocks * blockwords, after.memory (src + i) = middle.memory (src + i) ∧
        after.memory (dst + i) = middle.memory (dst + i) := by
      intro i inside
      exact ⟨rest _ fun j below => by rcases apart with first | second <;> omega,
        rest _ fun j below => by rcases apart with first | second <;> omega⟩
    refine ⟨after, _, ran, ?_, ?_, ?_, ?_, ?_⟩
    · intro i inside
      by_cases here : i < setup.blocks * blockwords
      · rw [(kept i here).1]
        exact before.copying.source i here
      · obtain ⟨j, below, rfl⟩ := late i inside here
        rw [← fillWord_block, ← Nat.add_assoc]
        exact (words j below).1
    · intro clean i inside
      by_cases here : i < setup.blocks * blockwords
      · rw [(kept i here).2]
        exact early (Nat.eq_zero_of_add_eq_zero_right clean) i here
      · obtain ⟨j, below, rfl⟩ := late i inside here
        rw [← fillWord_block, ← Nat.add_assoc]
        exact (words j below).2
    · intro address outside
      rw [rest address fun j below => by
        have here := outside (setup.blocks * blockwords + j) (by omega)
        rwa [← Nat.add_assoc, ← Nat.add_assoc] at here]
      exact before.copying.rest address fun i inside => outside i (by omega)
    · have total := before.logged.trans logged
      rw [tagged_untagged mode, Nat.add_right_comm, ← wrongAt_append, ← List.range_add,
        ← words_eq] at total
      rw [tagged_untagged mode]
      exact total
    · rw [before.errors, untagged_plain mode, untagged_plain mode, ← wrongAt_append,
        ← List.range_add, ← words_eq]

/-- A copy of a page with little damage, in either way: both pages hold the
pattern, and each wrong word of the source is counted once. -/
theorem crcCopyWith_copies (copies : CopiesBlock setup copy counted) (bad : BitVec 64)
    {ref : setup.Ref} (dstAligned : dst % 8 = 0) (srcAligned : src % 8 = 0)
    (tags : setup.tagMode → setup.pageLength % 4096 = 0)
    (apart : Apart dst src setup.words) {state : Checker}
    (few : ∀ block < setup.blocks,
      damage setup (setup.pattern ref) state.memory (src + block * blockwords) ≤ 2) :
    ∃ after errors, crcCopyWith setup copy bad ref dst src state = some (after, errors) ∧
      Holds setup (setup.pattern ref) src after.memory ∧
      Holds setup (setup.pattern ref) dst after.memory ∧
      (∀ address, (∀ i < setup.words, address ≠ src + i ∧ address ≠ dst + i) →
        after.memory address = state.memory address) ∧
      Logged state after
        (wrongAt setup (setup.pattern ref) state.memory src (List.range setup.words) +
          if counted then wrongAt setup (setup.pattern ref) state.memory dst
            (tagged setup (List.range setup.words))
          else 0) ∧
      errors = wrongAt setup (setup.pattern ref) state.memory src
        (untagged setup (List.range setup.words)) := by
  have whole : setup.blocks * blockwords ≤ setup.words := by
    unfold Setup.words Setup.blocks blockwords
    omega
  have blocksApart : Apart dst src (setup.blocks * blockwords) := by
    rcases apart with first | second
    · exact .inl (by omega)
    · exact .inr (by omega)
  obtain ⟨middle, errors, looped, copied⟩ :=
    crcCopyBlocks_copies copies bad dstAligned srcAligned setup.blocks blocksApart few
  obtain ⟨checked, errorcount, rest, source, target, outside, logged, total⟩ :=
    crcCopyLeftovers_copies srcAligned tags apart copied
  rw [crcCopyWith, looped]
  by_cases clean : errors + errorcount = 0
  · refine ⟨checked, 0, ?_, source, target clean, outside, logged, clean.symm.trans total⟩
    simp only [Option.bind_eq_bind, Option.bind_some, rest, clean, if_true]
    rfl
  · refine ⟨{ checked with memory := fillPage setup (setup.pattern ref) dst checked.memory },
      errors + errorcount, ?_, ?_, fillPage_holds checked.memory, ?_,
      ⟨logged.count, logged.reports⟩, total⟩
    · simp only [Option.bind_eq_bind, Option.bind_some, rest, clean, if_false]
      rfl
    · intro i inside
      refine (fillPage_outside checked.memory ?_).trans (source i inside)
      rcases apart with first | second <;> omega
    · intro address away
      refine (fillPage_outside checked.memory ?_).trans (outside address away)
      by_contra inside
      exact (away (address - dst) (by omega)).2 (by omega)

/-- Both pages hold the pattern after `CrcCopyPage`, whatever the target held before.
Each wrong word of the source is counted once, and so is each wrong tag of the target. -/
theorem page_copy_repairs_little_damage {ref : setup.Ref} (dstAligned : dst % 8 = 0)
    (srcAligned : src % 8 = 0) (tags : setup.tagMode → setup.pageLength % 4096 = 0)
    (apart : Apart dst src setup.words) {state : Checker}
    (few : ∀ block < setup.blocks,
      damage setup (setup.pattern ref) state.memory (src + block * blockwords) ≤ 2) :
    ∃ after errors, crcCopyPage setup ref dst src state = some (after, errors) ∧
      Holds setup (setup.pattern ref) src after.memory ∧
      Holds setup (setup.pattern ref) dst after.memory ∧
      (∀ address, (∀ i < setup.words, address ≠ src + i ∧ address ≠ dst + i) →
        after.memory address = state.memory address) ∧
      after.errorcount = state.errorcount +
        (wrongAt setup (setup.pattern ref) state.memory src (List.range setup.words) +
          wrongAt setup (setup.pattern ref) state.memory dst
            (tagged setup (List.range setup.words))) ∧
      errors = wrongAt setup (setup.pattern ref) state.memory src
        (untagged setup (List.range setup.words)) := by
  obtain ⟨after, errors, ran, source, target, outside, logged, returned⟩ :=
    crcCopyWith_copies plainCopy_copies 0xbad0000000000000 dstAligned srcAligned tags apart few
  exact ⟨after, errors, ran, source, target, outside, logged.count, returned⟩

theorem page_copy_repairs_two_words :
    ∃ after errors, crcCopyPage oneBlock onePattern 512 0 twoWrong = some (after, errors) ∧
      Holds oneBlock (oneBlock.pattern onePattern) 0 after.memory ∧
      Holds oneBlock (oneBlock.pattern onePattern) 512 after.memory ∧
      (∀ address, (∀ i < oneBlock.words, address ≠ 0 + i ∧ address ≠ 512 + i) →
        after.memory address = twoWrong.memory address) ∧
      after.errorcount = twoWrong.errorcount +
        (wrongAt oneBlock (oneBlock.pattern onePattern) twoWrong.memory 0
            (List.range oneBlock.words) +
          wrongAt oneBlock (oneBlock.pattern onePattern) twoWrong.memory 512
            (tagged oneBlock (List.range oneBlock.words))) ∧
      errors = wrongAt oneBlock (oneBlock.pattern onePattern) twoWrong.memory 0
        (untagged oneBlock (List.range oneBlock.words)) :=
  page_copy_repairs_little_damage rfl rfl (fun _ => rfl) (.inr (by decide)) (by decide +kernel)

/-- The copy that warms the processor leaves memory as the plain one does and
returns the same; it does not count the wrong tags of the target. -/
theorem warm_copy_agrees {ref : setup.Ref} (dstAligned : dst % 8 = 0)
    (srcAligned : src % 8 = 0) (tags : setup.tagMode → setup.pageLength % 4096 = 0)
    (apart : Apart dst src setup.words) {state : Checker}
    (few : ∀ block < setup.blocks,
      damage setup (setup.pattern ref) state.memory (src + block * blockwords) ≤ 2) :
    ∃ plain warm errors, crcCopyPage setup ref dst src state = some (plain, errors) ∧
      crcWarmCopyPage setup ref dst src state = some (warm, errors) ∧
      plain.memory = warm.memory ∧
      plain.errorcount = warm.errorcount +
        wrongAt setup (setup.pattern ref) state.memory dst
          (tagged setup (List.range setup.words)) := by
  obtain ⟨plain, errors, ran, source, target, outside, logged, returned⟩ :=
    crcCopyWith_copies plainCopy_copies 0xbad0000000000000 dstAligned srcAligned tags apart few
  obtain ⟨warm, warmErrors, warmRan, warmSource, warmTarget, warmOutside, warmLogged,
      warmReturned⟩ :=
    crcCopyWith_copies warmCopy_copies 0xbad dstAligned srcAligned tags apart few
  rw [warmReturned, ← returned] at warmRan
  refine ⟨plain, warm, errors, ran, warmRan, ?_, ?_⟩
  · funext address
    by_cases inSource : ∃ i < setup.words, address = src + i
    · obtain ⟨i, inside, rfl⟩ := inSource
      rw [source i inside, warmSource i inside]
    · by_cases inTarget : ∃ i < setup.words, address = dst + i
      · obtain ⟨i, inside, rfl⟩ := inTarget
        rw [target i inside, warmTarget i inside]
      · have away : ∀ i < setup.words, address ≠ src + i ∧ address ≠ dst + i := fun i inside =>
          ⟨fun equal => inSource ⟨i, inside, equal⟩, fun equal => inTarget ⟨i, inside, equal⟩⟩
        rw [outside address away, warmOutside address away]
  · rw [logged.count, warmLogged.count, if_pos rfl, if_neg Bool.false_ne_true, Nat.add_zero,
      Nat.add_assoc]

theorem warm_copy_agrees_on_one_block :
    ∃ plain warm errors, crcCopyPage oneBlock onePattern 512 0 twoWrong = some (plain, errors) ∧
      crcWarmCopyPage oneBlock onePattern 512 0 twoWrong = some (warm, errors) ∧
      plain.memory = warm.memory ∧
      plain.errorcount = warm.errorcount +
        wrongAt oneBlock (oneBlock.pattern onePattern) twoWrong.memory 512
          (tagged oneBlock (List.range oneBlock.words)) :=
  warm_copy_agrees rfl rfl (fun _ => rfl) (.inr (by decide)) (by decide +kernel)

theorem length_tagged (mode : setup.tagMode = true) (count : Nat) :
    (tagged setup (List.range count)).length = (count + 7) / 8 := by
  induction count with
  | zero => rfl
  | succ count ih =>
      rw [tagged, ← List.countP_eq_length_filter] at ih
      rw [tagged, ← List.countP_eq_length_filter, List.range_succ, List.countP_append, ih,
        List.countP_singleton]
      simp only [mode, true_and, and_seven, decide_eq_true_eq]
      split <;> omega

theorem addrToTag_injective {first second : Nat} (firstSmall : first < 2 ^ 61)
    (secondSmall : second < 2 ^ 61) (equal : addrToTag first = addrToTag second) :
    first = second := by
  have numbers := congrArg BitVec.toNat equal
  rw [addrToTag, addrToTag, BitVec.toNat_ofNat, BitVec.toNat_ofNat,
    Nat.mod_eq_of_lt (by omega), Nat.mod_eq_of_lt (by omega)] at numbers
  omega

/-- A page that got the tags of another one has no right tag. -/
theorem wrongAt_wrong_tags (mode : setup.tagMode = true) {memory : Memory}
    (differ : ∀ i < setup.words, addrToTag (src + i) ≠ addrToTag (dst + i))
    (holds : Holds setup pattern src memory) :
    wrongAt setup pattern (copied memory dst src setup.words) dst (List.range setup.words) =
      (setup.words + 7) / 8 := by
  have plain : wrongAt setup pattern (copied memory dst src setup.words) dst
      (untagged setup (List.range setup.words)) = 0 := by
    rw [wrongAt_eq_zero]
    intro i member
    obtain ⟨inside, plain⟩ := List.mem_filter.mp member
    rw [copied_target (List.mem_range.mp inside), holds i (List.mem_range.mp inside), fillWord,
      fillWord, if_neg (of_decide_eq_true plain), if_neg (of_decide_eq_true plain)]
  rw [wrongAt_split, plain, Nat.add_zero, ← length_tagged mode, wrongAt, List.countP_eq_length]
  intro i member
  obtain ⟨inside, tag⟩ := mem_tagged.mp member
  rw [copied_target inside, holds i inside, fillWord, fillWord, if_pos tag, if_pos tag]
  exact decide_eq_true (differ i inside)

/-- Where tags are used on pages of less than a block, a copy gives the target the
tags of the source: the copy is without errors, and the next check of the target
finds every tag wrong. -/
theorem short_tagged_copies_raise_alarms {ref : setup.Ref} (mode : setup.tagMode = true)
    (short : setup.pageLength < 4096) (dstAligned : dst % 8 = 0) (srcAligned : src % 8 = 0)
    (apart : Apart dst src setup.words) (dstSmall : dst + setup.words ≤ 2 ^ 61)
    (srcSmall : src + setup.words ≤ 2 ^ 61) {state : Checker}
    (holds : Holds setup (setup.pattern ref) src state.memory) :
    ∃ copied checked, crcCopyPage setup ref dst src state = some (copied, 0) ∧
      copied.errorcount = state.errorcount ∧
      crcCheckPage setup ref dst copied = some (checked, (setup.words + 7) / 8) ∧
      checked.errorcount = state.errorcount + (setup.words + 7) / 8 := by
  have noBlocks : setup.blocks = 0 := Nat.div_eq_of_lt short
  have left : setup.pageLength % 4096 = setup.pageLength := Nat.mod_eq_of_lt short
  by_cases empty : setup.pageLength = 0
  · have noWords : setup.words = 0 := by rw [Setup.words, empty]
    refine ⟨state, state, ?_, rfl, ?_, ?_⟩
    · simp [crcCopyPage, crcCopyWith, noBlocks, crcCopyBlocks, crcCopyLeftovers, empty]
    · simp [crcCheckPage, noBlocks, crcCheckBlocks, empty, noWords]
    · rw [noWords]
      rfl
  · have differ : ∀ i < setup.words, addrToTag (src + i) ≠ addrToTag (dst + i) := by
      intro i inside equal
      have same := addrToTag_injective (by omega) (by omega) equal
      rcases apart with first | second <;> omega
    have right : wrongAt setup (setup.pattern ref) state.memory src (List.range setup.words) = 0 :=
      wrongAt_eq_zero.mpr fun i member => holds i (List.mem_range.mp member)
    obtain ⟨checked, ran, memory, logged⟩ :=
      @checkRegion_restores (slice setup src setup.words) (setup.pattern ref) setup.patterns ref
        state
    have none : (slice setup src setup.words).wrong (setup.pattern ref) state.memory
        (List.range setup.words) = [] := by
      rw [← List.length_eq_zero_iff, wrongAt_wrong srcAligned, right]
    rw [show (slice setup src setup.words).words = setup.words from rfl,
      wrongAt_wrong srcAligned, right] at ran logged
    rw [restored_right none] at memory
    have tags := wrongAt_wrong_tags mode differ holds
    obtain ⟨again, checkedAgain, _, loggedAgain⟩ :=
      @checkRegion_restores (slice setup dst setup.words) (setup.pattern ref) setup.patterns ref
        { checked with memory := copied state.memory dst src setup.words }
    rw [show (slice setup dst setup.words).words = setup.words from rfl,
      wrongAt_wrong dstAligned, tags] at checkedAgain loggedAgain
    have leftWords : setup.pageLength % 4096 / 8 = setup.words := by rw [left, Setup.words]
    have leftovers : crcCopyLeftovers setup ref dst src state =
        some ({ checked with memory := copied state.memory dst src setup.words }, 0) := by
      rw [crcCopyLeftovers, leftWords, noBlocks, Nat.zero_mul, Nat.add_zero, Nat.add_zero, left,
        if_neg empty]
      simp only [ran, Option.bind_eq_bind, Option.bind_some, copyLeftovers_eq apart, memory]
      rfl
    refine ⟨{ checked with memory := copied state.memory dst src setup.words }, again, ?_,
      logged.count, ?_, ?_⟩
    · rw [crcCopyPage, crcCopyWith, noBlocks, crcCopyBlocks]
      simp only [Option.bind_eq_bind, Option.bind_some, leftovers, if_true]
      rfl
    · rw [crcCheckPage, noBlocks, crcCheckBlocks, Nat.zero_mul, Nat.add_zero, left]
      simp only [Option.bind_eq_bind, Option.bind_some, empty, if_false,
        show setup.pageLength / 8 = setup.words from rfl, checkedAgain]
      rw [Nat.zero_add]
      rfl
    · exact loggedAgain.count.trans (congrArg (· + _) logged.count)

/-- Tagged pages of 1024 bytes. -/
def shortPages : Setup := ⟨[(Pattern.initializePattern oneZero 32 false 5).1], true, 1024⟩

theorem short_tagged_copy_raises_sixteen :
    ∃ copied checked,
      crcCopyPage shortPages ⟨0, Nat.zero_lt_one⟩ 128 0
          ⟨fillWord shortPages (shortPages.pattern ⟨0, Nat.zero_lt_one⟩) 0, 0, []⟩ =
        some (copied, 0) ∧
      copied.errorcount = 0 ∧
      crcCheckPage shortPages ⟨0, Nat.zero_lt_one⟩ 128 copied =
        some (checked, (shortPages.words + 7) / 8) ∧
      checked.errorcount = 0 + (shortPages.words + 7) / 8 :=
  short_tagged_copies_raise_alarms rfl (by decide) rfl rfl (.inr (by decide)) (by decide)
    (by decide) fun i _ => congrArg _ (Nat.zero_add i)

end Pages

end AmebaTests.Stressapptest
