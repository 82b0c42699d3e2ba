/-
The word by word check of a region.

`CheckRegion` queues up to 128 miscompares and reports them when the scan is
done.  A longer list makes it a page error: the scan stops, the region is
compared with the other patterns, the queue is reported, and a second scan
reports what is left.  Each report writes the expected word back.
-/

import AmebaTests.Foundation.Fallible
import AmebaTests.Stressapptest.Pattern

namespace AmebaTests.Stressapptest

structure ErrorRecord where
  actual : BitVec 64
  expected : BitVec 64
  vaddr : Nat
  deriving DecidableEq, Repr

/-- A line of the log about a miscompare. -/
structure Report where
  priority : Nat
  message : String
  vaddr : Nat
  actual : BitVec 64
  reread : BitVec 64
  expected : BitVec 64

/-- What the checks of a worker thread read and write. -/
structure Checker where
  memory : Memory
  errorcount : Nat
  reports : List Report

/-- The arguments of `CheckRegion`; the pattern is an index into the pattern list. -/
structure Region where
  addr : Nat
  words : Nat
  patternOffset : Nat
  tagMode : Bool

def addrToTag (address : Nat) : BitVec 64 := BitVec.ofNat 64 (8 * address)

namespace Region

variable (region : Region) (pattern : Pattern)

/-- The word the pattern has at an index of the region. -/
def patternWord (i : Nat) : BitVec 64 :=
  let index := 2 * i + region.patternOffset
  castWord (pattern.pattern index) (pattern.pattern (index + 1))

/-- The word that should be at an index of the region: every eighth word of
memory is its own address when tags are used. -/
def expected (i : Nat) : BitVec 64 :=
  if region.tagMode ∧ 8 * (region.addr + i) &&& 0x3f = 0 then addrToTag (region.addr + i)
  else region.patternWord pattern i

def record (memory : Memory) (i : Nat) : ErrorRecord :=
  ⟨memory (region.addr + i), region.expected pattern i, region.addr + i⟩

end Region

/-- `ProcessError`; the assertion that the words differ ends the program. -/
def processError (state : Checker) (error : ErrorRecord) (priority : Nat) (message : String) :
    Option Checker :=
  if error.expected = error.actual then none
  else
    let report : Report := ⟨priority, message, error.vaddr, error.actual,
      state.memory error.vaddr, error.expected⟩
    some
      { state with
        memory := store state.memory error.vaddr error.expected
        reports := if priority < 5 then state.reports ++ [report] else state.reports }

def kErrorLimit : Nat := 128

/-- The first scan: the queue, and whether it overflowed. -/
def scan (region : Region) (pattern : Pattern) (memory : Memory) :
    List Nat → List ErrorRecord → List ErrorRecord × Bool
  | [], recorded => (recorded, false)
  | i :: rest, recorded =>
      if memory (region.addr + i) = region.expected pattern i then
        scan region pattern memory rest recorded
      else if recorded.length < kErrorLimit then
        scan region pattern memory rest (recorded ++ [region.record pattern memory i])
      else (recorded, true)

/-- The states of the search for a block of another pattern. -/
inductive BlockState
  | good
  | bad
  | goodAgain
  | noMatch
  deriving DecidableEq, Repr

def BlockState.next (actual expected possible : BitVec 64) : BlockState → BlockState
  | .good =>
      if actual = expected then .good
      else if actual = possible then .bad
      else .noMatch
  | .bad =>
      if actual = possible then .bad
      else if actual = expected then .goodAgain
      else .noMatch
  | .goodAgain => if actual = expected then .goodAgain else .noMatch
  | .noMatch => .noMatch

/-- The comparison with another pattern.  The source takes the word that would be
possible from the region's own pattern too. -/
def blockState (region : Region) (pattern : Pattern) (memory : Memory) : BlockState :=
  (List.range region.words).foldl (fun state i =>
    let expected := region.patternWord pattern i
    let possible := region.patternWord pattern i
    state.next (memory (region.addr + i)) expected possible) .good

/-- The search over the other patterns, with the message it leaves for the reports. -/
def blockSearch (region : Region) (pattern : Pattern) (self : Nat) (recorded : List ErrorRecord) :
    List Nat → Checker × String → Option (Checker × String)
  | [], found => some found
  | pat :: rest, (state, message) =>
      if pat = self then blockSearch region pattern self recorded rest (state, message)
      else
        match blockState region pattern state.memory with
        | .goodAgain | .bad => do
            let first ← recorded.head?
            let reported ← processError state first 0 "Block Error"
            blockSearch region pattern self recorded rest (reported, "Block Error")
        | .good | .noMatch => blockSearch region pattern self recorded rest (state, message)

/-- The reports of the queue; the first thirty errors of a thread have priority. -/
def reportQueue (message : String) : List ErrorRecord → Nat → Checker → Option Checker
  | [], _, state => some state
  | error :: rest, err, state => do
      let reported ← processError state error
        (if state.errorcount + err < 30 then 0 else 5) message
      reportQueue message rest (err + 1) reported

/-- The second scan, with the number of words it reports. -/
def rescan (region : Region) (pattern : Pattern) (message : String) :
    List Nat → Checker → Option (Checker × Nat)
  | [], state => some (state, 0)
  | i :: rest, state =>
      if state.memory (region.addr + i) = region.expected pattern i then
        rescan region pattern message rest state
      else do
        let reported ← processError state (region.record pattern state.memory i) 12 message
        let (final, overflowerrors) ← rescan region pattern message rest reported
        return (final, overflowerrors + 1)

/-- The whole block corruption part, for a page error without tags. -/
def searchBlocks (region : Region) (pattern : Pattern) (self count : Nat)
    (recorded : List ErrorRecord) (pageError : Bool) (found : Checker × String) :
    Option (Checker × String) :=
  if pageError ∧ ¬ region.tagMode then
    blockSearch region pattern self recorded (List.range count) found
  else some found

/-- The part after the queue, for a page error. -/
def scanOverflow (region : Region) (pattern : Pattern) (message : String) (pageError : Bool)
    (state : Checker) : Option (Checker × Nat) :=
  if pageError then rescan region pattern message (List.range region.words) state
  else some (state, 0)

/-- `CheckRegion`, for the pattern at an index of the list. -/
def checkRegion (patterns : List Pattern) (pattern : Pattern) (self : Nat) (region : Region)
    (state : Checker) : Option (Checker × Nat) := do
  let (recorded, pageError) := scan region pattern state.memory (List.range region.words) []
  let errormessage := if pageError then "Page Error" else "Hardware Error"
  let (searched, message) ←
    searchBlocks region pattern self patterns.length recorded pageError (state, errormessage)
  let queued ← reportQueue message recorded 0 searched
  let (final, overflowerrors) ← scanOverflow region pattern message pageError queued
  let errors := recorded.length + overflowerrors
  return ({ final with errorcount := final.errorcount + errors }, errors)

/-! ### The memory behind a check -/

section Repair

variable (region : Region) (pattern : Pattern)

/-- The indices, of these, where memory is not as expected. -/
def Region.wrong (memory : Memory) (indices : List Nat) : List Nat :=
  indices.filter fun i => memory (region.addr + i) ≠ region.expected pattern i

/-- Memory with the expected words at these indices. -/
def Region.repaired (memory : Memory) (indices : List Nat) : Memory := fun address =>
  if region.addr ≤ address ∧ address - region.addr ∈ indices then
    region.expected pattern (address - region.addr)
  else memory address

/-- Memory with the whole region as expected. -/
def Region.restored (memory : Memory) : Memory :=
  region.repaired pattern memory (List.range region.words)

variable {region pattern} {memory : Memory}

theorem repaired_nil : region.repaired pattern memory [] = memory := by
  funext address
  rw [Region.repaired, if_neg (fun inside => List.not_mem_nil inside.2)]

theorem repaired_cons (i : Nat) (indices : List Nat) :
    region.repaired pattern memory (i :: indices) =
      region.repaired pattern
        (store memory (region.addr + i) (region.expected pattern i)) indices := by
  funext address
  by_cases here : address = region.addr + i
  · rw [here, Region.repaired, Region.repaired, Nat.add_sub_cancel_left, store,
      Function.update_self, ite_self,
      if_pos ⟨Nat.le_add_right _ _, List.mem_cons_self⟩]
  · rw [Region.repaired, Region.repaired, store, Function.update_of_ne here]
    by_cases inside : region.addr ≤ address
    · have other : address - region.addr ≠ i := by omega
      simp only [inside, List.mem_cons, other, false_or, true_and]
    · simp only [inside, false_and, if_false]

theorem repaired_append (first second : List Nat) :
    region.repaired pattern memory (first ++ second) =
      region.repaired pattern (region.repaired pattern memory first) second := by
  induction first generalizing memory with
  | nil => rw [List.nil_append, repaired_nil]
  | cons i rest ih => rw [List.cons_append, repaired_cons, ih, repaired_cons]

theorem repaired_index {indices : List Nat} (i : Nat) :
    region.repaired pattern memory indices (region.addr + i) =
      if i ∈ indices then region.expected pattern i else memory (region.addr + i) := by
  rw [Region.repaired, Nat.add_sub_cancel_left]
  simp only [Nat.le_add_right, true_and]

theorem repaired_rest {indices : List Nat} {address : Nat}
    (outside : ∀ i ∈ indices, address ≠ region.addr + i) :
    region.repaired pattern memory indices address = memory address := by
  rw [Region.repaired, if_neg]
  rintro ⟨above, member⟩
  exact outside _ member (Nat.add_sub_of_le above).symm

/-- Repairing what is wrong restores the region. -/
theorem repaired_wrong :
    region.repaired pattern memory (region.wrong pattern memory (List.range region.words)) =
      region.restored pattern memory := by
  funext address
  rw [Region.restored, Region.repaired, Region.repaired]
  by_cases inside : region.addr ≤ address
  · obtain ⟨i, rfl⟩ := Nat.exists_eq_add_of_le inside
    rw [Nat.add_sub_cancel_left]
    by_cases same : memory (region.addr + i) = region.expected pattern i
    · simp only [same, ite_self]
    · simp only [Region.wrong, List.mem_filter, same, decide_true, ne_eq, not_false_eq_true,
        and_true]
  · simp only [inside, false_and, if_false]

theorem restored_right (right : region.wrong pattern memory (List.range region.words) = []) :
    region.restored pattern memory = memory := by
  rw [← repaired_wrong, right, repaired_nil]

theorem restored_repaired {indices : List Nat} (inside : indices ⊆ List.range region.words) :
    region.restored pattern (region.repaired pattern memory indices) =
      region.restored pattern memory := by
  funext address
  unfold Region.restored Region.repaired
  by_cases within : region.addr ≤ address ∧ address - region.addr ∈ List.range region.words
  · rw [if_pos within, if_pos within]
  · rw [if_neg within, if_neg within, if_neg]
    intro both
    exact within ⟨both.1, inside both.2⟩

theorem wrong_repaired (indices repairs : List Nat) :
    region.wrong pattern (region.repaired pattern memory repairs) indices =
      (region.wrong pattern memory indices).filter fun i => i ∉ repairs := by
  rw [Region.wrong, Region.wrong, List.filter_filter]
  apply List.filter_congr
  intro i _
  rw [repaired_index]
  by_cases done : i ∈ repairs
  · simp [done]
  · simp [done]

theorem filter_not_mem_left {all early late : List Nat} (split : early ++ late = all)
    (distinct : all.Nodup) : all.filter (fun i => i ∉ early) = late := by
  subst split
  rw [List.filter_append, List.filter_eq_nil_iff.mpr, List.nil_append, List.filter_eq_self.mpr]
  · intro i member
    apply decide_eq_true
    intro both
    exact (List.nodup_append.mp distinct).2.2 i both i member rfl
  · intro i member
    simp [member]

/-- The whole region is as expected, and the rest of memory as it was. -/
theorem restored_index (memory : Memory) {i : Nat} (inside : i < region.words) :
    region.restored pattern memory (region.addr + i) = region.expected pattern i := by
  rw [Region.restored, repaired_index, if_pos (List.mem_range.mpr inside)]

theorem restored_outside (memory : Memory) {address : Nat}
    (outside : address < region.addr ∨ region.addr + region.words ≤ address) :
    region.restored pattern memory address = memory address := by
  rw [Region.restored, Region.repaired, if_neg]
  rw [List.mem_range]
  omega

end Repair

/-! ### The reports -/

section Reports

/-- The reports made between two states, all with one of these messages. -/
structure Reported (messages : List String) (before after : Checker) : Prop where
  count : after.errorcount = before.errorcount
  reports : ∃ made, after.reports = before.reports ++ made ∧
    ∀ report ∈ made, report.message ∈ messages

theorem Reported.refl (messages : List String) (state : Checker) :
    Reported messages state state :=
  ⟨rfl, [], (List.append_nil _).symm, fun _ member => absurd member List.not_mem_nil⟩

theorem Reported.trans {messages : List String} {first second third : Checker}
    (before : Reported messages first second) (after : Reported messages second third) :
    Reported messages first third := by
  obtain ⟨made, madeEq, madeAll⟩ := before.reports
  obtain ⟨more, moreEq, moreAll⟩ := after.reports
  refine ⟨after.count.trans before.count, made ++ more, ?_, ?_⟩
  · rw [moreEq, madeEq, List.append_assoc]
  · intro report member
    rcases List.mem_append.mp member with early | late
    · exact madeAll report early
    · exact moreAll report late

variable {message : String}

theorem processError_reported {state : Checker} {error : ErrorRecord} {priority : Nat}
    (differ : error.actual ≠ error.expected) :
    ∃ after, processError state error priority message = some after ∧
      after.memory = store state.memory error.vaddr error.expected ∧
      Reported [message] state after := by
  rw [processError, if_neg differ.symm]
  refine ⟨_, rfl, rfl, rfl, ?_⟩
  split
  · exact ⟨_, rfl, fun report member => by simp [List.mem_singleton.mp member]⟩
  · exact ⟨[], (List.append_nil _).symm, fun _ member => absurd member List.not_mem_nil⟩

variable {region : Region} {pattern : Pattern}

/-- Reporting the queue repairs what it names. -/
theorem reportQueue_repairs {scanned : Memory} {indices : List Nat}
    (differ : ∀ i ∈ indices, scanned (region.addr + i) ≠ region.expected pattern i)
    (err : Nat) (state : Checker) :
    ∃ after, reportQueue message (indices.map (region.record pattern scanned)) err state =
        some after ∧
      after.memory = region.repaired pattern state.memory indices ∧
      Reported [message] state after := by
  induction indices generalizing err state with
  | nil => exact ⟨state, rfl, repaired_nil.symm, Reported.refl _ state⟩
  | cons i rest ih =>
      obtain ⟨first, laterDiffer⟩ := List.forall_mem_cons.mp differ
      obtain ⟨reported, made, written, report⟩ :=
        @processError_reported message state (region.record pattern scanned i)
          (if state.errorcount + err < 30 then 0 else 5) first
      obtain ⟨after, finished, repaired, reports⟩ := ih laterDiffer (err + 1) reported
      refine ⟨after, ?_, ?_, report.trans reports⟩
      · rw [List.map_cons, reportQueue, made]
        exact finished
      · rw [repaired, written, repaired_cons]
        rfl

/-- The second scan repairs what is wrong, and counts it. -/
theorem rescan_repairs {indices : List Nat} (distinct : indices.Nodup) (state : Checker) :
    ∃ after, rescan region pattern message indices state =
        some (after, (region.wrong pattern state.memory indices).length) ∧
      after.memory =
        region.repaired pattern state.memory (region.wrong pattern state.memory indices) ∧
      Reported [message] state after := by
  induction indices generalizing state with
  | nil => exact ⟨state, rfl, repaired_nil.symm, Reported.refl _ state⟩
  | cons i rest ih =>
      obtain ⟨fresh, later⟩ := List.nodup_cons.mp distinct
      rw [rescan]
      by_cases same : state.memory (region.addr + i) = region.expected pattern i
      · have skipped : region.wrong pattern state.memory (i :: rest) =
            region.wrong pattern state.memory rest :=
          List.filter_cons_of_neg (by simp [same])
        rw [if_pos same, skipped]
        exact ih later state
      · have found : region.wrong pattern state.memory (i :: rest) =
            i :: region.wrong pattern state.memory rest :=
          List.filter_cons_of_pos (by simp [same])
        obtain ⟨reported, made, written, report⟩ :=
          @processError_reported message state (region.record pattern state.memory i) 12 same
        have unchanged : region.wrong pattern reported.memory rest =
            region.wrong pattern state.memory rest := by
          apply List.filter_congr
          intro j member
          have other : region.addr + j ≠ region.addr + i := by
            rintro equal
            exact fresh (Nat.add_left_cancel equal ▸ member)
          rw [written, Region.record, store, Function.update_of_ne other]
        obtain ⟨after, finished, repaired, reports⟩ := ih later reported
        rw [unchanged] at finished repaired
        refine ⟨after, ?_, ?_, report.trans reports⟩
        · rw [if_neg same, made, found]
          simp [finished]
        · rw [repaired, written, found, repaired_cons]
          rfl

end Reports

/-! ### The whole check -/

section Check

variable {region : Region} {pattern : Pattern} {memory : Memory}

/-- The queue takes the first errors, as long as there is room. -/
theorem scan_eq (indices : List Nat) {recorded : List ErrorRecord}
    (room : recorded.length ≤ kErrorLimit) :
    scan region pattern memory indices recorded =
      (recorded ++ ((region.wrong pattern memory indices).take
          (kErrorLimit - recorded.length)).map (region.record pattern memory),
        decide (kErrorLimit < recorded.length + (region.wrong pattern memory indices).length)) := by
  induction indices generalizing recorded with
  | nil => simp [scan, Region.wrong, room]
  | cons i rest ih =>
      rw [scan]
      by_cases same : memory (region.addr + i) = region.expected pattern i
      · have skipped : region.wrong pattern memory (i :: rest) =
            region.wrong pattern memory rest :=
          List.filter_cons_of_neg (by simp [same])
        rw [if_pos same, ih room, skipped]
      · have found : region.wrong pattern memory (i :: rest) =
            i :: region.wrong pattern memory rest :=
          List.filter_cons_of_pos (by simp [same])
        rw [if_neg same, found, List.length_cons]
        by_cases full : recorded.length < kErrorLimit
        · have longer : (recorded ++ [region.record pattern memory i]).length =
              recorded.length + 1 := by
            rw [List.length_append, List.length_singleton]
          obtain ⟨left, equal⟩ : ∃ left, kErrorLimit - recorded.length = left + 1 :=
            ⟨kErrorLimit - recorded.length - 1, by omega⟩
          have fewer : kErrorLimit - (recorded.length + 1) = left := by omega
          rw [if_pos full, ih (by omega), longer, equal, fewer, List.take_succ_cons,
            List.map_cons, List.append_assoc]
          simp only [List.singleton_append, Prod.mk.injEq, true_and, decide_eq_decide]
          omega
        · have filled : kErrorLimit - recorded.length = 0 := by omega
          rw [if_neg full, filled, List.take_zero, List.map_nil, List.append_nil]
          simp only [Prod.mk.injEq, true_and]
          exact (decide_eq_true (by omega)).symm

/-- A comparison of the pattern with itself never finds a block of another one. -/
theorem blockState_unmatched :
    blockState region pattern memory = .good ∨ blockState region pattern memory = .noMatch := by
  have run : ∀ (indices : List Nat) (state : BlockState), state = .good ∨ state = .noMatch →
      indices.foldl (fun state i =>
          state.next (memory (region.addr + i)) (region.patternWord pattern i)
            (region.patternWord pattern i)) state = .good ∨
        indices.foldl (fun state i =>
          state.next (memory (region.addr + i)) (region.patternWord pattern i)
            (region.patternWord pattern i)) state = .noMatch := by
    intro indices
    induction indices with
    | nil => exact fun _ unmatched => unmatched
    | cons i rest ih =>
        intro state unmatched
        rw [List.foldl_cons]
        apply ih
        rcases unmatched with rfl | rfl
        · rw [BlockState.next]
          split
          · exact .inl rfl
          · exact .inr rfl
        · exact .inr rfl
  exact run (List.range region.words) .good (.inl rfl)

theorem blockSearch_finds_nothing {self : Nat} {recorded : List ErrorRecord}
    (others : List Nat) (found : Checker × String) :
    blockSearch region pattern self recorded others found = some found := by
  induction others with
  | nil => rfl
  | cons pat rest ih =>
      rw [blockSearch]
      split
      · exact ih
      · rcases @blockState_unmatched region pattern found.1.memory with state | state
        · rw [state]
          exact ih
        · rw [state]
          exact ih

theorem searchBlocks_finds_nothing {self count : Nat} {recorded : List ErrorRecord}
    (pageError : Bool) (found : Checker × String) :
    searchBlocks region pattern self count recorded pageError found = some found := by
  rw [searchBlocks, blockSearch_finds_nothing, ite_self]

/-- The messages a check can end up with. -/
def checkMessages : List String := ["Hardware Error", "Page Error"]

theorem Reported.among {message : String} {messages : List String} {before after : Checker}
    (reported : Reported [message] before after) (member : message ∈ messages) :
    Reported messages before after := by
  obtain ⟨made, equal, all⟩ := reported.reports
  refine ⟨reported.count, made, equal, ?_⟩
  intro report inside
  rwa [List.mem_singleton.mp (all report inside)]

/-- What a check does to the log: so many errors more, and reports of its kinds. -/
structure Logged (before after : Checker) (errors : Nat) : Prop where
  count : after.errorcount = before.errorcount + errors
  reports : ∃ made, after.reports = before.reports ++ made ∧
    ∀ report ∈ made, report.message ∈ checkMessages

theorem Logged.refl (state : Checker) : Logged state state 0 :=
  ⟨rfl, [], (List.append_nil _).symm, fun _ member => absurd member List.not_mem_nil⟩

theorem Logged.trans {first second third : Checker} {errors more : Nat}
    (before : Logged first second errors) (after : Logged second third more) :
    Logged first third (errors + more) := by
  obtain ⟨made, madeEq, madeAll⟩ := before.reports
  obtain ⟨later, laterEq, laterAll⟩ := after.reports
  refine ⟨?_, made ++ later, ?_, ?_⟩
  · rw [after.count, before.count, Nat.add_assoc]
  · rw [laterEq, madeEq, List.append_assoc]
  · intro report member
    rcases List.mem_append.mp member with old | new
    · exact madeAll report old
    · exact laterAll report new

/-- The check returns the number of wrong words, however many there are, leaves
the region as expected and touches nothing else. -/
theorem checkRegion_restores (patterns : List Pattern) (self : Nat) (state : Checker) :
    ∃ after, checkRegion patterns pattern self region state =
        some (after, (region.wrong pattern state.memory (List.range region.words)).length) ∧
      after.memory = region.restored pattern state.memory ∧
      Logged state after (region.wrong pattern state.memory (List.range region.words)).length := by
  have distinct := List.nodup_range (n := region.words)
  have wrongNodup : (region.wrong pattern state.memory (List.range region.words)).Nodup :=
    distinct.filter _
  have differ : ∀ i ∈ (region.wrong pattern state.memory (List.range region.words)).take
      kErrorLimit, state.memory (region.addr + i) ≠ region.expected pattern i := by
    intro i member
    simpa using (List.mem_filter.mp (List.mem_of_mem_take member)).2
  have within : (region.wrong pattern state.memory (List.range region.words)).take
      kErrorLimit ⊆ List.range region.words := fun i member =>
    List.mem_of_mem_filter (List.mem_of_mem_take member)
  have scanned := @scan_eq region pattern state.memory (List.range region.words) []
    (Nat.zero_le _)
  rw [List.nil_append, List.length_nil, Nat.zero_add, Nat.sub_zero] at scanned
  by_cases overflow : kErrorLimit <
      (region.wrong pattern state.memory (List.range region.words)).length
  · rw [decide_eq_true overflow] at scanned
    obtain ⟨queued, reported, firstRepaired, firstReports⟩ :=
      @reportQueue_repairs "Page Error" region pattern _ _ differ 0 state
    obtain ⟨after, finished, repaired, reports⟩ :=
      @rescan_repairs "Page Error" region pattern _ distinct queued
    have left : (region.wrong pattern queued.memory (List.range region.words)).length =
        (region.wrong pattern state.memory (List.range region.words)).length - kErrorLimit := by
      rw [firstRepaired, wrong_repaired, ← List.length_drop]
      exact congrArg List.length
        (filter_not_mem_left (List.take_append_drop _ _) wrongNodup)
    have total : kErrorLimit + (region.wrong pattern queued.memory
        (List.range region.words)).length =
          (region.wrong pattern state.memory (List.range region.words)).length := by
      omega
    have kept := (firstReports.trans reports).among
      (show "Page Error" ∈ checkMessages from List.mem_cons_of_mem _ List.mem_cons_self)
    refine ⟨{ after with errorcount := after.errorcount +
      (region.wrong pattern state.memory (List.range region.words)).length }, ?_, ?_, ?_,
      kept.reports⟩
    · simp only [checkRegion, scanned, searchBlocks_finds_nothing, Option.bind_eq_bind,
        Option.bind_some, reported, scanOverflow, if_true, finished, List.length_map,
        List.length_take, Nat.min_eq_left overflow.le, total]
      rfl
    · rw [repaired, repaired_wrong, firstRepaired]
      exact restored_repaired within
    · rw [kept.count]
  · rw [decide_eq_false overflow] at scanned
    have whole : (region.wrong pattern state.memory (List.range region.words)).take kErrorLimit =
        region.wrong pattern state.memory (List.range region.words) :=
      List.take_of_length_le (by omega)
    rw [whole] at scanned differ
    obtain ⟨queued, reported, repaired, reports⟩ :=
      @reportQueue_repairs "Hardware Error" region pattern _ _ differ 0 state
    have kept := reports.among
      (show "Hardware Error" ∈ checkMessages from List.mem_cons_self)
    refine ⟨{ queued with errorcount := queued.errorcount +
      (region.wrong pattern state.memory (List.range region.words)).length }, ?_, ?_, ?_,
      kept.reports⟩
    · simp only [checkRegion, scanned, searchBlocks_finds_nothing, Option.bind_eq_bind,
        Option.bind_some, Bool.false_eq_true, if_false, reported, scanOverflow, List.length_map,
        Nat.add_zero]
      rfl
    · rw [repaired]
      exact repaired_wrong
    · rw [kept.count]

/-- Whatever the number of miscompares, a check returns it, adds it to the
thread's count and repairs the region; the assertion in the reports holds, and
none of them calls the damage a block of another pattern. -/
theorem check_region_counts_every_word (patterns : List Pattern) (self : Nat) (state : Checker) :
    ∃ after errors, checkRegion patterns pattern self region state = some (after, errors) ∧
      errors = (List.range region.words).countP (fun i =>
        state.memory (region.addr + i) ≠ region.expected pattern i) ∧
      after.errorcount = state.errorcount + errors ∧
      (∀ i < region.words, after.memory (region.addr + i) = region.expected pattern i) ∧
      (∀ address, address < region.addr ∨ region.addr + region.words ≤ address →
        after.memory address = state.memory address) ∧
      ∃ made, after.reports = state.reports ++ made ∧
        ∀ report ∈ made, report.message = "Hardware Error" ∨ report.message = "Page Error" := by
  obtain ⟨after, checked, restored, counted, made, equal, all⟩ :=
    @checkRegion_restores region pattern patterns self state
  refine ⟨after, _, checked, List.countP_eq_length_filter.symm, counted, ?_, ?_, made, equal, ?_⟩
  · intro i inside
    rw [restored, restored_index state.memory inside]
  · intro address outside
    rw [restored, restored_outside state.memory outside]
  · intro report member
    rcases List.mem_cons.mp (all report member) with hardware | page
    · exact .inl hardware
    · exact .inr (List.mem_singleton.mp page)

end Check

end AmebaTests.Stressapptest
