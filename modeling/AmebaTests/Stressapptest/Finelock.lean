/-
`FineLockPEQueue` under any interleaving of any number of threads.

The queue is an array of page entries with a lock each.  A thread inside a call
is in one of the phases between two accesses to the array or to a lock, so the
draw of the random number under one of four locks, the unlocked looks at an entry,
the attempt to lock, the second look and the unlocking are separate steps.  A
thread outside the queue holds the entries it was given and may change anything in
them but the slot they belong to.
-/

import AmebaTests.Foundation.Runs
import AmebaTests.Stressapptest.Probing

namespace AmebaTests.Stressapptest

open Foundation

/-- `struct page_entry`, with the patterns a pointer can lead to. -/
structure PageEntry (Pattern : Type) where
  offset : Nat
  addr : Nat
  paddr : Nat
  pattern : Option Pattern
  tag : BitVec 32
  touch : BitVec 32
  ts : Nat
  lastcpu : Nat
  lastpattern : Option Pattern

def kDontCareTag : BitVec 32 := -1

def kInvalidTag : BitVec 32 := 0xf001

variable {Pattern Thread : Type}

/-! ### Entries and calls -/

/-- `init_pe`, over what the entry held before. -/
def initPe (entry : PageEntry Pattern) : PageEntry Pattern :=
  { entry with
    offset := 0
    addr := 0
    pattern := none
    tag := kInvalidTag
    touch := 0
    ts := 0
    lastcpu := 0 }

/-- The two predicates the search is called with. -/
inductive Wanted
  | valid
  | empty
  deriving DecidableEq, Repr

/-- `page_is_valid` and `page_is_empty`. -/
def Wanted.accepts : Wanted → PageEntry Pattern → Bool
  | .valid, entry => entry.pattern.isSome
  | .empty, entry => entry.pattern.isNone

def tagMatches (tag : BitVec 32) (entry : PageEntry Pattern) : Bool :=
  tag == kDontCareTag || entry.tag &&& tag != 0

/-- What `queue_metric_` measures. -/
inductive Metric
  | tries
  | touch
  deriving DecidableEq, Repr

/-- What the constructor fixes. -/
structure Queue where
  qSize : Nat
  pageSize : Nat
  generator : Generator
  metric : Metric

namespace Queue

/-- The slot an entry belongs to. -/
def slot (queue : Queue) (entry : PageEntry Pattern) : Nat :=
  entry.offset / queue.pageSize

/-- The bookkeeping a successful search does in the caller's copy. -/
def measured (queue : Queue) (wanted : Wanted) (attempt : Nat) (entry : PageEntry Pattern) :
    PageEntry Pattern :=
  match wanted, queue.metric with
  | .valid, .tries => { entry with touch := BitVec.ofNat 32 attempt }
  | .valid, .touch => { entry with touch := entry.touch + 1 }
  | .empty, _ => entry

end Queue

/-- The locals of `GetRandomWithPredicateTag`. -/
structure Search where
  wanted : Wanted
  tag : BitVec 32
  firstTry : Nat
  attempt : Nat
  nextTry : Nat

def Search.again (search : Search) : Search :=
  { search with attempt := search.attempt + 1 }

/-- Where a thread stands.  Outside the queue it knows the result of its last call. -/
inductive Phase (Pattern : Type)
  | outside (result : Bool)
  | drawing (wanted : Wanted) (tag : BitVec 32) (slot : Nat)
  | seeding (wanted : Wanted) (tag : BitVec 32) (slot : Nat)
  | drawn (wanted : Wanted) (tag : BitVec 32) (slot : Nat) (result : BitVec 64)
  | probing (search : Search)
  | examining (search : Search) (index : Nat)
  | matching (search : Search) (index : Nat)
  | locking (search : Search) (index : Nat)
  | rechecking (search : Search) (index : Nat)
  | unlocking (search : Search) (index : Nat)
  | storing (kind : Wanted) (entry : PageEntry Pattern)
  | clearing (index : Nat)
  | releasing (index : Nat)

structure Worker (Pattern : Type) where
  holding : List (PageEntry Pattern)
  phase : Phase Pattern

/-- `randlocks_` and `rand_seed_` have four slots each. -/
structure System (Pattern Thread : Type) where
  pages : Nat → PageEntry Pattern
  locked : Nat → Bool
  randLocked : Nat → Bool
  randSeed : Nat → BitVec 64
  workers : Thread → Worker Pattern

/-- What a thread does next.  Outside the queue it may begin a search, put one of
its entries back, or work on its entries. -/
inductive Action (Pattern : Type)
  | get (wanted : Wanted) (tag : BitVec 32)
  | put (kind : Wanted) (position : Nat)
  | work (entries : List (PageEntry Pattern))
  | proceed

/-! ### Steps -/

section Step

namespace System

def setLock (system : System Pattern Thread) (index : Nat) (locked : Bool) :
    System Pattern Thread :=
  { system with locked := Function.update system.locked index locked }

def setRandLock (system : System Pattern Thread) (slot : Nat) (locked : Bool) :
    System Pattern Thread :=
  { system with randLocked := Function.update system.randLocked slot locked }

def setRandSeed (system : System Pattern Thread) (slot : Nat) (seed : BitVec 64) :
    System Pattern Thread :=
  { system with randSeed := Function.update system.randSeed slot seed }

def setPage (system : System Pattern Thread) (index : Nat) (entry : PageEntry Pattern) :
    System Pattern Thread :=
  { system with pages := Function.update system.pages index entry }

def setWorker [DecidableEq Thread] (system : System Pattern Thread) (thread : Thread)
    (worker : Worker Pattern) : System Pattern Thread :=
  { system with workers := Function.update system.workers thread worker }

def setPhase [DecidableEq Thread] (system : System Pattern Thread) (thread : Thread)
    (phase : Phase Pattern) : System Pattern Thread :=
  system.setWorker thread { system.workers thread with phase := phase }

variable (system : System Pattern Thread)

@[simp] theorem setLock_workers (index : Nat) (locked : Bool) :
    (system.setLock index locked).workers = system.workers := rfl

@[simp] theorem setLock_pages (index : Nat) (locked : Bool) :
    (system.setLock index locked).pages = system.pages := rfl

@[simp] theorem setLock_randLocked (index : Nat) (locked : Bool) :
    (system.setLock index locked).randLocked = system.randLocked := rfl

@[simp] theorem setRandLock_workers (slot : Nat) (locked : Bool) :
    (system.setRandLock slot locked).workers = system.workers := rfl

@[simp] theorem setRandLock_randLocked (slot : Nat) (locked : Bool) :
    (system.setRandLock slot locked).randLocked =
      Function.update system.randLocked slot locked := rfl

@[simp] theorem setRandSeed_workers (slot : Nat) (seed : BitVec 64) :
    (system.setRandSeed slot seed).workers = system.workers := rfl

@[simp] theorem setRandSeed_randLocked (slot : Nat) (seed : BitVec 64) :
    (system.setRandSeed slot seed).randLocked = system.randLocked := rfl

@[simp] theorem setPage_randLocked (index : Nat) (entry : PageEntry Pattern) :
    (system.setPage index entry).randLocked = system.randLocked := rfl

@[simp] theorem setPage_workers (index : Nat) (entry : PageEntry Pattern) :
    (system.setPage index entry).workers = system.workers := rfl

@[simp] theorem setPage_locked (index : Nat) (entry : PageEntry Pattern) :
    (system.setPage index entry).locked = system.locked := rfl

variable [DecidableEq Thread] (thread : Thread)

@[simp] theorem setWorker_self (worker : Worker Pattern) :
    (system.setWorker thread worker).workers thread = worker := by
  simp only [setWorker, Function.update_self]

@[simp] theorem setWorker_other {other : Thread} (differs : other ≠ thread)
    (worker : Worker Pattern) :
    (system.setWorker thread worker).workers other = system.workers other := by
  simp only [setWorker, Function.update_of_ne differs]

@[simp] theorem setWorker_pages (worker : Worker Pattern) :
    (system.setWorker thread worker).pages = system.pages := rfl

@[simp] theorem setWorker_locked (worker : Worker Pattern) :
    (system.setWorker thread worker).locked = system.locked := rfl

@[simp] theorem setWorker_randLocked (worker : Worker Pattern) :
    (system.setWorker thread worker).randLocked = system.randLocked := rfl

@[simp] theorem setPhase_randLocked (phase : Phase Pattern) :
    (system.setPhase thread phase).randLocked = system.randLocked := rfl

@[simp] theorem setPhase_self (phase : Phase Pattern) :
    (system.setPhase thread phase).workers thread =
      ⟨(system.workers thread).holding, phase⟩ :=
  system.setWorker_self thread _

@[simp] theorem setPhase_other {other : Thread} (differs : other ≠ thread)
    (phase : Phase Pattern) :
    (system.setPhase thread phase).workers other = system.workers other :=
  system.setWorker_other thread differs _

@[simp] theorem setPhase_pages (phase : Phase Pattern) :
    (system.setPhase thread phase).pages = system.pages := rfl

@[simp] theorem setPhase_locked (phase : Phase Pattern) :
    (system.setPhase thread phase).locked = system.locked := rfl

end System

variable [DecidableEq Thread]

/-- The next number of a generator, in `GetRandom64FromSlot`. -/
def nextRandom (seed : BitVec 64) : BitVec 64 :=
  2862933555777941757#64 * seed + 3037000493#64

/-- The beginning of `PutValid` and `PutEmpty`, up to the first access to the array. -/
def beginPut (queue : Queue) (kind : Wanted) (entry : PageEntry Pattern) : Phase Pattern :=
  if kind = .valid ∧ entry.pattern.isNone then .outside false
  else if queue.qSize = 0 then .outside false
  else if queue.slot entry < queue.qSize then .storing kind entry
  else .outside false

/-- One step of the call a thread is in. -/
def proceed (queue : Queue) (system : System Pattern Thread) (thread : Thread) :
    Option (System Pattern Thread) :=
  match (system.workers thread).phase with
  | .outside _ => none
  | .drawing wanted tag slot =>
      if slot < 4 then
        if system.randLocked slot then
          some (system.setPhase thread (.drawing wanted tag (slot + 1)))
        else some ((system.setRandLock slot true).setPhase thread (.seeding wanted tag slot))
      -- None of the four was free, and the thread waits for the first one.
      else if system.randLocked 0 then none
      else some ((system.setRandLock 0 true).setPhase thread (.seeding wanted tag 0))
  | .seeding wanted tag slot =>
      let result := nextRandom (system.randSeed slot)
      some ((system.setRandSeed slot result).setPhase thread (.drawn wanted tag slot result))
  | .drawn wanted tag slot result =>
      some ((system.setRandLock slot false).setPhase thread
        (.probing ⟨wanted, tag, result.toNat % queue.qSize, 0, 1⟩))
  | .probing search =>
      if search.attempt < queue.qSize then
        let index := (search.nextTry + search.firstTry) % 2 ^ 64 % queue.qSize
        (queue.generator.advance queue.qSize search.nextTry).map fun next =>
          system.setPhase thread (.examining { search with nextTry := next } index)
      else some (system.setPhase thread (.outside false))
  | .examining search index =>
      if search.wanted.accepts (system.pages index) then
        some (system.setPhase thread (.matching search index))
      else some (system.setPhase thread (.probing search.again))
  | .matching search index =>
      if tagMatches search.tag (system.pages index) then
        some (system.setPhase thread (.locking search index))
      else some (system.setPhase thread (.probing search.again))
  | .locking search index =>
      if system.locked index then
        some (system.setPhase thread (.probing search.again))
      else some ((system.setLock index true).setPhase thread (.rechecking search index))
  | .rechecking search index =>
      if search.wanted.accepts (system.pages index) then
        let entry := queue.measured search.wanted search.attempt (system.pages index)
        some (system.setWorker thread
          ⟨(system.workers thread).holding ++ [entry], .outside true⟩)
      else some (system.setPhase thread (.unlocking search index))
  | .unlocking search index =>
      some ((system.setLock index false).setPhase thread (.probing search.again))
  | .storing kind entry =>
      let index := queue.slot entry
      some ((system.setPage index entry).setPhase thread
        (if kind = .valid then .releasing index else .clearing index))
  | .clearing index =>
      -- The entry was stored as it came, and is made empty only now.
      some ((system.setPage index { system.pages index with pattern := none }).setPhase thread
        (.releasing index))
  | .releasing index =>
      some ((system.setLock index false).setPhase thread (.outside true))

def step (queue : Queue) (system : System Pattern Thread) (event : Thread × Action Pattern) :
    Option (System Pattern Thread) :=
  let worker := system.workers event.1
  match worker.phase, event.2 with
  | .outside _, .get wanted tag =>
      if queue.qSize = 0 then some (system.setPhase event.1 (.outside false))
      else some (system.setPhase event.1 (.drawing wanted tag 0))
  | .outside _, .put kind position =>
      match worker.holding[position]? with
      | none => none
      | some entry =>
          match beginPut queue kind entry with
          | .storing kind entry =>
              some (system.setWorker event.1
                ⟨worker.holding.eraseIdx position, .storing kind entry⟩)
          | refused => some (system.setPhase event.1 refused)
  | .outside result, .work entries =>
      if entries.map queue.slot = worker.holding.map queue.slot then
        some (system.setWorker event.1 ⟨entries, .outside result⟩)
      else none
  | _, .proceed => proceed queue system event.1
  | _, _ => none

/-- What a step of one thread can do, with the test that chose it. -/
inductive Move (queue : Queue) (system : System Pattern Thread) (thread : Thread) :
    Action Pattern → System Pattern Thread → Prop
  | getNone {wanted tag result}
      (here : (system.workers thread).phase = .outside result) (none : queue.qSize = 0) :
      Move queue system thread (.get wanted tag) (system.setPhase thread (.outside false))
  | get {wanted tag result}
      (here : (system.workers thread).phase = .outside result) (positive : 0 < queue.qSize) :
      Move queue system thread (.get wanted tag)
        (system.setPhase thread (.drawing wanted tag 0))
  | randBusy {wanted tag slot}
      (here : (system.workers thread).phase = .drawing wanted tag slot)
      (more : slot < 4) (locked : system.randLocked slot = true) :
      Move queue system thread .proceed
        (system.setPhase thread (.drawing wanted tag (slot + 1)))
  | randLock {wanted tag slot lock}
      (here : (system.workers thread).phase = .drawing wanted tag slot)
      (inside : lock < 4) (free : system.randLocked lock = false) :
      Move queue system thread .proceed
        ((system.setRandLock lock true).setPhase thread (.seeding wanted tag lock))
  | seed {wanted tag slot}
      (here : (system.workers thread).phase = .seeding wanted tag slot) :
      Move queue system thread .proceed
        ((system.setRandSeed slot (nextRandom (system.randSeed slot))).setPhase thread
          (.drawn wanted tag slot (nextRandom (system.randSeed slot))))
  | randUnlock {wanted tag slot number}
      (here : (system.workers thread).phase = .drawn wanted tag slot number) :
      Move queue system thread .proceed
        ((system.setRandLock slot false).setPhase thread
          (.probing ⟨wanted, tag, number.toNat % queue.qSize, 0, 1⟩))
  | putRefused {kind position entry result}
      (here : (system.workers thread).phase = .outside result)
      (held : (system.workers thread).holding[position]? = some entry)
      (refused : kind = .valid ∧ entry.pattern = none ∨ queue.qSize ≤ queue.slot entry) :
      Move queue system thread (.put kind position) (system.setPhase thread (.outside false))
  | put {kind position entry result}
      (here : (system.workers thread).phase = .outside result)
      (held : (system.workers thread).holding[position]? = some entry)
      (nonempty : kind = .valid → entry.pattern ≠ none)
      (inside : queue.slot entry < queue.qSize) :
      Move queue system thread (.put kind position)
        (system.setWorker thread
          ⟨(system.workers thread).holding.eraseIdx position, .storing kind entry⟩)
  | work {entries result}
      (here : (system.workers thread).phase = .outside result)
      (same : entries.map queue.slot = (system.workers thread).holding.map queue.slot) :
      Move queue system thread (.work entries)
        (system.setWorker thread ⟨entries, .outside result⟩)
  | exhausted {search}
      (here : (system.workers thread).phase = .probing search)
      (done : queue.qSize ≤ search.attempt) :
      Move queue system thread .proceed (system.setPhase thread (.outside false))
  | probe {search next}
      (here : (system.workers thread).phase = .probing search)
      (more : search.attempt < queue.qSize)
      (advanced : queue.generator.advance queue.qSize search.nextTry = some next) :
      Move queue system thread .proceed
        (system.setPhase thread (.examining { search with nextTry := next }
          ((search.nextTry + search.firstTry) % 2 ^ 64 % queue.qSize)))
  | examined {search index}
      (here : (system.workers thread).phase = .examining search index)
      (accepted : search.wanted.accepts (system.pages index) = true) :
      Move queue system thread .proceed (system.setPhase thread (.matching search index))
  | unwanted {search index}
      (here : (system.workers thread).phase = .examining search index)
      (unaccepted : search.wanted.accepts (system.pages index) = false) :
      Move queue system thread .proceed (system.setPhase thread (.probing search.again))
  | matched {search index}
      (here : (system.workers thread).phase = .matching search index)
      (tagged : tagMatches search.tag (system.pages index) = true) :
      Move queue system thread .proceed (system.setPhase thread (.locking search index))
  | untagged {search index}
      (here : (system.workers thread).phase = .matching search index)
      (untagged : tagMatches search.tag (system.pages index) = false) :
      Move queue system thread .proceed (system.setPhase thread (.probing search.again))
  | busy {search index}
      (here : (system.workers thread).phase = .locking search index)
      (locked : system.locked index = true) :
      Move queue system thread .proceed (system.setPhase thread (.probing search.again))
  | lock {search index}
      (here : (system.workers thread).phase = .locking search index)
      (free : system.locked index = false) :
      Move queue system thread .proceed
        ((system.setLock index true).setPhase thread (.rechecking search index))
  | taken {search index}
      (here : (system.workers thread).phase = .rechecking search index)
      (accepted : search.wanted.accepts (system.pages index) = true) :
      Move queue system thread .proceed
        (system.setWorker thread
          ⟨(system.workers thread).holding ++
            [queue.measured search.wanted search.attempt (system.pages index)], .outside true⟩)
  | changed {search index}
      (here : (system.workers thread).phase = .rechecking search index)
      (unaccepted : search.wanted.accepts (system.pages index) = false) :
      Move queue system thread .proceed (system.setPhase thread (.unlocking search index))
  | unlock {search index}
      (here : (system.workers thread).phase = .unlocking search index) :
      Move queue system thread .proceed
        ((system.setLock index false).setPhase thread (.probing search.again))
  | store {kind entry}
      (here : (system.workers thread).phase = .storing kind entry) :
      Move queue system thread .proceed
        ((system.setPage (queue.slot entry) entry).setPhase thread
          (if kind = .valid then .releasing (queue.slot entry) else .clearing (queue.slot entry)))
  | clear {index}
      (here : (system.workers thread).phase = .clearing index) :
      Move queue system thread .proceed
        ((system.setPage index { system.pages index with pattern := none }).setPhase thread
          (.releasing index))
  | release {index}
      (here : (system.workers thread).phase = .releasing index) :
      Move queue system thread .proceed
        ((system.setLock index false).setPhase thread (.outside true))

theorem Move.of_proceed {queue : Queue} {system successor : System Pattern Thread}
    {thread : Thread} (taken : proceed queue system thread = some successor) :
    Move queue system thread .proceed successor := by
  unfold proceed at taken
  dsimp only at taken
  split at taken
  case h_1 => exact absurd taken (by simp)
  case h_2 wanted tag slot here =>
    split at taken
    · split at taken <;> obtain rfl := Option.some.inj taken
      · exact .randBusy here ‹_› ‹_›
      · exact .randLock here ‹_› (Bool.eq_false_iff.mpr ‹_›)
    · split at taken
      · exact absurd taken (by simp)
      · obtain rfl := Option.some.inj taken
        exact .randLock here (by decide) (Bool.eq_false_iff.mpr ‹_›)
  case h_3 wanted tag slot here =>
    obtain rfl := Option.some.inj taken
    exact .seed here
  case h_4 wanted tag slot number here =>
    obtain rfl := Option.some.inj taken
    exact .randUnlock here
  case h_5 search here =>
    split at taken
    · obtain ⟨next, advanced, rfl⟩ := Option.map_eq_some_iff.mp taken
      exact .probe here ‹_› advanced
    · obtain rfl := Option.some.inj taken
      exact .exhausted here (by omega)
  case h_6 search index here =>
    split at taken <;> obtain rfl := Option.some.inj taken
    · exact .examined here ‹_›
    · exact .unwanted here (Bool.eq_false_iff.mpr ‹_›)
  case h_7 search index here =>
    split at taken <;> obtain rfl := Option.some.inj taken
    · exact .matched here ‹_›
    · exact .untagged here (Bool.eq_false_iff.mpr ‹_›)
  case h_8 search index here =>
    split at taken <;> obtain rfl := Option.some.inj taken
    · exact .busy here ‹_›
    · exact .lock here (Bool.eq_false_iff.mpr ‹_›)
  case h_9 search index here =>
    split at taken <;> obtain rfl := Option.some.inj taken
    · exact .taken here ‹_›
    · exact .changed here (Bool.eq_false_iff.mpr ‹_›)
  case h_10 search index here =>
    obtain rfl := Option.some.inj taken
    exact .unlock here
  case h_11 kind entry here =>
    obtain rfl := Option.some.inj taken
    exact .store here
  case h_12 index here =>
    obtain rfl := Option.some.inj taken
    exact .clear here
  case h_13 index here =>
    obtain rfl := Option.some.inj taken
    exact .release here

theorem beginPut_cases (queue : Queue) (kind : Wanted) (entry : PageEntry Pattern) :
    (beginPut queue kind entry = .storing kind entry ∧
      (kind = .valid → entry.pattern ≠ none) ∧ queue.slot entry < queue.qSize) ∨
    (beginPut queue kind entry = .outside false ∧
      (kind = .valid ∧ entry.pattern = none ∨ queue.qSize ≤ queue.slot entry)) := by
  unfold beginPut
  by_cases empty : kind = .valid ∧ entry.pattern.isNone
  · rw [if_pos empty]
    exact .inr ⟨rfl, .inl ⟨empty.1, Option.isNone_iff_eq_none.mp empty.2⟩⟩
  · rw [if_neg empty]
    have nonempty : kind = .valid → entry.pattern ≠ none := fun valid none =>
      empty ⟨valid, Option.isNone_iff_eq_none.mpr none⟩
    by_cases inside : queue.slot entry < queue.qSize
    · rw [if_neg (by omega), if_pos inside]
      exact .inl ⟨rfl, nonempty, inside⟩
    · rw [if_neg inside, ite_self]
      exact .inr ⟨rfl, .inr (by omega)⟩

theorem Move.of_step {queue : Queue} {system successor : System Pattern Thread}
    {thread : Thread} {action : Action Pattern}
    (taken : step queue system (thread, action) = some successor) :
    Move queue system thread action successor := by
  unfold step at taken
  dsimp only at taken
  split at taken
  case h_1 result wanted tag here =>
    split at taken <;> obtain rfl := Option.some.inj taken
    · exact .getNone here ‹_›
    · exact .get here (by omega)
  case h_2 result kind position here =>
    split at taken
    · exact absurd taken (by simp)
    · rename_i entry held
      rcases beginPut_cases queue kind entry with ⟨begun, nonempty, inside⟩ | ⟨begun, refused⟩
      · rw [begun] at taken
        obtain rfl := Option.some.inj taken
        exact .put here held nonempty inside
      · rw [begun] at taken
        obtain rfl := Option.some.inj taken
        exact .putRefused here held refused
  case h_3 result entries here =>
    split at taken
    · obtain rfl := Option.some.inj taken
      exact .work here ‹_›
    · exact absurd taken (by simp)
  case h_4 => exact .of_proceed taken
  case h_5 => exact absurd taken (by simp)

end Step

end AmebaTests.Stressapptest
