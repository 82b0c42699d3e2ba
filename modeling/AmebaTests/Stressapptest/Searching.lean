/-
A search of the queue, while the other threads do what they like.

The pages a search has still to look at are known from its locals.  Each own
step either keeps that list, or drops a page that was not there to be taken, so
a search that fails has missed every page, and it is over after a number of own
steps that depends on the size of the queue alone.  It waits only where it draws
its random number, for a lock that another thread gives back soon.
-/

import AmebaTests.Stressapptest.Custody

namespace AmebaTests.Stressapptest

open Foundation Foundation.Congruential

variable {Pattern Thread : Type}

/-- A page a search could take: unlocked, of the wanted kind and with the tag. -/
structure System.Available (system : System Pattern Thread) (wanted : Wanted) (tag : BitVec 32)
    (index : Nat) : Prop where
  free : system.locked index = false
  accepted : wanted.accepts (system.pages index) = true
  tagged : tagMatches tag (system.pages index) = true

/-- The pages the iterations from this one on look at. -/
def Search.remaining (queue : Queue) (search : Search) : Option (List Nat) :=
  (walk queue.generator.nextTry (fun next => decide (next < queue.qSize))
    queue.generator.modlength (queue.qSize - search.attempt) search.nextTry).map fun tried =>
      tried.map fun next => (next + search.firstTry) % 2 ^ 64 % queue.qSize

/-- A phase of a search for such pages, with the list it has still to look at.  Before
the random number is known all pages are on it. -/
def Phase.Looking (queue : Queue) (wanted : Wanted) (tag : BitVec 32) (pages : List Nat) :
    Phase Pattern → Prop
  | .outside result => result = false → pages = []
  | .drawing kind label slot =>
      kind = wanted ∧ label = tag ∧ slot ≤ 4 ∧ 0 < queue.qSize ∧ ∀ index ∈ pages, index < queue.qSize
  | .seeding kind label _ | .drawn kind label _ _ =>
      kind = wanted ∧ label = tag ∧ 0 < queue.qSize ∧ ∀ index ∈ pages, index < queue.qSize
  | .probing search =>
      search.wanted = wanted ∧ search.tag = tag ∧ search.remaining queue = some pages
  | .examining search index | .matching search index | .locking search index
  | .rechecking search index =>
      search.wanted = wanted ∧ search.tag = tag ∧
        ∃ rest, search.again.remaining queue = some rest ∧ pages = index :: rest
  | .unlocking search _ =>
      search.wanted = wanted ∧ search.tag = tag ∧ search.again.remaining queue = some pages
  | .storing _ _ | .clearing _ | .releasing _ => False

/-- The own steps a search can still take. -/
def Phase.stepsLeft (queue : Queue) : Phase Pattern → Nat
  | .drawing _ _ slot => 6 * queue.qSize + 4 + (4 - slot)
  | .seeding _ _ _ => 6 * queue.qSize + 3
  | .drawn _ _ _ _ => 6 * queue.qSize + 2
  | .probing search => 6 * (queue.qSize - search.attempt) + 1
  | .examining search _ => 6 * (queue.qSize - search.attempt - 1) + 6
  | .matching search _ => 6 * (queue.qSize - search.attempt - 1) + 5
  | .locking search _ => 6 * (queue.qSize - search.attempt - 1) + 4
  | .rechecking search _ => 6 * (queue.qSize - search.attempt - 1) + 3
  | .unlocking search _ => 6 * (queue.qSize - search.attempt - 1) + 2
  | .outside _ | .storing _ _ | .clearing _ | .releasing _ => 0

/-! ### Own steps -/

section Steps

variable {queue : Queue} {system successor : System Pattern Thread} {thread : Thread}
variable {wanted : Wanted} {tag : BitVec 32} {pages : List Nat}

theorem Search.remaining_exhausted {search : Search} (done : queue.qSize ≤ search.attempt) :
    search.remaining queue = some [] := by
  rw [Search.remaining, Nat.sub_eq_zero_of_le done]
  rfl

/-- One iteration: the page it looks at and the rest. -/
theorem Search.remaining_cons {search : Search} (more : search.attempt < queue.qSize)
    (known : search.remaining queue = some pages) :
    ∃ next rest, queue.generator.advance queue.qSize search.nextTry = some next ∧
      ({ search with nextTry := next } : Search).again.remaining queue = some rest ∧
      pages = (search.nextTry + search.firstTry) % 2 ^ 64 % queue.qSize :: rest := by
  obtain ⟨tried, walked, rfl⟩ := Option.map_eq_some_iff.mp known
  obtain ⟨count, counted⟩ : ∃ count, queue.qSize - search.attempt = count + 1 :=
    ⟨queue.qSize - search.attempt - 1, by omega⟩
  rw [counted, walk] at walked
  obtain ⟨next, found, continued⟩ := Option.bind_eq_some_iff.mp walked
  obtain ⟨rest, visited, equal⟩ := Option.bind_eq_some_iff.mp continued
  obtain rfl := Option.some.inj equal
  refine ⟨next, rest.map fun next => (next + search.firstTry) % 2 ^ 64 % queue.qSize, found, ?_,
    rfl⟩
  have less : queue.qSize - (search.attempt + 1) = count := by omega
  simp only [Search.remaining, Search.again, less, visited, Option.map_some]

/-- What a page that is dropped from the list leaves to show. -/
theorem dropped {index : Nat} {rest : List Nat} {phase : Phase Pattern}
    (unavailable : ¬ system.Available wanted tag index) :
    ∀ other ∈ index :: rest, other ∈ rest ∨ ¬ system.Available wanted tag other ∨
      phase = .outside true := by
  intro other member
  rcases List.mem_cons.mp member with rfl | later
  · exact .inr (.inl unavailable)
  · exact .inl later

variable [DecidableEq Thread]

/-- An own step of a search: fewer steps are left, and a page dropped from the
list could not have been taken. -/
theorem Move.looking (made : makeGenerator queue.qSize = some queue.generator)
    (bound : queue.qSize + 8 ≤ 2 ^ 32)
    (moved : Move queue system thread .proceed successor)
    (before : (system.workers thread).phase.Looking queue wanted tag pages) :
    ∃ rest, (successor.workers thread).phase.Looking queue wanted tag rest ∧
      (successor.workers thread).phase.stepsLeft queue <
        (system.workers thread).phase.stepsLeft queue ∧
      ∀ index ∈ pages, index ∈ rest ∨ ¬ system.Available wanted tag index ∨
        (successor.workers thread).phase = .outside true := by
  have shorter : ∀ search : Search,
      6 * (queue.qSize - search.again.attempt) + 1 <
        6 * (queue.qSize - search.attempt - 1) + 2 := by
    intro search
    rw [Search.again, Nat.sub_sub]
    exact Nat.lt_succ_self _
  cases moved with
  | @randBusy kind label slot here more locked =>
      rw [here] at before ⊢
      obtain ⟨rfl, rfl, _, positive, inside⟩ := before
      rw [System.setPhase_self]
      refine ⟨pages, ⟨rfl, rfl, more, positive, inside⟩, ?_, fun index member => .inl member⟩
      simp only [Phase.stepsLeft]
      omega
  | @randLock kind label slot lock here below free =>
      rw [here] at before ⊢
      obtain ⟨rfl, rfl, _, positive, inside⟩ := before
      rw [System.setPhase_self]
      refine ⟨pages, ⟨rfl, rfl, positive, inside⟩, ?_, fun index member => .inl member⟩
      simp only [Phase.stepsLeft]
      omega
  | seed here =>
      rw [here] at before ⊢
      rw [System.setPhase_self]
      exact ⟨pages, before, Nat.lt_succ_self _, fun index member => .inl member⟩
  | @randUnlock kind label slot number here =>
      rw [here] at before ⊢
      obtain ⟨rfl, rfl, positive, inside⟩ := before
      obtain ⟨visited, found, permuted⟩ :=
        indices_perm made bound (Nat.mod_lt number.toNat positive)
      rw [System.setPhase_self]
      refine ⟨visited, ⟨rfl, rfl, found⟩, Nat.lt_succ_self _, fun index member => .inl ?_⟩
      exact permuted.mem_iff.mpr (List.mem_range.mpr (inside index member))
  | @exhausted search here done =>
      rw [here] at before ⊢
      obtain ⟨_, _, known⟩ := before
      rw [Search.remaining_exhausted done] at known
      obtain rfl := Option.some.inj known
      rw [System.setPhase_self]
      refine ⟨[], fun _ => rfl, Nat.succ_pos _, ?_⟩
      intro index member
      exact absurd member List.not_mem_nil
  | @probe search next here more advanced =>
      rw [here] at before ⊢
      obtain ⟨kind, label, known⟩ := before
      obtain ⟨found, rest, same, continued, rfl⟩ := Search.remaining_cons more known
      obtain rfl : found = next := Option.some.inj (same.symm.trans advanced)
      rw [System.setPhase_self]
      refine ⟨_, ⟨kind, label, rest, continued, rfl⟩, ?_, fun index member => .inl member⟩
      simp only [Phase.stepsLeft]
      omega
  | @examined search index here accepted | @matched search index here tagged =>
      rw [here] at before ⊢
      rw [System.setPhase_self]
      exact ⟨pages, before, Nat.lt_succ_self _, fun index member => .inl member⟩
  | @unwanted search index here refused =>
      rw [here] at before ⊢
      obtain ⟨rfl, label, rest, known, rfl⟩ := before
      rw [System.setPhase_self]
      refine ⟨rest, ⟨rfl, label, known⟩, (shorter search).trans (by simp [Phase.stepsLeft]), ?_⟩
      apply dropped
      intro available
      exact Bool.false_ne_true (refused.symm.trans available.accepted)
  | @untagged search index here refused =>
      rw [here] at before ⊢
      obtain ⟨kind, rfl, rest, known, rfl⟩ := before
      rw [System.setPhase_self]
      refine ⟨rest, ⟨kind, rfl, known⟩, (shorter search).trans (by simp [Phase.stepsLeft]), ?_⟩
      apply dropped
      intro available
      exact Bool.false_ne_true (refused.symm.trans available.tagged)
  | @busy search index here locked =>
      rw [here] at before ⊢
      obtain ⟨kind, label, rest, known, rfl⟩ := before
      rw [System.setPhase_self]
      refine ⟨rest, ⟨kind, label, known⟩, (shorter search).trans (by simp [Phase.stepsLeft]), ?_⟩
      apply dropped
      intro available
      exact Bool.false_ne_true (available.free.symm.trans locked)
  | @lock search index here free =>
      rw [here] at before ⊢
      rw [System.setPhase_self]
      exact ⟨pages, before, Nat.lt_succ_self _, fun index member => .inl member⟩
  | @taken search index here accepted =>
      rw [here, System.setWorker_self]
      exact ⟨[], fun _ => rfl, Nat.succ_pos _, fun index member => .inr (.inr rfl)⟩
  | @changed search index here refused =>
      rw [here] at before ⊢
      obtain ⟨rfl, label, rest, known, rfl⟩ := before
      rw [System.setPhase_self]
      refine ⟨rest, ⟨rfl, label, known⟩, Nat.lt_succ_self _, ?_⟩
      apply dropped
      intro available
      exact Bool.false_ne_true (refused.symm.trans available.accepted)
  | @unlock search index here =>
      rw [here] at before ⊢
      rw [System.setPhase_self]
      exact ⟨pages, before, shorter search, fun index member => .inl member⟩
  | store here | clear here | release here =>
      rw [here] at before
      exact absurd before id

/-- A search gets stuck only where it waits for the first random lock. -/
theorem proceed_of_looking
    (looking : (system.workers thread).phase.Looking queue wanted tag pages) :
    (∃ result, (system.workers thread).phase = .outside result) ∨
      (∃ next, step queue system (thread, .proceed) = some next) ∨
      (system.workers thread).phase = .drawing wanted tag 4 ∧ system.randLocked 0 = true := by
  rw [step_proceed]
  cases here : (system.workers thread).phase with
  | outside result => exact .inl ⟨result, rfl⟩
  | drawing kind label slot =>
      right
      rw [here] at looking
      obtain ⟨rfl, rfl, bound, _⟩ := looking
      by_cases more : slot < 4
      · left
        simp only [proceed, here, if_pos more]
        split <;> exact ⟨_, rfl⟩
      · obtain rfl : slot = 4 := by omega
        cases locked : system.randLocked 0 with
        | true => exact .inr ⟨rfl, rfl⟩
        | false => exact .inl (by simp [proceed, here, locked])
  | probing search =>
      rw [here] at looking
      obtain ⟨_, _, known⟩ := looking
      refine .inr (.inl ?_)
      by_cases more : search.attempt < queue.qSize
      · obtain ⟨next, _, advanced, _⟩ := Search.remaining_cons more known
        simp [proceed, here, more, advanced]
      · simp [proceed, here, more]
  | examining | matching | locking | rechecking =>
      refine .inr (.inl ?_)
      simp only [proceed, here]
      split <;> exact ⟨_, rfl⟩
  | seeding | drawn | unlocking => exact .inr (.inl (by simp [proceed, here]))
  | storing | clearing | releasing =>
      rw [here] at looking
      exact absurd looking id

/-- A call begins with every page on its list. -/
theorem looking_of_get (begins : step queue system (thread, .get wanted tag) = some successor) :
    ∃ pages, (successor.workers thread).phase.Looking queue wanted tag pages ∧
      (successor.workers thread).phase.stepsLeft queue ≤ 6 * queue.qSize + 8 ∧
      ∀ index < queue.qSize, index ∈ pages := by
  cases Move.of_step begins with
  | getNone here none =>
      rw [System.setPhase_self]
      exact ⟨[], fun _ => rfl, Nat.zero_le _, fun index inside => absurd inside (by omega)⟩
  | get here positive =>
      rw [System.setPhase_self]
      refine ⟨List.range queue.qSize, ⟨rfl, rfl, Nat.zero_le 4, positive, ?_⟩, le_rfl, ?_⟩
      · exact fun index member => List.mem_range.mp member
      · exact fun index inside => List.mem_range.mpr inside

end Steps

/-! ### Whole calls -/

section Calls

variable {queue : Queue} {before start system : System Pattern Thread} {thread : Thread}
variable {wanted : Wanted} {tag : BitVec 32} [DecidableEq Thread]

def ownSteps (thread : Thread)
    (history : History (System Pattern Thread) (Thread × Action Pattern)) : Nat :=
  history.countP fun entry => decide (entry.2.1 = thread)

/-- What holds at every moment of a call: its own steps are accounted for, and
a page that is off its list has been missed. -/
structure Calling (queue : Queue) (thread : Thread) (wanted : Wanted) (tag : BitVec 32)
    (history : History (System Pattern Thread) (Thread × Action Pattern))
    (system : System Pattern Thread) : Prop where
  steps : ownSteps thread history + (system.workers thread).phase.stepsLeft queue ≤
    6 * queue.qSize + 8
  looking : ∃ pages, (system.workers thread).phase.Looking queue wanted tag pages ∧
    ∀ index < queue.qSize, index ∈ pages ∨
      (∃ entry ∈ history, ¬ entry.1.Available wanted tag index) ∨
      (system.workers thread).phase = .outside true

theorem Calling.own (made : makeGenerator queue.qSize = some queue.generator)
    (bound : queue.qSize + 8 ≤ 2 ^ 32)
    {history : History (System Pattern Thread) (Thread × Action Pattern)}
    (calling : Calling queue thread wanted tag history before)
    (moved : Move queue before thread .proceed system) :
    Calling queue thread wanted tag ((before, thread, .proceed) :: history) system := by
  obtain ⟨pages, looking, missed⟩ := calling.looking
  obtain ⟨rest, after, fewer, dropped⟩ := moved.looking made bound looking
  refine ⟨?_, rest, after, ?_⟩
  · have count := calling.steps
    have counted : ownSteps thread ((before, thread, Action.proceed) :: history) =
        ownSteps thread history + 1 :=
      List.countP_cons_of_pos (decide_eq_true rfl)
    omega
  · intro index inside
    rcases missed index inside with listed | ⟨entry, member, gone⟩ | ended
    · rcases dropped index listed with later | unavailable | succeeded
      · exact .inl later
      · exact .inr (.inl ⟨_, List.mem_cons_self, unavailable⟩)
      · exact .inr (.inr succeeded)
    · exact .inr (.inl ⟨entry, List.mem_cons_of_mem _ member, gone⟩)
    · rw [ended] at fewer
      exact absurd fewer (Nat.not_lt_zero _)

theorem Calling.other {history : History (System Pattern Thread) (Thread × Action Pattern)}
    {other : Thread} {action : Action Pattern}
    (calling : Calling queue thread wanted tag history before) (differs : other ≠ thread)
    (moved : Move queue before other action system) :
    Calling queue thread wanted tag ((before, other, action) :: history) system := by
  have same := moved.workers_other differs.symm
  have counted : ownSteps thread ((before, other, action) :: history) =
      ownSteps thread history :=
    List.countP_cons_of_neg (by simp [differs])
  obtain ⟨pages, looking, missed⟩ := calling.looking
  refine ⟨?_, pages, ?_, ?_⟩
  · rw [counted, same]
    exact calling.steps
  · rwa [same]
  · intro index inside
    rw [same]
    rcases missed index inside with listed | ⟨entry, member, gone⟩ | ended
    · exact .inl listed
    · exact .inr (.inl ⟨entry, List.mem_cons_of_mem _ member, gone⟩)
    · exact .inr (.inr ended)

theorem Calling.run (made : makeGenerator queue.qSize = some queue.generator)
    (bound : queue.qSize + 8 ≤ 2 ^ 32)
    (begins : step queue before (thread, .get wanted tag) = some start)
    {history : History (System Pattern Thread) (Thread × Action Pattern)}
    (run : Run (step queue) start history system)
    (proceeds : ∀ entry ∈ history, entry.2.1 = thread → entry.2.2 = .proceed) :
    Calling queue thread wanted tag history system := by
  obtain ⟨pages, looking, few, all⟩ := looking_of_get begins
  refine run.invariant_of_allowed (fun _ event => event.1 = thread → event.2 = .proceed)
    (Calling queue thread wanted tag) ?_ ?_ proceeds
  · refine ⟨?_, pages, looking, fun index inside => .inl (all index inside)⟩
    rw [ownSteps, List.countP_nil]
    omega
  · rintro earlier state ⟨mover, action⟩ successor calling only taken
    by_cases mine : mover = thread
    · subst mine
      obtain rfl : action = .proceed := only rfl
      exact calling.own made bound (Move.of_step taken)
    · exact calling.other mine (Move.of_step taken)

/-- A page that could be taken all along is found: a search that fails has seen
each page, at some moment of the call, locked, of the other kind or without
the tag. -/
theorem failed_search_missed_every_page
    (made : makeGenerator queue.qSize = some queue.generator)
    (bound : queue.qSize + 8 ≤ 2 ^ 32)
    (begins : step queue before (thread, .get wanted tag) = some start)
    {history : History (System Pattern Thread) (Thread × Action Pattern)}
    (run : Run (step queue) start history system)
    (proceeds : ∀ entry ∈ history, entry.2.1 = thread → entry.2.2 = .proceed)
    (failed : (system.workers thread).phase = .outside false) :
    ∀ index < queue.qSize, ∃ entry ∈ history, ¬ entry.1.Available wanted tag index := by
  intro index inside
  obtain ⟨pages, looking, missed⟩ := (Calling.run made bound begins run proceeds).looking
  rw [failed] at looking missed
  rcases missed index inside with listed | seen | succeeded
  · rw [looking rfl] at listed
    exact absurd listed List.not_mem_nil
  · exact seen
  · exact absurd succeeded (by simp)

/-- Whatever the other threads do, a search is over after six own steps for each page
and eight more.  It can always take the next one, unless it found all four random locks
taken and waits for the first; then another thread has this lock and, by one or two
steps of its own, gives it back. -/
theorem search_waits_for_random_lock_only
    (made : makeGenerator queue.qSize = some queue.generator)
    (bound : queue.qSize + 8 ≤ 2 ^ 32)
    {main : Thread} {memory : Nat → PageEntry Pattern} {first : System Pattern Thread}
    (initial : first.Initial queue main memory)
    {past : History (System Pattern Thread) (Thread × Action Pattern)}
    (earlier : Run (step queue) first past before)
    (begins : step queue before (thread, .get wanted tag) = some start)
    {history : History (System Pattern Thread) (Thread × Action Pattern)}
    (run : Run (step queue) start history system)
    (proceeds : ∀ entry ∈ history, entry.2.1 = thread → entry.2.2 = .proceed) :
    ownSteps thread history ≤ 6 * queue.qSize + 8 ∧
      ((∃ result, (system.workers thread).phase = .outside result) ∨
        (∃ next, step queue system (thread, .proceed) = some next) ∨
        (system.workers thread).phase = .drawing wanted tag 4 ∧
          ∃ other, other ≠ thread ∧ 0 ∈ (system.workers other).phase.randOwned ∧
            FreedSoon (fun state => step queue state (other, .proceed)) (·.randLocked 0) system) := by
  have calling := Calling.run made bound begins run proceeds
  have exclusive : Exclusive system.randHoldings :=
    randExclusive_run initial.randExclusive ((earlier.next begins).append run)
  obtain ⟨pages, looking, _⟩ := calling.looking
  refine ⟨?_, ?_⟩
  · have := calling.steps
    omega
  · rcases proceed_of_looking looking with returned | goes | ⟨waits, locked⟩
    · exact .inl returned
    · exact .inr (.inl goes)
    · refine .inr (.inr ⟨waits, ?_⟩)
      exact @randLock_freedSoon _ _ queue system thread _ exclusive 0 locked (by rw [waits]; rfl)

end Calls

/-- Thread 1 finds the one page still locked by the main thread. -/
def lockedPageCall : Option (System Nat Nat) :=
  step onePage onePageStart (1, .get .empty kDontCareTag)

def ownEvents (steps : Nat) : List (Nat × Action Nat) :=
  List.replicate steps (1, .proceed)

theorem ownEvents_proceed {steps : Nat}
    {history : History (System Nat Nat) (Nat × Action Nat)}
    (events : history.map Prod.snd = (ownEvents steps).reverse) :
    ∀ entry ∈ history, entry.2.1 = 1 → entry.2.2 = .proceed := by
  intro entry member _
  have taken : entry.2 ∈ (ownEvents steps).reverse := events ▸ List.mem_map_of_mem member
  rw [List.eq_of_mem_replicate (List.mem_reverse.mp taken)]

theorem locked_page_is_missed : ∃ start history system,
    lockedPageCall = some start ∧ Run (step onePage) start history system ∧
      (system.workers 1).phase = .outside false ∧
      ∀ index < 1, ∃ entry ∈ history, ¬ entry.1.Available .empty kDontCareTag index := by
  obtain ⟨start, system, begins, reached, failed⟩ : ∃ start system,
      lockedPageCall = some start ∧
        execute (step onePage) start (ownEvents 8) = some system ∧
        (system.workers 1).phase = .outside false := ⟨_, _, rfl, rfl, rfl⟩
  obtain ⟨history, run, events⟩ := Run.of_execute reached
  exact ⟨start, history, system, begins, run, failed,
    failed_search_missed_every_page (by decide) (by decide) begins run
      (ownEvents_proceed events) failed⟩

/-- Threads 2 to 5 take the four random locks. -/
def fourDraws : List (Nat × Action Nat) :=
  [2, 3, 4, 5].flatMap fun thread =>
    (thread, .get .empty kDontCareTag) :: List.replicate (thread - 1) (thread, .proceed)

/-- Thread 1 has found all four locks taken. -/
theorem fifth_thread_waits : ∃ (start : System Nat Nat) (history : _) (system : _),
    Run (step onePage) start history system ∧
      (system.workers 1).phase = .drawing .empty kDontCareTag 4 ∧
      ownSteps 1 history ≤ 6 * onePage.qSize + 8 ∧
      ((∃ result, (system.workers 1).phase = .outside result) ∨
        (∃ next, step onePage system (1, .proceed) = some next) ∨
        (system.workers 1).phase = .drawing .empty kDontCareTag 4 ∧
          ∃ other, other ≠ 1 ∧ 0 ∈ (system.workers other).phase.randOwned ∧
            FreedSoon (fun state => step onePage state (other, .proceed)) (·.randLocked 0)
              system) := by
  obtain ⟨before, start, system, drawn, begins, reached, waits⟩ : ∃ before start system,
      execute (step onePage) onePageStart fourDraws = some before ∧
        step onePage before (1, .get .empty kDontCareTag) = some start ∧
        execute (step onePage) start (ownEvents 4) = some system ∧
        (system.workers 1).phase = .drawing .empty kDontCareTag 4 :=
    ⟨_, _, _, rfl, rfl, rfl, rfl⟩
  obtain ⟨past, earlier, _⟩ := Run.of_execute drawn
  obtain ⟨history, run, events⟩ := Run.of_execute reached
  exact ⟨start, history, system, run, waits,
    search_waits_for_random_lock_only (by decide) (by decide) onePageStart_initial earlier begins
      run (ownEvents_proceed events)⟩

end AmebaTests.Stressapptest
