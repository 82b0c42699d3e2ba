/-
Who has which page of the queue.

A slot is locked exactly while one thread has it: by an entry it holds, or by
the phase of its call.  The invariant adds that a free slot contains its own
entry, which is what lets an entry find its way back by its offset.  The locks of
the random numbers are owned in the same way, each by a thread about to free it.
-/

import AmebaTests.Foundation.Ownership
import AmebaTests.Stressapptest.Finelock

namespace AmebaTests.Stressapptest

open Foundation

variable {Pattern Thread : Type}

/-! ### The locks and the invariant -/

section Ownership

/-- The slot a thread has locked in this phase, besides those of its entries. -/
def Phase.owned (queue : Queue) : Phase Pattern → List Nat
  | .outside _ | .drawing _ _ _ | .seeding _ _ _ | .drawn _ _ _ _ | .probing _ | .examining _ _
  | .matching _ _ | .locking _ _ => []
  | .rechecking _ index | .unlocking _ index | .clearing index | .releasing index => [index]
  | .storing _ entry => [queue.slot entry]

def Worker.owned (queue : Queue) (worker : Worker Pattern) : List Nat :=
  worker.holding.map queue.slot ++ worker.phase.owned queue

def System.holdings (queue : Queue) (system : System Pattern Thread) : Holdings Thread Nat :=
  ⟨system.locked, fun thread => (system.workers thread).owned queue⟩

/-- The slots a phase names lie in the array, and an entry that is locked there
and not being replaced is the slot's own. -/
def Phase.Sound (queue : Queue) (pages : Nat → PageEntry Pattern) : Phase Pattern → Prop
  | .outside _ | .drawing _ _ _ | .seeding _ _ _ | .drawn _ _ _ _ | .probing _ => True
  | .examining _ index | .matching _ index | .locking _ index => index < queue.qSize
  | .rechecking _ index | .unlocking _ index | .clearing index | .releasing index =>
      index < queue.qSize ∧ queue.slot (pages index) = index
  | .storing _ entry => queue.slot entry < queue.qSize

structure Worker.Sound (queue : Queue) (pages : Nat → PageEntry Pattern)
    (worker : Worker Pattern) : Prop where
  held : ∀ entry ∈ worker.holding, queue.slot entry < queue.qSize
  phase : worker.phase.Sound queue pages

/-- The invariant of the queue. -/
structure System.Sound (queue : Queue) (system : System Pattern Thread) : Prop where
  exclusive : Exclusive (system.holdings queue)
  filed : ∀ index < queue.qSize, system.locked index = false →
    queue.slot (system.pages index) = index
  workers : ∀ thread, (system.workers thread).Sound queue system.pages

/-- The entry `InitializePages` makes for a page, over what its local held. -/
def firstEntry (queue : Queue) (memory : Nat → PageEntry Pattern) (index : Nat) :
    PageEntry Pattern :=
  { initPe (memory index) with offset := index * queue.pageSize }

/-- The state `InitializePages` starts from: every page is locked and its entry
in the hands of the main thread, the array is not written yet. -/
structure System.Initial (queue : Queue) (main : Thread) (memory : Nat → PageEntry Pattern)
    (system : System Pattern Thread) : Prop where
  locked : ∀ index, system.locked index = decide (index < queue.qSize)
  randLocked : ∀ slot, system.randLocked slot = false
  randSeed : ∀ slot < 4, system.randSeed slot = BitVec.ofNat 64 (slot + 0xbeef)
  mainHolds : system.workers main =
    ⟨(List.range queue.qSize).map (firstEntry queue memory), .outside true⟩
  others : ∀ thread, thread ≠ main → system.workers thread = ⟨[], .outside true⟩

variable {queue : Queue} {system successor : System Pattern Thread} {thread : Thread}

@[simp] theorem System.holdings_locked (index : Nat) :
    (system.holdings queue).locked index = system.locked index := rfl

@[simp] theorem System.holdings_owned (thread : Thread) :
    (system.holdings queue).owned thread = (system.workers thread).owned queue := rfl

theorem slot_firstEntry (positive : 0 < queue.pageSize) (memory : Nat → PageEntry Pattern)
    (index : Nat) : queue.slot (firstEntry queue memory index) = index :=
  Nat.mul_div_cancel index positive

namespace System.Initial

variable {main : Thread} {memory : Nat → PageEntry Pattern}

theorem owned_main (initial : system.Initial queue main memory)
    (positive : 0 < queue.pageSize) :
    (system.workers main).owned queue = List.range queue.qSize := by
  rw [initial.mainHolds, Worker.owned, List.map_map]
  have own : (List.range queue.qSize).map (queue.slot ∘ firstEntry queue memory) =
      (List.range queue.qSize).map id :=
    List.map_congr_left fun index _ => slot_firstEntry positive memory index
  rw [own, List.map_id]
  exact List.append_nil _

theorem owned_other (initial : system.Initial queue main memory) {thread : Thread}
    (differs : thread ≠ main) : (system.workers thread).owned queue = [] := by
  rw [initial.others thread differs]
  rfl

theorem exclusive (initial : system.Initial queue main memory)
    (positive : 0 < queue.pageSize) : Exclusive (system.holdings queue) := by
  have slots := initial.owned_main positive
  refine ⟨?_, ?_, ?_, ?_⟩
  · intro thread
    rw [holdings_owned]
    by_cases same : thread = main
    · rw [same, slots]
      exact List.nodup_range
    · rw [initial.owned_other same]
      exact List.nodup_nil
  · intro first second differ index member
    rw [holdings_owned] at member ⊢
    by_cases same : second = main
    · rw [initial.owned_other (fun equal => differ (equal.trans same.symm))] at member
      exact absurd member List.not_mem_nil
    · rw [initial.owned_other same]
      exact List.not_mem_nil
  · intro thread index member
    rw [holdings_owned] at member
    by_cases same : thread = main
    · rw [same, slots] at member
      rw [holdings_locked, initial.locked, decide_eq_true (List.mem_range.mp member)]
    · rw [initial.owned_other same] at member
      exact absurd member List.not_mem_nil
  · intro index locked
    rw [holdings_locked, initial.locked, decide_eq_true_eq] at locked
    refine ⟨main, ?_⟩
    rw [holdings_owned, slots]
    exact List.mem_range.mpr locked

theorem sound (initial : system.Initial queue main memory) (positive : 0 < queue.pageSize) :
    system.Sound queue := by
  refine ⟨initial.exclusive positive, ?_, ?_⟩
  · intro index inside free
    rw [initial.locked, decide_eq_true inside] at free
    exact absurd free (by simp)
  · intro thread
    by_cases same : thread = main
    · rw [same, initial.mainHolds]
      refine ⟨?_, trivial⟩
      intro entry member
      obtain ⟨index, inside, rfl⟩ := List.mem_map.mp member
      rw [slot_firstEntry positive]
      exact List.mem_range.mp inside
    · rw [initial.others thread same]
      exact ⟨fun entry member => absurd member List.not_mem_nil, trivial⟩

end System.Initial

/-- The entries of the slots that another thread has locked are out of reach. -/
theorem Phase.Sound.congr {phase : Phase Pattern} {pages rewritten : Nat → PageEntry Pattern}
    (sound : phase.Sound queue pages)
    (same : ∀ index ∈ phase.owned queue, rewritten index = pages index) :
    phase.Sound queue rewritten := by
  cases phase with
  | outside | drawing | seeding | drawn | probing => trivial
  | examining | matching | locking => exact sound
  | storing => exact sound
  | rechecking _ index | unlocking _ index | clearing index | releasing index =>
      have unchanged := same index List.mem_cons_self
      exact ⟨sound.1, unchanged ▸ sound.2⟩

/-- A step of one thread keeps the invariant where it moves one slot at most and
rewrites only entries it has locked. -/
theorem System.Sound.of_transfer (sound : system.Sound queue) (thread : Thread)
    (moved : Transfer thread (system.holdings queue) (successor.holdings queue))
    (others : ∀ other, other ≠ thread → successor.workers other = system.workers other)
    (rewrites : ∀ index, index ∉ (system.workers thread).owned queue →
      successor.pages index = system.pages index)
    (mine : (successor.workers thread).Sound queue successor.pages)
    (returned : ∀ index ∈ (system.workers thread).owned queue,
      index ∉ (successor.workers thread).owned queue →
        queue.slot (successor.pages index) = index) :
    successor.Sound queue := by
  have exclusive := sound.exclusive.transfer moved
  refine ⟨exclusive, ?_, ?_⟩
  · intro index inside free
    by_cases owned : index ∈ (system.workers thread).owned queue
    · exact returned index owned (exclusive.not_mem_of_free free thread)
    · rw [rewrites index owned]
      apply sound.filed index inside
      cases moved with
      | keep locks =>
          have unchanged : successor.locked = system.locked := locks
          rwa [unchanged] at free
      | acquire resource _ locks =>
          have updated : successor.locked = Function.update system.locked resource true := locks
          rw [updated] at free
          by_cases same : index = resource
          · rw [same, Function.update_self] at free
            exact absurd free (by simp)
          · rwa [Function.update_of_ne same] at free
      | release resource locks less =>
          have updated : successor.locked = Function.update system.locked resource false := locks
          have differs : index ≠ resource := by
            rintro rfl
            exact owned (less.mem_iff.mpr List.mem_cons_self)
          rwa [updated, Function.update_of_ne differs] at free
  · intro other
    by_cases same : other = thread
    · rwa [same]
    · rw [others other same]
      refine ⟨(sound.workers other).held, (sound.workers other).phase.congr ?_⟩
      intro index member
      apply rewrites
      exact sound.exclusive.apart other thread same index (List.mem_append_right _ member)

variable [DecidableEq Thread]

theorem System.Sound.setWorker (sound : system.Sound queue) {worker : Worker Pattern}
    (same : (worker.owned queue).Perm ((system.workers thread).owned queue))
    (mine : worker.Sound queue system.pages) : (system.setWorker thread worker).Sound queue := by
  refine sound.of_transfer thread (.keep rfl ?_ ?_) ?_ (fun _ _ => rfl) ?_ ?_
  · simpa using same
  · intro other differs
    simp [differs]
  · intro other differs
    simp [differs]
  · simpa using mine
  · intro index owned gone
    rw [setWorker_self] at gone
    exact absurd (same.mem_iff.mpr owned) gone

theorem System.Sound.setPhase (sound : system.Sound queue) {phase : Phase Pattern}
    (same : phase.owned queue = (system.workers thread).phase.owned queue)
    (mine : phase.Sound queue system.pages) : (system.setPhase thread phase).Sound queue := by
  refine sound.setWorker ?_ ⟨(sound.workers thread).held, mine⟩
  rw [Worker.owned, Worker.owned, same]

omit [DecidableEq Thread] in
/-- The random locks and seeds are no part of the invariant. -/
theorem System.Sound.withRandom (sound : system.Sound queue) {randLocked : Nat → Bool}
    {randSeed : Nat → BitVec 64} :
    ({ system with randLocked := randLocked, randSeed := randSeed } :
      System Pattern Thread).Sound queue :=
  ⟨sound.exclusive, sound.filed, sound.workers⟩

theorem System.Sound.lock (sound : system.Sound queue) {search : Search} {index : Nat}
    (here : (system.workers thread).phase = .locking search index)
    (free : system.locked index = false) :
    ((system.setLock index true).setPhase thread (.rechecking search index)).Sound queue := by
  have inside : index < queue.qSize := by
    have phase := (sound.workers thread).phase
    rwa [here] at phase
  have before : (system.workers thread).owned queue =
      (system.workers thread).holding.map queue.slot := by
    rw [Worker.owned, here]
    exact List.append_nil _
  refine sound.of_transfer thread (.acquire index free rfl ?_ ?_) ?_ (fun _ _ => rfl) ?_ ?_
  · rw [holdings_owned, holdings_owned, setPhase_self, before]
    exact List.perm_append_singleton index _
  · intro other differs
    simp [differs]
  · intro other differs
    simp [differs]
  · rw [setPhase_self]
    exact ⟨(sound.workers thread).held, inside, sound.filed index inside free⟩
  · intro other owned gone
    rw [before] at owned
    rw [setPhase_self] at gone
    exact absurd (List.mem_append_left _ owned) gone

/-- Unlocking a slot whose entry is its own. -/
theorem System.Sound.unlock (sound : system.Sound queue) {phase : Phase Pattern} {index : Nat}
    (locked : (system.workers thread).phase.owned queue = [index])
    (own : queue.slot (system.pages index) = index)
    (leaves : phase.owned queue = []) (mine : phase.Sound queue system.pages) :
    ((system.setLock index false).setPhase thread phase).Sound queue := by
  have before : (system.workers thread).owned queue =
      (system.workers thread).holding.map queue.slot ++ [index] := by
    rw [Worker.owned, locked]
  have after : (((system.setLock index false).setPhase thread phase).workers thread).owned queue =
      (system.workers thread).holding.map queue.slot := by
    rw [setPhase_self, Worker.owned, leaves]
    exact List.append_nil _
  refine sound.of_transfer thread (.release index rfl ?_ ?_) ?_ (fun _ _ => rfl) ?_ ?_
  · rw [holdings_owned, holdings_owned, before, after]
    exact List.perm_append_singleton index _
  · intro other differs
    simp [differs]
  · intro other differs
    simp [differs]
  · rw [setPhase_self]
    exact ⟨(sound.workers thread).held, mine⟩
  · intro other owned gone
    rw [before] at owned
    rw [after] at gone
    rcases List.mem_append.mp owned with held | last
    · exact absurd held gone
    · rw [List.mem_singleton.mp last]
      exact own

/-- Rewriting the entry of a locked slot by one that belongs there. -/
theorem System.Sound.rewrite (sound : system.Sound queue) {phase : Phase Pattern} {index : Nat}
    {entry : PageEntry Pattern}
    (locked : (system.workers thread).phase.owned queue = [index])
    (own : queue.slot entry = index) (keeps : phase.owned queue = [index])
    (mine : ∀ pages, queue.slot (pages index) = index → phase.Sound queue pages) :
    ((system.setPage index entry).setPhase thread phase).Sound queue := by
  have member : index ∈ (system.workers thread).owned queue := by
    rw [Worker.owned, locked]
    exact List.mem_append_right _ List.mem_cons_self
  have same : (((system.setPage index entry).setPhase thread phase).workers thread).owned queue =
      (system.workers thread).owned queue := by
    rw [setPhase_self, Worker.owned, Worker.owned, keeps, locked]
    rfl
  refine sound.of_transfer thread (.keep rfl ?_ ?_) ?_ ?_ ?_ ?_
  · rw [holdings_owned, holdings_owned, same]
  · intro other differs
    simp [differs]
  · intro other differs
    simp [differs]
  · intro other absent
    have differs : other ≠ index := fun equal => absent (equal ▸ member)
    exact Function.update_of_ne differs entry system.pages
  · rw [setPhase_self]
    refine ⟨(sound.workers thread).held, mine _ ?_⟩
    rw [setPhase_pages]
    exact (congrArg queue.slot (Function.update_self index entry system.pages)).trans own
  · intro other owned gone
    rw [same] at gone
    exact absurd owned gone

@[simp] theorem slot_measured (wanted : Wanted) (attempt : Nat) (entry : PageEntry Pattern) :
    queue.slot (queue.measured wanted attempt entry) = queue.slot entry := by
  unfold Queue.measured
  split <;> rfl

theorem System.Sound.move (sound : system.Sound queue) {action : Action Pattern}
    (moved : Move queue system thread action successor) : successor.Sound queue := by
  have phase := (sound.workers thread).phase
  cases moved with
  | getNone here | get here | putRefused here =>
      rw [here] at phase
      exact sound.setPhase (by rw [here]; rfl) trivial
  | @put kind position entry result here held nonempty inside =>
      obtain ⟨bound, rfl⟩ := List.getElem?_eq_some_iff.mp held
      refine sound.setWorker ?_ ⟨?_, inside⟩
      · rw [Worker.owned, Worker.owned, here]
        have erased := (List.getElem_cons_eraseIdx_perm bound).map queue.slot
        exact (List.perm_append_singleton _ _).trans (erased.trans (by simp [Phase.owned]))
      · intro other member
        exact (sound.workers thread).held other (List.mem_of_mem_eraseIdx member)
  | @work entries result here same =>
      refine sound.setWorker ?_ ⟨?_, trivial⟩
      · rw [Worker.owned, Worker.owned, here, same]
      · intro entry member
        have slot : queue.slot entry ∈ (system.workers thread).holding.map queue.slot :=
          same ▸ List.mem_map_of_mem member
        obtain ⟨old, oldMember, equal⟩ := List.mem_map.mp slot
        exact equal ▸ (sound.workers thread).held old oldMember
  | randBusy here | exhausted here => exact sound.setPhase (by rw [here]; rfl) trivial
  | randLock here | seed here | randUnlock here =>
      exact sound.withRandom.setPhase (by simp [here, Phase.owned]) trivial
  | probe here more =>
      exact sound.setPhase (by rw [here]; rfl) (Nat.mod_lt _ (by omega))
  | examined here | matched here =>
      rw [here] at phase
      exact sound.setPhase (by rw [here]; rfl) phase
  | unwanted here | untagged here | busy here =>
      exact sound.setPhase (by rw [here]; rfl) trivial
  | lock here free => exact sound.lock here free
  | @taken search index here accepted =>
      rw [here] at phase
      refine sound.setWorker ?_ ⟨?_, trivial⟩
      · rw [Worker.owned, Worker.owned, here]
        simp [Phase.owned, phase.2]
      · intro entry member
        rcases List.mem_append.mp member with old | new
        · exact (sound.workers thread).held entry old
        · rw [List.mem_singleton.mp new, slot_measured, phase.2]
          exact phase.1
  | changed here =>
      rw [here] at phase
      exact sound.setPhase (by rw [here]; rfl) phase
  | unlock here =>
      rw [here] at phase
      exact sound.unlock (by rw [here]; rfl) phase.2 rfl trivial
  | @store kind entry here =>
      rw [here] at phase
      refine sound.rewrite (by rw [here]; rfl) rfl ?_ ?_
      · split <;> rfl
      · intro pages own
        split <;> exact ⟨phase, own⟩
  | clear here =>
      rw [here] at phase
      exact sound.rewrite (by rw [here]; rfl) phase.2 rfl fun pages own => ⟨phase.1, own⟩
  | release here =>
      rw [here] at phase
      exact sound.unlock (by rw [here]; rfl) phase.2 rfl trivial

theorem System.Sound.run {start : System Pattern Thread} (sound : start.Sound queue)
    {history : History (System Pattern Thread) (Thread × Action Pattern)}
    (run : Run (step queue) start history system) : system.Sound queue := by
  refine run.invariant (fun _ reached => reached.Sound queue) sound ?_
  intro _ state event next _ before taken
  exact before.move (Move.of_step taken)

/-- No page is lost, given out twice or unlocked by a thread that has not locked it. -/
structure System.KeepsPages (queue : Queue) (system : System Pattern Thread) : Prop where
  once : ∀ first second (p q : Nat) held other,
    (system.workers first).holding[p]? = some held →
    (system.workers second).holding[q]? = some other →
    queue.slot held = queue.slot other → first = second ∧ p = q
  accounted : ∀ index < queue.qSize,
    (system.locked index = false ∧ queue.slot (system.pages index) = index ∧
      ∀ thread, index ∉ (system.workers thread).owned queue) ∨
    (system.locked index = true ∧ ∃! thread, index ∈ (system.workers thread).owned queue)
  unlocks : ∀ thread index,
    (∃ search, (system.workers thread).phase = .unlocking search index) ∨
      (system.workers thread).phase = .releasing index →
    system.locked index = true ∧
      ∀ other, other ≠ thread → index ∉ (system.workers other).owned queue
  puts : ∀ thread, ∀ entry ∈ (system.workers thread).holding, queue.slot entry < queue.qSize

theorem System.Sound.keepsPages (sound : system.Sound queue) : system.KeepsPages queue := by
  have exclusive := sound.exclusive
  refine ⟨?_, ?_, ?_, fun thread => (sound.workers thread).held⟩
  · intro first second p q held other heldAt otherAt same
    have firstOwns : queue.slot held ∈ (system.workers first).owned queue :=
      List.mem_append_left _ (List.mem_map_of_mem (List.mem_of_getElem? heldAt))
    have secondOwns : queue.slot held ∈ (system.workers second).owned queue :=
      same ▸ List.mem_append_left _ (List.mem_map_of_mem (List.mem_of_getElem? otherAt))
    have equal : first = second := by
      by_contra differ
      exact exclusive.apart first second differ _ firstOwns secondOwns
    subst equal
    refine ⟨rfl, ?_⟩
    have distinct : ((system.workers first).holding.map queue.slot).Nodup :=
      (List.nodup_append.mp (exclusive.distinct first)).1
    have bound : p < ((system.workers first).holding.map queue.slot).length := by
      rw [List.length_map]
      exact (List.getElem?_eq_some_iff.mp heldAt).1
    apply (List.getElem?_inj bound distinct).mp
    rw [List.getElem?_map, List.getElem?_map, heldAt, otherAt]
    exact congrArg some same
  · intro index inside
    cases locked : system.locked index with
    | false =>
        exact .inl ⟨rfl, sound.filed index inside locked, exclusive.not_mem_of_free locked⟩
    | true =>
        obtain ⟨thread, member⟩ := exclusive.accounted index locked
        refine .inr ⟨rfl, thread, member, ?_⟩
        intro other also
        by_contra differ
        exact exclusive.apart other thread differ index also member
  · intro thread index unlocking
    have member : index ∈ (system.workers thread).owned queue := by
      apply List.mem_append_right
      rcases unlocking with ⟨search, here⟩ | here
      · rw [here]
        exact List.mem_cons_self
      · rw [here]
        exact List.mem_cons_self
    refine ⟨exclusive.locked thread index member, ?_⟩
    intro other differs
    exact exclusive.apart thread other differs.symm index member

/-- From the set-up on, whatever the interleaving, each page is in one place. -/
theorem queue_keeps_every_page {main : Thread} {memory : Nat → PageEntry Pattern}
    {start : System Pattern Thread} (initial : start.Initial queue main memory)
    (positive : 0 < queue.pageSize)
    {history : History (System Pattern Thread) (Thread × Action Pattern)}
    (run : Run (step queue) start history system) : system.KeepsPages queue :=
  ((initial.sound positive).run run).keepsPages

end Ownership

/-! ### The random locks -/

section RandomLocks

/-- The random lock a thread has in this phase. -/
def Phase.randOwned : Phase Pattern → List Nat
  | .seeding _ _ slot | .drawn _ _ slot _ => [slot]
  | .outside _ | .drawing _ _ _ | .probing _ | .examining _ _ | .matching _ _ | .locking _ _
  | .rechecking _ _ | .unlocking _ _ | .storing _ _ | .clearing _ | .releasing _ => []

def System.randHoldings (system : System Pattern Thread) : Holdings Thread Nat :=
  ⟨system.randLocked, fun thread => (system.workers thread).phase.randOwned⟩

variable {queue : Queue} {system successor : System Pattern Thread} {thread : Thread}

theorem System.Initial.randExclusive {main : Thread} {memory : Nat → PageEntry Pattern}
    (initial : system.Initial queue main memory) : Exclusive system.randHoldings := by
  refine .of_nothing initial.randLocked fun thread => ?_
  change (system.workers thread).phase.randOwned = []
  by_cases same : thread = main
  · rw [same, initial.mainHolds]
    rfl
  · rw [initial.others thread same]
    rfl

variable [DecidableEq Thread]

theorem step_proceed : step queue system (thread, .proceed) = proceed queue system thread := by
  unfold step
  cases here : (system.workers thread).phase with
  | outside result => simp only [here, proceed]
  | drawing | seeding | drawn | probing | examining | matching | locking | rechecking | unlocking
  | storing | clearing | releasing => simp only [here]

/-- A step of one thread leaves the others where they are. -/
theorem Move.workers_other {other : Thread} {action : Action Pattern}
    (moved : Move queue system thread action successor) (differs : other ≠ thread) :
    successor.workers other = system.workers other := by
  cases moved <;> simp [differs]

/-- Only the draw of a random number takes and frees a random lock. -/
theorem Move.randTransfer {action : Action Pattern}
    (moved : Move queue system thread action successor) :
    Transfer thread system.randHoldings successor.randHoldings := by
  have others : ∀ other, other ≠ thread →
      successor.randHoldings.owned other = system.randHoldings.owned other := by
    intro other differs
    simp only [System.randHoldings, moved.workers_other differs]
  cases moved with
  | @randLock wanted tag slot lock here inside free =>
      refine .acquire lock free rfl ?_ others
      simp [System.randHoldings, here, Phase.randOwned]
  | @randUnlock wanted tag slot number here =>
      refine .release slot rfl ?_ others
      simp [System.randHoldings, here, Phase.randOwned]
  | getNone here | get here | putRefused here | put here | work here | randBusy here | seed here
  | exhausted here | probe here | examined here | unwanted here | matched here | untagged here
  | busy here | lock here | taken here | changed here | unlock here | clear here | release here =>
      refine .keep rfl ?_ others
      simp [System.randHoldings, here, Phase.randOwned]
  | @store kind entry here =>
      refine .keep rfl ?_ others
      cases kind <;> simp [System.randHoldings, here, Phase.randOwned]

/-- Whoever has a random lock gives it back in one or two own steps. -/
theorem freedSoon_of_randOwned {slot : Nat}
    (member : slot ∈ (system.workers thread).phase.randOwned) :
    FreedSoon (fun state => step queue state (thread, .proceed)) (·.randLocked slot) system := by
  cases here : (system.workers thread).phase with
  | seeding wanted tag lock =>
      rw [here] at member
      obtain rfl := List.mem_singleton.mp member
      refine ⟨_, step_proceed.trans (by rw [proceed, here]), .inr ⟨_, step_proceed.trans
        (by rw [proceed, System.setPhase_self]), ?_⟩⟩
      simp
  | drawn wanted tag lock number =>
      rw [here] at member
      obtain rfl := List.mem_singleton.mp member
      refine ⟨_, step_proceed.trans (by rw [proceed, here]), .inl ?_⟩
      simp
  | outside | drawing | probing | examining | matching | locking | rechecking | unlocking
  | storing | clearing | releasing =>
      rw [here] at member
      exact absurd member List.not_mem_nil

/-- A random lock that is taken will be free again by the steps of another thread. -/
theorem randLock_freedSoon (exclusive : Exclusive system.randHoldings) {slot : Nat}
    (locked : system.randLocked slot = true)
    (mine : (system.workers thread).phase.randOwned = []) :
    ∃ other, other ≠ thread ∧ slot ∈ (system.workers other).phase.randOwned ∧
      FreedSoon (fun state => step queue state (other, .proceed)) (·.randLocked slot) system := by
  obtain ⟨other, member⟩ := exclusive.accounted slot locked
  refine ⟨other, ?_, member, freedSoon_of_randOwned member⟩
  rintro rfl
  change slot ∈ (system.workers other).phase.randOwned at member
  rw [mine] at member
  exact absurd member List.not_mem_nil

theorem randExclusive_run {start : System Pattern Thread}
    (exclusive : Exclusive start.randHoldings)
    {history : History (System Pattern Thread) (Thread × Action Pattern)}
    (run : Run (step queue) start history system) : Exclusive system.randHoldings := by
  refine run.invariant (fun _ reached => Exclusive reached.randHoldings) exclusive ?_
  intro _ state event next _ before taken
  exact before.transfer (Move.of_step taken).randTransfer

end RandomLocks

/-- One page, which the main thread hands in and thread 1 takes. -/
def onePage : Queue := ⟨1, 4096, ⟨1, 1, 1⟩, .touch⟩

def blank : PageEntry Nat := ⟨0, 0, 0, none, 0, 0, 0, 0, none⟩

def onePageStart : System Nat Nat where
  pages _ := blank
  locked index := decide (index < 1)
  randLocked _ := false
  randSeed slot := BitVec.ofNat 64 (slot + 0xbeef)
  workers thread :=
    if thread = 0 then ⟨(List.range 1).map (firstEntry onePage fun _ => blank), .outside true⟩
    else ⟨[], .outside true⟩

theorem onePageStart_initial : onePageStart.Initial onePage 0 fun _ => blank :=
  ⟨fun _ => rfl, fun _ => rfl, fun _ _ => rfl, rfl, fun _ differs => if_neg differs⟩

def onePageEvents : List (Nat × Action Nat) :=
  [(0, .put .empty 0), (0, .proceed), (0, .proceed), (0, .proceed),
    (1, .get .empty kDontCareTag)] ++ List.replicate 8 (1, .proceed)

theorem one_page_is_kept : ∃ history system,
    Run (step onePage) onePageStart history system ∧
      (system.workers 1).holding.map (·.tag) = [kInvalidTag] ∧
      (system.workers 0).holding = [] ∧ system.KeepsPages onePage := by
  obtain ⟨system, reached, held, none⟩ : ∃ system,
      execute (step onePage) onePageStart onePageEvents = some system ∧
        (system.workers 1).holding.map (·.tag) = [kInvalidTag] ∧
        (system.workers 0).holding = [] := ⟨_, rfl, rfl, rfl⟩
  obtain ⟨history, run, _⟩ := Run.of_execute reached
  exact ⟨history, system, run, held, none,
    queue_keeps_every_page onePageStart_initial (by decide) run⟩

end AmebaTests.Stressapptest
