/-
Faults and the errors the threads count.

Each thread has the pages its place in the loop says, and every page of the
queue contains what its entry says, up to the faults that are due.  A step of the
queue moves a page with what is due on it, a check turns it into errors, and a
fault adds one: what is counted and what is due are the faults so far.
-/

import AmebaTests.Stressapptest.Contents

namespace AmebaTests.Stressapptest

open Foundation

variable {Thread : Type}

/-- What an entry in the queue says about its page. -/
def filedContent {Ref : Type} (entry : PageEntry Ref) : Content Ref :=
  match entry.pattern with
  | some ref => .unchecked ref
  | none => .empty

def Wanted.shape : Wanted → Shape
  | .valid => .unchecked
  | .empty => .empty

/-- The shape of the page a call will bring. -/
def Phase.coming {Ref : Type} : Phase Ref → List Shape
  | .drawing wanted _ _ | .seeding wanted _ _ | .drawn wanted _ _ _ => [wanted.shape]
  | .probing search | .examining search _ | .matching search _ | .locking search _
  | .rechecking search _ | .unlocking search _ => [search.wanted.shape]
  | .outside _ | .storing _ _ | .clearing _ | .releasing _ => []

/-- A thread's place in its loop against the pages it has. -/
def Job.Agrees {Ref : Type} (shapes : List Shape) (phase : Phase Ref) : Job → Prop
  | .idle => shapes = [] ∧ ∃ result, phase = .outside result
  | .running rest => Fits shapes rest ∧ ∃ result, phase = .outside result
  | .calling rest => phase = .outside false ∨ Fits (shapes ++ phase.coming) rest
  | .stopped => ∃ result, phase = .outside result

namespace Sat

variable (sat : Sat Thread) (contents : Nat → Content sat.Ref)

/-- An entry belongs to this page and says what it contains. -/
structure Filed (index : Nat) (entry : PageEntry sat.Ref) : Prop where
  offset : entry.offset = index * sat.queue.pageSize
  content : contents index = filedContent entry

structure Held (entry : PageEntry sat.Ref) : Prop where
  offset : entry.offset = sat.queue.slot entry * sat.queue.pageSize
  pattern : ∀ ref, (contents (sat.queue.slot entry)).ref = some ref → entry.pattern = some ref

/-- The page of a phase; an entry on its way to the empty ones is still as it came. -/
def PhaseAgrees (pages : Nat → PageEntry sat.Ref) : Phase sat.Ref → Prop
  | .outside _ | .drawing _ _ _ | .seeding _ _ _ | .drawn _ _ _ _ | .probing _ | .examining _ _
  | .matching _ _ | .locking _ _ => True
  | .rechecking _ index | .unlocking _ index | .releasing index =>
      sat.Filed contents index (pages index)
  | .storing .valid entry => sat.Filed contents (sat.queue.slot entry) entry
  | .storing .empty entry =>
      entry.offset = sat.queue.slot entry * sat.queue.pageSize ∧
        contents (sat.queue.slot entry) = .empty
  | .clearing index =>
      (pages index).offset = index * sat.queue.pageSize ∧ contents index = .empty

def shapes (holding : List (PageEntry sat.Ref)) : List Shape :=
  holding.map fun entry => (contents (sat.queue.slot entry)).shape

structure WorkerAgrees (pages : Nat → PageEntry sat.Ref) (worker : Worker sat.Ref) (job : Job) :
    Prop where
  held : ∀ entry ∈ worker.holding, sat.Held contents entry
  phase : sat.PhaseAgrees contents pages worker.phase
  job : job.Agrees (sat.shapes contents worker.holding) worker.phase

/-- Threads, entries and contents agree. -/
structure Agrees (state : sat.State) : Prop where
  sound : state.system.Sound sat.queue
  free : ∀ index < sat.queue.qSize, state.system.locked index = false →
    sat.Filed contents index (state.system.pages index)
  workers : ∀ thread, sat.WorkerAgrees contents state.system.pages (state.system.workers thread)
    (state.jobs thread)

/-- Memory contains what it should, and what is counted and what is due are the faults. -/
structure Balanced [Fintype Thread] (state : sat.State) (faults : Nat) : Prop where
  contains : ∀ index < sat.queue.qSize, sat.Contains state.memory index (contents index)
  total : (∑ thread, state.errorcount thread) +
    ∑ index ∈ Finset.range sat.queue.qSize, sat.due state.memory index (contents index) = faults

end Sat

/-! ### Pages and workers agree -/

section Agreement

variable {sat : Sat Thread} {contents changed : Nat → Content sat.Ref} {state after : sat.State}
  {thread : Thread}

theorem Sat.WorkerAgrees.congr {pages rewritten : Nat → PageEntry sat.Ref}
    {worker : Worker sat.Ref} {job : Job} (agrees : sat.WorkerAgrees contents pages worker job)
    (same : ∀ index ∈ worker.owned sat.queue,
      rewritten index = pages index ∧ changed index = contents index) :
    sat.WorkerAgrees changed rewritten worker job := by
  have held : ∀ entry ∈ worker.holding,
      changed (sat.queue.slot entry) = contents (sat.queue.slot entry) := fun entry member =>
    (same _ (List.mem_append_left _ (List.mem_map_of_mem member))).2
  have unchanged : sat.shapes changed worker.holding = sat.shapes contents worker.holding :=
    List.map_congr_left fun entry member => congrArg Content.shape (held entry member)
  have phases : ∀ index ∈ worker.phase.owned sat.queue,
      rewritten index = pages index ∧ changed index = contents index := fun index member =>
    same index (List.mem_append_right _ member)
  refine ⟨?_, ?_, ?_⟩
  · intro entry member
    have before := agrees.held entry member
    exact ⟨before.offset, fun ref known => before.pattern ref (held entry member ▸ known)⟩
  · have before := agrees.phase
    generalize worker.phase = phase at before phases
    cases phase with
    | outside | drawing | seeding | drawn | probing | examining | matching | locking => trivial
    | rechecking _ index | unlocking _ index | releasing index =>
        obtain ⟨entry, content⟩ := phases index List.mem_cons_self
        exact ⟨entry ▸ before.offset, by rw [entry, content]; exact before.content⟩
    | storing kind entry =>
        obtain ⟨_, content⟩ := phases _ List.mem_cons_self
        cases kind with
        | valid => exact ⟨before.offset, content.trans before.content⟩
        | empty => exact ⟨before.1, content.trans before.2⟩
    | clearing index =>
        obtain ⟨entry, content⟩ := phases index List.mem_cons_self
        exact ⟨entry ▸ before.1, content.trans before.2⟩
  · rw [unchanged]
    exact agrees.job

/-- A step of one thread keeps the agreement where it changes only pages the
thread owns. -/
theorem Sat.Agrees.of_local (agrees : sat.Agrees contents state) (thread : Thread)
    (sound : after.system.Sound sat.queue)
    (others : ∀ other, other ≠ thread → after.system.workers other = state.system.workers other ∧
      after.jobs other = state.jobs other)
    (outside : ∀ index, index ∉ (state.system.workers thread).owned sat.queue →
      after.system.pages index = state.system.pages index ∧ changed index = contents index)
    (mine : sat.WorkerAgrees changed after.system.pages (after.system.workers thread)
      (after.jobs thread))
    (freed : ∀ index < sat.queue.qSize, after.system.locked index = false →
      state.system.locked index = false ∨ sat.Filed changed index (after.system.pages index)) :
    sat.Agrees changed after := by
  refine ⟨sound, ?_, ?_⟩
  · intro index inside free
    rcases freed index inside free with before | filed
    · obtain ⟨entry, content⟩ :=
        outside index (agrees.sound.exclusive.not_mem_of_free before thread)
      have was := agrees.free index inside before
      exact ⟨entry ▸ was.offset, by rw [entry, content]; exact was.content⟩
    · exact filed
  · intro other
    by_cases same : other = thread
    · rwa [same]
    · obtain ⟨worker, job⟩ := others other same
      rw [worker, job]
      refine (agrees.workers other).congr fun index member => outside index ?_
      exact agrees.sound.exclusive.apart other thread same index member

theorem Job.Agrees.fits {Ref : Type} {shapes : List Shape} {phase : Phase Ref}
    {rest : List Instruction} (agrees : Job.Agrees shapes phase (.calling rest))
    (busy : phase ≠ .outside false) : Fits (shapes ++ phase.coming) rest :=
  agrees.resolve_left busy

variable [DecidableEq Thread] {rest : List Instruction} {system : System sat.Ref Thread}

/-- A thread inside a call comes to another phase of it. -/
theorem Sat.Agrees.setPhase (agrees : sat.Agrees contents state)
    (job : state.jobs thread = .calling rest) {phase : Phase sat.Ref}
    {locked randLocked : Nat → Bool} {randSeed : Nat → BitVec 64} {pages : Nat → PageEntry sat.Ref}
    (sound : (System.setPhase ⟨pages, locked, randLocked, randSeed, state.system.workers⟩
      thread phase).Sound sat.queue)
    (rewrites : ∀ index, index ∉ (state.system.workers thread).owned sat.queue →
      pages index = state.system.pages index)
    (mine : sat.PhaseAgrees contents pages phase)
    (fits : Fits (sat.shapes contents (state.system.workers thread).holding ++ phase.coming) rest)
    (freed : ∀ index < sat.queue.qSize, locked index = false →
      state.system.locked index = false ∨ sat.Filed contents index (pages index)) :
    sat.Agrees contents { state with
      system := System.setPhase ⟨pages, locked, randLocked, randSeed, state.system.workers⟩
        thread phase } := by
  refine agrees.of_local thread sound ?_ ?_ ?_ freed
  · intro other differs
    exact ⟨System.setPhase_other _ _ differs _, rfl⟩
  · exact fun index absent => ⟨rewrites index absent, rfl⟩
  · rw [System.setPhase_self]
    refine ⟨(agrees.workers thread).held, mine, ?_⟩
    change Job.Agrees _ _ (state.jobs thread)
    rw [job]
    exact .inr fits

/-- A fetched page is of the kind the call asked for. -/
theorem shape_of_accepted {Ref : Type} {wanted : Wanted} {entry : PageEntry Ref}
    (accepted : wanted.accepts entry = true) : (filedContent entry).shape = wanted.shape := by
  cases wanted with
  | valid =>
      obtain ⟨ref, known⟩ := Option.isSome_iff_exists.mp accepted
      rw [filedContent, known]
      rfl
  | empty =>
      rw [filedContent, Option.isNone_iff_eq_none.mp accepted]
      rfl

theorem ref_filedContent {Ref : Type} (entry : PageEntry Ref) :
    (filedContent entry).ref = entry.pattern := by
  rw [filedContent]
  cases entry.pattern <;> rfl

theorem measured_pattern {Ref : Type} (queue : Queue) (wanted : Wanted) (attempt : Nat)
    (entry : PageEntry Ref) : (queue.measured wanted attempt entry).pattern = entry.pattern := by
  unfold Queue.measured
  split <;> rfl

theorem measured_offset {Ref : Type} (queue : Queue) (wanted : Wanted) (attempt : Nat)
    (entry : PageEntry Ref) : (queue.measured wanted attempt entry).offset = entry.offset := by
  unfold Queue.measured
  split <;> rfl

/-- The steps of a call keep the agreement: no page changes its content. -/
theorem Sat.Agrees.proceeds (agrees : sat.Agrees contents state)
    (job : state.jobs thread = .calling rest)
    (moved : Move sat.queue state.system thread .proceed system) :
    sat.Agrees contents { state with system := system } := by
  have sound := agrees.sound.move moved
  have phase := (agrees.workers thread).phase
  have fits := (agrees.workers thread).job
  rw [job] at fits
  have same : ∀ index, index ∉ (state.system.workers thread).owned sat.queue →
      state.system.pages index = state.system.pages index := fun _ _ => rfl
  cases moved with
  | exhausted here =>
      refine agrees.of_local thread sound ?_ (fun _ _ => ⟨rfl, rfl⟩) ?_ fun _ _ free => .inl free
      · exact fun other differs => ⟨System.setPhase_other _ _ differs _, rfl⟩
      · rw [System.setPhase_self]
        refine ⟨(agrees.workers thread).held, trivial, ?_⟩
        change Job.Agrees _ _ (state.jobs thread)
        rw [job]
        exact .inl rfl
  | randBusy here | randLock here | seed here | randUnlock here | probe here | examined here
  | unwanted here | matched here | untagged here | busy here =>
      have now := fits.fits (by rw [here]; simp)
      rw [here] at now
      exact agrees.setPhase job sound same trivial now fun _ _ free => .inl free
  | @lock search index here free =>
      have now := fits.fits (by rw [here]; simp)
      rw [here] at now
      have inside : index < sat.queue.qSize := by
        have known := (agrees.sound.workers thread).phase
        rwa [here] at known
      refine agrees.setPhase job sound same (agrees.free index inside free) now ?_
      intro other _ unlocked
      by_cases here : other = index
      · rw [here, Function.update_self] at unlocked
        exact absurd unlocked (by simp)
      · rw [Function.update_of_ne here] at unlocked
        exact .inl unlocked
  | @taken search index here accepted =>
      have now := fits.fits (by rw [here]; simp)
      rw [here] at now phase
      have own : sat.queue.slot (state.system.pages index) = index := by
        have known := (agrees.sound.workers thread).phase
        rw [here] at known
        exact known.2
      refine agrees.of_local thread sound ?_ (fun _ _ => ⟨rfl, rfl⟩) ?_ fun _ _ free => .inl free
      · exact fun other differs => ⟨System.setWorker_other _ _ differs _, rfl⟩
      · rw [System.setWorker_self]
        refine ⟨?_, trivial, ?_⟩
        · intro entry member
          rcases List.mem_append.mp member with old | new
          · exact (agrees.workers thread).held entry old
          · rw [List.mem_singleton.mp new]
            refine ⟨?_, ?_⟩
            · rw [slot_measured, own, measured_offset, phase.offset]
            · intro ref known
              rw [slot_measured, own, phase.content, ref_filedContent] at known
              rw [measured_pattern, known]
        · change Job.Agrees _ _ (state.jobs thread)
          rw [job]
          right
          have shape : (contents (sat.queue.slot (sat.queue.measured search.wanted search.attempt
              (state.system.pages index)))).shape = search.wanted.shape := by
            rw [slot_measured, own, phase.content, shape_of_accepted accepted]
          rw [Sat.shapes, List.map_append, List.map_singleton, shape]
          exact (List.append_nil _).symm ▸ now
  | changed here =>
      have now := fits.fits (by rw [here]; simp)
      rw [here] at now phase
      exact agrees.setPhase job sound same phase now fun _ _ free => .inl free
  | @unlock search index here =>
      have now := fits.fits (by rw [here]; simp)
      rw [here] at now phase
      refine agrees.setPhase job sound same trivial now ?_
      intro other _ unlocked
      by_cases released : other = index
      · exact .inr (released ▸ phase)
      · rw [Function.update_of_ne released] at unlocked
        exact .inl unlocked
  | @store kind entry here =>
      have now := fits.fits (by rw [here]; simp)
      rw [here] at now phase
      have others : ∀ index, index ∉ (state.system.workers thread).owned sat.queue →
          Function.update state.system.pages (sat.queue.slot entry) entry index =
            state.system.pages index := by
        intro index absent
        apply Function.update_of_ne
        rintro rfl
        rw [Worker.owned, here] at absent
        exact absent (List.mem_append_right _ List.mem_cons_self)
      cases kind with
      | valid =>
          refine agrees.setPhase job sound others ?_ now fun _ _ free => .inl free
          refine ⟨?_, ?_⟩
          · rw [Function.update_self]
            exact phase.offset
          · rw [Function.update_self]
            exact phase.content
      | empty =>
          refine agrees.setPhase job sound others ?_ now fun _ _ free => .inl free
          refine ⟨?_, phase.2⟩
          rw [Function.update_self]
          exact phase.1
  | @clear index here =>
      have now := fits.fits (by rw [here]; simp)
      rw [here] at now phase
      refine agrees.setPhase job sound ?_ ?_ now fun _ _ free => .inl free
      · intro other absent
        apply Function.update_of_ne
        rintro rfl
        rw [Worker.owned, here] at absent
        exact absent (List.mem_append_right _ List.mem_cons_self)
      · refine ⟨?_, ?_⟩
        · rw [Function.update_self]
          exact phase.1
        · rw [Function.update_self]
          exact phase.2
  | @release index here =>
      have now := fits.fits (by rw [here]; simp)
      rw [here] at now phase
      refine agrees.setPhase job sound same trivial now ?_
      intro other _ unlocked
      by_cases released : other = index
      · exact .inr (released ▸ phase)
      · rw [Function.update_of_ne released] at unlocked
        exact .inl unlocked

theorem Sat.Agrees.setJob (agrees : sat.Agrees contents state) {job : Job}
    (fits : job.Agrees (sat.shapes contents (state.system.workers thread).holding)
      (state.system.workers thread).phase) : sat.Agrees contents (state.setJob thread job) := by
  refine agrees.of_local thread agrees.sound ?_ (fun _ _ => ⟨rfl, rfl⟩) ?_ fun _ _ free => .inl free
  · exact fun other differs => ⟨rfl, Function.update_of_ne differs _ _⟩
  · refine ⟨(agrees.workers thread).held, (agrees.workers thread).phase, ?_⟩
    change Job.Agrees _ _ (Function.update state.jobs thread job thread)
    rw [Function.update_self]
    exact fits

/-- The beginning of a search. -/
theorem Sat.Agrees.get (agrees : sat.Agrees contents state) {wanted : Wanted} {tag : BitVec 32}
    (fits : Fits (sat.shapes contents (state.system.workers thread).holding ++
      [wanted.shape]) rest)
    (taken : sat.call state thread (.get wanted tag) rest = some after) :
    sat.Agrees contents after := by
  obtain ⟨system, stepped, rfl⟩ := Option.map_eq_some_iff.mp taken
  have moved := Move.of_step stepped
  have sound := agrees.sound.move moved
  cases moved with
  | getNone here =>
      refine agrees.of_local thread sound ?_ (fun _ _ => ⟨rfl, rfl⟩) ?_ fun _ _ free => .inl free
      · exact fun other differs =>
          ⟨System.setPhase_other _ _ differs _, Function.update_of_ne differs _ _⟩
      · change sat.WorkerAgrees contents _ ((state.system.setPhase thread _).workers thread)
          (Function.update state.jobs thread _ thread)
        rw [System.setPhase_self, Function.update_self]
        exact ⟨(agrees.workers thread).held, trivial, .inl rfl⟩
  | get here positive =>
      refine agrees.of_local thread sound ?_ (fun _ _ => ⟨rfl, rfl⟩) ?_ fun _ _ free => .inl free
      · exact fun other differs =>
          ⟨System.setPhase_other _ _ differs _, Function.update_of_ne differs _ _⟩
      · change sat.WorkerAgrees contents _ ((state.system.setPhase thread _).workers thread)
          (Function.update state.jobs thread _ thread)
        rw [System.setPhase_self, Function.update_self]
        exact ⟨(agrees.workers thread).held, trivial, .inr fits⟩

omit [DecidableEq Thread] in
/-- The slot of a page a thread puts back is none of those it keeps. -/
theorem slot_not_mem_eraseIdx (sound : state.system.Sound sat.queue) {position : Nat}
    {entry : PageEntry sat.Ref}
    (held : (state.system.workers thread).holding[position]? = some entry) :
    sat.queue.slot entry ∉
      ((state.system.workers thread).holding.eraseIdx position).map sat.queue.slot := by
  obtain ⟨bound, rfl⟩ := List.getElem?_eq_some_iff.mp held
  have distinct := (List.nodup_append.mp (sound.exclusive.distinct thread)).1
  have perm := (List.getElem_cons_eraseIdx_perm bound).map sat.queue.slot
  exact (List.nodup_cons.mp (perm.nodup_iff.mpr distinct)).1

/-- The beginning of a put: the page gets the content it is put back with, unless
the queue refuses it. -/
theorem Sat.Agrees.put (agrees : sat.Agrees contents state) {kind : Wanted} {position : Nat}
    {entry : PageEntry sat.Ref}
    (held : (state.system.workers thread).holding[position]? = some entry)
    (content : Content sat.Ref)
    (stored : sat.PhaseAgrees (Function.update contents (sat.queue.slot entry) content)
      state.system.pages (.storing kind entry))
    (fits : Fits ((sat.shapes contents (state.system.workers thread).holding).eraseIdx position)
      rest)
    (taken : sat.call state thread (.put kind position) rest = some after) :
    sat.Agrees contents after ∨
      sat.Agrees (Function.update contents (sat.queue.slot entry) content) after := by
  obtain ⟨system, stepped, rfl⟩ := Option.map_eq_some_iff.mp taken
  have moved := Move.of_step stepped
  have sound := agrees.sound.move moved
  cases moved with
  | putRefused here =>
      left
      refine agrees.of_local thread sound ?_ (fun _ _ => ⟨rfl, rfl⟩) ?_ fun _ _ free => .inl free
      · exact fun other differs =>
          ⟨System.setPhase_other _ _ differs _, Function.update_of_ne differs _ _⟩
      · change sat.WorkerAgrees contents _ ((state.system.setPhase thread _).workers thread)
          (Function.update state.jobs thread _ thread)
        rw [System.setPhase_self, Function.update_self]
        exact ⟨(agrees.workers thread).held, trivial, .inl rfl⟩
  | @put _ _ found result here also nonempty inside =>
      right
      obtain rfl : entry = found := Option.some.inj (held.symm.trans also)
      have fresh := slot_not_mem_eraseIdx agrees.sound held
      have kept : ∀ other ∈ (state.system.workers thread).holding.eraseIdx position,
          Function.update contents (sat.queue.slot entry) content (sat.queue.slot other) =
            contents (sat.queue.slot other) := by
        intro other member
        apply Function.update_of_ne
        intro same
        exact fresh (same ▸ List.mem_map_of_mem member)
      have shapes : sat.shapes (Function.update contents (sat.queue.slot entry) content)
          ((state.system.workers thread).holding.eraseIdx position) =
            (sat.shapes contents (state.system.workers thread).holding).eraseIdx position := by
        rw [Sat.shapes, Sat.shapes, List.eraseIdx_map]
        exact List.map_congr_left fun other member => congrArg Content.shape (kept other member)
      refine agrees.of_local thread sound ?_ ?_ ?_ fun _ _ free => .inl free
      · exact fun other differs =>
          ⟨System.setWorker_other _ _ differs _, Function.update_of_ne differs _ _⟩
      · intro index absent
        refine ⟨rfl, Function.update_of_ne ?_ _ _⟩
        rintro rfl
        exact absent (List.mem_append_left _ (List.mem_map_of_mem (List.mem_of_getElem? held)))
      · change sat.WorkerAgrees _ _ ((state.system.setWorker thread _).workers thread)
          (Function.update state.jobs thread _ thread)
        rw [System.setWorker_self, Function.update_self]
        refine ⟨?_, stored, .inr ?_⟩
        · intro other member
          have before := (agrees.workers thread).held other (List.mem_of_mem_eraseIdx member)
          exact ⟨before.offset, fun ref known => before.pattern ref (kept other member ▸ known)⟩
        · rw [shapes]
          exact (List.append_nil _).symm ▸ fits

omit [DecidableEq Thread] in
/-- A thread works on the pages it has: the entries keep their slots, and only
the contents of these pages change. -/
theorem Sat.Agrees.work (agrees : sat.Agrees contents state)
    {entries : List (PageEntry sat.Ref)} {result : Bool}
    (sound : after.system.Sound sat.queue)
    (pages : after.system.pages = state.system.pages)
    (locked : after.system.locked = state.system.locked)
    (others : ∀ other, other ≠ thread → after.system.workers other = state.system.workers other ∧
      after.jobs other = state.jobs other)
    (worker : after.system.workers thread = ⟨entries, .outside result⟩)
    (job : after.jobs thread = .running rest)
    (outside : ∀ index, index ∉ (state.system.workers thread).owned sat.queue →
      changed index = contents index)
    (held : ∀ entry ∈ entries, sat.Held changed entry)
    (fits : Fits (sat.shapes changed entries) rest) : sat.Agrees changed after := by
  refine agrees.of_local thread sound others ?_ ?_ ?_
  · exact fun index absent => ⟨congrFun pages index, outside index absent⟩
  · rw [worker, job]
    exact ⟨held, trivial, fits, result, rfl⟩
  · intro index _ free
    rw [locked] at free
    exact .inl free

end Agreement

/-! ### The sums -/

section Books

variable {sat : Sat Thread} [Fintype Thread] {contents changed : Nat → Content sat.Ref}
  {state after : sat.State} {faults : Nat}

variable [DecidableEq Thread]

end Books

/-! ### Work on a page -/

section Work

variable [DecidableEq Thread] {sat : Sat Thread} {contents changed : Nat → Content sat.Ref}
  {state after : sat.State} {thread : Thread} {rest : List Instruction}

omit [DecidableEq Thread] in
/-- A thread before its next call. -/
theorem Sat.Agrees.running (agrees : sat.Agrees contents state) {instruction : Instruction}
    (job : state.jobs thread = .running (instruction :: rest)) :
    (∃ shapes, instruction.result (sat.shapes contents (state.system.workers thread).holding) =
        some shapes ∧ Fits shapes rest) ∧
      ∃ result, (state.system.workers thread).phase = .outside result := by
  have fits := (agrees.workers thread).job
  rw [job] at fits
  exact fits

omit [DecidableEq Thread] in
theorem Sat.other_page {page index : Nat} (differs : index ≠ page) {before written : Memory}
    (outside : ∀ address, (∀ i < sat.setup.words, address ≠ sat.base page + i) →
      written address = before address) :
    ∀ i < sat.setup.words, written (sat.base index + i) = before (sat.base index + i) := by
  intro i inside
  apply outside
  intro j within
  rcases @Sat.base_apart _ sat _ _ differs with first | second <;> omega

variable [Fintype Thread] {faults : Nat}

omit [DecidableEq Thread] in
/-- What is left untouched by work on one page. -/
theorem Sat.Balanced.others (balanced : sat.Balanced contents state faults) {page : Nat}
    {content : Content sat.Ref} {written : Memory}
    (outside : ∀ address, (∀ i < sat.setup.words, address ≠ sat.base page + i) →
      written address = state.memory address) :
    ∀ index < sat.queue.qSize, index ≠ page →
      sat.Contains written index (Function.update contents page content index) ∧
        sat.due written index (Function.update contents page content index) =
          sat.due state.memory index (contents index) := by
  intro index inside differs
  have same := Sat.other_page differs outside
  rw [Function.update_of_ne differs]
  exact ⟨(balanced.contains index inside).congr same, Sat.due_congr _ same⟩

theorem content_eq_clean {Ref : Type} {content : Content Ref} {ref : Ref}
    (shape : content.shape = .clean) (known : content.ref = some ref) : content = .clean ref := by
  cases content with
  | clean other => rw [Option.some.inj known]
  | unchecked | inverted | empty => exact absurd shape (by simp [Content.shape])

end Work

end AmebaTests.Stressapptest
