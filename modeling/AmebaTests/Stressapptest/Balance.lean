/-
Every fault is counted once.

What the threads have counted and what is still due in the pages make up the
faults, in every interleaving of the threads with the faults.  So there is no
error without a fault, and when all pages are back in the queue a fault that is
not counted is still to be seen in a valid page.
-/

import AmebaTests.Stressapptest.Accounts

namespace AmebaTests.Stressapptest

open Foundation

variable {Thread : Type}

/-! ### Calls of the queue -/

section Calls

variable [DecidableEq Thread] {sat : Sat Thread} {contents : Nat → Content sat.Ref}
  {state after : sat.State} {thread : Thread} {rest : List Instruction}

omit [DecidableEq Thread] in
/-- What a page contains when it is put back, and that nothing becomes due. -/
theorem Sat.Contains.put {memory : Memory} {entry : PageEntry sat.Ref} {kind : Wanted}
    {shape : Shape}
    (contains : sat.Contains memory (sat.queue.slot entry) (contents (sat.queue.slot entry)))
    (held : sat.Held contents entry) (here : (contents (sat.queue.slot entry)).shape = shape)
    (allowed : kind = .valid ∧ shape = .unchecked ∨ shape = .clean)
    (pages : Nat → PageEntry sat.Ref) :
    ∃ content, sat.PhaseAgrees (Function.update contents (sat.queue.slot entry) content) pages
        (.storing kind entry) ∧
      sat.Contains memory (sat.queue.slot entry) content ∧
      sat.due memory (sat.queue.slot entry) content =
        sat.due memory (sat.queue.slot entry) (contents (sat.queue.slot entry)) := by
  have checkable : (contents (sat.queue.slot entry)).shape = .unchecked ∨
      (contents (sat.queue.slot entry)).shape = .clean := by
    rw [here]
    rcases allowed with ⟨_, unchecked⟩ | clean
    · exact .inl unchecked
    · exact .inr clean
  have nonempty : (contents (sat.queue.slot entry)).shape ≠ .empty := by
    rcases checkable with unchecked | clean
    · rw [unchecked]
      decide
    · rw [clean]
      decide
  obtain ⟨ref, known⟩ := Content.ref_of_shape nonempty
  cases kind with
  | valid =>
      obtain ⟨few, due⟩ := contains.checkable checkable known
      refine ⟨.unchecked ref, ⟨held.offset, ?_⟩, few, due.symm⟩
      rw [Function.update_self, filedContent, held.pattern ref known]
  | empty =>
      have clean : shape = .clean := allowed.resolve_left fun valid => Wanted.noConfusion valid.1
      rw [content_eq_clean (here.trans clean) known] at contains ⊢
      exact ⟨.empty, ⟨held.offset, Function.update_self _ _ _⟩, tags_of_holds contains, rfl⟩

variable [Fintype Thread] {faults : Nat}

end Calls

/-! ### Steps -/

section Steps

variable [DecidableEq Thread] [Fintype Thread] {sat : Sat Thread}
  {contents : Nat → Content sat.Ref} {state after : sat.State} {thread : Thread}
  {rest : List Instruction} {faults : Nat}

end Steps

/-! ### Runs -/

section Runs

variable (sat : Sat Thread)

/-- After `InitializePages`, before the threads start: all pages are in the queue,
filled with their pattern or empty. -/
structure Sat.Prepared (state : sat.State) : Prop where
  locked : ∀ index, state.system.locked index = false
  randLocked : ∀ slot, state.system.randLocked slot = false
  filed : ∀ index < sat.queue.qSize,
    (state.system.pages index).offset = index * sat.queue.pageSize
  contains : ∀ index < sat.queue.qSize,
    match (state.system.pages index).pattern with
    | some ref => Holds sat.setup (sat.setup.pattern ref) (sat.base index) state.memory
    | none => ∀ i ∈ tagged sat.setup (List.range sat.setup.words),
        state.memory (sat.base index + i) = addrToTag (sat.base index + i)
  workers : ∀ thread, state.system.workers thread = ⟨[], .outside true⟩
  jobs : ∀ thread, state.jobs thread = .idle
  counts : ∀ thread, state.errorcount thread = 0

/-- The faults of a run. -/
def faults {State : Type} (history : History State (Sat.Event Thread)) : Nat :=
  history.countP fun entry => entry.2.isFault

variable {sat} {start state after : sat.State} {contents : Nat → Content sat.Ref}

theorem Sat.Prepared.sound (prepared : sat.Prepared start) : start.system.Sound sat.queue := by
  have nothing : ∀ thread, (start.system.workers thread).owned sat.queue = [] := by
    intro thread
    rw [prepared.workers]
    rfl
  have positive : 0 < sat.queue.pageSize := sat.pageSize ▸ sat.positive
  refine ⟨.of_nothing prepared.locked nothing, ?_, ?_⟩
  · intro index inside _
    rw [Queue.slot, prepared.filed index inside, Nat.mul_div_cancel _ positive]
  · intro thread
    rw [prepared.workers]
    exact ⟨fun entry member => absurd member List.not_mem_nil, trivial⟩

theorem Sat.Prepared.agrees (prepared : sat.Prepared start) :
    sat.Agrees (fun index => filedContent (start.system.pages index)) start := by
  refine ⟨prepared.sound, ?_, ?_⟩
  · exact fun index inside _ => ⟨prepared.filed index inside, rfl⟩
  · intro thread
    rw [prepared.workers, prepared.jobs]
    exact ⟨fun entry member => absurd member List.not_mem_nil, trivial, rfl, true, rfl⟩

variable [Fintype Thread]

theorem Sat.Prepared.balanced (prepared : sat.Prepared start) :
    sat.Balanced (fun index => filedContent (start.system.pages index)) start 0 := by
  have pages : ∀ index < sat.queue.qSize,
      sat.Contains start.memory index (filedContent (start.system.pages index)) ∧
        sat.due start.memory index (filedContent (start.system.pages index)) = 0 := by
    intro index inside
    have contains := prepared.contains index inside
    unfold filedContent
    cases known : (start.system.pages index).pattern with
    | some ref =>
        rw [known] at contains
        refine ⟨fun block within => ?_, wrongAt_of_holds contains⟩
        rw [damage_of_holds contains within]
        exact Nat.zero_le 2
    | none =>
        rw [known] at contains
        exact ⟨contains, rfl⟩
  refine ⟨fun index inside => (pages index inside).1, ?_⟩
  rw [Finset.sum_eq_zero fun thread _ => prepared.counts thread,
    Finset.sum_eq_zero fun index member => (pages index (Finset.mem_range.mp member)).2,
    Nat.add_zero]

variable [DecidableEq Thread]

end Runs

end AmebaTests.Stressapptest
