/-
`PageEntryQueue`, the page queue with one lock.

The entries lie in a ring with one place left free.  A pop exchanges the entry
that came first with a random one and takes what is there then, so the ring is
no longer in the order of the pushes, but the last entry stays the last.
-/

import Mathlib.Logic.Function.Basic
import AmebaTests.Foundation.Runs

namespace AmebaTests.Stressapptest

open Foundation

structure PageEntryQueue (Page : Type) where
  qSize : Nat
  nextin : Nat
  nextout : Nat
  pushed : Nat
  popped : Nat
  pages : Nat → Page

namespace PageEntryQueue

variable {Page : Type}

/-- The constructor, over what the new array contains. -/
def make (queuesize : Nat) (pages : Nat → Page) : PageEntryQueue Page :=
  ⟨queuesize + 1, 0, 0, 0, 0, pages⟩

def push (queue : PageEntryQueue Page) (page : Page) : PageEntryQueue Page × Bool :=
  let nextnextin := (queue.nextin + 1) % queue.qSize
  if nextnextin ≠ queue.nextout then
    ({ queue with
      pages := Function.update queue.pages queue.nextin page
      nextin := nextnextin
      pushed := queue.pushed + 1 }, true)
  else (queue, false)

/-- The place `PopRandom` takes its entry from. -/
def newindex (queue : PageEntryQueue Page) (rand : Nat) : Nat :=
  let lastin := (queue.nextin + queue.qSize - 1) % queue.qSize
  let entries := (lastin + queue.qSize - queue.nextout) % queue.qSize
  if entries ≠ 0 then (rand % entries + queue.nextout) % queue.qSize else queue.nextout

def popRandom (queue : PageEntryQueue Page) (rand : Nat) : PageEntryQueue Page × Option Page :=
  if queue.nextin ≠ queue.nextout then
    let tmp := queue.pages queue.nextout
    let moved := Function.update queue.pages queue.nextout (queue.pages (queue.newindex rand))
    let pages := Function.update moved (queue.newindex rand) tmp
    ({ queue with
      pages := pages
      nextout := (queue.nextout + 1) % queue.qSize
      popped := queue.popped + 1 }, some (pages queue.nextout))
  else (queue, none)

end PageEntryQueue

inductive QueueEvent (Page : Type)
  | push (page : Page)
  | pop (rand : Nat)

namespace PageEntryQueue

variable {Page : Type}

def step (queue : PageEntryQueue Page) : QueueEvent Page → Option (PageEntryQueue Page)
  | .push page => some (queue.push page).1
  | .pop rand => some (queue.popRandom rand).1

/-- The ring has these entries, the next to come out in front. -/
structure Queued (queue : PageEntryQueue Page) (entries : List Page) : Prop where
  out : queue.nextout < queue.qSize
  room : entries.length < queue.qSize
  come : queue.nextin = (queue.nextout + entries.length) % queue.qSize
  cells : ∀ i page, entries[i]? = some page →
    queue.pages ((queue.nextout + i) % queue.qSize) = page

/-! ### The ring -/

section Ring

theorem wrap {x size : Nat} (twice : x < 2 * size) :
    x % size = if x < size then x else x - size := by
  by_cases below : x < size
  · rw [if_pos below, Nat.mod_eq_of_lt below]
  · rw [if_neg below, Nat.mod_eq_sub_mod (Nat.le_of_not_lt below), Nat.mod_eq_of_lt (by omega)]

/-- Places of a ring differ where their distances do. -/
theorem ring_injective {first second out size : Nat} (inside : out < size) (less : first < size)
    (bound : second < size) (same : (out + first) % size = (out + second) % size) :
    first = second := by
  rw [wrap (by omega), wrap (by omega)] at same
  split at same <;> split at same <;> omega

theorem ring_next (out size i : Nat) :
    ((out + 1) % size + i) % size = (out + (i + 1)) % size := by
  rw [Nat.mod_add_mod, Nat.add_right_comm, Nat.add_assoc]

end Ring

variable {queue : PageEntryQueue Page} {entries : List Page}

/-- A push finds room unless the queue has `queuesize` entries. -/
theorem Queued.push (queued : queue.Queued entries) (page : Page) :
    entries.length + 1 < queue.qSize ∧ (queue.push page).2 = true ∧
        (queue.push page).1.Queued (entries ++ [page]) ∨
      entries.length + 1 = queue.qSize ∧ queue.push page = (queue, false) := by
  have out := queued.out
  have room := queued.room
  have come := queued.come
  rw [wrap (by omega)] at come
  have next : (queue.nextin + 1) % queue.qSize = queue.nextout ↔
      entries.length + 1 = queue.qSize := by
    rw [wrap (by split at come <;> omega)]
    split at come <;> split <;> omega
  by_cases full : entries.length + 1 = queue.qSize
  · exact .inr ⟨full, if_neg (not_not.mpr (next.mpr full))⟩
  · left
    have pushes : queue.push page = ({ queue with
        pages := Function.update queue.pages queue.nextin page
        nextin := (queue.nextin + 1) % queue.qSize
        pushed := queue.pushed + 1 }, true) := if_pos fun same => full (next.mp same)
    rw [pushes]
    refine ⟨by omega, rfl, out, ?_, ?_, ?_⟩
    · rw [List.length_append]
      change entries.length + 1 < queue.qSize
      omega
    · change (queue.nextin + 1) % queue.qSize = _
      rw [queued.come, List.length_append, Nat.mod_add_mod, Nat.add_assoc]
      rfl
    · intro i found known
      change Function.update queue.pages queue.nextin page _ = found
      rw [queued.come]
      rcases Nat.lt_trichotomy i entries.length with less | equal | greater
      · rw [List.getElem?_append_left less] at known
        rw [Function.update_of_ne]
        · exact queued.cells i found known
        · intro same
          exact absurd (ring_injective out (by omega) (by omega) same) (Nat.ne_of_lt less)
      · rw [equal, List.getElem?_append_right (Nat.le_refl _), Nat.sub_self] at known
        rw [equal, Function.update_self]
        exact Option.some.inj known
      · rw [List.getElem?_eq_none] at known
        · exact absurd known (by simp)
        · rw [List.length_append, List.length_singleton]
          omega

/-- The entry a pop takes is one of the queue, and the last one only if it is alone. -/
theorem Queued.newindex (queued : queue.Queued entries) (some : 0 < entries.length)
    (rand : Nat) : ∃ position < entries.length,
      (1 < entries.length → position + 1 < entries.length) ∧
        queue.newindex rand = (queue.nextout + position) % queue.qSize := by
  have out := queued.out
  have room := queued.room
  have come := queued.come
  rw [wrap (by omega)] at come
  have last : (queue.nextin + queue.qSize - 1) % queue.qSize =
      (queue.nextout + (entries.length - 1)) % queue.qSize := by
    rw [wrap (by split at come <;> omega), wrap (by omega)]
    split at come <;> split <;> split <;> omega
  have behind : ((queue.nextout + (entries.length - 1)) % queue.qSize + queue.qSize -
      queue.nextout) % queue.qSize = entries.length - 1 := by
    rw [@wrap (queue.nextout + (entries.length - 1)) _ (by omega)]
    rw [wrap (by split <;> omega)]
    split <;> split <;> omega
  unfold PageEntryQueue.newindex
  simp only [last, behind]
  by_cases alone : entries.length - 1 = 0
  · refine ⟨0, some, by omega, ?_⟩
    rw [if_neg (not_not.mpr alone), Nat.add_zero, Nat.mod_eq_of_lt out]
  · have bound := Nat.mod_lt rand (Nat.pos_of_ne_zero alone)
    refine ⟨rand % (entries.length - 1), by omega, by omega, ?_⟩
    rw [if_pos alone, Nat.add_comm]

/-- The entries after the one at this position was exchanged with the first and taken. -/
def taken (first : Page) (entries : List Page) (position : Nat) : List Page :=
  (entries.set position first).tail

theorem taken_length (first : Page) (rest : List Page) (position : Nat) :
    (taken first (first :: rest) position).length = rest.length := by
  rw [taken, List.length_tail, List.length_set]
  rfl

theorem Queued.popRandom {first : Page} {rest : List Page}
    (queued : queue.Queued (first :: rest)) (rand : Nat) :
    ∃ position found, (first :: rest)[position]? = some found ∧
      (rest ≠ [] → position < rest.length) ∧
      (queue.popRandom rand).2 = some found ∧
      (queue.popRandom rand).1.Queued (taken first (first :: rest) position) := by
  obtain ⟨position, inside, more, index⟩ := queued.newindex (Nat.succ_pos _) rand
  have out := queued.out
  have room := queued.room
  have front : queue.pages queue.nextout = first := by
    have cell := queued.cells 0 first rfl
    rwa [Nat.add_zero, Nat.mod_eq_of_lt out] at cell
  have here : (first :: rest)[position]? = some (first :: rest)[position] :=
    List.getElem?_eq_getElem inside
  have nonempty : queue.nextin ≠ queue.nextout := by
    have come := queued.come
    rw [wrap (by omega)] at come
    rw [List.length_cons] at come room
    split at come <;> omega
  have pops : queue.popRandom rand = ({ queue with
      pages := Function.update (Function.update queue.pages queue.nextout
        (queue.pages (queue.newindex rand))) (queue.newindex rand) (queue.pages queue.nextout)
      nextout := (queue.nextout + 1) % queue.qSize
      popped := queue.popped + 1 },
      some (Function.update (Function.update queue.pages queue.nextout
        (queue.pages (queue.newindex rand))) (queue.newindex rand) (queue.pages queue.nextout)
          queue.nextout)) := if_pos nonempty
  refine ⟨position, _, here, ?_, ?_, ?_⟩
  · intro others
    have long : 0 < rest.length := List.length_pos_of_ne_nil others
    rw [List.length_cons] at more
    omega
  · rw [pops, index, queued.cells position _ here, front]
    by_cases same : queue.nextout = (queue.nextout + position) % queue.qSize
    · have start : 0 = position := ring_injective out (by omega) (by omega)
        (by rw [← same, Nat.add_zero, Nat.mod_eq_of_lt out])
      subst start
      rw [← same, Function.update_self]
      rfl
    · rw [Function.update_of_ne same, Function.update_self]
  · rw [pops]
    have length := taken_length first rest position
    refine ⟨Nat.mod_lt _ (by omega), ?_, ?_, ?_⟩
    · rw [length]
      exact Nat.lt_of_succ_lt room
    · change queue.nextin = ((queue.nextout + 1) % queue.qSize + _) % queue.qSize
      rw [length, ring_next, queued.come]
      rfl
    · intro i found known
      change Function.update (Function.update queue.pages _ _) _ _
        (((queue.nextout + 1) % queue.qSize + i) % queue.qSize) = found
      rw [ring_next, index, queued.cells position _ here, front]
      have bound : i < rest.length := by
        rw [← length]
        exact (List.getElem?_eq_some_iff.mp known).1
      rw [taken, List.getElem?_tail] at known
      rw [List.length_cons] at inside room
      by_cases moved : position = i + 1
      · subst moved
        rw [List.getElem?_set_self (by rw [List.length_cons]; omega)] at known
        rw [Function.update_self]
        exact Option.some.inj known
      · rw [List.getElem?_set_ne moved] at known
        rw [Function.update_of_ne, Function.update_of_ne]
        · exact queued.cells (i + 1) found known
        · intro same
          have start : i + 1 = 0 := ring_injective out (by omega) (by omega)
            (by rw [same, Nat.add_zero, Nat.mod_eq_of_lt out])
          omega
        · intro same
          exact moved (ring_injective out (by omega) (by omega) same).symm

theorem Queued.popEmpty (queued : queue.Queued []) (rand : Nat) :
    queue.popRandom rand = (queue, none) := by
  have come := queued.come
  rw [List.length_nil, Nat.add_zero, Nat.mod_eq_of_lt queued.out] at come
  exact if_neg (not_not.mpr come)

theorem exchange_perm {first found : Page} {rest : List Page} {position : Nat}
    (here : rest[position]? = some found) :
    (first :: rest).Perm (found :: rest.set position first) := by
  induction rest generalizing position with
  | nil => simp at here
  | cons second rest ih =>
      cases position with
      | zero =>
          obtain rfl : second = found := Option.some.inj here
          exact .swap second first rest
      | succ position =>
          have later : (first :: rest).Perm (found :: rest.set position first) := ih here
          calc first :: second :: rest
            _ |>.Perm (second :: first :: rest) := .swap second first rest
            _ |>.Perm (second :: found :: rest.set position first) := later.cons second
            _ |>.Perm (found :: second :: rest.set position first) := .swap found second _

theorem taken_perm {first found : Page} {rest : List Page} {position : Nat}
    (here : (first :: rest)[position]? = some found) :
    (first :: rest).Perm (found :: taken first (first :: rest) position) := by
  cases position with
  | zero =>
      obtain rfl : first = found := Option.some.inj here
      exact .refl _
  | succ position => exact exchange_perm here

/-- The entry that came last stays the last. -/
theorem taken_last {first : Page} {rest : List Page} {position : Nat}
    (early : position < rest.length) :
    (taken first (first :: rest) position).getLast? = (first :: rest).getLast? := by
  have nonempty : rest ≠ [] := List.ne_nil_of_length_pos (by omega)
  rw [List.getLast?_cons_of_ne_nil nonempty]
  cases position with
  | zero => rfl
  | succ position =>
      change (rest.set position first).getLast? = _
      rw [List.getLast?_eq_getElem?, List.getLast?_eq_getElem?, List.length_set,
        List.getElem?_set_ne (by omega)]

/-! ### Whole runs -/

/-- The pages a queue took in, newest first. -/
def accepted (history : History (PageEntryQueue Page) (QueueEvent Page)) : List Page :=
  history.filterMap fun entry =>
    match entry.2 with
    | .push page => if (entry.1.push page).2 then some page else none
    | .pop _ => none

/-- The pages it gave out. -/
def returned (history : History (PageEntryQueue Page) (QueueEvent Page)) : List Page :=
  history.filterMap fun entry =>
    match entry.2 with
    | .push _ => none
    | .pop rand => (entry.1.popRandom rand).2

/-- The entries of the queue are what it took in and has not given out, and the last
of them is what it took in last. -/
structure Conserves (queuesize : Nat) (history : History (PageEntryQueue Page) (QueueEvent Page))
    (queue : PageEntryQueue Page) (entries : List Page) : Prop where
  queued : queue.Queued entries
  size : queue.qSize = queuesize + 1
  pages : (accepted history).Perm (returned history ++ entries)
  newest : entries ≠ [] → entries.getLast? = (accepted history).head?

variable {queuesize : Nat} {history : History (PageEntryQueue Page) (QueueEvent Page)}

theorem Conserves.push (conserves : Conserves queuesize history queue entries) (page : Page) :
    ∃ after, Conserves queuesize ((queue, .push page) :: history) (queue.push page).1 after := by
  have returns : returned ((queue, .push page) :: history) = returned history :=
    List.filterMap_cons_none rfl
  rcases conserves.queued.push page with ⟨_, pushed, queued⟩ | ⟨_, refused⟩
  · have accepts : accepted ((queue, .push page) :: history) = page :: accepted history :=
      List.filterMap_cons_some (if_pos pushed)
    have size : (queue.push page).1.qSize = queue.qSize := by
      unfold PageEntryQueue.push
      dsimp only
      split <;> rfl
    refine ⟨entries ++ [page], queued, size.trans conserves.size, ?_, fun _ => ?_⟩
    · rw [accepts, returns, ← List.append_assoc]
      exact (conserves.pages.cons page).trans (List.perm_append_singleton page _).symm
    · rw [accepts, List.getLast?_concat]
      rfl
  · have accepts : accepted ((queue, .push page) :: history) = accepted history :=
      List.filterMap_cons_none (if_neg (by rw [refused]; exact Bool.false_ne_true))
    refine ⟨entries, ?_⟩
    rw [refused]
    exact ⟨conserves.queued, conserves.size, by rw [accepts, returns]; exact conserves.pages,
      by rw [accepts]; exact conserves.newest⟩

theorem Conserves.pop (conserves : Conserves queuesize history queue entries) (rand : Nat) :
    ∃ after, Conserves queuesize ((queue, .pop rand) :: history) (queue.popRandom rand).1 after := by
  have accepts : accepted ((queue, .pop rand) :: history) = accepted history :=
    List.filterMap_cons_none rfl
  cases entries with
  | nil =>
      have empty := conserves.queued.popEmpty rand
      have returns : returned ((queue, .pop rand) :: history) = returned history :=
        List.filterMap_cons_none (congrArg Prod.snd empty)
      refine ⟨[], ?_⟩
      rw [empty]
      exact ⟨conserves.queued, conserves.size, by rw [accepts, returns]; exact conserves.pages,
        fun nonempty => absurd rfl nonempty⟩
  | cons first rest =>
      obtain ⟨position, found, here, early, popped, queued⟩ := conserves.queued.popRandom rand
      have returns : returned ((queue, .pop rand) :: history) = found :: returned history :=
        List.filterMap_cons_some popped
      have size : (queue.popRandom rand).1.qSize = queue.qSize := by
        unfold PageEntryQueue.popRandom
        split <;> rfl
      refine ⟨_, queued, size.trans conserves.size, ?_, ?_⟩
      · rw [accepts, returns]
        refine conserves.pages.trans ?_
        refine ((taken_perm here).append_left _).trans ?_
        exact List.perm_middle
      · intro nonempty
        have others : rest ≠ [] := by
          rintro rfl
          apply nonempty
          exact List.eq_nil_of_length_eq_zero (taken_length first [] position)
        rw [accepts, taken_last (early others)]
        exact conserves.newest (List.cons_ne_nil _ _)

/-- From the empty queue on, whatever is pushed and popped in whatever order: no page is
lost or doubled, a push is refused only by a full queue and a pop only by an empty
one, and the page that came last goes out only as the last one. -/
theorem pages_are_conserved {pages : Nat → Page}
    (run : Run step (make queuesize pages) history queue) :
    ∃ entries, queue.Queued entries ∧
      (accepted history).Perm (returned history ++ entries) ∧
      (∀ page, (queue.push page).2 = true ↔ entries.length < queuesize) ∧
      (∀ rand, (queue.popRandom rand).2 = none ↔ entries = []) ∧
      (entries ≠ [] → entries.getLast? = (accepted history).head?) ∧
      ∀ rand page, (queue.popRandom rand).2 = some page →
        page ∈ entries ∧ (1 < entries.length → page ∈ entries.dropLast) := by
  have kept : ∃ entries, Conserves queuesize history queue entries := by
    refine run.invariant (fun past now => ∃ entries, Conserves queuesize past now entries) ?_ ?_
    · refine ⟨[], ⟨Nat.succ_pos _, Nat.succ_pos _, (Nat.zero_mod _).symm, ?_⟩, rfl, .refl _, ?_⟩
      · intro i page known
        simp at known
      · exact fun nonempty => absurd rfl nonempty
    · rintro past now event after _ ⟨entries, conserves⟩ stepped
      cases event with
      | push page =>
          cases stepped
          exact conserves.push page
      | pop rand =>
          cases stepped
          exact conserves.pop rand
  obtain ⟨entries, conserves⟩ := kept
  have queued := conserves.queued
  have size := conserves.size
  refine ⟨entries, queued, conserves.pages, ?_, ?_, conserves.newest, ?_⟩
  · intro page
    rcases queued.push page with ⟨room, pushed, _⟩ | ⟨full, refused⟩
    · exact ⟨fun _ => by omega, fun _ => pushed⟩
    · rw [refused]
      exact ⟨fun wrong => absurd wrong Bool.false_ne_true, fun room => by omega⟩
  · intro rand
    cases entries with
    | nil => exact ⟨fun _ => rfl, fun _ => congrArg Prod.snd (queued.popEmpty rand)⟩
    | cons first rest =>
        obtain ⟨position, found, _, _, popped, _⟩ := queued.popRandom rand
        rw [popped]
        exact ⟨fun wrong => absurd wrong (by simp), fun wrong => absurd wrong (by simp)⟩
  · intro rand page popped
    cases entries with
    | nil =>
        rw [queued.popEmpty rand] at popped
        exact absurd popped (by simp)
    | cons first rest =>
        obtain ⟨position, found, here, early, same, _⟩ := queued.popRandom rand
        obtain rfl : found = page := Option.some.inj (same.symm.trans popped)
        refine ⟨List.mem_of_getElem? here, fun several => ?_⟩
        rw [List.length_cons] at several
        have others := early (List.ne_nil_of_length_pos (by omega))
        apply List.mem_of_getElem? (i := position)
        rw [List.getElem?_dropLast, if_pos (by rw [List.length_cons]; omega)]
        exact here

/-- Three pages, and a pop that takes the second of them. -/
theorem three_pages_are_conserved : ∃ history, ∃ queue : PageEntryQueue Nat,
    Run step (make 3 fun _ => 0) history queue ∧ returned history = [20] ∧
      ∃ entries, queue.Queued entries ∧
        (accepted history).Perm (returned history ++ entries) ∧
        (∀ page, (queue.push page).2 = true ↔ entries.length < 3) ∧
        (∀ rand, (queue.popRandom rand).2 = none ↔ entries = []) ∧
        (entries ≠ [] → entries.getLast? = (accepted history).head?) ∧
        ∀ rand page, (queue.popRandom rand).2 = some page →
          page ∈ entries ∧ (1 < entries.length → page ∈ entries.dropLast) := by
  have first := @Run.next _ _ step (make 3 fun _ => 0) _ _ _ (.push 10) .start rfl
  have second := @Run.next _ _ step (make 3 fun _ => 0) _ _ _ (.push 20) first rfl
  have third := @Run.next _ _ step (make 3 fun _ => 0) _ _ _ (.push 30) second rfl
  have run := @Run.next _ _ step (make 3 fun _ => 0) _ _ _ (.pop 5) third rfl
  exact ⟨_, _, run, rfl, pages_are_conserved run⟩

end PageEntryQueue

end AmebaTests.Stressapptest
