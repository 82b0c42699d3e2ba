/-
The echo loop of the UART loopback test.

Each `read` stores its chunk at the front of a 512-byte array that was cleared
once, before the loop.  The program stores a terminator at `nByte + 1`, one byte
too far, echoes the string it finds in the array and clears as many bytes as
that string has.
-/

import AmebaTests.Foundation.Bytes
import AmebaTests.Foundation.Runs

namespace AmebaTests.Uart

open Foundation

structure Buffer where
  bytes : List UInt8
  size : bytes.length = 512

namespace Buffer

def zeroed : Buffer where
  bytes := List.replicate 512 0
  size := List.length_replicate

def receive (buffer : Buffer) (chunk : List UInt8) : Buffer where
  bytes := overlay (chunk.take 512) buffer.bytes
  size := by
    have fits : (chunk.take 512).length ≤ buffer.bytes.length := by
      rw [buffer.size]
      exact List.length_take_le 512 chunk
    rw [length_overlay fits, buffer.size]

/-- A store at an index; one from 512 on misses the array. -/
def put (buffer : Buffer) (index : Nat) (byte : UInt8) : Buffer where
  bytes := buffer.bytes.set index byte
  size := by rw [List.length_set, buffer.size]

def clearString (buffer : Buffer) : Buffer where
  bytes := clear (strlen buffer.bytes) buffer.bytes
  size := by
    have fits : (List.replicate (strlen buffer.bytes) (0 : UInt8)).length ≤
        buffer.bytes.length := by
      rw [List.length_replicate]
      exact strlen_le_length buffer.bytes
    rw [clear, length_overlay fits, buffer.size]

end Buffer

/-- `received` and `echoed` are the bytes read and written back so far; `returned`
is set once a short write has made the program return. -/
structure State where
  buffer : Buffer
  received : List UInt8
  echoed : List UInt8
  returned : Option Int

/-- A read of some bytes with the answer of the write that follows, or a read
that brought nothing. -/
inductive Event
  | read (chunk : List UInt8) (ret : Int)
  | nothing

def start : State where
  buffer := .zeroed
  received := []
  echoed := []
  returned := none

def terminated (buffer : Buffer) (chunk : List UInt8) : Buffer :=
  (buffer.receive chunk).put (chunk.length + 1) 0

def echoRound (s : State) (chunk : List UInt8) (ret : Int) : State :=
  let buffer := terminated s.buffer chunk
  let echoed := s.echoed ++ (cString buffer.bytes).take ret.toNat
  if ret ≠ strlen buffer.bytes then
    { buffer := buffer
      received := s.received ++ chunk
      echoed := echoed
      returned := some ret }
  else
    { buffer := buffer.clearString
      received := s.received ++ chunk
      echoed := echoed
      returned := none }

def step (s : State) : Event → Option State
  | .read chunk ret =>
      if s.returned = none ∧ 1 ≤ chunk.length ∧ chunk.length ≤ 512 then
        some (echoRound s chunk ret)
      else none
  | .nothing => if s.returned = none then some s else none

@[simp] theorem echoRound_received (s : State) (chunk : List UInt8) (ret : Int) :
    (echoRound s chunk ret).received = s.received ++ chunk := by
  unfold echoRound
  dsimp only
  split <;> rfl

@[simp] theorem echoRound_echoed (s : State) (chunk : List UInt8) (ret : Int) :
    (echoRound s chunk ret).echoed =
      s.echoed ++ (cString (terminated s.buffer chunk).bytes).take ret.toNat := by
  unfold echoRound
  dsimp only
  split <;> rfl

theorem step_cases {s successor : State} {event : Event}
    (taken : step s event = some successor) :
    (∃ chunk ret, event = .read chunk ret ∧ chunk.length ≤ 512 ∧
        successor = echoRound s chunk ret) ∨
      (event = .nothing ∧ successor = s) := by
  cases event with
  | read chunk ret =>
      simp only [step] at taken
      split at taken
      · rename_i enabled
        cases taken
        exact Or.inl ⟨chunk, ret, rfl, enabled.2.2, rfl⟩
      · cases taken
  | nothing =>
      simp only [step] at taken
      split at taken
      · cases taken
        exact Or.inr ⟨rfl, rfl⟩
      · cases taken

/-! ### One round on a cleared array -/

theorem terminated_zeroed {chunk : List UInt8} (fits : chunk.length ≤ 512) :
    (terminated .zeroed chunk).bytes =
      overlay chunk (List.replicate 512 0) := by
  have whole : chunk.take 512 = chunk := List.take_of_length_le fits
  have behind : chunk.length ≤ chunk.length + 1 := Nat.le_succ _
  change (overlay (chunk.take 512) (List.replicate 512 0)).set (chunk.length + 1) 0 = _
  rw [whole, overlay, List.drop_replicate, List.set_append_right _ _ behind,
    List.set_replicate_self]

theorem cString_zeros (count : Nat) : cString (List.replicate count 0) = [] := by
  cases count with
  | zero => rfl
  | succ count => rfl

theorem echoed_zeroed {chunk : List UInt8} (fits : chunk.length ≤ 512) (text : 0 ∉ chunk) :
    cString (terminated .zeroed chunk).bytes = chunk := by
  rw [terminated_zeroed fits, cString_overlay text, List.drop_replicate, cString_zeros,
    List.append_nil]

theorem clearString_zeroed {chunk : List UInt8} (fits : chunk.length ≤ 512)
    (text : 0 ∉ chunk) : (terminated .zeroed chunk).clearString = .zeroed := by
  have echoed := echoed_zeroed fits text
  have length : strlen (terminated .zeroed chunk).bytes = chunk.length := by
    rw [strlen, echoed]
  have bytes : (terminated .zeroed chunk).clearString.bytes = List.replicate 512 0 := by
    change clear (strlen (terminated .zeroed chunk).bytes) _ = _
    rw [length, terminated_zeroed fits, clear, overlay, overlay, List.length_replicate,
      List.drop_left, List.drop_replicate, List.replicate_append_replicate]
    congr 1
    omega
  cases cleared : (terminated .zeroed chunk).clearString with
  | mk contents size =>
      rw [cleared] at bytes
      cases bytes
      rfl

/-! ### The whole stream -/

/-- A chunk of at most 510 bytes, and a write that accepts all it is given. -/
def Accepting (s : State) : Event → Prop
  | .read chunk ret =>
      chunk.length ≤ 510 ∧ ret = strlen (terminated s.buffer chunk).bytes
  | .nothing => True

def WithoutZero : Event → Prop
  | .read chunk _ => 0 ∉ chunk
  | .nothing => True

theorem echoRound_faithful {s : State} {chunk : List UInt8} {ret : Int}
    (cleared : s.buffer = .zeroed) (same : s.echoed = s.received)
    (accepting : Accepting s (.read chunk ret)) (text : 0 ∉ chunk) :
    (echoRound s chunk ret).buffer = .zeroed ∧
      (echoRound s chunk ret).echoed = (echoRound s chunk ret).received := by
  obtain ⟨short, accepted⟩ := accepting
  have fits : chunk.length ≤ 512 := by omega
  rw [cleared] at accepted
  have length : strlen (terminated .zeroed chunk).bytes = chunk.length := by
    rw [strlen, echoed_zeroed fits text]
  have all : ret.toNat = chunk.length := by omega
  constructor
  · rw [echoRound, cleared, if_neg (not_not_intro accepted)]
    exact clearString_zeroed fits text
  · rw [echoRound_echoed, echoRound_received, cleared, echoed_zeroed fits text, all,
      List.take_length, same]

theorem run_faithful {history : History State Event} {s : State} (run : Run step start history s)
    (allowed : ∀ entry ∈ history, Accepting entry.1 entry.2 ∧ WithoutZero entry.2) :
    s.echoed = s.received := by
  have kept : s.buffer = .zeroed ∧ s.echoed = s.received := by
    apply Run.invariant_of_allowed
      (fun s event => Accepting s event ∧ WithoutZero event)
      (fun _ s => s.buffer = .zeroed ∧ s.echoed = s.received) ⟨rfl, rfl⟩ ?_ run allowed
    intro history s event successor holds permitted taken
    rcases step_cases taken with ⟨chunk, ret, rfl, _fits, rfl⟩ | ⟨rfl, rfl⟩
    · exact echoRound_faithful holds.1 holds.2 permitted.1 permitted.2
    · exact holds
  exact kept.2

theorem zero_not_mem_echoed {history : History State Event} {s : State}
    (run : Run step start history s) : 0 ∉ s.echoed := by
  apply Run.invariant (fun _ s => 0 ∉ s.echoed) List.not_mem_nil ?_ run
  intro history s event successor _run holds taken
  rcases step_cases taken with ⟨chunk, ret, rfl, _fits, rfl⟩ | ⟨rfl, rfl⟩
  · rw [echoRound_echoed]
    intro member
    rcases List.mem_append.mp member with earlier | now
    · exact holds earlier
    · exact zero_not_mem_cString _ (List.mem_of_mem_take now)
  · exact holds

theorem chunk_subset_received {history : History State Event} {s : State}
    (run : Run step start history s) :
    ∀ entry ∈ history, ∀ chunk ret, entry.2 = .read chunk ret → chunk ⊆ s.received := by
  apply Run.invariant (fun history s => ∀ entry ∈ history, ∀ chunk ret,
    entry.2 = .read chunk ret → chunk ⊆ s.received) ?_ ?_ run
  · intro entry member
    exact absurd member List.not_mem_nil
  · intro history s event successor _run holds taken entry member chunk ret isRead
    rcases step_cases taken with ⟨newChunk, newRet, rfl, _fits, rfl⟩ | ⟨rfl, rfl⟩
    · rw [echoRound_received]
      rcases List.mem_cons.mp member with newest | older
      · rw [newest] at isRead
        cases isRead
        exact List.subset_append_right _ _
      · exact List.Subset.trans (holds entry older chunk ret isRead)
          (List.subset_append_left _ _)
    · rcases List.mem_cons.mp member with newest | older
      · rw [newest] at isRead
        cases isRead
      · exact holds entry older chunk ret isRead

/-- With every write accepting all it is given, the echoed stream is the received
one exactly when no chunk contains a zero byte. -/
theorem echoed_eq_received_iff {history : History State Event} {s : State}
    (run : Run step start history s)
    (accepting : ∀ entry ∈ history, Accepting entry.1 entry.2) :
    s.echoed = s.received ↔ ∀ entry ∈ history, WithoutZero entry.2 := by
  constructor
  · intro same entry member
    cases isRead : entry.2 with
    | read chunk ret =>
        intro zero
        have inside := chunk_subset_received run entry member chunk ret isRead
        rw [← same] at inside
        exact zero_not_mem_echoed run (inside zero)
    | nothing => trivial
  · intro text
    exact run_faithful run fun entry member => ⟨accepting entry member, text entry member⟩

theorem echoed_one_chunk :
    ∃ history s, Run step start history s ∧ s.received = [72, 105] ∧
      (∀ entry ∈ history, Accepting entry.1 entry.2) ∧
      (s.echoed = s.received ↔ ∀ entry ∈ history, WithoutZero entry.2) := by
  have taken : step start (.read [72, 105] 2) = some (echoRound start [72, 105] 2) := rfl
  have run := Run.start.next taken
  have accepting : ∀ entry ∈ [(start, Event.read [72, 105] 2)],
      Accepting entry.1 entry.2 := by
    intro entry member
    rw [List.mem_singleton.mp member]
    exact ⟨by decide, by rw [strlen, start, echoed_zeroed (by decide) (by decide)]; rfl⟩
  exact ⟨_, _, run, by rw [echoRound_received]; rfl, accepting,
    echoed_eq_received_iff run accepting⟩

theorem echoed_loses_after_zero :
    ∃ history s, Run step start history s ∧
      (∀ entry ∈ history, Accepting entry.1 entry.2) ∧
      s.received = [65, 0, 66] ∧ s.echoed = [65] := by
  have taken : step start (.read [65, 0, 66] 1) = some (echoRound start [65, 0, 66] 1) := rfl
  have echoed : cString (terminated .zeroed [65, 0, 66]).bytes = [65] := rfl
  have accepting : ∀ entry ∈ [(start, Event.read [65, 0, 66] 1)],
      Accepting entry.1 entry.2 := by
    intro entry member
    rw [List.mem_singleton.mp member]
    exact ⟨by decide, by rw [strlen, start, echoed]; rfl⟩
  refine ⟨_, _, Run.start.next taken, accepting, ?_, ?_⟩
  · rw [echoRound_received]
    rfl
  · rw [echoRound_echoed, start, echoed]
    rfl

/-! ### The indices of a round -/

/-- The indices of the array that a round uses: for the bytes received, for the
terminator, for the scan up to the first zero byte, for the bytes given to
`write`, and for the bytes cleared behind a complete one. -/
def usedIndices (s : State) : Event → List Nat
  | .read chunk ret =>
      let length := strlen (terminated s.buffer chunk).bytes
      List.range chunk.length ++ [chunk.length + 1] ++ List.range (length + 1) ++
        List.range length ++ if ret ≠ length then [] else List.range length
  | .nothing => []

def Short : Event → Prop
  | .read chunk _ => chunk.length ≤ 510
  | .nothing => True

theorem strlen_terminated_le (buffer : Buffer) {chunk : List UInt8}
    (short : chunk.length ≤ 510) :
    strlen (terminated buffer chunk).bytes ≤ chunk.length + 1 := by
  apply strlen_le_of_zero
  have inside : chunk.length + 1 < (buffer.receive chunk).bytes.length := by
    rw [Buffer.size]
    omega
  exact List.getElem?_set_self inside

theorem terminator_mem_usedIndices (s : State) (chunk : List UInt8) (ret : Int) :
    chunk.length + 1 ∈ usedIndices s (.read chunk ret) := by
  simp [usedIndices]

theorem usedIndices_below_iff (s : State) (event : Event) :
    (∀ index ∈ usedIndices s event, index < 512) ↔ Short event := by
  cases event with
  | nothing =>
      constructor
      · intro _below
        trivial
      · intro _short index member
        exact absurd member List.not_mem_nil
  | read chunk ret =>
      constructor
      · intro below
        have bound := below _ (terminator_mem_usedIndices s chunk ret)
        change chunk.length ≤ 510
        omega
      · intro short index member
        have scanned := strlen_terminated_le s.buffer short
        have bound : chunk.length ≤ 510 := short
        have ranges : index < chunk.length ∨ index = chunk.length + 1 ∨
            index ≤ strlen (terminated s.buffer chunk).bytes := by
          simp only [usedIndices, List.mem_append, List.mem_range, List.mem_singleton] at member
          rcases member with (((received | terminator) | scan) | written) | cleared
          · exact Or.inl received
          · exact Or.inr (Or.inl terminator)
          · exact Or.inr (Or.inr (Nat.le_of_lt_succ scan))
          · exact Or.inr (Or.inr (Nat.le_of_lt written))
          · split at cleared
            · cases cleared
            · exact Or.inr (Or.inr (Nat.le_of_lt (List.mem_range.mp cleared)))
        rcases ranges with received | terminator | scan
        · omega
        · omega
        · omega

/-- Every index of every round lies in the array exactly when no chunk has more
than 510 bytes. -/
theorem indices_below_iff (history : History State Event) :
    (∀ entry ∈ history, ∀ index ∈ usedIndices entry.1 entry.2, index < 512) ↔
      ∀ entry ∈ history, Short entry.2 := by
  constructor
  · intro below entry member
    exact (usedIndices_below_iff entry.1 entry.2).mp (below entry member)
  · intro short entry member
    exact (usedIndices_below_iff entry.1 entry.2).mpr (short entry member)

theorem indices_below_one_chunk :
    ∃ history s, Run step start history s ∧ s.received = [72, 105] ∧
      ((∀ entry ∈ history, ∀ index ∈ usedIndices entry.1 entry.2, index < 512) ↔
        ∀ entry ∈ history, Short entry.2) := by
  have taken : step start (.read [72, 105] 2) = some (echoRound start [72, 105] 2) := rfl
  have run := Run.start.next taken
  exact ⟨_, _, run, by rw [echoRound_received]; rfl, indices_below_iff _⟩

/-- A chunk of 511 bytes puts its terminator behind the array. -/
theorem terminator_behind_array :
    ∃ history s, Run step start history s ∧ s.received = List.replicate 511 65 ∧
      ∃ entry ∈ history, 512 ∈ usedIndices entry.1 entry.2 := by
  have length : (List.replicate 511 (65 : UInt8)).length = 511 := List.length_replicate
  have taken : step start (.read (List.replicate 511 65) 511) =
      some (echoRound start (List.replicate 511 65) 511) := by
    rw [step, length]
    rfl
  refine ⟨_, _, Run.start.next taken, ?_, _, List.mem_cons_self, ?_⟩
  · rw [echoRound_received]
    rfl
  · have member := terminator_mem_usedIndices start (List.replicate 511 65) 511
    rw [length] at member
    exact member

end AmebaTests.Uart
