/-
The channel and the two coherent buffers of one invocation.

They are acquired in round one and handed back by `rtk_dmac_test_end`, which two
of the three ways out of the function call and which takes whatever the locals
hold.  `Held` follows an invocation that will hand back exactly what it acquired,
`Leaky` one that no longer can.
-/

import AmebaTests.Dmac.Rounds

namespace AmebaTests.Dmac

open Foundation

/-- What was acquired has been released exactly once, and nothing else has. -/
def Disciplined (s : State) : Prop :=
  (∀ resource ∈ s.acquired, s.released.count (some resource) = 1) ∧
    ∀ handed ∈ s.released, ∃ resource ∈ s.acquired, handed = some resource

/-- The steps that keep the discipline: `slave_config` accepts, the chain does not
read FAIL before round one, and in round one it does not read FAIL in its last
test, where the round would go on and request a second channel. -/
def Releases (s : State) : Event → Prop
  | .main =>
      (s.point = .pollFail → s.dmaTestTimes = 0 → s.dmaCyclicStatus ≠ .fail) ∧
        (s.point = .pollSuccess → s.dmaTestTimes = 1 → s.dmaCyclicStatus ≠ .fail)
  | .slaveConfig ret => ret = 0
  | _ => True

def HoldsNothing (s : State) : Prop :=
  s.acquired = [] ∧ s.released = [] ∧ s.testAddr.bufSrc = none ∧ s.config = none

def HoldsBuffers (s : State) (buffer : Nat) : Prop :=
  s.acquired = [.coherent buffer, .coherent (buffer + 1)] ∧ s.released = [] ∧
    s.testAddr.bufSrc = some buffer ∧ s.testAddr.bufDst = some (buffer + 1)

def HoldsAll (s : State) (buffer channel : Nat) : Prop :=
  s.acquired = [.coherent buffer, .coherent (buffer + 1), .channel channel] ∧
    s.released = [] ∧ s.testAddr.bufSrc = some buffer ∧
    s.testAddr.bufDst = some (buffer + 1) ∧ s.chan = some channel ∧
    s.config.isSome = true ∧ channel < s.nextHandle

def Started (s : State) : Prop :=
  (s.dmaTestTimes = 0 → HoldsNothing s) ∧
    (s.dmaTestTimes ≠ 0 → ∃ buffer channel, HoldsAll s buffer channel)

def Held (s : State) : Prop :=
  match s.point with
  | .loopTest => Started s
  | .pollFail => Started s
  | .pollWait => Started s
  | .pollSuccess => s.dmaCyclicStatus ≠ .wait ∧ Started s
  | .setWait => Started s
  | .prepare => Started s
  | .fill _ =>
      (s.dmaTestTimes = 0 → ∃ buffer, HoldsBuffers s buffer) ∧
        (s.dmaTestTimes ≠ 0 → ∃ buffer channel, HoldsAll s buffer channel)
  | .increment =>
      (s.dmaTestTimes = 0 → ∃ buffer, HoldsBuffers s buffer) ∧
        (s.dmaTestTimes ≠ 0 → ∃ buffer channel, HoldsAll s buffer channel)
  | .requestChan =>
      (s.dmaTestTimes = 0 → HoldsNothing s) ∧
        (s.dmaTestTimes = 1 → ∃ buffer, HoldsBuffers s buffer) ∧
        (2 ≤ s.dmaTestTimes → ∃ buffer channel, HoldsAll s buffer channel)
  | .slaveConfig => Started s
  | .submit => s.dmaTestTimes ≠ 0 ∧ ∃ buffer channel, HoldsAll s buffer channel
  | .tailPoll => ∃ buffer channel, HoldsAll s buffer channel
  | .endFail => ∃ buffer channel, HoldsAll s buffer channel
  | .endSuccess => ∃ buffer channel, HoldsAll s buffer channel
  | .returned _ => Disciplined s
  | .undefined => True

/-- A requested channel that `chan` no longer names. -/
def LostChannel (s : State) : Prop :=
  s.released = [] ∧
    ∃ channel, .channel channel ∈ s.acquired ∧ s.chan ≠ some channel ∧
      channel < s.nextHandle

def Leaky (s : State) : Prop :=
  match s.point with
  | .requestChan =>
      LostChannel s ∨
        (s.dmaTestTimes = 1 ∧ ∃ buffer channel, HoldsAll s buffer channel)
  | .endFail => LostChannel s ∨ HoldsNothing s
  | .returned _ => ¬ Disciplined s
  | .undefined => True
  | _ => LostChannel s

/-! ### The release itself -/

theorem HoldsAll.end_disciplined {s : State} {buffer channel : Nat}
    (holds : HoldsAll s buffer channel) (next : Point) :
    Disciplined (rtkDmacTestEnd s next) := by
  obtain ⟨acquired, released, bufSrc, bufDst, chan, _config, _older⟩ := holds
  have handedBack : (rtkDmacTestEnd s next).released =
      [some (.channel channel), some (.coherent buffer), some (.coherent (buffer + 1))] := by
    simp [rtkDmacTestEnd, released, chan, bufSrc, bufDst]
  have kept : (rtkDmacTestEnd s next).acquired =
      [.coherent buffer, .coherent (buffer + 1), .channel channel] := acquired
  rw [Disciplined, handedBack, kept]
  constructor
  · intro resource member
    simp only [List.mem_cons, List.not_mem_nil, or_false] at member
    rcases member with rfl | rfl | rfl <;> simp
  · intro handed member
    simp only [List.mem_cons, List.not_mem_nil, or_false] at member
    rcases member with rfl | rfl | rfl <;> simp

theorem LostChannel.end_undisciplined {s : State} (lost : LostChannel s) (next : Point) :
    ¬ Disciplined (rtkDmacTestEnd s next) := by
  obtain ⟨released, channel, member, other, _older⟩ := lost
  intro disciplined
  have once := disciplined.1 (.channel channel) member
  have absent : (rtkDmacTestEnd s next).released.count (some (.channel channel)) = 0 := by
    rw [List.count_eq_zero]
    simp only [rtkDmacTestEnd, released, List.nil_append, List.mem_cons, List.not_mem_nil,
      or_false]
    intro handed
    rcases handed with same | same | same
    · obtain ⟨named, held, sameNamed⟩ := Option.map_eq_some_iff.mp same.symm
      cases sameNamed
      exact other held
    · obtain ⟨buffer, _held, impossible⟩ := Option.map_eq_some_iff.mp same.symm
      cases impossible
    · obtain ⟨buffer, _held, impossible⟩ := Option.map_eq_some_iff.mp same.symm
      cases impossible
  omega

theorem HoldsNothing.end_undisciplined {s : State} (nothing : HoldsNothing s) (next : Point) :
    ¬ Disciplined (rtkDmacTestEnd s next) := by
  obtain ⟨_acquired, _released, bufSrc, _config⟩ := nothing
  intro disciplined
  have handed : none ∈ (rtkDmacTestEnd s next).released := by
    simp [rtkDmacTestEnd, bufSrc]
  obtain ⟨resource, _member, impossible⟩ := disciplined.2 none handed
  cases impossible

theorem undisciplined_of_acquired {s : State} {resource : Resource}
    (member : resource ∈ s.acquired) (released : s.released = []) : ¬ Disciplined s := by
  intro disciplined
  have once := disciplined.1 resource member
  rw [released] at once
  cases once

/-! ### Steps -/

theorem prepareStep_held {s : State} (started : Started s) : Held (prepareStep s) := by
  rw [Held, prepareStep_point, prepareStep_dmaTestTimes]
  constructor
  · intro first
    obtain ⟨acquired, released, _bufSrc, _config⟩ := started.1 first
    refine ⟨s.nextHandle, ?_⟩
    simp [HoldsBuffers, prepareStep, first, acquired, released]
  · intro counted
    obtain ⟨buffer, channel, holds⟩ := started.2 counted
    refine ⟨buffer, channel, ?_⟩
    unfold prepareStep
    rw [if_neg counted]
    exact holds

theorem requestChanStep_held {s : State} (point : s.point = .requestChan) (held : Held s) :
    Held (requestChanStep s) := by
  rw [Held, point] at held
  obtain ⟨before, first, later⟩ := held
  rw [Held, requestChanStep_point]
  by_cases one : s.dmaTestTimes = 1
  · obtain ⟨buffer, acquired, released, bufSrc, bufDst⟩ := first one
    constructor
    · intro none
      rw [requestChanStep_dmaTestTimes] at none
      omega
    · intro _
      refine ⟨buffer, s.nextHandle, ?_⟩
      simp [HoldsAll, requestChanStep, one, acquired, released, bufSrc, bufDst]
  · unfold requestChanStep
    rw [if_neg one]
    refine ⟨before, fun counted => later ?_⟩
    change s.dmaTestTimes ≠ 0 at counted
    omega

theorem Held.status {s : State} {status : TestResult} (held : Held s)
    (verdict : status ≠ .wait) : Held { s with dmaCyclicStatus := status } := by
  rw [Held] at held ⊢
  cases point : s.point with
  | pollSuccess =>
      rw [point] at held
      exact ⟨verdict, held.2⟩
  | _ =>
      rw [point] at held
      exact held

theorem callback_held {s : State} (held : Held s) : Held (rtkDmaTestCyclicCallback s) := by
  unfold rtkDmaTestCyclicCallback
  split
  · exact Held.status held (by decide)
  · exact Held.status held (by decide)

theorem moves_held {s successor : State} {event : Event} (positive : 1 ≤ s.loop)
    (held : Held s) (releases : Releases s event)
    (moved : Moves s event successor) : Held successor := by
  have atPoint := held
  rw [Held] at atPoint
  cases moved with
  | enterLoop point below =>
      rw [point] at atPoint
      exact atPoint
  | leaveLoop point above =>
      rw [point] at atPoint
      exact atPoint.2 (by omega)
  | sawFail point status =>
      rw [point] at atPoint
      refine atPoint.2 ?_
      intro none
      exact releases.1 point none status
  | passedFail point status =>
      rw [point] at atPoint
      exact atPoint
  | sawWait point status =>
      rw [point] at atPoint
      exact atPoint
  | passedWait point status =>
      rw [point] at atPoint
      exact ⟨status, atPoint⟩
  | sawSuccess point status =>
      rw [point] at atPoint
      exact atPoint.2
  | passedSuccess point status =>
      rw [point] at atPoint
      refine ⟨atPoint.2.1, ?_, ?_⟩
      · intro one
        have notFail := releases.2 point one
        cases read : s.dmaCyclicStatus with
        | fail => exact absurd read notFail
        | success => exact absurd read status
        | wait => exact absurd read atPoint.1
      · intro counted
        change 2 ≤ s.dmaTestTimes at counted
        exact atPoint.2.2 (by omega)
  | setWait point =>
      rw [point] at atPoint
      exact atPoint
  | prepare point =>
      rw [point] at atPoint
      exact prepareStep_held atPoint
  | fillOne i point below =>
      rw [point] at atPoint
      exact atPoint
  | filled i point above =>
      rw [point] at atPoint
      exact atPoint
  | increment point =>
      rw [point] at atPoint
      refine ⟨fun none => absurd none (Nat.succ_ne_zero _), ?_, ?_⟩
      · intro one
        change s.dmaTestTimes + 1 = 1 at one
        exact atPoint.1 (by omega)
      · intro counted
        change 2 ≤ s.dmaTestTimes + 1 at counted
        exact atPoint.2 (by omega)
  | requestChan point => exact requestChanStep_held point held
  | unassigned ret point missing => trivial
  | rejected ret point assigned refused => exact absurd releases refused
  | accepted ret point assigned answered =>
      rw [point] at atPoint
      have counted : s.dmaTestTimes ≠ 0 := by
        intro none
        obtain ⟨_, _, _, missing⟩ := atPoint.1 none
        rw [missing] at assigned
        cases assigned
      obtain ⟨buffer, channel, acquired, released, bufSrc, bufDst, chan, _, older⟩ :=
        atPoint.2 counted
      exact ⟨counted, buffer, channel, acquired, released, bufSrc, bufDst, chan, rfl, older⟩
  | submit point =>
      rw [point] at atPoint
      exact ⟨fun none => absurd none atPoint.1, fun _ => atPoint.2⟩
  | tailWait point status => exact held
  | tailDone point status =>
      rw [point] at atPoint
      exact atPoint
  | endFail point =>
      rw [point] at atPoint
      obtain ⟨buffer, channel, holds⟩ := atPoint
      exact HoldsAll.end_disciplined holds _
  | endSuccess point =>
      rw [point] at atPoint
      obtain ⟨buffer, channel, holds⟩ := atPoint
      exact HoldsAll.end_disciplined holds _
  | engine contents active => exact held
  | callback active => exact callback_held held

/-! ### Once something is lost -/

theorem Leaky.status {s : State} (leaky : Leaky s) (status : TestResult) :
    Leaky { s with dmaCyclicStatus := status } := leaky

theorem callback_leaky {s : State} (leaky : Leaky s) :
    Leaky (rtkDmaTestCyclicCallback s) := by
  unfold rtkDmaTestCyclicCallback
  split <;> exact leaky.status _

theorem requestChanStep_leaky {s : State} (point : s.point = .requestChan) (leaky : Leaky s) :
    Leaky (requestChanStep s) := by
  rw [Leaky, point] at leaky
  rw [Leaky, requestChanStep_point]
  change LostChannel (requestChanStep s)
  unfold requestChanStep
  by_cases one : s.dmaTestTimes = 1
  · rw [if_pos one]
    rcases leaky with ⟨released, channel, member, _other, older⟩ | ⟨_one, buffer, channel, holds⟩
    · refine ⟨released, channel, List.mem_append_left _ member, ?_, Nat.lt_succ_of_lt older⟩
      intro same
      have renamed : s.nextHandle = channel := Option.some.inj same
      omega
    · obtain ⟨acquired, released, _, _, _, _, older⟩ := holds
      refine ⟨released, channel, ?_, ?_, Nat.lt_succ_of_lt older⟩
      · change .channel channel ∈ s.acquired ++ [.channel s.nextHandle]
        simp [acquired]
      · intro same
        have renamed : s.nextHandle = channel := Option.some.inj same
        omega
  · rw [if_neg one]
    rcases leaky with lost | ⟨first, _⟩
    · exact lost
    · exact absurd first one

theorem prepareStep_leaky {s : State} (lost : LostChannel s) : Leaky (prepareStep s) := by
  obtain ⟨released, channel, member, other, older⟩ := lost
  rw [Leaky, prepareStep_point]
  change LostChannel (prepareStep s)
  unfold prepareStep
  by_cases first : s.dmaTestTimes = 0
  · rw [if_pos first]
    refine ⟨released, channel, List.mem_append_left _ member, other, ?_⟩
    change channel < s.nextHandle + 2
    omega
  · rw [if_neg first]
    exact ⟨released, channel, member, other, older⟩

theorem moves_leaky {s successor : State} {event : Event} (leaky : Leaky s)
    (moved : Moves s event successor) : Leaky successor := by
  have atPoint := leaky
  rw [Leaky] at atPoint
  cases moved with
  | prepare point =>
      rw [point] at atPoint
      exact prepareStep_leaky atPoint
  | requestChan point => exact requestChanStep_leaky point leaky
  | unassigned ret point missing => trivial
  | rejected ret point assigned refused =>
      rw [point] at atPoint
      obtain ⟨released, channel, member, _other, _older⟩ := atPoint
      exact undisciplined_of_acquired member released
  | sawFail point status =>
      rw [point] at atPoint
      exact Or.inl atPoint
  | passedSuccess point status =>
      rw [point] at atPoint
      exact Or.inl atPoint
  | increment point =>
      rw [point] at atPoint
      exact Or.inl atPoint
  | endFail point =>
      rw [point] at atPoint
      rcases atPoint with lost | nothing
      · exact LostChannel.end_undisciplined lost _
      · exact HoldsNothing.end_undisciplined nothing _
  | endSuccess point =>
      rw [point] at atPoint
      exact LostChannel.end_undisciplined atPoint _
  | tailWait point status => exact leaky
  | engine contents active => exact leaky
  | callback active => exact callback_leaky leaky
  | fillOne i point below =>
      rw [point] at atPoint
      exact atPoint
  | filled i point above =>
      rw [point] at atPoint
      exact atPoint
  | accepted ret point assigned answered =>
      rw [point] at atPoint
      exact atPoint
  | _ point =>
      rw [point] at atPoint
      exact atPoint

theorem moves_broken {s successor : State} {event : Event} (held : Held s)
    (broken : ¬ Releases s event) (moved : Moves s event successor) : Leaky successor := by
  rw [Held] at held
  cases moved with
  | sawFail point status =>
      rw [point] at held
      have first : s.dmaTestTimes = 0 := by
        by_contra counted
        refine broken ⟨fun _ none => absurd none counted, fun other => ?_⟩
        rw [point] at other
        cases other
      exact Or.inr (held.1 first)
  | passedSuccess point status =>
      rw [point] at held
      have one : s.dmaTestTimes = 1 := by
        by_contra several
        refine broken ⟨fun other => ?_, fun _ first => absurd first several⟩
        rw [point] at other
        cases other
      exact Or.inr ⟨one, held.2.2 (by omega)⟩
  | unassigned ret point missing => trivial
  | rejected ret point assigned refused =>
      rw [point] at held
      have counted : s.dmaTestTimes ≠ 0 := by
        intro none
        obtain ⟨_, _, _, missing⟩ := held.1 none
        rw [missing] at assigned
        cases assigned
      obtain ⟨buffer, channel, acquired, released, _⟩ := held.2 counted
      have member : .coherent buffer ∈ s.acquired := by
        rw [acquired]
        exact List.mem_cons_self
      exact undisciplined_of_acquired member released
  | accepted ret point assigned answered => exact absurd answered broken
  | engine contents active => exact absurd trivial broken
  | callback active => exact absurd trivial broken
  | _ => simp_all [Releases]

end AmebaTests.Dmac
