/-
The probe and remove functions of the RCC test.

Five static pointers outlive a probe that stops early, the probe reports success
in any case, and the remove function that follows disables and puts whatever the
pointers hold.  A `Clk` is one allocation of the clock framework, so a pointer
from an earlier cycle never equals one of this cycle.  The count of a clock is
the number of its own enables that have not been undone.
-/

import Mathlib.Logic.Function.Basic

namespace AmebaTests.Rcc

/-- The five static pointers. -/
inductive Slot
  | clkGate
  | clkGateFen
  | clkDiv
  | clkMux
  | clkMuxParent
  deriving DecidableEq, Repr

def Slot.consumer : Slot → String
  | .clkGate => "cke_zgb"
  | .clkGateFen => "cke_irda"
  | .clkMux => "cksl_ctc"
  | .clkMuxParent => "osc_131k"
  | .clkDiv => "ckd_psram"

variable {Clock : Type}

structure Clk (Clock : Type) where
  clock : Clock
  handle : Nat
  deriving DecidableEq

inductive Pointer (Clock : Type)
  | null
  | error (code : Int)
  | clk (clk : Clk Clock)
  deriving DecidableEq

def Pointer.isErr : Pointer Clock → Bool
  | .error _ => true
  | _ => false

/-- `managed` are the allocations the device still owns.  `got` and `enabled` are
what the current probe was given and has enabled, `disabled` and `put` the
arguments the remove function has passed on. -/
structure State (Clock : Type) where
  pointer : Slot → Pointer Clock
  enableCount : Clock → Nat
  nextHandle : Nat
  managed : List (Clk Clock)
  got : List (Clk Clock)
  enabled : List (Clk Clock)
  disabled : List (Pointer Clock)
  put : List (Pointer Clock)

def start (enableCount : Clock → Nat) : State Clock where
  pointer := fun _ => .null
  enableCount := enableCount
  nextHandle := 0
  managed := []
  got := []
  enabled := []
  disabled := []
  put := []

/-- The answers of the clock framework in one probe: the error of `devm_clk_get`
unless it returns a clock, and the result of `clk_prepare_enable`. -/
structure Answers where
  getError : Slot → Option Int
  enable : Slot → Int

/-- A new allocation for the consumer name of a slot. -/
def State.allocated (clockOf : String → Clock) (s : State Clock) (slot : Slot) : Clk Clock where
  clock := clockOf slot.consumer
  handle := s.nextHandle

def State.receive (clockOf : String → Clock) (s : State Clock) (slot : Slot) : State Clock :=
  { s with
    pointer := Function.update s.pointer slot (.clk (s.allocated clockOf slot))
    nextHandle := s.nextHandle + 1
    managed := s.allocated clockOf slot :: s.managed
    got := s.allocated clockOf slot :: s.got }

def State.refuse (s : State Clock) (slot : Slot) (code : Int) : State Clock :=
  { s with pointer := Function.update s.pointer slot (.error code) }

/-- `slot = devm_clk_get(&pdev->dev, slot.consumer)`. -/
def devmClkGet (clockOf : String → Clock) (answers : Answers) (slot : Slot) (s : State Clock) :
    State Clock :=
  match answers.getError slot with
  | some code => s.refuse slot code
  | none => s.receive clockOf slot

inductive Verdict
  | pass
  | fail
  deriving DecidableEq, Repr

structure Probed (Clock : Type) where
  state : State Clock
  verdict : Verdict
  ret : Int

/-- The label `fail`, whatever `ret` holds by then. -/
def failed (s : State Clock) : Probed Clock where
  state := s
  verdict := .fail
  ret := 0

/-- Get a clock into its slot, and go to `fail` if that is an error. -/
def getting (clockOf : String → Clock) (answers : Answers) (slot : Slot)
    (next : State Clock → Probed Clock) (s : State Clock) : Probed Clock :=
  let s := devmClkGet clockOf answers slot s
  if (s.pointer slot).isErr then failed s else next s

theorem getting_ret (clockOf : String → Clock) (answers : Answers) (slot : Slot)
    {next : State Clock → Probed Clock} (zero : ∀ s, (next s).ret = 0) (s : State Clock) :
    (getting clockOf answers slot next s).ret = 0 := by
  unfold getting
  dsimp only
  split
  · rfl
  · exact zero _

theorem getting_refused (clockOf : String → Clock) {answers : Answers} {slot : Slot} {code : Int}
    (refused : answers.getError slot = some code) (next : State Clock → Probed Clock)
    (s : State Clock) :
    getting clockOf answers slot next s = failed (s.refuse slot code) := by
  have pointer : (s.refuse slot code).pointer slot = .error code := Function.update_self _ _ _
  rw [getting, devmClkGet, refused]
  dsimp only
  rw [pointer]
  rfl

theorem receive_pointer (clockOf : String → Clock) (s : State Clock) (slot : Slot) :
    (s.receive clockOf slot).pointer slot = .clk (s.allocated clockOf slot) :=
  Function.update_self _ _ _

theorem getting_received (clockOf : String → Clock) {answers : Answers} {slot : Slot}
    (received : answers.getError slot = none) (next : State Clock → Probed Clock)
    (s : State Clock) :
    getting clockOf answers slot next s = next (s.receive clockOf slot) := by
  have pointer := receive_pointer clockOf s slot
  rw [getting, devmClkGet, received]
  dsimp only
  rw [pointer]
  rfl

/-- The test behind `clk_set_rate` looks at `ret`, which still holds the result
of the last `clk_prepare_enable`. -/
def divTest (clockOf : String → Clock) (answers : Answers) (ret : Int) :
    State Clock → Probed Clock :=
  getting clockOf answers .clkDiv fun s =>
    if ret < 0 then failed s else { state := s, verdict := .pass, ret := 0 }

def muxTest (clockOf : String → Clock) (answers : Answers) (ret : Int) :
    State Clock → Probed Clock :=
  getting clockOf answers .clkMux
    (getting clockOf answers .clkMuxParent (divTest clockOf answers ret))

theorem muxTest_ret (clockOf : String → Clock) (answers : Answers) (ret : Int) (s : State Clock) :
    (muxTest clockOf answers ret s).ret = 0 := by
  apply getting_ret
  apply getting_ret
  apply getting_ret
  intro s
  split <;> rfl

section Enabling

variable [DecidableEq Clock]

def raise (count : Clock → Nat) (clock : Clock) : Clock → Nat :=
  Function.update count clock (count clock + 1)

def lower (count : Clock → Nat) (clock : Clock) : Clock → Nat :=
  Function.update count clock (count clock - 1)

def State.enable (s : State Clock) (clk : Clk Clock) : State Clock :=
  { s with
    enableCount := raise s.enableCount clk.clock
    enabled := clk :: s.enabled }

/-- `clk_prepare_enable(slot)` with the given result. -/
def clkPrepareEnable (ret : Int) (slot : Slot) (s : State Clock) : State Clock :=
  match s.pointer slot with
  | .clk clk => if ret < 0 then s else s.enable clk
  | _ => s

/-- A pointer that is null or an error is ignored, and the count does not drop
below zero.  Nothing is assumed to happen through a pointer to freed memory. -/
def clkDisableUnprepare (slot : Slot) (s : State Clock) : State Clock where
  pointer := s.pointer
  enableCount :=
    match s.pointer slot with
    | .clk clk =>
        if clk ∈ s.managed then lower s.enableCount clk.clock else s.enableCount
    | _ => s.enableCount
  nextHandle := s.nextHandle
  managed := s.managed
  got := s.got
  enabled := s.enabled
  disabled := s.pointer slot :: s.disabled
  put := s.put

/-- A pointer the device does not own is reported by a warning only. -/
def devmClkPut (slot : Slot) (s : State Clock) : State Clock where
  pointer := s.pointer
  enableCount := s.enableCount
  nextHandle := s.nextHandle
  managed :=
    match s.pointer slot with
    | .clk clk => s.managed.erase clk
    | _ => s.managed
  got := s.got
  enabled := s.enabled
  disabled := s.disabled
  put := s.pointer slot :: s.put

/-- The two gate tests differ in the pointer only. -/
def gateTest (clockOf : String → Clock) (answers : Answers) (slot : Slot)
    (next : Int → State Clock → Probed Clock) : State Clock → Probed Clock :=
  getting clockOf answers slot fun s =>
    let ret := answers.enable slot
    let s := clkPrepareEnable ret slot s
    if ret < 0 then failed s else next ret s

def rtkRccTestProbe (clockOf : String → Clock) (answers : Answers) (s : State Clock) :
    Probed Clock :=
  gateTest clockOf answers .clkGate
    (fun _ => gateTest clockOf answers .clkGateFen (muxTest clockOf answers))
    { s with got := [], enabled := [], disabled := [], put := [] }

/-- The function, and the device giving up what it still owns. -/
def rtkRccTestRemove (s : State Clock) : State Clock :=
  let s := clkDisableUnprepare .clkGate s
  let s := clkDisableUnprepare .clkGateFen s
  let s := devmClkPut .clkGate s
  let s := devmClkPut .clkGateFen s
  let s := devmClkPut .clkMux s
  let s := devmClkPut .clkMuxParent s
  let s := devmClkPut .clkDiv s
  { s with managed := [] }

def cycle (clockOf : String → Clock) (s : State Clock) (answers : Answers) : State Clock :=
  rtkRccTestRemove (rtkRccTestProbe clockOf answers s).state

/-! ### What one cycle must keep -/

/-- The remove function disables only what the probe enabled, puts only what the
probe was given, and every count is again what it was before the probe. -/
def Balanced (before removed : State Clock) : Prop :=
  (∀ pointer ∈ removed.disabled, ∃ clk ∈ removed.enabled, pointer = .clk clk) ∧
    (∀ pointer ∈ removed.put, ∃ clk ∈ removed.got, pointer = .clk clk) ∧
    removed.enableCount = before.enableCount

def Succeeds (answers : Answers) : Prop :=
  (∀ slot, answers.getError slot = none) ∧
    ¬ answers.enable .clkGate < 0 ∧ ¬ answers.enable .clkGateFen < 0

theorem gateTest_ret (clockOf : String → Clock) (answers : Answers) (slot : Slot)
    {next : Int → State Clock → Probed Clock} (zero : ∀ ret s, (next ret s).ret = 0)
    (s : State Clock) : (gateTest clockOf answers slot next s).ret = 0 := by
  apply getting_ret
  intro s
  dsimp only
  split
  · rfl
  · exact zero _ _

/-- The driver core keeps the device bound after every probe. -/
theorem probe_returns_zero (clockOf : String → Clock) (answers : Answers) (s : State Clock) :
    (rtkRccTestProbe clockOf answers s).ret = 0 := by
  apply gateTest_ret
  intro _ret
  apply gateTest_ret
  exact muxTest_ret clockOf answers

theorem gateTest_received (clockOf : String → Clock) {answers : Answers} {slot : Slot}
    (received : answers.getError slot = none) (next : Int → State Clock → Probed Clock)
    (s : State Clock) :
    gateTest clockOf answers slot next s =
      if answers.enable slot < 0 then failed (s.receive clockOf slot)
      else
        next (answers.enable slot)
          ((s.receive clockOf slot).enable (s.allocated clockOf slot)) := by
  have pointer := receive_pointer clockOf s slot
  rw [gateTest, getting_received clockOf received]
  dsimp only
  rw [clkPrepareEnable, pointer]
  dsimp only
  split
  · rfl
  · rfl

theorem gateTest_rejected (clockOf : String → Clock) {answers : Answers} {slot : Slot}
    (received : answers.getError slot = none) (rejected : answers.enable slot < 0)
    (next : Int → State Clock → Probed Clock) (s : State Clock) :
    gateTest clockOf answers slot next s = failed (s.receive clockOf slot) := by
  rw [gateTest_received clockOf received, if_pos rejected]

theorem gateTest_enabled (clockOf : String → Clock) {answers : Answers} {slot : Slot}
    (received : answers.getError slot = none) (accepted : ¬ answers.enable slot < 0)
    (next : Int → State Clock → Probed Clock) (s : State Clock) :
    gateTest clockOf answers slot next s =
      next (answers.enable slot)
        ((s.receive clockOf slot).enable (s.allocated clockOf slot)) := by
  rw [gateTest_received clockOf received, if_neg accepted]

/-! ### A cycle that stops early -/

theorem remove_disabled (s : State Clock) :
    (rtkRccTestRemove s).disabled = s.pointer .clkGateFen :: s.pointer .clkGate :: s.disabled :=
  rfl

theorem remove_put (s : State Clock) :
    (rtkRccTestRemove s).put = s.pointer .clkDiv :: s.pointer .clkMuxParent ::
      s.pointer .clkMux :: s.pointer .clkGateFen :: s.pointer .clkGate :: s.put := rfl

theorem pointer_mem_put (s : State Clock) (slot : Slot) :
    s.pointer slot ∈ (rtkRccTestRemove s).put := by
  rw [remove_put]
  cases slot <;> simp

theorem unbalanced_of_error {before s : State Clock} {slot : Slot} {code : Int}
    (error : s.pointer slot = .error code) : ¬ Balanced before (rtkRccTestRemove s) := by
  intro balanced
  obtain ⟨clk, _got, same⟩ := balanced.2.1 _ (pointer_mem_put s slot)
  rw [error] at same
  cases same

theorem unbalanced_of_refuse (before s : State Clock) (slot : Slot) (code : Int) :
    ¬ Balanced before (rtkRccTestRemove (s.refuse slot code)) := by
  have error : (s.refuse slot code).pointer slot = .error code := Function.update_self _ _ _
  exact unbalanced_of_error error

theorem unbalanced_of_rejected (clockOf : String → Clock) {before s : State Clock} {slot : Slot}
    (gate : slot = .clkGate ∨ slot = .clkGateFen) (idle : s.allocated clockOf slot ∉ s.enabled) :
    ¬ Balanced before (rtkRccTestRemove (s.receive clockOf slot)) := by
  intro balanced
  have pointer := receive_pointer clockOf s slot
  have member : (s.receive clockOf slot).pointer slot ∈
      (rtkRccTestRemove (s.receive clockOf slot)).disabled := by
    rw [remove_disabled]
    rcases gate with rfl | rfl
    · exact List.mem_cons_of_mem _ List.mem_cons_self
    · exact List.mem_cons_self
  obtain ⟨other, enabled, same⟩ := balanced.1 _ member
  rw [pointer] at same
  cases same
  exact idle enabled

theorem succeeds_of_balanced (clockOf : String → Clock) {answers : Answers} {s : State Clock}
    (balanced : Balanced s (cycle clockOf s answers)) : Succeeds answers := by
  unfold cycle rtkRccTestProbe at balanced
  cases gate : answers.getError .clkGate with
  | some code =>
      rw [gateTest, getting_refused clockOf gate] at balanced
      exact absurd balanced (unbalanced_of_refuse _ _ _ _)
  | none =>
  by_cases gateEnable : answers.enable .clkGate < 0
  · rw [gateTest_rejected clockOf gate gateEnable] at balanced
    exact absurd balanced (unbalanced_of_rejected clockOf (Or.inl rfl) List.not_mem_nil)
  rw [gateTest_enabled clockOf gate gateEnable] at balanced
  cases fen : answers.getError .clkGateFen with
  | some code =>
      rw [gateTest, getting_refused clockOf fen] at balanced
      exact absurd balanced (unbalanced_of_refuse _ _ _ _)
  | none =>
  by_cases fenEnable : answers.enable .clkGateFen < 0
  · rw [gateTest_rejected clockOf fen fenEnable] at balanced
    refine absurd balanced (unbalanced_of_rejected clockOf (Or.inr rfl) ?_)
    intro enabled
    have same := congrArg Clk.handle (List.mem_singleton.mp enabled)
    exact absurd same (Nat.succ_ne_self s.nextHandle)
  rw [gateTest_enabled clockOf fen fenEnable] at balanced
  cases mux : answers.getError .clkMux with
  | some code =>
      rw [muxTest, getting_refused clockOf mux] at balanced
      exact absurd balanced (unbalanced_of_refuse _ _ _ _)
  | none =>
  rw [muxTest, getting_received clockOf mux] at balanced
  cases muxParent : answers.getError .clkMuxParent with
  | some code =>
      rw [getting_refused clockOf muxParent] at balanced
      exact absurd balanced (unbalanced_of_refuse _ _ _ _)
  | none =>
  rw [getting_received clockOf muxParent] at balanced
  cases div : answers.getError .clkDiv with
  | some code =>
      rw [divTest, getting_refused clockOf div] at balanced
      exact absurd balanced (unbalanced_of_refuse _ _ _ _)
  | none =>
  refine ⟨?_, gateEnable, fenEnable⟩
  intro slot
  cases slot with
  | clkGate => exact gate
  | clkGateFen => exact fen
  | clkDiv => exact div
  | clkMux => exact mux
  | clkMuxParent => exact muxParent

/-! ### A cycle in which everything succeeds -/

theorem lower_raise (count : Clock → Nat) (first second : Clock) :
    lower (lower (raise (raise count first) second) first) second = count := by
  funext clock
  unfold lower raise
  simp only [Function.update_apply]
  by_cases isFirst : clock = first
  · subst isFirst
    by_cases isSecond : clock = second
    · simp only [isSecond, if_true]
      omega
    · simp only [if_neg isSecond, if_true]
      omega
  · by_cases isSecond : clock = second
    · subst isSecond
      simp only [if_neg isFirst, if_true]
      omega
    · simp only [if_neg isFirst, if_neg isSecond]

/-- The slots in the order the probe fills them, with both gates enabled. -/
def State.filled (clockOf : String → Clock) (s : State Clock) : State Clock :=
  let gate := (s.receive clockOf .clkGate).enable (s.allocated clockOf .clkGate)
  let fen := (gate.receive clockOf .clkGateFen).enable (gate.allocated clockOf .clkGateFen)
  ((fen.receive clockOf .clkMux).receive clockOf .clkMuxParent).receive clockOf .clkDiv

theorem probe_of_succeeds (clockOf : String → Clock) {answers : Answers}
    (succeeds : Succeeds answers) (s : State Clock) :
    rtkRccTestProbe clockOf answers s =
      { state := State.filled clockOf { s with got := [], enabled := [], disabled := [], put := [] }
        verdict := .pass
        ret := 0 } := by
  obtain ⟨received, gateEnable, fenEnable⟩ := succeeds
  rw [rtkRccTestProbe, gateTest_enabled clockOf (received _) gateEnable,
    gateTest_enabled clockOf (received _) fenEnable, muxTest,
    getting_received clockOf (received _), getting_received clockOf (received _), divTest,
    getting_received clockOf (received _), if_neg fenEnable]
  rfl

def Slot.position : Slot → Nat
  | .clkGate => 0
  | .clkGateFen => 1
  | .clkMux => 2
  | .clkMuxParent => 3
  | .clkDiv => 4

def State.issued (clockOf : String → Clock) (s : State Clock) (slot : Slot) : Clk Clock where
  clock := clockOf slot.consumer
  handle := s.nextHandle + slot.position

theorem filled_pointer (clockOf : String → Clock) (s : State Clock) (slot : Slot) :
    (s.filled clockOf).pointer slot = .clk (s.issued clockOf slot) := by
  cases slot <;> rfl

theorem filled_got (clockOf : String → Clock) (s : State Clock) :
    (s.filled clockOf).got = s.issued clockOf .clkDiv :: s.issued clockOf .clkMuxParent ::
      s.issued clockOf .clkMux :: s.issued clockOf .clkGateFen :: s.issued clockOf .clkGate ::
      s.got := rfl

theorem issued_mem_got (clockOf : String → Clock) (s : State Clock) (slot : Slot) :
    s.issued clockOf slot ∈ (s.filled clockOf).got := by
  rw [filled_got]
  cases slot <;> simp

theorem issued_mem_managed (clockOf : String → Clock) (s : State Clock) (slot : Slot) :
    s.issued clockOf slot ∈ (s.filled clockOf).managed := by
  change _ ∈ s.issued clockOf .clkDiv :: s.issued clockOf .clkMuxParent ::
    s.issued clockOf .clkMux :: s.issued clockOf .clkGateFen :: s.issued clockOf .clkGate ::
    s.managed
  cases slot <;> simp

theorem remove_filled_enableCount (clockOf : String → Clock) (s : State Clock) :
    (rtkRccTestRemove (s.filled clockOf)).enableCount = s.enableCount := by
  have disabledGate : (clkDisableUnprepare .clkGate (s.filled clockOf)).enableCount =
      lower (s.filled clockOf).enableCount (clockOf Slot.clkGate.consumer) := by
    rw [clkDisableUnprepare, filled_pointer]
    exact if_pos (issued_mem_managed clockOf s .clkGate)
  have disabledBoth : (rtkRccTestRemove (s.filled clockOf)).enableCount =
      lower (clkDisableUnprepare .clkGate (s.filled clockOf)).enableCount
        (clockOf Slot.clkGateFen.consumer) := by
    change (clkDisableUnprepare .clkGateFen
      (clkDisableUnprepare .clkGate (s.filled clockOf))).enableCount = _
    have pointer : (clkDisableUnprepare .clkGate (s.filled clockOf)).pointer .clkGateFen =
        .clk (s.issued clockOf .clkGateFen) := filled_pointer clockOf s .clkGateFen
    unfold clkDisableUnprepare at pointer ⊢
    rw [pointer]
    exact if_pos (issued_mem_managed clockOf s .clkGateFen)
  rw [disabledBoth, disabledGate]
  exact lower_raise s.enableCount _ _

theorem remove_filled_disabled (clockOf : String → Clock) {s : State Clock}
    (none : s.disabled = []) :
    ∀ pointer ∈ (rtkRccTestRemove (s.filled clockOf)).disabled,
      ∃ clk ∈ (rtkRccTestRemove (s.filled clockOf)).enabled, pointer = .clk clk := by
  have called : (rtkRccTestRemove (s.filled clockOf)).disabled =
      [.clk (s.issued clockOf .clkGateFen), .clk (s.issued clockOf .clkGate)] := by
    rw [remove_disabled, filled_pointer, filled_pointer, ← none]
    rfl
  have enabled : (rtkRccTestRemove (s.filled clockOf)).enabled =
      s.issued clockOf .clkGateFen :: s.issued clockOf .clkGate :: s.enabled := rfl
  intro pointer member
  rw [called, List.mem_cons, List.mem_singleton] at member
  rw [enabled]
  rcases member with isFen | isGate
  · exact ⟨_, List.mem_cons_self, isFen⟩
  · exact ⟨_, List.mem_cons_of_mem _ List.mem_cons_self, isGate⟩

theorem remove_filled_put (clockOf : String → Clock) {s : State Clock} (none : s.put = []) :
    ∀ pointer ∈ (rtkRccTestRemove (s.filled clockOf)).put,
      ∃ clk ∈ (rtkRccTestRemove (s.filled clockOf)).got, pointer = .clk clk := by
  have nothing : (s.filled clockOf).put = [] := none
  have slots : ∀ pointer ∈ (rtkRccTestRemove (s.filled clockOf)).put,
      ∃ slot, pointer = (s.filled clockOf).pointer slot := by
    intro pointer member
    rw [remove_put, nothing] at member
    simp only [List.mem_cons, List.not_mem_nil, or_false] at member
    rcases member with same | same | same | same | same
    · exact ⟨_, same⟩
    · exact ⟨_, same⟩
    · exact ⟨_, same⟩
    · exact ⟨_, same⟩
    · exact ⟨_, same⟩
  intro pointer member
  obtain ⟨slot, same⟩ := slots pointer member
  exact ⟨_, issued_mem_got clockOf s slot, same.trans (filled_pointer clockOf s slot)⟩

theorem balanced_of_succeeds (clockOf : String → Clock) {answers : Answers}
    (succeeds : Succeeds answers) (s : State Clock) :
    Balanced s (cycle clockOf s answers) := by
  rw [cycle, probe_of_succeeds clockOf succeeds]
  exact ⟨remove_filled_disabled clockOf rfl, remove_filled_put clockOf rfl,
    remove_filled_enableCount clockOf _⟩

/-! ### Any number of cycles -/

def afterCycles (clockOf : String → Clock) (s : State Clock) (cycles : List Answers) :
    State Clock :=
  cycles.foldl (cycle clockOf) s

/-- Every cycle of a run is balanced exactly when every probe of it has been
given its five clocks and has enabled both gates. -/
theorem cycles_balanced_iff (clockOf : String → Clock) (enableCount : Clock → Nat)
    (cycles : List Answers) :
    (∀ earlier answers later, cycles = earlier ++ answers :: later →
      Balanced (afterCycles clockOf (start enableCount) earlier)
        (afterCycles clockOf (start enableCount) (earlier ++ [answers]))) ↔
    ∀ answers ∈ cycles, Succeeds answers := by
  have last : ∀ earlier answers, afterCycles clockOf (start enableCount) (earlier ++ [answers]) =
      cycle clockOf (afterCycles clockOf (start enableCount) earlier) answers := by
    intro earlier answers
    rw [afterCycles, List.foldl_append]
    rfl
  constructor
  · intro balanced answers member
    obtain ⟨earlier, later, split⟩ := List.append_of_mem member
    have here := balanced earlier answers later split
    rw [last] at here
    exact succeeds_of_balanced clockOf here
  · intro succeeds earlier answers later split
    rw [last]
    apply balanced_of_succeeds
    apply succeeds
    rw [split]
    exact List.mem_append_right earlier List.mem_cons_self

end Enabling

/-- Somebody else holds the gate clock.  In the second cycle it is not enabled,
and the remove function takes the other holder's enable away. -/
theorem second_cycle_unbalanced :
    let succeeding : Answers := { getError := fun _ => none, enable := fun _ => 0 }
    let rejecting : Answers := { getError := fun _ => none, enable := fun _ => -5 }
    let held := start fun clock => if clock = "cke_zgb" then 1 else 0
    (afterCycles id held [succeeding]).enableCount "cke_zgb" = 1 ∧
      (afterCycles id held [succeeding, rejecting]).enableCount "cke_zgb" = 0 ∧
      ¬ Balanced (afterCycles id held [succeeding])
        (afterCycles id held [succeeding, rejecting]) := by
  intro succeeding rejecting held
  have before : (afterCycles id held [succeeding]).enableCount "cke_zgb" = 1 := by decide
  have removed : (afterCycles id held [succeeding, rejecting]).enableCount "cke_zgb" = 0 := by
    decide
  refine ⟨before, removed, ?_⟩
  intro balanced
  have same := congrFun balanced.2.2 "cke_zgb"
  rw [before, removed] at same
  cases same

end AmebaTests.Rcc
