/-
A thread whose acts start operations that finish by themselves, at any time.

The thread performs its acts in order.  Whenever an operation is in flight it may
complete, before the next act or behind it.  An act that releases what the
operations work on is safe in every order of these events exactly if no act
before it has started one.
-/

import AmebaTests.Foundation.Runs
import Mathlib.Data.List.Basic

namespace AmebaTests.Foundation

structure Pending (Act : Type) where
  todo : List Act
  inFlight : Nat

inductive Turn
  | thread
  | complete
  deriving DecidableEq, Repr

variable {Act : Type} (starts releases : Act → Bool)

def turn (s : Pending Act) : Turn → Option (Pending Act)
  | .thread =>
      match s.todo with
      | [] => none
      | act :: rest =>
          some { todo := rest, inFlight := s.inFlight + if starts act then 1 else 0 }
  | .complete => if s.inFlight = 0 then none else some { s with inFlight := s.inFlight - 1 }

/-- Every releasing act of the run found nothing in flight. -/
def ReleasesIdle (history : History (Pending Act) Turn) : Prop :=
  ∀ entry ∈ history, entry.2 = .thread → ∀ act rest, entry.1.todo = act :: rest →
    releases act = true → entry.1.inFlight = 0

def AlwaysIdle (acts : List Act) : Prop :=
  ∀ history s, Run (turn starts) { todo := acts, inFlight := 0 } history s →
    ReleasesIdle releases history

variable {starts releases}

/-- What is in flight has been started by an act that is done. -/
theorem run_started {acts : List Act} {history : History (Pending Act) Turn} {s : Pending Act}
    (run : Run (turn starts) { todo := acts, inFlight := 0 } history s) :
    ∃ before, acts = before ++ s.todo ∧ s.inFlight ≤ before.countP starts := by
  induction run with
  | start => exact ⟨[], rfl, Nat.zero_le _⟩
  | @next history state successor event _earlier taken ih =>
      obtain ⟨before, split, bound⟩ := ih
      cases event with
      | complete =>
          simp only [turn] at taken
          split at taken
          · cases taken
          · cases taken
            refine ⟨before, split, ?_⟩
            dsimp only
            omega
      | thread =>
          cases shape : state.todo with
          | nil =>
              rw [turn, shape] at taken
              cases taken
          | cons act rest =>
              rw [turn, shape] at taken
              cases taken
              refine ⟨before ++ [act], ?_, ?_⟩
              · rw [split, shape, List.append_assoc]
                rfl
              · rw [List.countP_append, List.countP_singleton]
                exact Nat.add_le_add_right bound _

/-- The thread alone, with nothing completing. -/
theorem run_thread (before rest : List Act) (inFlight : Nat) :
    ∃ history, Run (turn starts) { todo := before ++ rest, inFlight := inFlight } history
      { todo := rest, inFlight := inFlight + before.countP starts } := by
  induction before generalizing inFlight with
  | nil => exact ⟨[], Run.start⟩
  | cons act before ih =>
      obtain ⟨history, later⟩ := ih (inFlight + if starts act then 1 else 0)
      have taken : turn starts { todo := act :: before ++ rest, inFlight := inFlight } .thread =
          some { todo := before ++ rest, inFlight := inFlight + if starts act then 1 else 0 } :=
        rfl
      have whole := Run.append (Run.start.next taken) later
      rw [List.countP_cons, Nat.add_comm (before.countP starts), ← Nat.add_assoc]
      exact ⟨_, whole⟩

theorem alwaysIdle_iff (acts : List Act) :
    AlwaysIdle starts releases acts ↔
      ∀ before act rest, acts = before ++ act :: rest → releases act = true →
        ∀ other ∈ before, starts other = false := by
  constructor
  · intro always before act rest split released
    obtain ⟨history, reached⟩ := @run_thread Act starts before (act :: rest) 0
    rw [← split] at reached
    have idle := always _ _ (reached.next rfl) _ List.mem_cons_self rfl act rest rfl released
    rw [Nat.zero_add, List.countP_eq_zero] at idle
    intro other member
    exact Bool.eq_false_iff.mpr (idle other member)
  · intro quiet history s run entry member _thread act rest shape released
    obtain ⟨earlier, reached⟩ := run.of_entry member
    obtain ⟨before, split, bound⟩ := run_started reached
    rw [shape] at split
    have none : before.countP starts = 0 := by
      rw [List.countP_eq_zero]
      intro other done
      rw [quiet before act rest split released other done]
      exact Bool.false_ne_true
    omega

end AmebaTests.Foundation
