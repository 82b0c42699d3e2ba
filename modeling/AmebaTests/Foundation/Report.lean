/-
Programs that leave lines of output behind and may stop before their end.

A `Report` is the output so far, oldest first, with either a value to go on with
or the reason the program stopped.  Two programs in sequence leave the lines of
both, unless the first one stopped.
-/

import Mathlib.Data.List.Basic

namespace AmebaTests.Foundation

structure Report (Line Stop Value : Type) where
  lines : List Line
  result : Except Stop Value

namespace Report

variable {Line Stop Value Next : Type}

def andThen (first : Report Line Stop Value) (rest : Value → Report Line Stop Next) :
    Report Line Stop Next :=
  match first.result with
  | .error reason => { lines := first.lines, result := .error reason }
  | .ok value => { lines := first.lines ++ (rest value).lines, result := (rest value).result }

instance : Monad (Report Line Stop) where
  pure value := { lines := [], result := .ok value }
  bind := andThen

def say (line : Line) : Report Line Stop Unit where
  lines := [line]
  result := .ok ()

def halt (reason : Stop) : Report Line Stop Value where
  lines := []
  result := .error reason

def check (failed : Prop) [Decidable failed] (reason : Stop) : Report Line Stop Unit :=
  if failed then halt reason else pure ()

def whenever (condition : Prop) [Decidable condition] (body : Report Line Stop Unit) :
    Report Line Stop Unit :=
  if condition then body else pure ()

@[simp] theorem pure_lines (value : Value) :
    (pure value : Report Line Stop Value).lines = [] := rfl

@[simp] theorem pure_result (value : Value) :
    (pure value : Report Line Stop Value).result = .ok value := rfl

@[simp] theorem pure_bind (value : Value) (rest : Value → Report Line Stop Next) :
    (pure value >>= rest) = rest value := rfl

theorem bind_of_ok {first : Report Line Stop Value} {value : Value}
    (returned : first.result = .ok value) (rest : Value → Report Line Stop Next) :
    (first >>= rest) =
      { lines := first.lines ++ (rest value).lines, result := (rest value).result } := by
  change andThen first rest = _
  rw [andThen, returned]

theorem bind_of_error {first : Report Line Stop Value} {reason : Stop}
    (stopped : first.result = .error reason) (rest : Value → Report Line Stop Next) :
    (first >>= rest) = { lines := first.lines, result := .error reason } := by
  change andThen first rest = _
  rw [andThen, stopped]

theorem check_bind {failed : Prop} [Decidable failed] (passed : ¬ failed) (reason : Stop)
    (rest : Unit → Report Line Stop Next) : (check failed reason >>= rest) = rest () := by
  rw [check, if_neg passed, pure_bind]

theorem mem_bind_of_mem {first : Report Line Stop Value} {line : Line} (member : line ∈ first.lines)
    (rest : Value → Report Line Stop Next) : line ∈ (first >>= rest).lines := by
  cases ended : first.result with
  | error reason =>
      rw [bind_of_error ended]
      exact member
  | ok value =>
      rw [bind_of_ok ended]
      exact List.mem_append_left _ member

@[simp] theorem mk_bind (lines : List Line) (value : Value)
    (rest : Value → Report Line Stop Next) :
    (({ lines := lines, result := .ok value } : Report Line Stop Value) >>= rest) =
      { lines := lines ++ (rest value).lines, result := (rest value).result } := rfl

theorem whenever_eq (condition : Prop) [Decidable condition] {body : Report Line Stop Unit}
    {lines : List Line} (returned : body = { lines := lines, result := .ok () }) :
    whenever condition body =
      { lines := if condition then lines else [], result := .ok () } := by
  unfold whenever
  split
  · exact returned
  · rfl

@[simp] theorem say_bind (line : Line) (rest : Unit → Report Line Stop Next) :
    (say line >>= rest) = { lines := line :: (rest ()).lines, result := (rest ()).result } :=
  rfl

/-! ### Properties of every line -/

def EveryLine (holds : Line → Prop) (program : Report Line Stop Value) : Prop :=
  ∀ line ∈ program.lines, holds line

namespace EveryLine

variable {holds : Line → Prop}

theorem pure (value : Value) : EveryLine holds (pure value : Report Line Stop Value) :=
  fun _ member => absurd member List.not_mem_nil

theorem say {line : Line} (here : holds line) :
    EveryLine holds (say line : Report Line Stop Unit) := by
  intro other member
  rw [List.mem_singleton.mp member]
  exact here

theorem halt (reason : Stop) : EveryLine holds (halt reason : Report Line Stop Value) :=
  fun _ member => absurd member List.not_mem_nil

theorem bind {first : Report Line Stop Value} {rest : Value → Report Line Stop Next}
    (front : EveryLine holds first)
    (back : ∀ value, first.result = .ok value → EveryLine holds (rest value)) :
    EveryLine holds (first >>= rest) := by
  cases ended : first.result with
  | error reason =>
      rw [bind_of_error ended]
      exact front
  | ok value =>
      rw [bind_of_ok ended]
      exact List.forall_mem_append.mpr ⟨front, back value ended⟩

theorem check (failed : Prop) [Decidable failed] (reason : Stop) :
    EveryLine holds (check failed reason : Report Line Stop Unit) := by
  unfold Report.check
  split
  · exact EveryLine.halt reason
  · exact EveryLine.pure ()

theorem whenever {condition : Prop} [Decidable condition] {body : Report Line Stop Unit}
    (inside : condition → EveryLine holds body) : EveryLine holds (whenever condition body) := by
  unfold Report.whenever
  split
  · exact inside ‹_›
  · exact EveryLine.pure ()

end EveryLine

end Report

end AmebaTests.Foundation
