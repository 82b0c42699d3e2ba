/-
`audio_pll`.

The loop over the arguments has one block for each option, and no `else` between
them: a block that has taken a value leaves `argv` at that value, and the blocks
behind it compare the value with their own option.  They compare also when there
was no value to take.
-/

import AmebaTests.Foundation.Decimal
import AmebaTests.Foundation.Fallible
import AmebaTests.Foundation.Report

namespace AmebaTests.Audio

open Foundation Report

/-- The bytes of an argument before its terminator. -/
abbrev Argument := List UInt8

structure MicroAdjustParams where
  clock : BitVec 32
  action : BitVec 32
  ppm : BitVec 32
  deriving DecidableEq, Repr

def PLL_98P304M : BitVec 32 := 2

def PLL_FASTER : BitVec 32 := 1

def defaults : MicroAdjustParams where
  clock := PLL_98P304M
  action := PLL_FASTER
  ppm := 800

inductive Opt
  | clock
  | action
  | ppm
  deriving DecidableEq, Repr

/-- `-c`, `-a` and `-p`. -/
def Opt.text : Opt → Argument
  | .clock => [45, 99]
  | .action => [45, 97]
  | .ppm => [45, 112]

def MicroAdjustParams.set (params : MicroAdjustParams) (option : Opt) (value : BitVec 32) :
    MicroAdjustParams :=
  match option with
  | .clock => { params with clock := value }
  | .action => { params with action := value }
  | .ppm => { params with ppm := value }

/-- An option, the argument it takes for its value and the number of arguments
behind that one. -/
structure Reading where
  option : Opt
  value : Argument
  behind : Nat
  deriving DecidableEq, Repr

/-- The variables; `readings` records, oldest first, where they were read. -/
structure Outcome where
  params : MicroAdjustParams
  readings : List Reading
  deriving DecidableEq, Repr

def Outcome.take (outcome : Outcome) (reading : Reading) : Outcome where
  params := outcome.params.set reading.option (BitVec.ofInt 32 (atoi reading.value))
  readings := outcome.readings ++ [reading]

@[simp] theorem Outcome.take_readings (outcome : Outcome) (reading : Reading) :
    (outcome.take reading).readings = outcome.readings ++ [reading] := rfl

/-! ### The loop -/

inductive Fault
  | strcmpNull
  | pastTerminator
  deriving DecidableEq, Repr

/-- `argv` lists the arguments from the pointer to the terminator. -/
structure State where
  argv : List Argument
  outcome : Outcome

/-- `argv++`. -/
def State.advance (s : State) : Except Fault State :=
  match s.argv with
  | [] => .error .pastTerminator
  | _ :: rest => .ok { s with argv := rest }

/-- `strcmp(*argv, text) == 0`. -/
def State.pointsTo (s : State) (text : Argument) : Except Fault Bool :=
  match s.argv with
  | [] => .error .strcmpNull
  | argument :: _ => .ok (argument = text)

/-- The block of one option. -/
def examine (option : Opt) (s : State) : Except Fault State := do
  if ← s.pointsTo option.text then
    let s ← s.advance
    match s.argv with
    | [] => pure s
    | value :: rest => pure { s with outcome := s.outcome.take ⟨option, value, rest.length⟩ }
  else pure s

/-- `if (*argv) argv++`. -/
def State.skip (s : State) : Except Fault State :=
  if s.argv ≠ [] then s.advance else .ok s

def round (s : State) : Except Fault State := do
  let s ← examine .clock s
  let s ← examine .action s
  let s ← examine .ppm s
  s.skip

@[simp] theorem State.skip_eq (s : State) : s.skip = .ok { s with argv := s.argv.tail } := by
  obtain ⟨argv, outcome⟩ := s
  cases argv <;> simp [skip, advance]

theorem examine_of_ne {option : Opt} {argument : Argument} (other : argument ≠ option.text)
    (rest : List Argument) (outcome : Outcome) :
    examine option ⟨argument :: rest, outcome⟩ = .ok ⟨argument :: rest, outcome⟩ := by
  simp [examine, State.pointsTo, other, bind, Except.bind, pure, Except.pure]

@[simp] theorem examine_last (option : Opt) (outcome : Outcome) :
    examine option ⟨[option.text], outcome⟩ = .ok ⟨[], outcome⟩ := by
  simp [examine, State.pointsTo, State.advance, bind, Except.bind, pure, Except.pure]

@[simp] theorem examine_value (option : Opt) (value : Argument) (rest : List Argument)
    (outcome : Outcome) :
    examine option ⟨option.text :: value :: rest, outcome⟩ =
      .ok ⟨value :: rest, outcome.take ⟨option, value, rest.length⟩⟩ := by
  simp [examine, State.pointsTo, State.advance, bind, Except.bind, pure, Except.pure]

theorem examine_returned {option : Opt} {s t : State} (returned : examine option s = .ok t) :
    t.argv.length ≤ s.argv.length ∧ s.outcome.readings <+: t.outcome.readings := by
  obtain ⟨argv, outcome⟩ := s
  match argv with
  | [] => cases returned
  | argument :: rest =>
      by_cases here : argument = option.text
      · subst here
        cases rest with
        | nil =>
            rw [examine_last] at returned
            cases returned
            simp
        | cons value rest =>
            rw [examine_value] at returned
            cases returned
            simp
      · rw [examine_of_ne here] at returned
        cases returned
        simp

theorem round_returned {s t : State} (returned : round s = .ok t) :
    (s.argv ≠ [] → t.argv.length < s.argv.length) ∧
      s.outcome.readings <+: t.outcome.readings := by
  obtain ⟨first, clock, returned⟩ := bind_returned returned
  obtain ⟨second, action, returned⟩ := bind_returned returned
  obtain ⟨third, ppm, returned⟩ := bind_returned returned
  have one := examine_returned clock
  have two := examine_returned action
  have three := examine_returned ppm
  have grown := (one.2.trans two.2).trans three.2
  rw [State.skip_eq] at returned
  cases returned
  refine ⟨fun more => ?_, grown⟩
  have positive := List.length_pos_of_ne_nil more
  simp only [List.length_tail]
  omega

def loop (s : State) : Except Fault Outcome :=
  if s.argv = [] then .ok s.outcome
  else
    match _returned : round s with
    | .error fault => .error fault
    | .ok t => loop t
termination_by s.argv.length
decreasing_by exact (round_returned _returned).1 ‹_›

def start : Outcome where
  params := defaults
  readings := []

def parse (argv : List Argument) : Except Fault Outcome :=
  loop { argv := argv, outcome := start }

theorem loop_nil (outcome : Outcome) : loop ⟨[], outcome⟩ = .ok outcome := by
  rw [loop, if_pos rfl]

theorem loop_of_ne_nil {s : State} (more : s.argv ≠ []) : loop s = (round s >>= loop) := by
  rw [loop, if_neg more]
  split
  · rename_i fault stopped
    rw [stopped]
    rfl
  · rename_i t returned
    rw [returned]
    rfl

/-! ### The arguments from left to right -/

def Opt.ofArgument (argument : Argument) : Option Opt :=
  if argument = Opt.clock.text then some .clock
  else if argument = Opt.action.text then some .action
  else if argument = Opt.ppm.text then some .ppm
  else none

/-- Each option takes the next argument, whatever it is, and an option without a
next argument takes nothing. -/
def leftToRight (outcome : Outcome) : List Argument → Outcome
  | [] => outcome
  | [_] => outcome
  | argument :: value :: rest =>
      match Opt.ofArgument argument with
      | some option => leftToRight (outcome.take ⟨option, value, rest.length⟩) rest
      | none => leftToRight outcome (value :: rest)

/-- The options whose blocks stand behind the block of an option. -/
def Opt.later : Opt → List Opt
  | .clock => [.action, .ppm]
  | .action => [.ppm]
  | .ppm => []

/-- Every option but `-p` has an argument behind it, and a value is no option that
a later block looks for, unless it is `-p` and the last argument. -/
def Orderly : List Argument → Prop
  | [] => True
  | [argument] => ∀ option ∈ [Opt.clock, Opt.action], argument ≠ option.text
  | argument :: value :: rest =>
      match Opt.ofArgument argument with
      | some option =>
          (∀ other ∈ option.later, value = other.text → other = .ppm ∧ rest = []) ∧ Orderly rest
      | none => Orderly (value :: rest)

theorem Opt.text_injective : Function.Injective Opt.text := by
  intro first second same
  cases first <;> cases second <;> first | rfl | simp [Opt.text] at same

theorem Opt.ofArgument_eq_some_iff (argument : Argument) (option : Opt) :
    Opt.ofArgument argument = some option ↔ argument = option.text := by
  unfold Opt.ofArgument
  split_ifs with clock action ppm
  · subst clock
    simp [Opt.text_injective.eq_iff]
  · subst action
    simp [Opt.text_injective.eq_iff]
  · subst ppm
    simp [Opt.text_injective.eq_iff]
  · cases option <;> simp [clock, action, ppm]

theorem Opt.ne_text_of_ofArgument_eq_none {argument : Argument}
    (none : Opt.ofArgument argument = none) (option : Opt) : argument ≠ option.text := by
  intro same
  rw [← Opt.ofArgument_eq_some_iff, none] at same
  cases same

theorem orderly_option {argument : Argument} {option : Opt}
    (found : Opt.ofArgument argument = some option) (value : Argument) (rest : List Argument) :
    Orderly (argument :: value :: rest) ↔
      (∀ other ∈ option.later, value = other.text → other = .ppm ∧ rest = []) ∧ Orderly rest := by
  rw [Orderly, found]

theorem orderly_skip {argument : Argument} (other : Opt.ofArgument argument = none)
    (value : Argument) (rest : List Argument) :
    Orderly (argument :: value :: rest) ↔ Orderly (value :: rest) := by
  rw [Orderly, other]

instance decidableOrderly : (argv : List Argument) → Decidable (Orderly argv)
  | [] => .isTrue trivial
  | [_] => inferInstanceAs (Decidable (∀ option ∈ [Opt.clock, Opt.action], _))
  | argument :: value :: rest =>
      match found : Opt.ofArgument argument with
      | some _ =>
          have := decidableOrderly rest
          decidable_of_iff _ (orderly_option found value rest).symm
      | none =>
          have := decidableOrderly (value :: rest)
          decidable_of_iff _ (orderly_skip found value rest).symm

/-! ### What one round does -/

def examineAll : List Opt → State → Except Fault State
  | [], s => s.skip
  | option :: options, s => examine option s >>= examineAll options

theorem round_eq (s : State) : round s = examineAll [.clock, .action, .ppm] s := rfl

theorem examineAll_cons_of_ne {option : Opt} {argument : Argument} (other : argument ≠ option.text)
    (options : List Opt) (rest : List Argument) (outcome : Outcome) :
    examineAll (option :: options) ⟨argument :: rest, outcome⟩ =
      examineAll options ⟨argument :: rest, outcome⟩ := by
  rw [examineAll, examine_of_ne other]
  rfl

theorem examineAll_of_ne {options : List Opt} {argument : Argument}
    (others : ∀ option ∈ options, argument ≠ option.text) (rest : List Argument)
    (outcome : Outcome) :
    examineAll options ⟨argument :: rest, outcome⟩ = .ok ⟨rest, outcome⟩ := by
  induction options with
  | nil => simp [examineAll]
  | cons option options ih =>
      rw [List.forall_mem_cons] at others
      rw [examineAll_cons_of_ne others.1, ih others.2]

/-- The blocks before that of the option leave everything as it is. -/
theorem round_option (option : Opt) (rest : List Argument) (outcome : Outcome) :
    round ⟨option.text :: rest, outcome⟩ =
      (examine option ⟨option.text :: rest, outcome⟩ >>= examineAll option.later) := by
  cases option with
  | clock => rfl
  | action =>
      have clock : Opt.action.text ≠ Opt.clock.text := by simp [Opt.text]
      rw [round_eq, examineAll_cons_of_ne clock]
      rfl
  | ppm =>
      have clock : Opt.ppm.text ≠ Opt.clock.text := by simp [Opt.text]
      have action : Opt.ppm.text ≠ Opt.action.text := by simp [Opt.text]
      rw [round_eq, examineAll_cons_of_ne clock, examineAll_cons_of_ne action]
      rfl

/-- The later blocks treat a value that is their option like the argument of a new
round. -/
theorem examineAll_later {option other : Opt} (later : other ∈ option.later)
    (rest : List Argument) (outcome : Outcome) :
    examineAll option.later ⟨other.text :: rest, outcome⟩ =
      round ⟨other.text :: rest, outcome⟩ := by
  cases option with
  | clock =>
      have before : other.text ≠ Opt.clock.text := by
        apply Opt.text_injective.ne
        rintro rfl
        simp [Opt.later] at later
      rw [round_eq, examineAll_cons_of_ne before]
      rfl
  | action =>
      obtain rfl : other = .ppm := by simpa [Opt.later] using later
      rw [round_option]
      rfl
  | ppm => simp [Opt.later] at later

theorem loop_skip {argument : Argument} (other : Opt.ofArgument argument = none)
    (rest : List Argument) (outcome : Outcome) :
    loop ⟨argument :: rest, outcome⟩ = loop ⟨rest, outcome⟩ := by
  have none := Opt.ne_text_of_ofArgument_eq_none other
  rw [loop_of_ne_nil (by simp), round_eq, examineAll_of_ne (fun option _ => none option)]
  rfl

theorem loop_last (option : Opt) (outcome : Outcome) :
    loop ⟨[option.text], outcome⟩ =
      if option = .ppm then .ok outcome else .error .strcmpNull := by
  rw [loop_of_ne_nil (by simp), round_option, examine_last]
  cases option with
  | clock => rfl
  | action => rfl
  | ppm => exact loop_nil outcome

theorem loop_option (option : Opt) (value : Argument) (rest : List Argument) (outcome : Outcome) :
    loop ⟨option.text :: value :: rest, outcome⟩ =
      (examineAll option.later
        ⟨value :: rest, outcome.take ⟨option, value, rest.length⟩⟩ >>= loop) := by
  rw [loop_of_ne_nil (by simp), round_option, examine_value]
  rfl

theorem loop_value {option : Opt} {value : Argument}
    (others : ∀ other ∈ option.later, value ≠ other.text) (rest : List Argument)
    (outcome : Outcome) :
    loop ⟨option.text :: value :: rest, outcome⟩ =
      loop ⟨rest, outcome.take ⟨option, value, rest.length⟩⟩ := by
  rw [loop_option, examineAll_of_ne others]
  rfl

theorem loop_again {option other : Opt} (later : other ∈ option.later) (rest : List Argument)
    (outcome : Outcome) :
    loop ⟨option.text :: other.text :: rest, outcome⟩ =
      loop ⟨other.text :: rest, outcome.take ⟨option, other.text, rest.length⟩⟩ := by
  rw [loop_option, examineAll_later later, loop_of_ne_nil (by simp)]

/-! ### The record of the readings -/

theorem loop_readings {s : State} {outcome : Outcome} (returned : loop s = .ok outcome) :
    s.outcome.readings <+: outcome.readings := by
  fun_induction loop s with
  | case1 s ended =>
      cases returned
      exact List.prefix_rfl
  | case2 s more fault stopped => cases returned
  | case3 s more t once ih => exact (round_returned once).2.trans (ih returned)

theorem leftToRight_readings (outcome : Outcome) (argv : List Argument) :
    ∃ new, (leftToRight outcome argv).readings = outcome.readings ++ new ∧
      ∀ reading ∈ new, reading.behind + 2 ≤ argv.length := by
  fun_induction leftToRight outcome argv with
  | case1 outcome => exact ⟨[], by simp⟩
  | case2 outcome argument => exact ⟨[], by simp⟩
  | case3 outcome argument value rest option found ih =>
      obtain ⟨new, same, bound⟩ := ih
      refine ⟨⟨option, value, rest.length⟩ :: new, by simp [same], ?_⟩
      rw [List.forall_mem_cons]
      refine ⟨by simp, fun reading member => ?_⟩
      have inside := bound reading member
      simp only [List.length_cons]
      omega
  | case4 outcome argument value rest none ih =>
      obtain ⟨new, same, bound⟩ := ih
      refine ⟨new, same, fun reading member => ?_⟩
      have inside := bound reading member
      simp only [List.length_cons] at inside ⊢
      omega

theorem loop_takes {option : Opt} {value : Argument} {rest : List Argument}
    {outcome result : Outcome}
    (returned : loop ⟨option.text :: value :: rest, outcome⟩ = .ok result) :
    outcome.readings ++ [⟨option, value, rest.length⟩] <+: result.readings := by
  by_cases again : ∃ other ∈ option.later, value = other.text
  · obtain ⟨other, later, rfl⟩ := again
    rw [loop_again later] at returned
    exact loop_readings returned
  · rw [loop_value (by simpa using again)] at returned
    exact loop_readings returned

/-- A value that is read again as an option takes the argument behind it, which the
left to right reading does not. -/
theorem loop_ne_leftToRight (other : Opt) (value : Argument) (rest : List Argument)
    (outcome : Outcome) :
    loop ⟨other.text :: value :: rest, outcome⟩ ≠ .ok (leftToRight outcome (value :: rest)) := by
  intro returned
  obtain ⟨new, same, bound⟩ := leftToRight_readings outcome (value :: rest)
  have taken := loop_takes returned
  rw [same, List.prefix_append_right_inj] at taken
  have inside := bound _ (taken.subset List.mem_cons_self)
  simp only [List.length_cons] at inside
  omega

theorem orderly_again {option other : Opt} (later : other ∈ option.later) (rest : List Argument) :
    Orderly (option.text :: other.text :: rest) ↔ other = .ppm ∧ rest = [] := by
  have found : Opt.ofArgument option.text = some option :=
    (Opt.ofArgument_eq_some_iff _ _).mpr rfl
  rw [orderly_option found]
  constructor
  · rintro ⟨harmless, _⟩
    exact harmless other later rfl
  · rintro ⟨rfl, rfl⟩
    refine ⟨fun other' _ same => ⟨(Opt.text_injective same).symm, rfl⟩, ?_⟩
    simp [Orderly]

theorem loop_eq_leftToRight_iff (outcome : Outcome) (argv : List Argument) :
    loop ⟨argv, outcome⟩ = .ok (leftToRight outcome argv) ↔ Orderly argv := by
  fun_induction leftToRight outcome argv with
  | case1 outcome => simp [loop_nil, Orderly]
  | case2 outcome argument =>
      cases found : Opt.ofArgument argument with
      | none =>
          have other := Opt.ne_text_of_ofArgument_eq_none found
          simp [loop_skip found, loop_nil, Orderly, other]
      | some option =>
          rw [Opt.ofArgument_eq_some_iff] at found
          cases option <;> simp [found, loop_last, Orderly, Opt.text_injective.eq_iff]
  | case3 outcome argument value rest option found ih =>
      obtain rfl := (Opt.ofArgument_eq_some_iff argument option).mp found
      by_cases again : ∃ other ∈ option.later, value = other.text
      · obtain ⟨other, later, rfl⟩ := again
        rw [loop_again later, orderly_again later]
        cases rest with
        | nil => simp [loop_last, leftToRight]
        | cons next rest => simpa using loop_ne_leftToRight other next rest _
      · have others : ∀ other ∈ option.later, value ≠ other.text := by simpa using again
        rw [loop_value others, ih, orderly_option found]
        exact ⟨fun orderly => ⟨fun other later same => absurd same (others other later), orderly⟩,
          fun both => both.2⟩
  | case4 outcome argument value rest none ih => rw [loop_skip none, ih, orderly_skip none]

/-! ### The program -/

structure Host where
  openDevice : Int
  /-- What `info.clock` holds behind the request for a port. -/
  clockForSport : Nat → BitVec 32

inductive Line
  | stderr (text : String)
  | stdout (text : String)
  | getClockForSport (fd : Int) (sportIndex : Nat)
  | microAdjust (fd : Int) (params : MicroAdjustParams)
  | close (fd : Int)
  deriving DecidableEq, Repr

abbrev Program := Report Line Fault

/-- The loop prints nothing. -/
def parseArguments (argv : List Argument) : Program MicroAdjustParams where
  lines := []
  result := (parse argv).map Outcome.params

def clockText (sportIndex : Nat) (clock : BitVec 32) : String :=
  "[pll test] clock for sport" ++ toString sportIndex ++ ":" ++ toString clock.toInt ++
    " (0:24M, 1:45M, 2:98M, 3:xtal-40M)\n"

def showClock (host : Host) (fd : Int) (sportIndex : Nat) : Program Unit := do
  say (.getClockForSport fd sportIndex)
  say (.stdout (clockText sportIndex (host.clockForSport sportIndex)))

def main (host : Host) (argv : List Argument) : Program Int := do
  if argv.length < 2 then
    say (.stderr ("[-c clock (0:24.576M, 1:45.158M, 2:98.304M)]" ++
      " [-a action (0:auto, 1:faster, 2:slower)]" ++ " [-p ppm (0-1000)] \n"))
    pure 1
  else
    let params ← parseArguments argv
    let fd := host.openDevice
    whenever (fd = -1) (say (.stdout "open /dev/audio_pll_clk fail \n"))
    showClock host fd 2
    showClock host fd 3
    say (.stdout ("[pll test] adjust cmd, clock:" ++ toString params.clock.toInt ++ ", action:" ++
      toString params.action.toInt ++ ", ppm:" ++ toString params.ppm.toInt ++ "\n"))
    say (.microAdjust fd params)
    say (.close fd)
    say (.stdout "[pll test] done\n")
    pure 0

def Line.adjustment : Line → Option MicroAdjustParams
  | .microAdjust _ params => some params
  | _ => none

def adjustments (lines : List Line) : List MicroAdjustParams :=
  lines.filterMap Line.adjustment

/-- The loop ends without a fault, with the numbers of the left to right reading,
and has taken each from the same argument. -/
def ReadsLeftToRight (argv : List Argument) : Prop :=
  ∃ outcome, parse argv = .ok outcome ∧
    outcome.params = (leftToRight start argv).params ∧
    outcome.readings = (leftToRight start argv).readings

theorem readsLeftToRight_iff (argv : List Argument) :
    ReadsLeftToRight argv ↔ Orderly argv := by
  rw [← loop_eq_leftToRight_iff start]
  constructor
  · rintro ⟨⟨params, readings⟩, returned, rfl, rfl⟩
    exact returned
  · intro returned
    exact ⟨leftToRight start argv, returned, rfl, rfl⟩

-- `audio_pll -c -p`: the last block finds no argument behind the value.
example : Orderly [[97, 117, 100, 105, 111, 95, 112, 108, 108], [45, 99], [45, 112]] := by decide

/-- `audio_pll -c` compares the terminator, and `audio_pll -c -p 5` takes `5` for the
option that is the value of `-c`. -/
theorem parse_of_clock_option :
    parse [[97, 117, 100, 105, 111, 95, 112, 108, 108], [45, 99]] = .error .strcmpNull ∧
      parse [[97, 117, 100, 105, 111, 95, 112, 108, 108], [45, 99], [45, 112], [53]] =
        .ok ⟨⟨0, 1, 5⟩, [⟨.clock, [45, 112], 1⟩, ⟨.ppm, [53], 0⟩]⟩ ∧
      leftToRight start [[97, 117, 100, 105, 111, 95, 112, 108, 108], [45, 99], [45, 112], [53]] =
        ⟨⟨0, 1, 800⟩, [⟨.clock, [45, 112], 1⟩]⟩ := by
  have name : Opt.ofArgument [97, 117, 100, 105, 111, 95, 112, 108, 108] = none := rfl
  refine ⟨?_, ?_, rfl⟩
  · rw [parse, loop_skip name]
    exact loop_last .clock start
  · rw [parse, loop_skip name]
    refine (@loop_again .clock .ppm (by simp [Opt.later]) [[53]] start).trans ?_
    refine (@loop_value .ppm [53] (by simp [Opt.later]) [] _).trans ?_
    exact loop_nil _

theorem showClock_eq (host : Host) (fd : Int) (sportIndex : Nat) :
    showClock host fd sportIndex =
      { lines := [.getClockForSport fd sportIndex,
          .stdout (clockText sportIndex (host.clockForSport sportIndex))],
        result := .ok () } := rfl

theorem main_adjusts_as_read (host : Host) {argv : List Argument} (called : 2 ≤ argv.length)
    (orderly : Orderly argv) :
    adjustments (main host argv).lines = [(leftToRight start argv).params] ∧
      (main host argv).result = .ok 0 := by
  have parsed : parse argv = .ok (leftToRight start argv) :=
    (loop_eq_leftToRight_iff start argv).mpr orderly
  have enough : ¬ argv.length < 2 := by omega
  have arguments : parseArguments argv = pure (leftToRight start argv).params := by
    rw [parseArguments, parsed]
    rfl
  rw [main, if_neg enough, arguments]
  by_cases failed : host.openDevice = -1 <;>
    simp [showClock_eq, whenever, failed, adjustments, Line.adjustment, List.filterMap_cons]

end AmebaTests.Audio
