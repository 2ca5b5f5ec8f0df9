import Chip8.Proofs.Execution

/-!
# Runs of a machine

Between two looks at a machine its driver can load a program, run a cycle,
count the timers down, or step over the instruction of a fault.  `Step` says
what each of these moves does, and `Run` chains moves in any order and number.
A cycle that ends in a failure is no move: the run ends there.
-/

namespace Chip8.Machine

inductive Move where
  /-- A program is loaded, or is too long and rejected. -/
  | load (program : List UInt8)
  /-- A cycle carries out the word at the counter. -/
  | cycle (keys : KeySet) (word : Word)
  /-- A cycle ends in a fault. -/
  | fault (keys : KeySet) (fault : Fault)
  | countDown
  /-- The instruction of a fault is stepped over. -/
  | stepOver (fault : Fault)
  deriving DecidableEq

/-- A machine together with the fault of its latest cycle, as long as that
fault has not been stepped over. -/
structure Position where
  machine : Machine
  pending : Option Fault := none

inductive Step : Position → Move → Position → Prop
  | loaded {position : Position} {program : List UInt8} {next : Machine}
      (accepted : position.machine.load program = .ok next) :
      Step position (.load program) { position with machine := next }
  | rejected {position : Position} {program : List UInt8} {error : LoadError}
      (refused : position.machine.load program = .error error) :
      Step position (.load program) position
  | completed {position : Position} {keys : KeySet} {next : Machine}
      (complete : position.machine.cycle keys = .done next) :
      Step position (.cycle keys position.machine.wordAtCounter)
        { machine := next }
  | faulted {position : Position} {keys : KeySet} {fault : Fault}
      {after : Machine}
      (broken : position.machine.cycle keys = .fault fault after) :
      Step position (.fault keys fault)
        { machine := after, pending := some fault }
  | countedDown {position : Position} :
      Step position .countDown
        { position with machine := position.machine.countDown }
  | steppedOver {position : Position} {fault : Fault}
      (waiting : position.pending = some fault) :
      Step position (.stepOver fault)
        { machine := position.machine.stepOver }

/-- A finite sequence of moves, the latest one last. -/
inductive Run (start : Position) : List Move → Position → Prop
  | refl : Run start [] start
  | tail {moves : List Move} {middle finish : Position} {move : Move}
      (earlier : Run start moves middle)
      (latest : Step middle move finish) :
      Run start (moves ++ [move]) finish

/-- A property of the moves made so far and the position reached holds along
every run if it holds at the start and no move ends it. -/
theorem Run.induct
    {start finish : Position} {moves : List Move}
    {Holds : List Move → Position → Prop}
    (atStart : Holds [] start)
    (kept : ∀ {moves middle move next}, Holds moves middle →
      Step middle move next → Holds (moves ++ [move]) next)
    (run : Run start moves finish) :
    Holds moves finish := by
  induction run with
  | refl => exact atStart
  | tail _ latest inductionHypothesis =>
      exact kept inductionHypothesis latest

/-- A move leads to one position only. -/
theorem Step.unique
    {position first second : Position} {move : Move}
    (step : Step position move first)
    (other : Step position move second) :
    first = second := by
  cases step with
  | loaded accepted =>
      cases other with
      | loaded again =>
          rw [accepted] at again
          cases again
          rfl
      | rejected refused =>
          rw [accepted] at refused
          cases refused
  | rejected refused =>
      cases other with
      | loaded accepted =>
          rw [refused] at accepted
          cases accepted
      | rejected _ => rfl
  | completed complete =>
      cases other with
      | completed again =>
          rw [complete] at again
          cases again
          rfl
  | faulted broken =>
      cases other with
      | faulted again =>
          rw [broken] at again
          cases again
          rfl
  | countedDown =>
      cases other
      rfl
  | steppedOver _ =>
      cases other
      rfl

theorem run_nil_iff {start finish : Position} :
    Run start [] finish ↔ finish = start := by
  constructor
  · intro run
    generalize isNil : ([] : List Move) = moves at run
    cases run with
    | refl => rfl
    | tail _ _ => simp at isNil
  · rintro rfl
    exact .refl

private theorem run_append_single_iff
    {start finish : Position} {moves : List Move} {move : Move} :
    Run start (moves ++ [move]) finish ↔
      ∃ middle, Run start moves middle ∧ Step middle move finish := by
  constructor
  · intro run
    generalize isMoves : moves ++ [move] = allMoves at run
    cases run with
    | refl => simp at isMoves
    | tail earlier latest =>
        obtain ⟨rfl, isMove⟩ := List.append_inj' isMoves rfl
        cases isMove
        exact ⟨_, earlier, latest⟩
  · rintro ⟨middle, earlier, latest⟩
    exact .tail earlier latest

/-- The moves determine where a run leads. -/
theorem Run.unique
    {start first second : Position} {moves : List Move}
    (run : Run start moves first) (other : Run start moves second) :
    first = second := by
  induction run generalizing second with
  | refl => exact (run_nil_iff.mp other).symm
  | tail _ latest inductionHypothesis =>
      obtain ⟨middle, earlier, last⟩ := run_append_single_iff.mp other
      obtain rfl := inductionHypothesis earlier
      exact latest.unique last

end Chip8.Machine
