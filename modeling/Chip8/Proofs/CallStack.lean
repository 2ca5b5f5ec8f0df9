import Chip8.Proofs.Outcomes
import Chip8.Proofs.Reachability

/-!
# Calls and returns

A call leaves the address behind it on the stack, and the run of the
subroutine cannot touch it: as long as the stack does not become shorter than
the call left it, everything from that address down stays in place.  The
return that finds the stack at this height therefore goes back behind the call
and leaves the stack that the call found.
-/

namespace Chip8.Machine

/-- A run that satisfies a condition at every position, the first and the last
one included. -/
inductive RunWithin (Stays : Position → Prop) (start : Position) :
    List Move → Position → Prop
  | refl (stays : Stays start) : RunWithin Stays start [] start
  | tail {moves : List Move} {middle finish : Position} {move : Move}
      (earlier : RunWithin Stays start moves middle)
      (latest : Step middle move finish)
      (stays : Stays finish) :
      RunWithin Stays start (moves ++ [move]) finish

/-! ## What a move does to the stack -/

/-- A cycle leaves the stack alone, takes its latest address off or adds one
address. -/
theorem stack_cycle_cases
    {machine next : Machine} {keys : KeySet}
    (complete : machine.cycle keys = .done next) :
    next.stack = machine.stack ∨ next.stack = machine.stack.tail ∨
      ∃ address, next.stack = address :: machine.stack := by
  obtain ⟨_, executed⟩ := cycle_eq_done_iff.mp complete
  obtain ⟨_, _, rfl⟩ := execute_eq_done_iff.mp executed
  rw [stack_carryOut]
  cases machine.instructionAtCounter with
  | returnToCaller => exact .inr (.inl rfl)
  | call target => exact .inr (.inr ⟨_, rfl⟩)
  | _ => exact .inl rfl

private theorem Step.stack_cases
    {position next : Position} {move : Move}
    (step : Step position move next) :
    next.machine.stack = position.machine.stack ∨
      next.machine.stack = position.machine.stack.tail ∨
      ∃ address, next.machine.stack = address :: position.machine.stack := by
  cases step with
  | loaded accepted =>
      obtain ⟨_, isNext⟩ := load_eq_ok_iff.mp accepted
      rw [isNext]
      exact .inl rfl
  | completed complete => exact stack_cycle_cases complete
  | faulted broken =>
      obtain ⟨unchanged, _⟩ := cycle_eq_fault_iff.mp broken
      rw [unchanged]
      exact .inl rfl
  | _ => exact .inl rfl

/-- The older addresses stay in place unless the stack becomes shorter than
they are. -/
theorem Step.suffix_stack
    {position next : Position} {move : Move} {older : List Int}
    (step : Step position move next)
    (below : older <:+ position.machine.stack)
    (deep : older.length ≤ next.machine.stack.length) :
    older <:+ next.machine.stack := by
  rcases step.stack_cases with same | shorter | ⟨address, longer⟩
  · rwa [same]
  · rw [shorter] at deep ⊢
    cases shape : position.machine.stack with
    | nil => simpa [shape] using below
    | cons latest rest =>
        rw [shape] at below deep
        rcases List.suffix_cons_iff.mp below with all | inRest
        · rw [all, List.tail_cons, List.length_cons] at deep
          omega
        · exact inRest
  · rw [longer]
    exact below.trans (List.suffix_cons address _)

/-- Along a run that never goes below the height of some addresses, these
addresses stay at the bottom of the stack. -/
theorem RunWithin.suffix_stack
    {start finish : Position} {moves : List Move} {older : List Int}
    (run : RunWithin
      (fun position => older.length ≤ position.machine.stack.length)
      start moves finish)
    (below : older <:+ start.machine.stack) :
    older <:+ finish.machine.stack := by
  induction run with
  | refl _ => exact below
  | tail _ latest deep inductionHypothesis =>
      exact latest.suffix_stack inductionHypothesis deep

/-! ## The call and the return -/

/-- A call in memory pushes the address behind it, all of whose bits fit. -/
theorem stack_of_call
    {caller called : Machine} {keys : KeySet}
    (isCall : caller.wordAtCounter.group = 2)
    (complete : caller.cycle keys = .done called) :
    called.stack = (caller.counter + 2) :: caller.stack := by
  obtain ⟨inside, executed⟩ := cycle_eq_done_iff.mp complete
  obtain ⟨_, _, rfl⟩ := execute_eq_done_iff.mp executed
  have instruction :
      caller.instructionAtCounter = .call caller.wordAtCounter.nnn :=
    Instruction.ofWord_eq_call_iff.mpr ⟨isCall, rfl⟩
  have counterBounds := caller.canFetch_iff.mp inside
  have fits : (caller.counter + 2) % 65536 = caller.counter + 2 := by omega
  rw [instruction]
  exact congrArg (· :: caller.stack) fits

/-- A return takes the latest address into the counter and off the stack, and
changes nothing else. -/
theorem cycle_return
    {machine : Machine} {address : Int} {rest : List Int}
    (inside : machine.canFetch = true)
    (isReturn : machine.wordAtCounter.toNat = 0x00EE)
    (shape : machine.stack = address :: rest) (keys : KeySet) :
    machine.cycle keys =
      .done
        { machine with counter := address, stack := rest, keypad := keys } := by
  have instruction : machine.instructionAtCounter = .returnToCaller :=
    (Instruction.ofWord_eq_returnToCaller_iff _).mpr isReturn
  refine cycle_eq_done_iff.mpr ⟨inside, ?_⟩
  rw [instruction]
  refine execute_eq_done_iff.mpr ⟨?_, rfl, ?_⟩
  · simp [refusal, ready, holding, stepOver, shape]
  · simp [carryOut, ready, holding, stepOver, shape]

/-- The return that ends a subroutine goes back behind its call and leaves the
stack as the call found it, whatever happened in between. -/
theorem return_matches_call
    {caller called : Machine} {callKeys : KeySet}
    {moves : List Move} {finish : Position}
    (isCall : caller.wordAtCounter.group = 2)
    (complete : caller.cycle callKeys = .done called)
    (run : RunWithin
      (fun position =>
        caller.stack.length + 1 ≤ position.machine.stack.length)
      { machine := called } moves finish)
    (height : finish.machine.stack.length = caller.stack.length + 1)
    (inside : finish.machine.canFetch = true)
    (isReturn : finish.machine.wordAtCounter.toNat = 0x00EE)
    (keys : KeySet) :
    finish.machine.cycle keys =
      .done
        { finish.machine with
          counter := caller.counter + 2
          stack := caller.stack
          keypad := keys } := by
  have pushed := stack_of_call isCall complete
  have below :
      (caller.counter + 2) :: caller.stack <:+ finish.machine.stack :=
    RunWithin.suffix_stack run (pushed ▸ List.suffix_refl _)
  have shape :
      (caller.counter + 2) :: caller.stack = finish.machine.stack :=
    below.eq_of_length height.symm
  exact cycle_return inside isReturn shape.symm keys

/-- A subroutine at `0x204` that stores digits where no memory is left, calls
the subroutine at `0x20A` and returns; a call of it comes first. -/
def nestedCalls : List UInt8 :=
  [0x22, 0x04, 0x00, 0x00, 0xF0, 0x33, 0x22, 0x0A, 0x00, 0xEE, 0x00, 0xEE]

/-- A machine in the course of the nested calls. -/
def nested (counter : Int) (stack : List Int) : Machine :=
  { initial (.replay ⟨[7], 0⟩) (some 2) with
    memory := initialMemory.overwrite programStart nestedCalls
    counter := counter
    index := 4094
    stack := stack }

theorem wordAtCounter_nested
    (counter : Int) (offset : Nat) (place : counter = (0x200 + offset : Nat))
    (inside : offset < 11) (stack : List Int) :
    (nested counter stack).wordAtCounter =
      .ofBytes (nestedCalls.getD offset 0)
        (nestedCalls.getD (offset + 1) 0) := by
  have length : nestedCalls.length = 12 := rfl
  have size : memorySize = 4096 := rfl
  subst place
  simp only [wordAtCounter, nested, programStart, Int.toNat_natCast,
    Bytes.read_overwrite]
  rw [if_pos (by omega), if_pos (by omega), Nat.add_sub_cancel_left,
    Nat.add_assoc, Nat.add_sub_cancel_left]

theorem cycle_nested_outer :
    (nested 0x200 []).cycle ∅ = .done (nested 0x204 [0x202]) := by
  refine cycle_eq_done_iff.mpr ⟨by decide, ?_⟩
  rw [instructionAtCounter, wordAtCounter_nested 0x200 0 rfl (by decide) []]
  rfl

private theorem cycle_nested_inner :
    (nested 0x206 [0x202]).cycle ∅ = .done (nested 0x20A [0x208, 0x202]) := by
  refine cycle_eq_done_iff.mpr ⟨by decide, ?_⟩
  rw [instructionAtCounter, wordAtCounter_nested 0x206 6 rfl (by decide) [0x202]]
  rfl

def nestedFault : Fault where
  cause := .accessOutside 4094 3
  address := some 0x204
  instruction := some 0xF033

private theorem cycle_nested_fault :
    (nested 0x204 [0x202]).cycle ∅ =
      .fault nestedFault (nested 0x204 [0x202]) := by
  refine cycle_eq_fault_iff.mpr
    ⟨rfl, .inr ⟨by decide, .accessOutside 4094 3, ?_, ?_⟩⟩
  · rw [instructionAtCounter, wordAtCounter_nested 0x204 4 rfl (by decide) [0x202]]
    rfl
  · rw [wordAtCounter_nested 0x204 4 rfl (by decide) [0x202]]
    rfl

/-- The run of the outer subroutine up to its return. -/
theorem run_nested :
    ∃ moves,
      RunWithin (fun position => 1 ≤ position.machine.stack.length)
        { machine := nested 0x204 [0x202] } moves
        { machine := nested 0x208 [0x202] } := by
  have overFault :
      Step { machine := nested 0x204 [0x202], pending := some nestedFault }
        (.stepOver nestedFault) { machine := nested 0x206 [0x202] } :=
    .steppedOver rfl
  have timers :
      Step { machine := nested 0x206 [0x202] } .countDown
        { machine := nested 0x206 [0x202] } :=
    .countedDown
  have innerReturn :
      (nested 0x20A [0x208, 0x202]).cycle ∅ = .done (nested 0x208 [0x202]) := by
    refine cycle_return (by decide) ?_ rfl ∅
    rw [wordAtCounter_nested 0x20A 10 rfl (by decide) [0x208, 0x202]]
    rfl
  refine ⟨_, .tail (.tail (.tail (.tail (.tail (.refl ?_)
    (.faulted cycle_nested_fault) ?_) overFault ?_) timers ?_)
    (.completed cycle_nested_inner) ?_) (.completed innerReturn) ?_⟩
  all_goals simp [nested]

theorem return_matches_call_nested :
    (nested 0x200 []).cycle ∅ = .done (nested 0x204 [0x202]) ∧
      (nested 0x208 [0x202]).cycle ∅ = .done (nested 0x202 []) := by
  have isCall : (nested 0x200 []).wordAtCounter.group = 2 := by
    rw [wordAtCounter_nested 0x200 0 rfl (by decide) []]
    rfl
  have isReturn : (nested 0x208 [0x202]).wordAtCounter.toNat = 0x00EE := by
    rw [wordAtCounter_nested 0x208 8 rfl (by decide) [0x202]]
    rfl
  obtain ⟨moves, run⟩ := run_nested
  exact ⟨cycle_nested_outer,
    return_matches_call isCall cycle_nested_outer run rfl (by decide)
      isReturn ∅⟩

end Chip8.Machine
