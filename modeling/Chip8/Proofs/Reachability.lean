import Chip8.Proofs.Atomicity
import Chip8.Proofs.Bytes
import Chip8.Proofs.Drawing
import Chip8.Proofs.Frame
import Chip8.Proofs.Runs
import Chip8.Proofs.WordMeanings

/-!
# Reachable machines

The parts of a machine are integers and lists without a bound, but a running
program cannot take them everywhere.  `WellFormed` collects the bounds that
every move keeps, and `Bounded` adds the bound on the counter that holds until
a fetch outside the memory is stepped over.  A well-formed machine meets no obstacle,
so its cycles are done or end in a fault.
-/

namespace Chip8

namespace Instruction

def target? : Instruction → Option Nat
  | jump target | call target | setIndex target | jumpOffset target =>
      some target
  | _ => none

/-- An address that comes from a word has twelve bits. -/
theorem target_lt
    (word : Word) {target : Nat}
    (brought : (ofWord word).target? = some target) :
    target < 4096 := by
  have bound : word.nnn < 4096 := Nat.mod_lt _ (by decide)
  have means := word.means_ofWord
  generalize ofWord word = instruction at means brought
  cases means with
  | jump | call | setIndex | jumpOffset =>
      cases brought
      exact bound
  | _ => cases brought

end Instruction

namespace RandomSource

/-- A source that delivers a byte can deliver the next one. -/
theorem next?_ne_none_of_next?
    {source after : RandomSource} {byte : UInt8}
    (delivered : source.next? = some (byte, after)) :
    after.next? ≠ none := by
  cases source with
  | blocks source | replay source | stream values position =>
      simp only [next?, Option.some.injEq, Prod.mk.injEq] at delivered
      rw [← delivered.2]
      simp [next?]
  | absent => simp [next?] at delivered

end RandomSource

namespace Machine

/-- What every move keeps, wherever the program goes. -/
structure WellFormed (machine : Machine) : Prop where
  counter : 0 ≤ machine.counter
  index : 0 ≤ machine.index ∧ machine.index ≤ 0xFFFF
  stack : ∀ address ∈ machine.stack, 2 ≤ address ∧ address ≤ 4096
  depth : ∀ limit, machine.stackLimit = some limit →
    (machine.stack.length : Int) ≤ limit
  delayTimer : 0 ≤ machine.delayTimer ∧ machine.delayTimer ≤ 255
  soundTimer : 0 ≤ machine.soundTimer ∧ machine.soundTimer ≤ 255
  display : ∀ cell ∈ machine.display,
    0 ≤ cell.x ∧ cell.x < 64 ∧ 0 ≤ cell.y ∧ cell.y ≤ 45
  random : machine.random.next? ≠ none

/-! ## Accepted instructions -/

private theorem length_lt_of_refusal_call
    {machine : Machine} {target : Nat} {limit : Int}
    (accepted : machine.refusal (.call target) = none)
    (limited : machine.stackLimit = some limit) :
    (machine.stack.length : Int) < limit := by
  by_contra notBelow
  have full : limit ≤ machine.stack.length := by omega
  have refused : machine.refusal (.call target) = some (.stackFull limit) :=
    refusal_eq_some_iff.mpr
      (.inr (.inl ⟨target, limit, rfl, limited, full, rfl⟩))
  rw [accepted] at refused
  contradiction

variable {machine : Machine} {instruction : Instruction}

private theorem index_carryOut_bounds
    (wellFormed : WellFormed machine)
    (targetBound : ∀ target, instruction.target? = some target → target < 4096)
    (accepted : machine.refusal instruction = none) :
    0 ≤ (machine.carryOut instruction).index ∧
      (machine.carryOut instruction).index ≤ 0xFFFF := by
  have indexBounds := wellFormed.index
  rw [index_carryOut]
  cases instruction with
  | setIndex target =>
      have bound := targetBound target rfl
      simp only
      omega
  | addToIndex register =>
      simp only
      omega
  | pointAtGlyph register =>
      simp only [Font.address, Font.start, Font.glyphHeight]
      omega
  | storeRegisters last | loadRegisters last =>
      have inside := checkRange_eq_none_iff.mp accepted
      simp only [Instruction.reach] at inside ⊢
      omega
  | _ => exact indexBounds

private theorem stack_carryOut_bounds
    (wellFormed : WellFormed machine)
    (fetched : 2 ≤ machine.counter ∧ machine.counter ≤ 4096) :
    ∀ address ∈ (machine.carryOut instruction).stack,
      2 ≤ address ∧ address ≤ 4096 := by
  rw [stack_carryOut]
  cases instruction with
  | returnToCaller =>
      intro address belongs
      exact wellFormed.stack address (List.mem_of_mem_tail belongs)
  | call target =>
      intro address belongs
      rcases List.mem_cons.mp belongs with rfl | older
      · omega
      · exact wellFormed.stack address older
  | _ => exact wellFormed.stack

private theorem depth_carryOut
    (wellFormed : WellFormed machine)
    (accepted : machine.refusal instruction = none) :
    ∀ limit, (machine.carryOut instruction).stackLimit = some limit →
      ((machine.carryOut instruction).stack.length : Int) ≤ limit := by
  intro limit limited
  rw [stackLimit_carryOut] at limited
  have depth := wellFormed.depth limit limited
  rw [stack_carryOut]
  cases instruction with
  | returnToCaller =>
      simp only [List.length_tail]
      omega
  | call target =>
      have room := length_lt_of_refusal_call accepted limited
      simp only [List.length_cons]
      omega
  | _ => exact depth

theorem register_le (machine : Machine) (number : Register) :
    (machine.register number).toNat ≤ 255 :=
  Nat.le_of_lt_succ (machine.register number).toNat_lt

/-- An instruction sets a timer to a byte or leaves it alone. -/
theorem timers_carryOut
    (wellFormed : WellFormed machine) :
    (0 ≤ (machine.carryOut instruction).delayTimer ∧
      (machine.carryOut instruction).delayTimer ≤ 255) ∧
    (0 ≤ (machine.carryOut instruction).soundTimer ∧
      (machine.carryOut instruction).soundTimer ≤ 255) := by
  rw [delayTimer_carryOut, soundTimer_carryOut]
  cases instruction with
  | setDelay register =>
      have bound := register_le machine register
      exact ⟨by simp only; omega, wellFormed.soundTimer⟩
  | setSound register =>
      have bound := register_le machine register
      exact ⟨wellFormed.delayTimer, by simp only; omega⟩
  | _ => exact ⟨wellFormed.delayTimer, wellFormed.soundTimer⟩

/-- A sprite of at most fifteen rows that starts on the screen ends at row 45
at the latest. -/
theorem display_carryOut_bounds
    (wellFormed : WellFormed machine) :
    ∀ cell ∈ (machine.carryOut instruction).display,
      0 ≤ cell.x ∧ cell.x < 64 ∧ 0 ≤ cell.y ∧ cell.y ≤ 45 := by
  rw [display_carryOut]
  cases instruction with
  | clearScreen =>
      intro cell belongs
      exact absurd belongs (SortedSet.not_mem_empty cell)
  | draw column row height =>
      intro cell belongs
      rcases Display.mem_draw_iff.mp belongs with ⟨older, _⟩ | ⟨covered, _⟩
      · exact wellFormed.display cell older
      · have bounds := Sprite.bounds_of_mem_cells covered
        have heightBound := height.isLt
        rw [Bytes.length_slice] at bounds
        unfold screenWidth screenHeight at bounds
        omega
  | _ => exact wellFormed.display

private theorem random_carryOut_ne_none
    (wellFormed : WellFormed machine) :
    (machine.carryOut instruction).random.next? ≠ none := by
  rw [random_carryOut]
  cases instruction with
  | randomByte register mask =>
      cases delivery : machine.random.next? with
      | none => exact absurd delivery wellFormed.random
      | some pair => exact RandomSource.next?_ne_none_of_next? delivery
  | _ => exact wellFormed.random

/-- A jump with an offset is what takes the counter furthest. -/
theorem counter_carryOut_bounds
    (wellFormed : WellFormed machine)
    (targetBound : ∀ target, instruction.target? = some target → target < 4096)
    (fetched : 2 ≤ machine.counter ∧ machine.counter ≤ 4096) :
    0 ≤ (machine.carryOut instruction).counter ∧
      (machine.carryOut instruction).counter ≤ 0x10FE := by
  rw [counter_carryOut]
  cases instruction with
  | returnToCaller =>
      cases stackShape : machine.stack with
      | nil =>
          simp only [List.headD_nil]
          omega
      | cons address rest =>
          have bounds := wellFormed.stack address (by simp [stackShape])
          simp only [List.headD_cons]
          omega
  | jump target | call target =>
      have bound := targetBound target rfl
      simp only
      omega
  | jumpOffset target =>
      have bound := targetBound target rfl
      have offsetBound := register_le machine 0
      simp only
      omega
  | skip condition wanted =>
      simp only
      split <;> omega
  | awaitKey register =>
      simp only
      split <;> omega
  | _ =>
      simp only
      omega

/-- An accepted instruction keeps a fetched machine well formed. -/
theorem WellFormed.carryOut
    (wellFormed : WellFormed machine)
    (targetBound : ∀ target, instruction.target? = some target → target < 4096)
    (fetched : 2 ≤ machine.counter ∧ machine.counter ≤ 4096)
    (accepted : machine.refusal instruction = none) :
    WellFormed (machine.carryOut instruction) where
  counter := (counter_carryOut_bounds wellFormed targetBound fetched).1
  index := index_carryOut_bounds wellFormed targetBound accepted
  stack := stack_carryOut_bounds wellFormed fetched
  depth := depth_carryOut wellFormed accepted
  delayTimer := (timers_carryOut wellFormed).1
  soundTimer := (timers_carryOut wellFormed).2
  display := display_carryOut_bounds wellFormed
  random := random_carryOut_ne_none wellFormed

/-! ## Cycles -/

theorem WellFormed.stepOver
    (wellFormed : WellFormed machine) :
    WellFormed machine.stepOver :=
  { wellFormed with
    counter := Int.add_nonneg wellFormed.counter (by decide) }

theorem WellFormed.ready
    (wellFormed : WellFormed machine) (keys : KeySet) :
    WellFormed (machine.ready keys) :=
  { wellFormed.stepOver with }

theorem WellFormed.countDown
    (wellFormed : WellFormed machine) :
    WellFormed machine.countDown :=
  { wellFormed with
    delayTimer := by
      have bounds := wellFormed.delayTimer
      simp only [Machine.countDown]
      omega
    soundTimer := by
      have bounds := wellFormed.soundTimer
      simp only [Machine.countDown]
      omega }

/-- A program is loaded exactly if it fits behind its start. -/
theorem load_eq_ok_iff
    {next : Machine} {program : List UInt8} :
    machine.load program = .ok next ↔
      programStart + program.length ≤ memorySize ∧
        next =
          { machine with
            memory := machine.memory.overwrite programStart program } := by
  unfold Machine.load
  by_cases fits : programStart + program.length ≤ memorySize
  · rw [if_neg (Nat.not_lt.mpr fits)]
    simp [fits, eq_comm]
  · rw [if_pos (Nat.not_le.mp fits)]
    simp [fits]

theorem WellFormed.load
    {next : Machine} {program : List UInt8}
    (wellFormed : WellFormed machine)
    (accepted : machine.load program = .ok next) :
    WellFormed next ∧ next.counter = machine.counter := by
  obtain ⟨_, rfl⟩ := load_eq_ok_iff.mp accepted
  exact ⟨{ wellFormed with }, rfl⟩

/-- A completed cycle keeps a machine well formed and leaves the counter no
further than a jump with an offset can take it. -/
theorem WellFormed.cycle
    {next : Machine} {keys : KeySet}
    (wellFormed : WellFormed machine)
    (complete : machine.cycle keys = .done next) :
    WellFormed next ∧ next.counter ≤ 0x10FE := by
  obtain ⟨inside, executed⟩ := cycle_eq_done_iff.mp complete
  obtain ⟨accepted, _, rfl⟩ := execute_eq_done_iff.mp executed
  have counterBounds := machine.canFetch_iff.mp inside
  have fetched :
      2 ≤ (machine.ready keys).counter ∧
        (machine.ready keys).counter ≤ 4096 := by
    simp only [Machine.ready, holding, Machine.stepOver]
    omega
  have targetBound : ∀ target,
      machine.instructionAtCounter.target? = some target → target < 4096 :=
    fun _ => Instruction.target_lt machine.wordAtCounter
  have readyWellFormed := wellFormed.ready keys
  exact ⟨readyWellFormed.carryOut targetBound fetched accepted,
    (counter_carryOut_bounds readyWellFormed targetBound fetched).2⟩

/-- Nothing keeps a well-formed machine from carrying out an accepted
instruction while the keys have hexadecimal codes. -/
theorem WellFormed.obstacle
    {keys : KeySet}
    (wellFormed : WellFormed machine)
    (codes : ∀ key ∈ keys, 0 ≤ key ∧ key ≤ 15)
    (instruction : Instruction) :
    (machine.ready keys).obstacle instruction = none := by
  cases instruction with
  | readDelay register => exact if_pos wellFormed.delayTimer
  | awaitKey register =>
      change keys.min?.bind byteFailure = none
      cases least : keys.min? with
      | none => rfl
      | some key =>
          have bounds := codes key (List.mem_of_head? least)
          exact if_pos ⟨bounds.1, by omega⟩
  | randomByte register mask => exact if_neg wellFormed.random
  | _ => rfl

private theorem WellFormed.cycle_ne_failure
    {keys : KeySet}
    (wellFormed : WellFormed machine)
    (codes : ∀ key ∈ keys, 0 ≤ key ∧ key ≤ 15)
    (failure : Failure) (after : Machine) :
    machine.cycle keys ≠ .failure failure after := by
  intro failed
  obtain ⟨_, executed⟩ := cycle_eq_failure_iff.mp failed
  obtain ⟨_, blocked, _⟩ := execute_eq_failure_iff.mp executed
  rw [wellFormed.obstacle codes] at blocked
  exact absurd blocked (by simp)

/-! ## Runs -/

def StaysInside (moves : List Move) : Prop :=
  ∀ fault, .stepOver fault ∈ moves → fault.cause ≠ .fetchOutside

/-- What a run keeps: the machine is well formed, a fault that waits to be
stepped over came from an address in memory or from the fetch, and the counter
is bounded as long as no fetch outside the memory is stepped over. -/
structure Bounded (moves : List Move) (position : Position) : Prop where
  wellFormed : position.machine.WellFormed
  pending : ∀ fault, position.pending = some fault →
    fault.cause ≠ .fetchOutside → position.machine.counter ≤ 4094
  counter : StaysInside moves → position.machine.counter ≤ 0x10FE

theorem StaysInside.of_append
    {moves later : List Move} (inside : StaysInside (moves ++ later)) :
    StaysInside moves :=
  fun fault belongs => inside fault (List.mem_append_left _ belongs)

/-- Every move keeps the machine well formed and, if no fetch outside the memory
is stepped over, the counter bounded. -/
theorem Bounded.step
    {moves : List Move} {position next : Position} {move : Move}
    (bounded : Bounded moves position)
    (step : Step position move next) :
    Bounded (moves ++ [move]) next := by
  cases step with
  | loaded accepted =>
      obtain ⟨wellFormed, sameCounter⟩ := bounded.wellFormed.load accepted
      refine ⟨wellFormed, ?_, ?_⟩
      · intro fault waiting otherCause
        simpa [sameCounter] using bounded.pending fault waiting otherCause
      · intro inside
        simpa [sameCounter] using bounded.counter inside.of_append
  | rejected refused =>
      exact ⟨bounded.wellFormed, bounded.pending,
        fun inside => bounded.counter inside.of_append⟩
  | completed complete =>
      obtain ⟨wellFormed, counterBound⟩ := bounded.wellFormed.cycle complete
      exact ⟨wellFormed, by simp, fun _ => counterBound⟩
  | faulted broken =>
      obtain ⟨rfl, source⟩ := cycle_eq_fault_iff.mp broken
      refine ⟨bounded.wellFormed, ?_,
        fun inside => bounded.counter inside.of_append⟩
      rintro _ ⟨⟩ otherCause
      rcases source with ⟨_, rfl⟩ | ⟨inside, _⟩
      · exact absurd rfl otherCause
      · exact ((canFetch_iff _).mp inside).2
  | countedDown =>
      exact ⟨bounded.wellFormed.countDown, bounded.pending,
        fun inside => bounded.counter inside.of_append⟩
  | @steppedOver fault waiting =>
      refine ⟨bounded.wellFormed.stepOver, by simp, ?_⟩
      intro inside
      have otherCause := inside fault (by simp)
      have counterBound := bounded.pending _ waiting otherCause
      simp only [Machine.stepOver]
      omega

/-- No move changes the limit of the stack. -/
theorem Step.stackLimit
    {position next : Position} {move : Move}
    (step : Step position move next) :
    next.machine.stackLimit = position.machine.stackLimit := by
  cases step with
  | loaded accepted =>
      obtain ⟨_, isNext⟩ := load_eq_ok_iff.mp accepted
      rw [isNext]
  | completed complete =>
      obtain ⟨_, executed⟩ := cycle_eq_done_iff.mp complete
      obtain ⟨_, _, isNext⟩ := execute_eq_done_iff.mp executed
      rw [isNext, stackLimit_carryOut]
      rfl
  | faulted broken =>
      obtain ⟨unchanged, _⟩ := cycle_eq_fault_iff.mp broken
      rw [unchanged]
  | _ => rfl

theorem Run.stackLimit
    {start finish : Position} {moves : List Move}
    (run : Run start moves finish) :
    finish.machine.stackLimit = start.machine.stackLimit := by
  induction run with
  | refl => rfl
  | tail _ latest inductionHypothesis =>
      rw [latest.stackLimit, inductionHypothesis]

/-- A machine is built unless its stack limit is below one. -/
theorem create_eq_ok_iff
    {source : RandomSource} {limit : Option Int} {start : Machine} :
    create (.ok source) limit = .ok start ↔
      (∀ bound, limit = some bound → 1 ≤ bound) ∧
        start = initial source limit := by
  cases limit with
  | none => simp [create, eq_comm]
  | some bound =>
      by_cases small : bound < 1
      · have notPositive : ¬ 1 ≤ bound := by omega
        simp [create, small, Option.filter, notPositive]
      · have positive : 1 ≤ bound := by omega
        simp [create, small, Option.filter, positive, eq_comm]

/-- A new machine with a source of random bytes is well formed. -/
theorem wellFormed_initial
    {source : RandomSource} {limit : Option Int}
    (present : source ≠ .absent)
    (positive : ∀ bound, limit = some bound → 1 ≤ bound) :
    WellFormed (initial source limit) where
  counter := by simp [initial]
  index := by simp [initial]
  stack := by simp [initial]
  depth := by
    intro bound limited
    have atLeastOne := positive bound limited
    simp only [initial, List.length_nil]
    omega
  delayTimer := by simp [initial]
  soundTimer := by simp [initial]
  display := fun cell belongs =>
    absurd belongs (SortedSet.not_mem_empty cell)
  random := by
    cases source with
    | absent => exact absurd rfl present
    | _ => simp [initial, RandomSource.next?]

private theorem bounded_of_create
    {source : RandomSource} {limit : Option Int} {start : Machine}
    (created : create (.ok source) limit = .ok start)
    (present : source ≠ .absent) :
    Bounded [] { machine := start } := by
  obtain ⟨positive, rfl⟩ := create_eq_ok_iff.mp created
  refine ⟨wellFormed_initial present positive, by simp, ?_⟩
  intro _
  simp [initial, programStart]

/-- Along every run of a new machine all parts of the machine keep their
bounds, and no cycle with hexadecimal keys can end otherwise than by
completing or by a fault. -/
theorem run_keeps_bounds
    {source : RandomSource} {limit : Option Int} {start : Machine}
    {moves : List Move} {finish : Position}
    (created : create (.ok source) limit = .ok start)
    (present : source ≠ .absent)
    (run : Run { machine := start } moves finish) :
    (finish.machine.memory.toList.length = 4096 ∧
      ∀ byte ∈ finish.machine.memory.toList, byte.toNat ≤ 255) ∧
    (finish.machine.registers.toList.length = 16 ∧
      ∀ byte ∈ finish.machine.registers.toList, byte.toNat ≤ 255) ∧
    (0 ≤ finish.machine.index ∧ finish.machine.index ≤ 0xFFFF) ∧
    0 ≤ finish.machine.counter ∧
    ((∀ fault, .stepOver fault ∈ moves → fault.cause ≠ .fetchOutside) →
      finish.machine.counter ≤ 0x10FE) ∧
    (∀ address ∈ finish.machine.stack, 2 ≤ address ∧ address ≤ 4096) ∧
    finish.machine.stackLimit = limit ∧
    (∀ bound, limit = some bound →
      (finish.machine.stack.length : Int) ≤ bound) ∧
    (0 ≤ finish.machine.delayTimer ∧ finish.machine.delayTimer ≤ 255) ∧
    (0 ≤ finish.machine.soundTimer ∧ finish.machine.soundTimer ≤ 255) ∧
    (∀ cell ∈ finish.machine.display,
      0 ≤ cell.x ∧ cell.x < 64 ∧ 0 ≤ cell.y ∧ cell.y ≤ 45) ∧
    ∀ keys : KeySet, (∀ key ∈ keys, 0 ≤ key ∧ key ≤ 15) →
      (∃ next, finish.machine.cycle keys = .done next) ∨
        ∃ fault after, finish.machine.cycle keys = .fault fault after := by
  have bounded : Bounded moves finish :=
    run.induct (bounded_of_create created present) Bounded.step
  have byteBound : ∀ byte : UInt8, byte.toNat ≤ 255 :=
    fun byte => Nat.le_of_lt_succ byte.toNat_lt
  have wellFormed := bounded.wellFormed
  have sameLimit : finish.machine.stackLimit = limit := by
    rw [run.stackLimit, (create_eq_ok_iff.mp created).2]
    rfl
  refine ⟨⟨Vector.length_toList, fun byte _ => byteBound byte⟩,
    ⟨Vector.length_toList, fun byte _ => byteBound byte⟩,
    wellFormed.index, wellFormed.counter, bounded.counter, wellFormed.stack,
    sameLimit, fun bound limited => wellFormed.depth bound (sameLimit ▸ limited),
    wellFormed.delayTimer, wellFormed.soundTimer, wellFormed.display, ?_⟩
  intro keys codes
  cases ended : finish.machine.cycle keys with
  | done next => exact .inl ⟨next, rfl⟩
  | fault fault after => exact .inr ⟨fault, after, rfl⟩
  | failure failure after =>
      exact absurd ended (wellFormed.cycle_ne_failure codes failure after)

/-- A machine whose program returns without having been called. -/
def returning : Machine := oneWord 0x00 0xEE

theorem wordAtCounter_returning :
    returning.wordAtCounter = .ofBytes 0x00 0xEE :=
  wordAtCounter_oneWord 0x00 0xEE

private theorem cycle_returning :
    returning.cycle ∅ =
      .fault
        { cause := .stackEmpty
          address := some 0x200
          instruction := some 0x00EE } returning := by
  refine cycle_eq_fault_iff.mpr
    ⟨rfl, .inr ⟨by decide, .stackEmpty, ?_, ?_⟩⟩
  · rw [instructionAtCounter, wordAtCounter_returning]
    rfl
  · rw [wordAtCounter_returning]
    rfl

/-- The run that loads the return, meets its fault and steps over it. -/
theorem run_returning :
    Run { machine := initial (.replay ⟨[7], 0⟩) (some 1) }
      [.load [0x00, 0xEE],
        .fault ∅
          { cause := .stackEmpty
            address := some 0x200
            instruction := some 0x00EE },
        .stepOver
          { cause := .stackEmpty
            address := some 0x200
            instruction := some 0x00EE }]
      { machine := returning.stepOver } :=
  .tail (.tail (.tail .refl (.loaded rfl)) (.faulted cycle_returning))
    (.steppedOver rfl)

theorem run_keeps_bounds_returning :
    0 ≤ returning.stepOver.counter ∧
      returning.stepOver.counter ≤ 0x10FE ∧
      ∀ keys : KeySet, (∀ key ∈ keys, 0 ≤ key ∧ key ≤ 15) →
        (∃ next, returning.stepOver.cycle keys = .done next) ∨
          ∃ fault after,
            returning.stepOver.cycle keys = .fault fault after := by
  have bounds := run_keeps_bounds (create_eq_ok_iff.mpr ⟨by simp, rfl⟩)
    (by simp) run_returning
  obtain ⟨_, _, _, lower, upper, _, _, _, _, _, _, ends⟩ := bounds
  exact ⟨lower, upper (by simp), ends⟩

end Machine

end Chip8
