import Chip8.Proofs.Channels

/-!
# Random bytes over a run

A source of random bytes delivers a stream, and a run takes the bytes of this
stream in order: each completed `CXNN` takes the next one, and no other
instruction, fault or failure takes any.  How far a run has come in the stream
is therefore the number of its completed `CXNN`.
-/

namespace Chip8

namespace RandomSource

/-- The source delivers the bytes of the stream, one after the other. -/
def Delivers (source : RandomSource) (stream : Nat → UInt8) : Prop :=
  ∀ count, (source.take count).1 = (List.range count).map stream

theorem bytes_take_succ
    {source rest : RandomSource} {byte : UInt8}
    (delivery : source.next? = some (byte, rest)) (count : Nat) :
    (source.take (count + 1)).1 = byte :: (rest.take count).1 := by
  rw [take, delivery]

/-- A source delivers a stream if its next byte is the first of the stream and
what is left of it delivers the rest. -/
theorem delivers_iff_next?
    {source : RandomSource} {stream : Nat → UInt8} :
    source.Delivers stream ↔
      ∃ rest, source.next? = some (stream 0, rest) ∧
        rest.Delivers fun count => stream (count + 1) := by
  have range (count : Nat) :
      (List.range (count + 1)).map stream =
        stream 0 :: (List.range count).map fun later => stream (later + 1) := by
    rw [List.range_succ_eq_map, List.map_cons, List.map_map]
    rfl
  constructor
  · intro delivers
    cases delivery : source.next? with
    | none =>
        have first := delivers 1
        rw [take, delivery] at first
        simp at first
    | some delivered =>
        obtain ⟨byte, rest⟩ := delivered
        have parts (count : Nat) :
            byte = stream 0 ∧
              (rest.take count).1 =
                (List.range count).map fun later => stream (later + 1) := by
          have both := delivers (count + 1)
          rw [bytes_take_succ delivery, range] at both
          exact List.cons.inj both
        refine ⟨rest, ?_, fun count => (parts count).2⟩
        rw [(parts 0).1]
  · rintro ⟨rest, delivery, later⟩ count
    cases count with
    | zero => rfl
    | succ count =>
        rw [bytes_take_succ delivery, later count, range]

/-- A stream delivers its low bytes, so every stream of bytes has a source. -/
theorem delivers_stream (values : Nat → Int) (position : Nat) :
    (stream values position).Delivers fun count =>
      UInt8.ofNat (values (position + count) % 256).toNat := by
  intro count
  induction count generalizing position with
  | zero => rfl
  | succ count inductionHypothesis =>
      rw [bytes_take_succ rfl, inductionHypothesis, List.range_succ_eq_map,
        List.map_cons, List.map_map]
      simp only [Nat.add_zero, List.cons.injEq, true_and]
      apply List.map_congr_left
      intro later _
      rw [Function.comp_apply, Nat.add_assoc, Nat.add_comm 1 later]

/-- A replayed list starts again at its end. -/
theorem delivers_replay
    {values : List UInt8} {position : Nat}
    (inside : position < values.length) :
    (replay ⟨values, position⟩).Delivers fun count =>
      values.getD ((position + count) % values.length) 0 := by
  intro count
  induction count generalizing position with
  | zero => rfl
  | succ count inductionHypothesis =>
      have nextInside : (position + 1) % values.length < values.length :=
        Nat.mod_lt _ (Nat.zero_lt_of_lt inside)
      have delivery :
          (replay ⟨values, position⟩).next? =
            some (values.getD position 0,
              replay ⟨values, (position + 1) % values.length⟩) :=
        rfl
      rw [bytes_take_succ delivery, inductionHypothesis nextInside,
        List.range_succ_eq_map, List.map_cons, List.map_map]
      simp only [Nat.add_zero, Nat.mod_eq_of_lt inside, List.cons.injEq,
        true_and]
      apply List.map_congr_left
      intro later _
      rw [Function.comp_apply, Nat.mod_add_mod, Nat.add_assoc,
        Nat.add_comm 1 later]

/-- A source that repeats given values delivers these values for ever. -/
theorem delivers_of_replaying
    {values : List Int} {source : RandomSource}
    (built : replaying values = .ok source) :
    ∃ stream, source.Delivers stream ∧
      ∀ count, values[count % values.length]? =
        some ((stream count).toNat : Int) := by
  unfold replaying at built
  split at built
  · cases built
  · rename_i nonempty
    split at built
    · cases built
    · rename_i bytes
      cases built
      have positive : 0 < values.length := by
        simpa [List.length_pos_iff] using nonempty
      have inRange : ∀ value ∈ values, 0 ≤ value ∧ value ≤ 255 := by
        simpa using bytes
      refine ⟨_, delivers_replay (by simpa using positive), fun count => ?_⟩
      have inside : count % values.length < values.length :=
        Nat.mod_lt _ positive
      have bounds := inRange _ (List.getElem_mem inside)
      rw [List.getElem?_eq_getElem inside]
      simp only [List.length_map, Nat.zero_add, List.getD_eq_getElem?_getD,
        List.getElem?_map, List.getElem?_eq_getElem inside, Option.map_some,
        Option.getD_some, UInt8.toNat_ofNat']
      exact congrArg some (by omega)

end RandomSource

namespace Machine

/-- What a driver does: it makes a request, or it steps over the word at the
counter, as it may after a fault. -/
inductive Action where
  | request (request : Request)
  | stepOver
  deriving DecidableEq

/-- The machine after an action, whether the action succeeds or not. -/
def act (machine : Machine) : Action → Machine
  | .request request => (machine.respond request).outcome.machine
  | .stepOver => machine.stepOver

def actAll (machine : Machine) (actions : List Action) : Machine :=
  actions.foldl act machine

def draws (machine : Machine) : Action → Bool
  | .request (.cycle keys) =>
      match machine.cycle keys with
      | .done _ => machine.wordAtCounter.group = 0xC
      | _ => false
  | _ => false

/-- The number of words `CXNN` that some actions carry out. -/
def drawCount : Machine → List Action → Nat
  | _, [] => 0
  | machine, action :: later =>
      (machine.draws action).toNat + (machine.act action).drawCount later

/-! ## What one action takes from the source -/

/-- A drawn byte is masked and stored, and nothing else changes but the
counter, the keypad and the source. -/
theorem cycle_draw
    {machine : Machine} {byte : UInt8} {rest : RandomSource}
    (inside : machine.canFetch = true)
    (isDraw : machine.wordAtCounter.group = 0xC)
    (delivery : machine.random.next? = some (byte, rest)) (keys : KeySet) :
    machine.cycle keys =
      .done
        { machine with
          registers :=
            (machine.setRegister machine.wordAtCounter.x
              (byte &&& machine.wordAtCounter.byte)).registers
          counter := machine.counter + 2
          keypad := keys
          random := rest } := by
  have instruction :
      machine.instructionAtCounter =
        .randomByte machine.wordAtCounter.x machine.wordAtCounter.byte := by
    rw [instructionAtCounter, Instruction.ofWord, isDraw]
    rfl
  have readyDelivery :
      (machine.ready keys).random.next? = some (byte, rest) :=
    delivery
  refine cycle_eq_done_iff.mpr ⟨inside, ?_⟩
  rw [instruction, execute, readyDelivery]
  rfl

private theorem random_of_cycle
    {machine next : Machine} {keys : KeySet}
    (complete : machine.cycle keys = .done next)
    (noDraw : machine.wordAtCounter.group ≠ 0xC) :
    next.random = machine.random := by
  obtain ⟨_, executed⟩ := cycle_eq_done_iff.mp complete
  obtain ⟨_, _, rfl⟩ := execute_eq_done_iff.mp executed
  rw [random_carryOut]
  cases shape : machine.instructionAtCounter with
  | randomByte register mask =>
      exact absurd (Instruction.group_of_randomByte shape) noDraw
  | _ => rfl

/-- An action that is no draw leaves the source alone, be it a fault or a
failure. -/
theorem random_act
    {machine : Machine} {action : Action}
    (noDraw : machine.draws action = false) :
    (machine.act action).random = machine.random := by
  cases action with
  | stepOver => rfl
  | request request =>
      cases request with
      | countDown => rfl
      | cycle keys =>
          change (machine.cycle keys).machine.random = machine.random
          cases ended : machine.cycle keys with
          | done next =>
              simp only [draws, ended, decide_eq_false_iff_not] at noDraw
              exact random_of_cycle ended noDraw
          | fault fault after =>
              obtain ⟨rfl, _⟩ := cycle_eq_fault_iff.mp ended
              rfl
          | failure failure after =>
              obtain ⟨_, executed⟩ := cycle_eq_failure_iff.mp ended
              obtain ⟨_, _, rfl⟩ := execute_eq_failure_iff.mp executed
              rfl

theorem cycle_of_draws
    {machine : Machine} {keys : KeySet}
    (isDraw : machine.draws (.request (.cycle keys)) = true) :
    machine.canFetch = true ∧ machine.wordAtCounter.group = 0xC := by
  cases ended : machine.cycle keys with
  | done next =>
      simp only [draws, ended, decide_eq_true_eq] at isDraw
      exact ⟨(cycle_eq_done_iff.mp ended).1, isDraw⟩
  | fault fault after => simp [draws, ended] at isDraw
  | failure failure after => simp [draws, ended] at isDraw

/-- An action takes one byte from the stream if it is a draw, and none
otherwise. -/
theorem delivers_act
    {machine : Machine} {stream : Nat → UInt8}
    (delivers : machine.random.Delivers stream) (action : Action) :
    (machine.act action).random.Delivers fun count =>
      stream ((machine.draws action).toNat + count) := by
  cases isDraw : machine.draws action with
  | false =>
      rw [random_act isDraw]
      simpa using delivers
  | true =>
      obtain ⟨keys, rfl⟩ : ∃ keys, action = .request (.cycle keys) := by
        cases action with
        | stepOver => cases isDraw
        | request request =>
            cases request with
            | countDown => cases isDraw
            | cycle keys => exact ⟨keys, rfl⟩
      obtain ⟨inside, isGroup⟩ := cycle_of_draws isDraw
      obtain ⟨rest, delivery, later⟩ :=
        RandomSource.delivers_iff_next?.mp delivers
      have drawn := cycle_draw inside isGroup delivery keys
      change (machine.cycle keys).machine.random.Delivers _
      rw [drawn]
      change rest.Delivers fun count => stream (1 + count)
      simpa only [Nat.add_comm] using later

/-! ## What a run takes from the source -/

private theorem delivers_actAll
    {machine : Machine} {stream : Nat → UInt8}
    (delivers : machine.random.Delivers stream) (actions : List Action) :
    (machine.actAll actions).random.Delivers fun count =>
      stream (machine.drawCount actions + count) := by
  induction actions generalizing machine stream with
  | nil => simpa [actAll, drawCount] using delivers
  | cons action later inductionHypothesis =>
      have rest := inductionHypothesis (delivers_act delivers action)
      simpa [actAll, drawCount, Nat.add_assoc] using rest

/-- Along every run, the completed `CXNN` take the bytes of the stream in
order, and the next byte is the one whose number is that of the completed
`CXNN`.  The stream of replayed values repeats these values. -/
theorem draws_follow_stream
    {machine : Machine} {stream : Nat → UInt8}
    (delivers : machine.random.Delivers stream) (actions : List Action) :
    (∀ earlier keys later index,
      actions = earlier ++ .request (.cycle keys) :: later →
      let before := machine.actAll earlier
      let word := before.wordAtCounter
      before.draws (.request (.cycle keys)) = true →
      machine.drawCount earlier = index →
      ∃ random,
        before.cycle keys =
          .done
            { before with
              registers :=
                (before.setRegister word.x
                  (stream index &&& word.byte)).registers
              counter := before.counter + 2
              keypad := keys
              random := random }) ∧
    (∃ rest, (machine.actAll actions).random.next? =
      some (stream (machine.drawCount actions), rest)) ∧
    (∀ values source, RandomSource.replaying values = .ok source →
      ∃ replayed, source.Delivers replayed ∧
        ∀ index, values[index % values.length]? =
          some ((replayed index).toNat : Int)) := by
  have reached := delivers_actAll delivers
  refine ⟨?_, ?_, fun _ _ => RandomSource.delivers_of_replaying⟩
  · intro earlier keys later index _ before word isDraw isIndex
    obtain ⟨inside, isGroup⟩ := cycle_of_draws isDraw
    obtain ⟨rest, delivery, _⟩ :=
      RandomSource.delivers_iff_next?.mp (reached earlier)
    rw [Nat.add_zero, isIndex] at delivery
    exact ⟨rest, cycle_draw inside isGroup delivery keys⟩
  · obtain ⟨rest, delivery, _⟩ :=
      RandomSource.delivers_iff_next?.mp (reached actions)
    exact ⟨rest, delivery⟩

/-- A machine that draws a byte, returns without having been called, waits for
a key and draws another byte. -/
def drawTwice : Machine :=
  { initial (.replay ⟨[0xA7, 0x3C], 0⟩) none with
    memory := (Bytes.zeros memorySize).overwrite 0
      [0xC1, 0x0F, 0x00, 0xEE, 0xF3, 0x0A, 0xC2, 0xF0]
    counter := 0 }

/-- The return is stepped over, the first wait is in vain, and a key code that
is no byte makes the second one fail. -/
def beforeSecondDraw : List Action :=
  [.request (.cycle ∅), .request .countDown, .request (.cycle ∅), .stepOver,
    .request (.cycle ∅), .request (.cycle (.singleton 300))]

/-- The second draw takes the second byte, and then the stream starts over. -/
theorem draws_follow_stream_drawTwice :
    let before := drawTwice.actAll beforeSecondDraw
    let after := drawTwice.actAll (beforeSecondDraw ++ [.request (.cycle ∅)])
    (∃ random,
      before.cycle ∅ =
        .done
          { before with
            registers := (before.setRegister 2 0x30).registers
            counter := 8
            keypad := ∅
            random := random }) ∧
      ∃ rest, after.random.next? = some (0xA7, rest) := by
  intro before after
  have delivers :
      drawTwice.random.Delivers fun count =>
        [0xA7, 0x3C].getD ((0 + count) % 2) 0 :=
    RandomSource.delivers_replay (by decide)
  obtain ⟨drawn, next, _⟩ :=
    draws_follow_stream delivers (beforeSecondDraw ++ [.request (.cycle ∅)])
  have isWord : before.wordAtCounter = .ofBytes 0xC2 0xF0 := by
    decide +kernel
  have isCounter : before.counter = 6 := by decide +kernel
  have second :=
    drawn beforeSecondDraw ∅ [] 1 rfl (by decide +kernel) (by decide +kernel)
  have total :
      drawTwice.drawCount (beforeSecondDraw ++ [.request (.cycle ∅)]) = 2 := by
    decide +kernel
  rw [total] at next
  change ∃ random,
    before.cycle ∅ =
      .done
        { before with
          registers :=
            (before.setRegister before.wordAtCounter.x
              (0x3C &&& before.wordAtCounter.byte)).registers
          counter := before.counter + 2
          keypad := ∅
          random := random } at second
  rw [isWord, isCounter] at second
  exact ⟨second, next⟩

end Machine

end Chip8
