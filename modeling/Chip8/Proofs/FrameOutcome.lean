import Chip8.Session.Run

/-!
# What a frame leads to

Without its devices a frame is a function of the machine and the held keys:
`playFrame` gives the machine at its end, the number of instructions, the
faults in order and whether the session goes on.  `outcomes` chains frames, up
to the first one that ends the session.
-/

namespace Chip8.Session

/-- What the cycles of a frame lead to. -/
structure FrameOutcome where
  machine : Machine
  instructions : Nat := 0
  faults : List Fault := []
  course : Course := .goesOn

def playCycles (haltOnFault : Bool) (keys : KeySet) :
    Nat → Machine → FrameOutcome
  | 0, machine => { machine := machine }
  | count + 1, machine =>
      match machine.cycle keys with
      | .done next =>
          let rest := playCycles haltOnFault keys count next
          { rest with instructions := rest.instructions + 1 }
      | .failure failure after => { machine := after, course := .failed failure }
      | .fault fault after =>
          if haltOnFault then
            { machine := after, faults := [fault], course := .halted }
          else
            let rest := playCycles haltOnFault keys count after.stepOver
            { rest with faults := fault :: rest.faults }

/-- The outcome of a frame: the timers come before the cycles. -/
def playFrame (config : Config) (keys : KeySet) (machine : Machine) :
    FrameOutcome :=
  playCycles config.haltOnFault keys config.instructionsPerFrame.toNat
    machine.countDown

/-- The outcomes of the frames with the given keys, up to the first frame that
ends the session. -/
def outcomes (config : Config) : List KeySet → Machine → List FrameOutcome
  | [], _ => []
  | keys :: later, machine =>
      let outcome := playFrame config keys machine
      match outcome.course with
      | .goesOn => outcome :: outcomes config later outcome.machine
      | _ => [outcome]

/-- The machine after frames, the first of which started on the given one. -/
def lastMachine : List FrameOutcome → Machine → Machine
  | [], machine => machine
  | outcome :: later, _ => lastMachine later outcome.machine

/-- The ending of a run of frames that nobody stops. -/
def endingAfter : List FrameOutcome → Ending
  | [] => .complete
  | outcome :: later =>
      match outcome.course with
      | .goesOn => endingAfter later
      | .halted => .halted
      | .failed failure => .failed failure

/-! ## Earlier and later frames -/

section

variable {config : Config} {earlier : List KeySet} {machine : Machine}
  (later : List KeySet)

/-- If all earlier frames go on, the later ones follow from the machine that
they leave. -/
theorem outcomes_append_of_complete
    (complete :
      endingAfter (outcomes config earlier machine) = .complete) :
    outcomes config (earlier ++ later) machine =
      outcomes config earlier machine ++
        outcomes config later
          (lastMachine (outcomes config earlier machine) machine) := by
  induction earlier generalizing machine with
  | nil => rfl
  | cons keys rest inductionHypothesis =>
      simp only [List.cons_append, outcomes] at complete ⊢
      cases course : (playFrame config keys machine).course with
      | goesOn =>
          simp only [course, endingAfter] at complete
          simp only [lastMachine, List.cons_append,
            inductionHypothesis complete]
      | halted | failed _ => simp [course, endingAfter] at complete

/-- Once the frames have ended, further keys make no difference. -/
theorem outcomes_append_of_ended
    (ended : endingAfter (outcomes config earlier machine) ≠ .complete) :
    outcomes config (earlier ++ later) machine =
      outcomes config earlier machine := by
  induction earlier generalizing machine with
  | nil => exact absurd rfl ended
  | cons keys rest inductionHypothesis =>
      simp only [List.cons_append, outcomes] at ended ⊢
      cases course : (playFrame config keys machine).course with
      | goesOn =>
          simp only [course, endingAfter] at ended
          simp only [inductionHypothesis ended]
      | halted | failed _ => rfl

end

/-! ## The ending of frames -/

theorem endingAfter_cases (frames : List FrameOutcome) :
    endingAfter frames = .complete ∨ endingAfter frames = .halted ∨
      ∃ failure, endingAfter frames = .failed failure := by
  induction frames with
  | nil => exact .inl rfl
  | cons first rest inductionHypothesis =>
      rw [endingAfter]
      cases first.course with
      | goesOn => exact inductionHypothesis
      | halted => exact .inr (.inl rfl)
      | failed failure => exact .inr (.inr ⟨failure, rfl⟩)

theorem goesOn_of_complete
    {frames : List FrameOutcome} (complete : endingAfter frames = .complete) :
    ∀ outcome ∈ frames, outcome.course = .goesOn := by
  induction frames with
  | nil => exact List.forall_mem_nil _
  | cons first rest inductionHypothesis =>
      simp only [endingAfter] at complete
      cases course : first.course with
      | goesOn =>
          rw [course] at complete
          exact List.forall_mem_cons.mpr
            ⟨course, inductionHypothesis complete⟩
      | halted | failed _ => simp [course] at complete

theorem endingAfter_of_goesOn
    {frames : List FrameOutcome}
    (allGo : ∀ outcome ∈ frames, outcome.course = .goesOn) :
    endingAfter frames = .complete := by
  induction frames with
  | nil => rfl
  | cons first rest inductionHypothesis =>
      obtain ⟨firstGoes, restGo⟩ := List.forall_mem_cons.mp allGo
      rw [endingAfter, firstGoes]
      exact inductionHypothesis restGo

/-- Only the last frame can be halted. -/
theorem outcomes_of_halted
    {config : Config} {keys : List KeySet} {machine : Machine}
    (halted : endingAfter (outcomes config keys machine) = .halted) :
    ∃ earlier last,
      outcomes config keys machine = earlier ++ [last] ∧
        (∀ outcome ∈ earlier, outcome.course = .goesOn) ∧
        last.course = .halted := by
  induction keys generalizing machine with
  | nil => simp [outcomes, endingAfter] at halted
  | cons held later inductionHypothesis =>
      simp only [outcomes] at halted ⊢
      cases course : (playFrame config held machine).course with
      | goesOn =>
          simp only [course, endingAfter] at halted
          obtain ⟨earlier, last, shape, allGo, halts⟩ :=
            inductionHypothesis halted
          refine ⟨playFrame config held machine :: earlier, last, ?_, ?_, halts⟩
          · simp only [shape, List.cons_append]
          · exact List.forall_mem_cons.mpr ⟨course, allGo⟩
      | halted => exact ⟨[], _, rfl, List.forall_mem_nil _, course⟩
      | failed failure => simp [course, endingAfter] at halted

theorem endingAfter_append_of_complete
    {earlier : List FrameOutcome} (later : List FrameOutcome)
    (complete : endingAfter earlier = .complete) :
    endingAfter (earlier ++ later) = endingAfter later := by
  induction earlier with
  | nil => rfl
  | cons outcome rest inductionHypothesis =>
      simp only [List.cons_append, endingAfter] at complete ⊢
      cases course : outcome.course with
      | goesOn =>
          rw [course] at complete
          exact inductionHypothesis complete
      | halted | failed _ => simp [course] at complete

theorem lastMachine_append
    (earlier later : List FrameOutcome) (machine : Machine) :
    lastMachine (earlier ++ later) machine =
      lastMachine later (lastMachine earlier machine) := by
  induction earlier generalizing machine with
  | nil => rfl
  | cons outcome rest inductionHypothesis =>
      exact inductionHypothesis outcome.machine

/-! ## How many cycles a frame has -/

/-- How the counts of a frame of `count` cycles follow from its course. -/
structure FrameOutcome.Accounted
    (outcome : FrameOutcome) (haltOnFault : Bool) (count : Nat) : Prop where
  complete : outcome.course = .goesOn →
    outcome.instructions + outcome.faults.length = count
  unharmed : outcome.course = .goesOn → haltOnFault = true →
    outcome.faults = []
  broken : outcome.course = .halted →
    haltOnFault = true ∧ (∃ fault, outcome.faults = [fault]) ∧
      outcome.instructions < count

/-- Each cycle of a frame is a complete instruction or a fault; one fault is the
last of them if faults halt. -/
theorem accounted_playCycles
    (haltOnFault : Bool) (keys : KeySet) (count : Nat) (machine : Machine) :
    (playCycles haltOnFault keys count machine).Accounted haltOnFault count := by
  induction count generalizing machine with
  | zero => exact ⟨fun _ => rfl, fun _ _ => rfl, nofun⟩
  | succ count inductionHypothesis =>
      rw [playCycles]
      cases ended : machine.cycle keys with
      | done next =>
          have rest := inductionHypothesis next
          refine ⟨?_, rest.unharmed, ?_⟩
          · intro goesOn
            have sum := rest.complete goesOn
            simp only
            omega
          · intro halted
            obtain ⟨halts, single, fewer⟩ := rest.broken halted
            exact ⟨halts, single, Nat.succ_lt_succ fewer⟩
      | failure failure after => exact ⟨nofun, nofun, nofun⟩
      | fault fault after =>
          cases haltOnFault with
          | true =>
              exact ⟨nofun, nofun, fun _ => ⟨rfl, ⟨fault, rfl⟩, count.succ_pos⟩⟩
          | false =>
              have rest := inductionHypothesis after.stepOver
              refine ⟨?_, nofun, fun halted => ?_⟩
              · intro goesOn
                have sum := rest.complete goesOn
                simp only [Bool.false_eq_true, if_false, List.length_cons]
                omega
              · exact absurd (rest.broken halted).1 (by decide)

theorem exists_of_mem_outcomes
    {config : Config} {keys : List KeySet} {machine : Machine}
    {outcome : FrameOutcome}
    (belongs : outcome ∈ outcomes config keys machine) :
    ∃ held before, outcome = playFrame config held before := by
  induction keys generalizing machine with
  | nil => simp [outcomes] at belongs
  | cons held later inductionHypothesis =>
      simp only [outcomes] at belongs
      split at belongs
      · rcases List.mem_cons.mp belongs with rfl | inLater
        · exact ⟨held, machine, rfl⟩
        · exact inductionHypothesis inLater
      · exact ⟨held, machine, List.mem_singleton.mp belongs⟩

end Chip8.Session
