import Chip8.Proofs.Reachability
import Chip8.Proofs.SessionClosure
import Chip8.Proofs.Settings
import Chip8.Scripted.World

/-!
# The command before its session

The command loads its settings, builds a machine and reads the program, and
only then begins a session, in place of which it can be given another action.
In a scripted world it is seen how far the command gets: which files it opens,
and whether it comes to the session at all.  None of this depends on how a
settings file and overrides become one layer.
-/

namespace Chip8

theorem run_bind
    {σ α β : Type} (action : StateM σ α) (next : α → StateM σ β) (world : σ) :
    (action >>= next).run world =
      (next (action.run world).1).run (action.run world).2 :=
  rfl

/-- What is read is the content of one of the files. -/
theorem Files.exists_mem_of_read
    {files : Files} {path : String} {content : List UInt8}
    (isRead : files.read path = .ok content) :
    ∃ name, (name, content) ∈ files := by
  unfold read at isRead
  split at isRead
  · cases isRead
  · cases isRead
  · split at isRead
    next found =>
      cases isRead
      obtain ⟨earlier, later, isSplit, -⟩ := List.lookup_eq_some_iff.mp found
      exact ⟨_, isSplit ▸ List.mem_append_cons_self⟩
    · cases isRead
  · cases isRead

namespace CommandLine.Host

variable {m : Type → Type} [Monad m] (host : Host m) (play : Play m)

theorem start_of_error
    {logger : Logger} {arguments : Arguments} {config : Config}
    {error : Machine.BuildError}
    (unbuilt :
      Machine.create
        (RandomSource.seeded config.seed RandomSource.usualBlockSize)
        config.stackLimit = .error error) :
    host.start play logger arguments config =
      pure (.problem (.machine error)) := by
  unfold start
  rw [unbuilt]

theorem start_of_created
    {logger : Logger} {arguments : Arguments} {config : Config}
    {machine : Machine}
    (created :
      Machine.create
        (RandomSource.seeded config.seed RandomSource.usualBlockSize)
        config.stackLimit = .ok machine) :
    host.start play logger arguments config =
      host.launch play logger arguments config machine := by
  unfold start
  rw [created]

end CommandLine.Host

namespace Scripted.World

open CommandLine

/-- The surroundings of the command with another way to make one layer of a
settings file and overrides. -/
def reading (layering : Config.Layering) : Host (StateM World) :=
  { host with layering := layering }

theorem reading_readLayers : reading Config.readLayers = host := rfl

variable (layering : Config.Layering)

/-- The actions that change nothing but the log and its clock. -/
def logging : ActionClass (StateM World) where
  Holds action := ∀ world, ∃ log clock,
    (action.run world).2 = { world with log := log, logClock := clock }
  ofPure _ world := ⟨world.log, world.logClock, rfl⟩
  ofBind := by
    intro α β action next first later world
    obtain ⟨log, clock, isFirst⟩ := first world
    obtain ⟨lastLog, lastClock, isLast⟩ :=
      later (action.run world).1 (action.run world).2
    refine ⟨lastLog, lastClock, ?_⟩
    rw [isFirst] at isLast
    exact (congrArg (fun between =>
      ((next (action.run world).1).run between).2) isFirst).trans isLast

theorem logging_log
    (logger : Logger) (level message : String) :
    logging.Holds (logger.log (reading layering).log level message) := by
  intro world
  unfold Logger.log
  split
  · split
    · exact ⟨_, _, rfl⟩
    · exact ⟨_, _, rfl⟩
  · exact ⟨_, _, rfl⟩

private theorem logging_newLogger
    (level : LogLevel) :
    logging.Holds ((reading layering).newLogger level) :=
  fun _ => ⟨_, _, rfl⟩

/-- An answer that a new logger reports before it is given. -/
theorem exists_reported
    (level : LogLevel) (message : String) (outcome : CommandLine.Outcome)
    (world : World) :
    ∃ log clock,
      (do
        let logger ← (reading layering).newLogger level
        logger.error (reading layering).log message
        return outcome : StateM World CommandLine.Outcome).run world =
          (outcome, { world with log := log, logClock := clock }) := by
  have reporting :
      logging.Holds ((reading layering).newLogger level >>= fun logger =>
        logger.error (reading layering).log message) :=
    logging.ofBind (logging_newLogger layering level) fun logger =>
      logging_log layering logger LogLevel.error.name message
  obtain ⟨log, clock, isAfter⟩ := reporting world
  refine ⟨log, clock, ?_⟩
  rw [← isAfter]
  rfl

/-- The settings that the arguments and the files give. -/
def settings (world : World) (arguments : Arguments) :
    Except Config.LoadError Config :=
  Config.loadBy layering
    (arguments.config.map fun path => (path, world.files.read path))
    arguments.allOverrides

def afterSettings (world : World) (arguments : Arguments) : World :=
  { world with opened := arguments.config.toList ++ world.opened }

theorem run_loadConfig
    (world : World) (arguments : Arguments) :
    ((reading layering).loadConfig arguments).run world =
      (settings layering world arguments, world.afterSettings arguments) := by
  unfold Host.loadConfig settings afterSettings
  cases arguments.config with
  | none => rfl
  | some path => rfl

/-! ## How far the command gets -/

section

variable {layering : Config.Layering} {world : World} {arguments : Arguments}

/-- Rejected settings end the command, whatever a session would have done. -/
theorem execute_of_rejected
    {error : Config.LoadError}
    (rejected : settings layering world arguments = .error error) :
    ∃ log clock, ∀ play,
      ((reading layering).execute arguments play).run world =
        (if error.isReported then .exit 2 else .problem (.config error),
          { world.afterSettings arguments with log := log, logClock := clock }) := by
  by_cases reported : error.isReported
  · obtain ⟨log, clock, answers⟩ :=
      exists_reported layering .info ("Invalid configuration: " ++ error.message) (.exit 2)
        (world.afterSettings arguments)
    refine ⟨log, clock, fun play => ?_⟩
    unfold Host.execute
    rw [run_bind, run_loadConfig, rejected, if_pos reported, ← answers]
    simp only [reported, if_true]
  · refine ⟨world.log, world.logClock, fun play => ?_⟩
    unfold Host.execute
    rw [run_bind, run_loadConfig, rejected, if_neg reported]
    simp only [reported]
    rfl

variable {config : Config}
  (loaded : settings layering world arguments = .ok config)

include loaded

/-- Too few frames end the command before the program is looked at. -/
theorem execute_of_few
    {frames : Int}
    (asked : arguments.frames = some frames)
    (few : frames < 1) :
    ∃ log clock, ∀ play,
      ((reading layering).execute arguments play).run world =
        (.exit 2,
          { world.afterSettings arguments with log := log, logClock := clock }) := by
  have refused : arguments.frames.filter (· < 1) = some frames := by
    simp [asked, few]
  obtain ⟨log, clock, answers⟩ :=
    exists_reported layering ((LogLevel.find? config.logLevel).getD .info)
      ("--frames must be at least 1, got " ++ Numeral.text frames) (.exit 2)
      (world.afterSettings arguments)
  refine ⟨log, clock, fun play => ?_⟩
  unfold Host.execute
  rw [run_bind, run_loadConfig, loaded, ← answers]
  simp only [refused]

/-- With accepted settings and enough frames the command goes on to its start.
-/
theorem execute_of_enough
    (enough : ∀ frames, arguments.frames = some frames → 1 ≤ frames) :
    ∃ logger clock, ∀ play,
      ((reading layering).execute arguments play).run world =
        ((reading layering).start play logger arguments config).run
          { world.afterSettings arguments with logClock := clock } := by
  have accepted : arguments.frames.filter (· < 1) = none := by
    simpa [Option.filter_eq_none_iff] using enough
  let logger :=
    ((reading layering).newLogger
      ((LogLevel.find? config.logLevel).getD .info)).run
      (world.afterSettings arguments)
  refine ⟨logger.1, logger.2.logClock, fun play => ?_⟩
  unfold Host.execute
  rw [run_bind, run_loadConfig, loaded]
  simp only [accepted]
  rfl

end

/-- The program can be read and fits into the memory. -/
def Loadable (world : World) (arguments : Arguments) : Prop :=
  ∃ program, world.files.read arguments.rom = .ok program ∧
    program.length ≤ Machine.programCapacity

section

variable {world : World} {arguments : Arguments} (logger : Logger)
  (config : Config)

theorem run_loadProgram
    (world : World) (machine : Machine) (path : String) :
    ((reading layering).loadProgram machine path).run world =
      (match world.files.read path with
        | .error error => .error error.message
        | .ok program =>
            (machine.load program).mapError Machine.LoadError.message,
        { world with opened := path :: world.opened }) := by
  unfold Host.loadProgram
  rw [run_bind]
  have isRead :
      ((reading layering).readFile path).run world =
        (world.files.read path, { world with opened := path :: world.opened }) :=
    rfl
  rw [isRead]
  cases world.files.read path with
  | error error => rfl
  | ok program => rfl

/-- A program that cannot be loaded ends the command with a report. -/
theorem launch_of_not_loadable
    (machine : Machine)
    (unloadable : ¬ world.Loadable arguments) :
    ∃ log clock, ∀ play,
      ((reading layering).launch play logger arguments config machine).run world =
        (.exit 1,
          { world with
            opened := arguments.rom :: world.opened
            log := log
            logClock := clock }) := by
  have failed : ∃ report,
      ((reading layering).loadProgram machine arguments.rom).run world =
        (.error report, { world with opened := arguments.rom :: world.opened }) := by
    rw [run_loadProgram]
    cases content : world.files.read arguments.rom with
    | error error => exact ⟨_, rfl⟩
    | ok program =>
        cases loaded : machine.load program with
        | error error => exact ⟨error.message, by simp only [loaded, mapError_error]⟩
        | ok next =>
            obtain ⟨fits, -⟩ := Machine.load_eq_ok_iff.mp loaded
            refine absurd ⟨program, content, ?_⟩ unloadable
            exact Nat.le_sub_of_add_le' fits
  obtain ⟨report, failed⟩ := failed
  obtain ⟨log, clock, isAfter⟩ :=
    logging_log layering logger LogLevel.error.name ("Could not load ROM: " ++ report)
      { world with opened := arguments.rom :: world.opened }
  refine ⟨log, clock, fun play => ?_⟩
  unfold Host.launch
  rw [run_bind, failed]
  simp only
  rw [run_bind]
  exact Prod.ext rfl isAfter

/-- A loaded program is played in a world that has taken note of its file. -/
theorem launch_of_loaded
    {program : List UInt8} {machine next : Machine}
    (content : world.files.read arguments.rom = .ok program)
    (fits : machine.load program = .ok next) :
    ∃ log clock, ∀ play,
      ((reading layering).launch play logger arguments config machine).run world =
        (play logger arguments config next).run
          { world with
            opened := arguments.rom :: world.opened
            log := log
            logClock := clock } := by
  obtain ⟨log, clock, isAfter⟩ :=
    logging_log layering logger LogLevel.info.name ("Loaded: " ++ arguments.rom)
      { world with opened := arguments.rom :: world.opened }
  refine ⟨log, clock, fun play => ?_⟩
  unfold Host.launch
  rw [run_bind, run_loadProgram, content]
  simp only [fits, mapError_ok]
  rw [run_bind, ← isAfter]
  rfl

end

end Scripted.World

end Chip8
