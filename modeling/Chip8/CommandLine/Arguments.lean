import Chip8.Text.Integer
import Chip8.Text.Quoted

/-!
# The arguments of the command

The command takes the path of a program and options.  A long option may be
shortened as long as it stays unique, and its value follows as the next word
or behind an equals sign.  Words behind `--` are no options.

The words are first classified one by one, then read from left to right.
-/

namespace Chip8.CommandLine

/-- The options. -/
inductive Flag where
  | help
  | interface
  | config
  | set
  | frames
  | screenshot
  | record
  | logLevel
  deriving DecidableEq, Repr

namespace Flag

def spellings : List (String × Flag) :=
  [("-h", help), ("--help", help), ("--interface", interface), ("--config", config),
    ("--set", set), ("--frames", frames), ("--screenshot", screenshot),
    ("--record", record), ("--log-level", logLevel)]

def find? (spelling : String) : Option Flag := spellings.lookup spelling

/-- The name of an option in reports: all its spellings. -/
def name (flag : Flag) : String :=
  "/".intercalate ((spellings.filter fun entry => entry.2 = flag).map Prod.fst)

end Flag

/-- The front-ends that can be asked for. -/
inductive Interface where
  | terminal
  | graphical
  | headless
  deriving DecidableEq, Repr

namespace Interface

def named : List (String × Interface) :=
  [("terminal", terminal), ("graphical", graphical), ("headless", headless)]

def find? (name : String) : Option Interface := named.lookup name

end Interface

/-- What the words of a command ask for. -/
structure Arguments where
  rom : String
  interface : Interface := .terminal
  /-- The path of the settings file. -/
  config : Option String := none
  overrides : List String := []
  frames : Option Int := none
  /-- Where to save the last frame. -/
  screenshot : Option String := none
  record : Option String := none
  /-- The least level that is logged. -/
  logLevel : Option String := none
  deriving DecidableEq, Repr

/-- What is wrong with the words of a command. -/
inductive Misuse where
  /-- A shortened option is not unique. -/
  | ambiguous (word : String) (spellings : List String)
  | valueMissing (flag : Flag)
  /-- An option without a value has one. -/
  | valueIgnored (flag : Flag) (value : String)
  /-- A number of frames is no integer. -/
  | notAnInteger (value : String)
  | notAnInterface (value : String)
  | programMissing
  /-- There are words that mean nothing. -/
  | unrecognized (words : List String)
  deriving DecidableEq, Repr

namespace Misuse

def about (flag : Flag) (report : String) : String := "argument " ++ flag.name ++ ": " ++ report

def message : Misuse → String
  | ambiguous word spellings =>
      "ambiguous option: " ++ word ++ " could match " ++ ", ".intercalate spellings
  | valueMissing flag => about flag "expected one argument"
  | valueIgnored flag value => about flag ("ignored explicit argument " ++ Text.quoted value)
  | notAnInteger value => about .frames ("invalid int value: " ++ Text.quoted value)
  | notAnInterface value =>
      about .interface ("invalid choice: " ++ Text.quoted value ++ " (choose from " ++
        ", ".intercalate (Interface.named.map fun entry => Text.quoted entry.1) ++ ")")
  | programMissing => "the following arguments are required: rom"
  | unrecognized words => "unrecognized arguments: " ++ " ".intercalate words

end Misuse

/-! ## Classifying words -/

/-- A value inside the word of an option. -/
inductive Attached where
  /-- The value stands behind an equals sign. -/
  | equals (value : String)
  /-- The value follows a short option at once. -/
  | cluster (value : String)
  deriving DecidableEq, Repr

inductive Item where
  /-- A value, or the path of the program. -/
  | argument (text : String)
  /-- The word behind which there are no options. -/
  | separator
  | option (flag : Flag) (attached : Option Attached)
  /-- A word that looks like an option and is none. -/
  | unknown (text : String)
  deriving DecidableEq, Repr

def cutAtEquals (word : String) : String × Option String :=
  match word.toList.dropWhile (· ≠ '=') with
  | _ :: value => (.ofList (word.toList.takeWhile (· ≠ '=')), some (.ofList value))
  | [] => (word, none)

/-- The options that a word can stand for, with their spellings. -/
def candidates (word : String) : List (String × Item) :=
  if word.startsWith "--" then
    let (start, value) := cutAtEquals word
    (Flag.spellings.filter fun entry => entry.1.startsWith start).map fun (spelling, flag) =>
      (spelling, .option flag (value.map Attached.equals))
  else
    let short := word.toList.take 2
    Flag.spellings.filterMap fun (spelling, flag) =>
      if spelling.toList = short then
        some (spelling, .option flag (some (.cluster (.ofList (word.toList.drop 2)))))
      else if spelling.startsWith word then some (spelling, .option flag none)
      else none

/-- Whether a word is a negative number.  A line end may follow it. -/
def isNegativeNumber (word : String) : Bool :=
  match word.toList with
  | '-' :: rest =>
      let number := if rest.getLast? = some '\n' then rest.dropLast else rest
      let fraction := number.dropWhile Text.isDigit
      match fraction with
      | [] => !number.isEmpty
      | '.' :: digits => !digits.isEmpty && digits.all Text.isDigit
      | _ => false
  | _ => false

/-- The meaning of a word that may be an option. -/
def classifyDashed (word : String) : Except Misuse Item :=
  match Flag.find? word, cutAtEquals word with
  | some flag, _ => .ok (.option flag none)
  | none, (start, value) =>
      match value, Flag.find? start with
      | some value, some flag => .ok (.option flag (some (.equals value)))
      | _, _ =>
          match candidates word with
          | [candidate] => .ok candidate.2
          | [] =>
              .ok (if isNegativeNumber word || word.toList.contains ' ' then .argument word
                else .unknown word)
          | several => .error (.ambiguous word (several.map Prod.fst))

def classify (word : String) : Except Misuse Item :=
  if word.startsWith "-" && word ≠ "-" then classifyDashed word else .ok (.argument word)

def classifyAll : List String → Except Misuse (List Item)
  | [] => .ok []
  | "--" :: rest => .ok (.separator :: rest.map Item.argument)
  | word :: rest => do
      let item ← classify word
      return item :: (← classifyAll rest)

/-! ## Reading the classified words -/

/-- What has been read so far. -/
structure Draft where
  rom : Option String := none
  arguments : Arguments := { rom := "" }
  extras : List String := []

namespace Draft

def addExtra (draft : Draft) (word : String) : Draft :=
  { draft with extras := draft.extras ++ [word] }

def apply (draft : Draft) (flag : Flag) (value : String) : Except Misuse Draft :=
  let arguments := draft.arguments
  let changed (arguments : Arguments) : Except Misuse Draft :=
    .ok { draft with arguments := arguments }
  match flag with
  | .help => .error (.valueIgnored .help value)
  | .interface =>
      match Interface.find? value with
      | some interface => changed { arguments with interface := interface }
      | none => .error (.notAnInterface value)
  | .config => changed { arguments with config := some value }
  | .set => changed { arguments with overrides := arguments.overrides ++ [value] }
  | .frames =>
      match Text.readInteger? value with
      | some frames => changed { arguments with frames := some frames }
      | none => .error (.notAnInteger value)
  | .screenshot => changed { arguments with screenshot := some value }
  | .record => changed { arguments with record := some value }
  | .logLevel => changed { arguments with logLevel := some value }

/-- The arguments, if there is a program and every word means something. -/
def finish (draft : Draft) : Except Misuse Arguments :=
  match draft.rom with
  | none => .error .programMissing
  | some rom =>
      if draft.extras.isEmpty then .ok { draft.arguments with rom := rom }
      else .error (.unrecognized draft.extras)

end Draft

inductive Request where
  | help
  | session (arguments : Arguments)
  deriving DecidableEq, Repr

/-- The value that short options without values cannot take, if what follows
the first of them is not a further one. -/
def refusedCluster? : List Char → Option String
  | [] => none
  | '-' :: rest => some (.ofList ('-' :: rest))
  | 'h' :: '=' :: rest => some (.ofList rest)
  | 'h' :: rest => refusedCluster? rest
  | _ => none

def refusedByHelp? : Attached → Option String
  | .equals value => some value
  | .cluster value => refusedCluster? value.toList

/-- Reads the words from left to right.  The first argument that belongs to no
option is the path of the program; a separator beside it is dropped. -/
def readItems : List Item → Draft → Except Misuse Request
  | [], draft => do return .session (← draft.finish)
  | .unknown word :: rest, draft => readItems rest (draft.addExtra word)
  | .option .help none :: _, _ => .ok .help
  | .option .help (some attached) :: _, _ =>
      match refusedByHelp? attached with
      | some value => .error (.valueIgnored .help value)
      | none => .ok .help
  | .option flag (some (.equals value)) :: rest, draft => do
      readItems rest (← draft.apply flag value)
  | .option flag (some (.cluster value)) :: rest, draft => do
      readItems rest (← draft.apply flag value)
  | .option flag none :: .argument value :: rest, draft => do
      readItems rest (← draft.apply flag value)
  | .option flag none :: _, _ => .error (.valueMissing flag)
  | .argument word :: .separator :: rest, draft =>
      if draft.rom.isNone then readItems rest { draft with rom := some word }
      else readItems rest ((draft.addExtra word).addExtra "--")
  | .argument word :: rest, draft =>
      if draft.rom.isNone then readItems rest { draft with rom := some word }
      else readItems rest (draft.addExtra word)
  | .separator :: .argument word :: rest, draft =>
      if draft.rom.isNone then readItems rest { draft with rom := some word }
      else readItems rest ((draft.addExtra "--").addExtra word)
  | .separator :: rest, draft => readItems rest (draft.addExtra "--")

def parse (words : List String) : Except Misuse Request := do
  readItems (← classifyAll words) {}

/-! ## Help -/

def usageLines : List String :=
  ["usage: chipvm [-h] [--interface \x7bterminal,graphical,headless\x7d]",
    "              [--config CONFIG] [--set KEY=VALUE] [--frames FRAMES]",
    "              [--screenshot SCREENSHOT] [--record RECORD]",
    "              [--log-level LOG_LEVEL]",
    "              rom"]

/-- What the command does and what its options are for. -/
def helpLines : List String :=
  ["",
    "Run a CHIP-8 ROM",
    "",
    "positional arguments:",
    "  rom                   Path to the ROM file",
    "",
    "options:",
    "  -h, --help            show this help message and exit",
    "  --interface \x7bterminal,graphical,headless\x7d",
    "                        Front-end to run in (default: terminal)",
    "  --config CONFIG       YAML file with runner settings",
    "  --set KEY=VALUE       Override a setting, e.g. --set",
    "                        instructions_per_frame=20 (repeatable)",
    "  --frames FRAMES       Stop after N frames (headless default: 600)",
    "  --screenshot SCREENSHOT",
    "                        Save the last frame as an image (implies headless)",
    "  --record RECORD       Record all frames to an MP4 file (implies headless)",
    "  --log-level LOG_LEVEL",
    "                        Console log level (DEBUG, INFO, WARNING, ERROR,",
    "                        CRITICAL)"]

/-- A text of complete lines. -/
def linesText (lines : List String) : String := String.join (lines.map (· ++ "\n"))

def helpText : String := linesText (usageLines ++ helpLines)

def misuseText (misuse : Misuse) : String := "chipvm: error: " ++ misuse.message

end Chip8.CommandLine
