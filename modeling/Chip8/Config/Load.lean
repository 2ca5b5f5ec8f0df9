import Chip8.Config.Reference
import Chip8.Files
import Chip8.Text.Unicode
import Chip8.Text.UpperCase

/-!
# Loading settings

Settings are built from the defaults, the document of a file and overrides.
The merged layers may hold the nine settings only, each of its kind and in its
range.
-/

namespace Chip8.Config

/-- Why settings could not be loaded. -/
inductive LoadError where
  | file (error : FileError)
  | encoding (error : Text.DecodingError)
  /-- The document of the file is malformed. -/
  | unparsable (path : String)
  /-- The document of the file is a number or a truth value. -/
  | documentKind (kind : String)
  /-- The document of the file is a text that spells a number or a truth
  value. -/
  | documentText
  /-- A number in a document has no digits, or too many. -/
  | numeral (flaw : Yaml.Flaw)
  | override (flaw : Yaml.Flaw)
  /-- A document has a form that is not read here. -/
  | uncovered
  /-- The layers do not fit together. -/
  | merge (error : MergeError)
  /-- A key or a reference is wrong. -/
  | content (error : ContentError)
  /-- There are unknown settings whose names have no common order. -/
  | unordered (kind : String)
  | unknown (keys : List Value)
  | null (name : String)
  /-- A setting should be a truth value. -/
  | notBoolean (name : String) (value : Value)
  /-- A setting should be an integer. -/
  | notInteger (name : String) (value : Value)
  /-- A setting of which the text counts holds an integer that cannot be
  written. -/
  | unwritable
  /-- A setting is outside its range. -/
  | violation (violation : Violation)

/-- The name of the kind of a value, as messages give it. -/
def kindName : Value → String
  | .null => "NoneType"
  | .bool _ => "bool"
  | .int _ => "int"
  | .real _ => "float"
  | .text _ => "str"
  | .list _ => "list"
  | .table _ => "dict"

def sortedNames : List String := names.mergeSort

namespace LoadError

def numeralMessage : Yaml.Flaw → String
  | .integer base =>
      "invalid literal for int() with base " ++ Numeral.text base ++ ": ''"
  | .digits count =>
      "Exceeds the limit (" ++ Numeral.text Text.longestInteger ++
        " digits) for integer string conversion: value has " ++ Numeral.text count ++
        " digits; use sys.set_int_max_str_digits() to increase the limit"
  | .real text => "could not convert string to float: " ++ Text.quoted text
  | _ => ""

def message : LoadError → String
  | file error => error.message
  | encoding error => error.message
  | unparsable path => "Could not parse " ++ path
  | documentKind kind => "Invalid loaded object type: " ++ kind
  | documentText => ""
  | numeral flaw => numeralMessage flaw
  | override _ | uncovered => ""
  | merge .containers => "Cannot merge incompatible container types"
  | merge (.listKey text) =>
      "invalid literal for int() with base 10: " ++ Text.quoted text
  | merge (.listStep text) => "Index '" ++ text ++ "' (str) is not an int"
  | merge .noKey => "list index out of range"
  | merge _ => ""
  | content error => error.message
  | unordered kind => "'<' not supported between instances of 'str' and '" ++ kind ++ "'"
  | unknown keys =>
      (Value.list keys).worded fun listed =>
        "Unknown configuration keys: " ++ listed ++
          ". Available: " ++ (Value.list (sortedNames.map .text)).literal
  | null name => name ++ " may not be null"
  | notBoolean name value => value.worded (name ++ " must be a boolean, got " ++ ·)
  | notInteger name value => value.worded (name ++ " must be an integer, got " ++ ·)
  | unwritable => Numeral.unwritableText
  | violation breach => breach.message

end LoadError

/-! ## Classes of errors -/

/-- The classes of errors that the command tells apart.  It catches those of the
system and of values. -/
inductive ErrorClass where
  | system
  | value
  | kind
  | assertion
  | document
  | grammar
  | missing
  | index
  deriving DecidableEq, Repr

/-- Whether the command catches the errors of a class and reports them. -/
def ErrorClass.isReported (errorClass : ErrorClass) : Bool :=
  errorClass = .system || errorClass = .value

/-- The class of an error, unless the text has a form that is not read here. -/
def ReferenceError.class? : ReferenceError → Option ErrorClass
  | malformed => some .grammar
  | uncovered => none
  | unknown _ | missing _ | computation _ | circular | unwritable => some .value

def ContentError.class? : ContentError → Option ErrorClass
  | key _ => some .value
  | reference error => error.reason.class?

def MergeError.class : MergeError → ErrorClass
  | containers | listStep _ => .kind
  | missing => .missing
  | listKey _ => .value
  | listRange | noKey => .index

namespace LoadError

/-- The class of an error, unless the settings have a form that is not read
here. -/
def class? : LoadError → Option ErrorClass
  | file _ | documentKind _ => some .system
  | encoding _ | unparsable _ | numeral _ => some .value
  | documentText => some .assertion
  | override _ => some .document
  | uncovered => none
  | merge error => some error.class
  | content error => error.class?
  | unordered _ => some .kind
  | unknown _ | null _ | notBoolean _ _ | notInteger _ _ | unwritable | violation _ => some .value

/-- Whether the command reports an error instead of breaking off. -/
def isReported (error : LoadError) : Bool := error.class?.any ErrorClass.isReported

end LoadError

/-! ## The layers -/

/-- The layer of the defaults. -/
def defaults : Layer :=
  (entries {}).map fun entry => (.text entry.1, entry.2)

/-- The error of a flaw in the document of a file. -/
def documentError (path : String) : Yaml.Flaw → LoadError
  | .integer base => .numeral (.integer base)
  | .digits count => .numeral (.digits count)
  | .real text => .numeral (.real text)
  | .uncovered => .uncovered
  | _ => .unparsable path

/-- The value that a document contributes.  A text is read once more as a
document, and a text that stays one is a key without a value. -/
def documentValue (path : String) (document : Value) : Except LoadError Value :=
  match document with
  | .null => .ok (.table [])
  | .table entries => .ok (.table entries)
  | .list items => .ok (.list items)
  | .text text =>
      match Yaml.read text with
      | .error flaw => .error (documentError path flaw)
      | .ok .null => .ok (.table [])
      | .ok (.text key) => .ok (.table [(.text key, .null)])
      | .ok (.table entries) => .ok (.table entries)
      | .ok (.list items) => .ok (.list items)
      | .ok _ => .error .documentText
  | other => .error (.documentKind (kindName other))

/-- A value that is to become part of a layer. -/
def checked (value : Value) : Except LoadError Value :=
  match contentError? value with
  | some error => .error (.content error)
  | none => .ok value

def fileLayer (path text : String) : Except LoadError Value := do
  let document ← (Yaml.read text).mapError (documentError path)
  checked (← documentValue path document)

/-- The layer of an optional file, given by its path and its content. -/
def optionalFileLayer (file : Option (String × Except FileError (List UInt8))) :
    Except LoadError Value := do
  match file with
  | none => return .table []
  | some (path, content) =>
      let bytes ← content.mapError .file
      let text ← (Text.decode bytes).mapError .encoding
      fileLayer path text

def overrideError : Yaml.Flaw → LoadError
  | .integer base => .numeral (.integer base)
  | .digits count => .numeral (.digits count)
  | .real text => .numeral (.real text)
  | .uncovered => .uncovered
  | flaw => .override flaw

/-- The error in the value of an override, seen from the outermost table. -/
def Override.contentError? (override : Override) : Option ContentError :=
  (Config.contentError? override.value).map fun error =>
    override.path.foldr (fun part error => error.behind (.key part)) error

/-- The layer with an override stored in it.  The way to its place is looked at
before its value, and the value before it is merged with what is there. -/
def storeOverride (layer : Value) (text : String) : Except LoadError Value := do
  let override ← (Override.ofText text).mapError overrideError
  let result :=
    if override.path.isEmpty then .error .noKey
    else storeAt (some layer) override.path override.value
  match result, override.contentError? with
  | .error .containers, some error => .error (.content error)
  | .error reason, _ => .error (.merge reason)
  | .ok _, some error => .error (.content error)
  | .ok stored, none => .ok stored

/-- The layer of the overrides, which are stored one after the other. -/
def overrideLayer (texts : List String) : Except LoadError Value :=
  texts.foldlM storeOverride (.table [])

def mergedLayer (file overrides : Value) : Except LoadError Layer := do
  let withFile ← (mergeValue (.table defaults) file).mapError .merge
  let merged ← (mergeValue withFile overrides).mapError .merge
  match merged with
  | .table entries =>
      (resolveEntries entries (entries.length + 1) entries).mapError
        fun error => .content (.reference error)
  | _ => .error (.merge .containers)

/-- How a file, given by its path and its content, and overrides become one
layer. -/
abbrev Layering :=
  Option (String × Except FileError (List UInt8)) → List String → Except LoadError Layer

/-- The layer of an optional file and of overrides, on top of the defaults. -/
def readLayers : Layering := fun file overrides => do
  mergedLayer (← optionalFileLayer file) (← overrideLayer overrides)

/-! ## The settings -/

/-- The keys that are no settings. -/
def unknownKeys (layer : Layer) : List Value :=
  (layer.map Prod.fst).filter fun key => !names.any fun name => key.sameKey (.text name)

/-- Keys in their order: texts by their characters, numbers by their value. -/
def keyLe (first second : Value) : Bool :=
  match first, second with
  | .text first, .text second => first ≤ second
  | _, _ =>
      match first.number?, second.number? with
      | some first, some second => first ≤ second
      | _, _ => true

def checkUnknown (keys : List Value) : Except LoadError Unit :=
  let isText : Value → Bool
    | .text _ => true
    | _ => false
  if keys.isEmpty then .ok ()
  else
    match keys.find? (!isText ·) with
    | some other =>
        if keys.any isText then .error (.unordered (kindName other))
        else .error (.unknown (keys.mergeSort keyLe))
    | none => .error (.unknown (keys.mergeSort keyLe))

/-- The value of a setting in a merged layer. -/
def settingValue (layer : Layer) (name : String) : Value :=
  (Value.find? layer (.text name)).getD .null

def integer (layer : Layer) (name : String) : Except LoadError Int :=
  match settingValue layer name with
  | .null => .error (.null name)
  | .int value => .ok value
  | other => .error (.notInteger name other)

def optionalInteger (layer : Layer) (name : String) : Except LoadError (Option Int) :=
  match settingValue layer name with
  | .null => .ok none
  | .int value => .ok (some value)
  | other => .error (.notInteger name other)

def boolean (layer : Layer) (name : String) : Except LoadError Bool :=
  match settingValue layer name with
  | .null => .error (.null name)
  | .bool value => .ok value
  | other => .error (.notBoolean name other)

def word (layer : Layer) (name : String) : Except LoadError String :=
  match settingValue layer name with
  | .null => .error (.null name)
  | value => if value.isWritable then .ok value.display else .error .unwritable

def ofLayer (layer : Layer) : Except LoadError Config := do
  checkUnknown (unknownKeys layer)
  let config : Config := {
    instructionsPerFrame := ← integer layer "instructions_per_frame"
    fps := ← integer layer "fps"
    scale := ← integer layer "scale"
    colorScheme := ← word layer "color_scheme"
    seed := ← integer layer "seed"
    stackLimit := ← optionalInteger layer "stack_limit"
    haltOnFault := ← boolean layer "halt_on_fault"
    logLevel := Text.upper (← word layer "log_level")
    logInterval := ← integer layer "log_interval" }
  config.validate.mapError .violation

/-- The settings of an optional file and of overrides, as far as they become one
layer. -/
def loadBy (layering : Layering) (file : Option (String × Except FileError (List UInt8)))
    (overrides : List String) : Except LoadError Config := do
  ofLayer (← layering file overrides)

/-- The settings of an optional file, given by its path and its content, and
of overrides. -/
def load (file : Option (String × Except FileError (List UInt8))) (overrides : List String) :
    Except LoadError Config :=
  loadBy readLayers file overrides

end Chip8.Config
