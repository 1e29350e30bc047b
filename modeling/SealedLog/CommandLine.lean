import SealedLog.Config.File
import SealedLog.Console
import SealedLog.SoftElement

/-!
# The command line

The program is told by options, and by two variables of its environment, where its configuration
is and what to change in it. An option's value follows it, in the same word behind an equals
sign or as the next word. A value in a word of its own is looked at only when the next option
comes or the words are over.

- `Arguments.ofWords`: the options in a list of words.
- `Arguments.loadConfig`: the configuration they lead to.
- `Program.run`: the whole program on a console.
-/

namespace SealedLog

/-- Why the words are no use, or ask for a text about the program instead. -/
inductive UsageError
  | invalidValue
  | valueValidation
  | unknownArgument
  | argumentConflict
  | tooManyValues
  | displayHelp
  | displayVersion
deriving Repr, DecidableEq

/-- The options that have a value. -/
inductive ValueOption
  | config
  | storage
  | mountPoint
  | hsmState
  | timeoutMs
deriving Repr, DecidableEq

namespace ValueOption

/-- The name of an option behind its two dashes. -/
def name : ValueOption → String
  | config => "config"
  | storage => "storage"
  | mountPoint => "mount-point"
  | hsmState => "hsm-state"
  | timeoutMs => "timeout-ms"

/-- The option with a name. -/
def ofName? (name : String) : Option ValueOption :=
  [config, storage, mountPoint, hsmState, timeoutMs].find? fun option => option.name = name

end ValueOption

/-- What the program was told. -/
structure Arguments where
  config : Option Path := none
  forceRegenerate : Bool := false
  storage : Option BackendKind := none
  mountPoint : Option Path := none
  hsmState : Option Path := none
  timeoutMs : Option UInt64 := none
deriving Repr, DecidableEq

namespace Arguments

/-- Whether an option was given. -/
def has (arguments : Arguments) : ValueOption → Bool
  | .config => arguments.config.isSome
  | .storage => arguments.storage.isSome
  | .mountPoint => arguments.mountPoint.isSome
  | .hsmState => arguments.hsmState.isSome
  | .timeoutMs => arguments.timeoutMs.isSome

/-- A path as a value; it must not be empty. -/
def readPath (value : String) : Except UsageError Path :=
  if value = "" then .error .invalidValue else .ok ⟨value⟩

/-- A number as a value, with an optional plus in front. -/
def readNumber (value : String) : Except UsageError UInt64 :=
  let digits := match value.toList with | '+' :: rest => rest | chars => chars
  match Decimal.value digits with
  | some n => if n < UInt64.size then .ok n.toUInt64 else .error .valueValidation
  | none => .error .valueValidation

/-- A medium as a value. -/
def readStorage (value : String) : Except UsageError BackendKind :=
  match BackendKind.ofName? value with
  | some kind => .ok kind
  | none => .error .invalidValue

/-- The arguments with a value for an option, which must not have been given before. -/
def withValue (arguments : Arguments) (option : ValueOption) (value : String) :
    Except UsageError Arguments :=
  if arguments.has option then .error .argumentConflict
  else
    match option with
    | .config => do return { arguments with config := some (← readPath value) }
    | .storage => do return { arguments with storage := some (← readStorage value) }
    | .mountPoint => do return { arguments with mountPoint := some (← readPath value) }
    | .hsmState => do return { arguments with hsmState := some (← readPath value) }
    | .timeoutMs => do return { arguments with timeoutMs := some (← readNumber value) }

/-- The arguments with the flag for a new key, which must not have been given before. -/
def withForce (arguments : Arguments) : Except UsageError Arguments :=
  if arguments.forceRegenerate then .error .argumentConflict
  else .ok { arguments with forceRegenerate := true }

/-- An option whose value, if it has come, has not been looked at yet. -/
structure Pending where
  option : ValueOption
  value : Option String := none
deriving Repr, DecidableEq

/-- Looks at the value of the option before. -/
def resolve (arguments : Arguments) : Option Pending → Except UsageError Arguments
  | none => .ok arguments
  | some ⟨_, none⟩ => .error .invalidValue
  | some ⟨option, some value⟩ => arguments.withValue option value

/-- A word behind two dashes: the name, and the value if there is an equals sign. -/
def splitWord (word : List Char) : String × Option String :=
  match word.dropWhile (· ≠ '=') with
  | [] => (String.ofList word, none)
  | _ :: value => (String.ofList (word.takeWhile (· ≠ '=')), some (String.ofList value))

/-- A flag with nothing behind it; a value is one too many. -/
def flag {α : Type} (value : Option String) (meaning : Except UsageError α) :
    Except UsageError α :=
  if value.isSome then .error .tooManyValues else meaning

/-- Takes the words one after the other. -/
def takeWords (arguments : Arguments) (pending : Option Pending) :
    List String → Except UsageError Arguments
  | [] => arguments.resolve pending
  | word :: more =>
    match word.toList with
    | ['-', '-'] =>
      if more.isEmpty then arguments.resolve pending else .error .unknownArgument
    | '-' :: '-' :: chars =>
      let (name, value) := splitWord chars
      match ValueOption.ofName? name with
      | some option =>
        match arguments.resolve pending with
        | .error error => .error error
        | .ok arguments =>
          match value with
          | none => takeWords arguments (some ⟨option, none⟩) more
          | some value =>
            match arguments.withValue option value with
            | .error error => .error error
            | .ok arguments => takeWords arguments none more
      | none =>
        if name = "force-regenerate" then
          match flag value ((arguments.resolve pending).bind withForce) with
          | .error error => .error error
          | .ok arguments => takeWords arguments none more
        else if name = "help" then
          flag value ((arguments.resolve pending).bind fun _ => .error .displayHelp)
        else if name = "version" then
          flag value ((arguments.resolve pending).bind fun _ => .error .displayVersion)
        -- An unknown word is worse than a missing value before it.
        else .error .unknownArgument
    | '-' :: letter :: _ =>
      if letter = 'h' then (arguments.resolve pending).bind fun _ => .error .displayHelp
      else if letter = 'V' then (arguments.resolve pending).bind fun _ => .error .displayVersion
      else .error .unknownArgument
    | _ =>
      match pending with
      | some ⟨option, none⟩ => takeWords arguments (some ⟨option, some word⟩) more
      | _ => .error .unknownArgument

/-- Adds the value of an environment variable, unless the option was given. -/
def withVariable (option : ValueOption) (value : Option String) (arguments : Arguments) :
    Except UsageError Arguments :=
  match value with
  | none => .ok arguments
  | some value => if arguments.has option then .ok arguments else arguments.withValue option value

/-- The options in a list of words and in the environment's two variables. -/
def ofWords (words : List String) (configVariable stateVariable : Option String) :
    Except UsageError Arguments := do
  let arguments ← takeWords {} none words
  let arguments ← arguments.withVariable .config configVariable
  arguments.withVariable .hsmState stateVariable

end Arguments

/-- The variable that names a configuration file. -/
def configVariable : String := "ENCLOG_CONFIG"

/-- The variable that names a state file. -/
def stateVariable : String := "ENCLOG_HSM_STATE"

/-- The variable that asks for notices. -/
def selectionVariable : String := "RUST_LOG"

/-- Why the arguments lead to no configuration. -/
inductive LoadError
  | file (path : Path) (source : ConfigError)
  | invalid (source : ConfigError)
deriving Repr, DecidableEq

namespace LoadError

/-- What was being done when the error arose. -/
def context : LoadError → String
  | file path _ => "failed to load configuration from " ++ path.text
  | invalid _ => "invalid configuration"

/-- The error of the configuration itself. -/
def source : LoadError → ConfigError
  | file _ source | invalid source => source

/-- The words for the error and for what is behind it, outermost first. -/
def chain (error : LoadError) : List String :=
  [error.context, (LogError.config error.source).message]

end LoadError

namespace Arguments

/-- A configuration with what the options change in it. -/
def apply (arguments : Arguments) (config : Config) : Config :=
  { config with
    forceRegenerate := config.forceRegenerate || arguments.forceRegenerate
    storage :=
      { config.storage with
        backend := arguments.storage.getD config.storage.backend
        mountPoint := arguments.mountPoint <|> config.storage.mountPoint }
    element :=
      { config.element with
        stateFile := arguments.hsmState <|> config.element.stateFile
        completionTimeoutMs := arguments.timeoutMs <|> config.element.completionTimeoutMs } }

/-- The configuration without what the options change: that of the file, or the usual one. -/
def baseConfig (arguments : Arguments) : Scene (Except LoadError Config) := do
  match arguments.config with
  | none => return .ok {}
  | some path => return (← Config.load path).mapError (.file path)

/-- The configuration that the arguments lead to. -/
def loadConfig (arguments : Arguments) : Scene (Except LoadError Config) := do
  match ← arguments.baseConfig with
  | .error error => return .error error
  | .ok config =>
    -- What the file says was checked on its own; the options may have spoilt it.
    let config := arguments.apply config
    return (config.validate.mapError .invalid).map fun _ => config

end Arguments

/-- Why the program failed. -/
inductive ProgramError
  | load (source : LoadError)
  | element (source : ElementError)
  | boot (source : LogError)
  | console (source : ConsoleError)
deriving Repr, DecidableEq

namespace ProgramError

/-- The words for the error and for all that is behind it, outermost first. -/
def chain : ProgramError → List String
  | load source => source.chain
  | element source => ["failed to start secure element", (LogError.element source).message]
  | boot source => "boot failed" :: source.message :: source.causes
  | console source => source.chain

/-- The error with everything behind it. -/
def message (error : ProgramError) : String := String.intercalate ": " error.chain

end ProgramError

namespace Program

/-- The console that the program works on: the journal of its arguments, booted. -/
def start (arguments : Arguments) (generator : Generator) :
    Scene (Except ProgramError (Console SoftElement Mounted Page)) := do
  match ← arguments.loadConfig with
  | .error error => return .error (.load error)
  | .ok config =>
    match ← SoftElement.start generator config.element.latency config.element.stateFile with
    | .error error => return .error (.element error)
    | .ok element =>
      let gateway : Gateway SoftElement := { element, timeout := config.element.completionTimeout }
      let (booted, _) ← (Journal.boot config).run.run gateway
      return (booted.mapError .boot).map fun journal => { journal, screen := {} }

/-- The whole program: what it showed, and how it failed if it did. A failure is reported. -/
def run (arguments : Arguments) (generator : Generator) (input : OperatorInput) :
    Scene (Page × Except ProgramError Unit) := do
  match ← start arguments generator with
  | .error error => fail {} error
  | .ok console =>
    let (result, console) ← (Console.run input).run.run console
    match result with
    | .error error => fail console.screen (.console error)
    | .ok () => return (console.screen, .ok ())
where
  /-- Reports a failure. -/
  fail (screen : Page) (error : ProgramError) : Scene (Page × Except ProgramError Unit) := do
    Scene.note ⟨.error, error.message, [], .program⟩
    return (screen, .error error)

end Program

end SealedLog
