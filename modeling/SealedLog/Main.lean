import SealedLog.CommandLine
import SealedLog.Notice.Selection

/-!
# The program

The outermost layer. The places that the options and the configuration name are looked at first;
from then on the program works on that picture of the machine's files. After every step the
machine is brought into line with the picture, and what the step printed and reported is shown.

- `main`: a session on the standard streams.
-/

namespace SealedLog.Machine

/-! ## Pictures of the machine's files -/

/-- The absolute name of a place. -/
def name (place : Place) : String := "/" ++ String.intercalate "/" (place.map String.ofList)

/-- The places that the pieces of a path lead through. -/
def through (start : Place) : List (List Char) → List Place
  | [] => [start]
  | piece :: rest =>
    if piece = [] ∨ piece = ['.'] then through start rest
    else start :: through (if piece = ['.', '.'] then start.dropLast else start ++ [piece]) rest

/-- What is at a place. Permission bits are not looked at: the picture shows none, so that the
program sets those it wants. -/
def look (place : Place) : IO (Option Node) := do
  let opened ← try
      pure (some (← IO.FS.Handle.mk (name place) .read))
    catch _ => pure none
  match opened with
  | none => return none
  | some handle =>
    try
      return some (.file (← handle.readBinToEnd).toList 0)
    catch _ => return some (.directory 0)

/-- The picture with everything that a path leads through. -/
def lookAlong (path : Path) (files : Files) : IO Files := do
  let start := if path.isAbsolute then [] else files.home
  let mut files := files
  for place in through start (Path.pieces path.text.toList) do
    if (files.node? place).isNone then
      if let some node ← look place then files := files.put place node
  return files

/-- The picture with everything that some paths lead through. -/
def lookAlongAll (paths : List Path) (files : Files) : IO Files :=
  paths.foldlM (fun files path => lookAlong path files) files

/-- The paths that a configuration names. -/
def paths (config : Config) : List Path :=
  let state := config.element.stateFile.toList
  let mountPoint := config.storage.mountPoint <|> config.storage.backend.defaultMountPoint
  state ++ state.map StateFile.successor
    ++ mountPoint.toList.map fun mountPoint => mountPoint.join config.storage.fileName

/-- The picture that a session with some arguments starts from. -/
def survey (arguments : Arguments) : IO Files := do
  let here : Path := ⟨toString (← IO.currentDir)⟩
  let home := (Path.pieces here.text.toList).filter (· ≠ [])
  let files ← lookAlongAll (here :: arguments.config.toList) { home }
  match arguments.loadConfig { files } with
  | .ok (.ok config, _) => lookAlongAll (paths config) files
  | _ => return files

/-! ## Changes to the machine's files -/

/-- The access that three permission bits give. -/
def access (bits : Nat) : IO.AccessRight where
  read := bits / 4 % 2 = 1
  write := bits / 2 % 2 = 1
  execution := bits % 2 = 1

/-- Sets the permission bits of a place. -/
def permit (place : Place) (mode : Nat) : IO Unit :=
  IO.setAccessRights (name place) ⟨access (mode / 64), access (mode / 8), access mode⟩

/-- Writes bytes to the end of a file, which is created if it is missing. -/
def extend (place : Place) (bytes : Bytes) : IO Unit := do
  let handle ← IO.FS.Handle.mk (name place) .append
  handle.write ⟨bytes.toArray⟩
  handle.flush

/-- The permission bits of a new directory, which the machine sets by its own rules. -/
def usualMode : Nat := Files.masked ({} : Files).umask 0o777

/-- Brings one place into line. A file that does not only grow is replaced in one step. -/
def settle (before : Option Node) (place : Place) : Node → IO Unit
  | .directory mode => do
    if before.isNone then IO.FS.createDir (name place)
    if (before.getD (.directory usualMode)) ≠ .directory mode then permit place mode
  | .file content mode => do
    let old := match before with | some (.file old _) => old | _ => []
    if before.isSome && old.isPrefixOf content then
      if before ≠ some (.file old mode) then permit place mode
      if old ≠ content then extend place (content.drop old.length)
    else
      let successor := place.dropLast ++ [place.getLastD [] ++ ['~']]
      IO.FS.writeBinFile (name successor) .empty
      permit successor mode
      extend successor content
      IO.FS.rename (name successor) (name place)

/-- Brings the machine from one picture to the next, directories before what is in them. -/
def commit (before after : Files) : IO Unit := do
  for (place, _) in before.nodes do
    if (after.node? place).isNone then IO.FS.removeFile (name place)
  for (place, node) in after.nodes.mergeSort fun a b => a.1.length ≤ b.1.length do
    let old := before.node? place
    if old ≠ some node then settle old place node

/-! ## Steps of a session -/

/-- A session between two steps. -/
structure Session where
  world : World
  selection : Selection

/-- Lets so much time go by. -/
def pass (span : Span) : IO Unit :=
  IO.sleep (min (span.nanos / 1000000) (UInt32.size - 1)).toUInt32

/-- Takes a step: the clock is set before it, and its effects take place after it. -/
def step {α : Type} (scene : Scene α) (session : Session) : IO (α × Session) := do
  let before := { session.world with now := ← IO.monoMsNow, waited := ⟨0⟩, notices := [] }
  match scene before with
  | .error .waitsForever => throw (IO.userError "the element does not answer")
  | .error .emptyRecords => throw (IO.userError "the log has no record length")
  | .error .capacityOverflow => throw (IO.userError "a block is too long to be made")
  | .ok (a, world) =>
    commit before.files world.files
    pass world.waited
    for notice in world.notices.reverse do
      if session.selection.admits notice then IO.eprintln notice.line
    return (a, { session with world })

/-- Random words of the machine, as many as the jobs of an element and one more turn can use. -/
def freshWords (jobs : Nat) : IO Generator := do
  let count := (jobs + 4) * Generator.wordsFor SoftElement.randomMax
  let bytes := (← IO.getRandomBytes (8 * count).toUSize).toList
  let words := (List.range count).map fun i =>
    ((bytes.drop (8 * i)).take 8).foldl (fun word byte => word * 256 + byte.toUInt64) 0
  return { word := fun n => words.getD n 0 }

/-- The console of the program. -/
abbrev Desk := Console SoftElement Mounted Page

/-- The console with fresh random words in its element. -/
def Desk.refreshed (desk : Desk) : IO Desk := do
  let custody := desk.journal.custody
  let generator ← freshWords custody.gateway.element.queue.length
  let element := { custody.gateway.element with generator }
  let gateway := { custody.gateway with element }
  return { desk with journal := { desk.journal with custody := { custody with gateway } } }

/-- Reports why a session ends. -/
def giveUp (error : ProgramError) (session : Session) : IO UInt32 := do
  let ((), _) ← step (Scene.note ⟨.error, error.message, [], .program⟩) session
  return 1

/-- Takes a step on the console and shows what it printed. -/
def turn (attempt : Attempt Desk ConsoleError Unit) (desk : Desk) (session : Session) :
    IO (Except ConsoleError Unit × Desk × Session) := do
  let ((result, desk), session) ← step (attempt.run.run (← desk.refreshed)) session
  let out ← IO.getStdout
  out.putStr desk.screen.shown
  out.flush
  return (result, { desk with screen := {} }, session)

/-- Obeys the operator until the input ends. -/
partial def serve (input : IO.FS.Stream) (desk : Desk) (session : Session) : IO UInt32 := do
  let typed ← try
      pure (Except.ok (← input.read 1))
    catch error => pure (.error error)
  match typed with
  | .error error => giveUp (.console (.input (.reported (toString error)))) session
  | .ok bytes =>
    if bytes.isEmpty then return 0
    else
      match ← turn (Console.obeyAll bytes.toList) desk session with
      | (.error error, _, session) => giveUp (.console error) session
      | (.ok (), desk, session) => serve input desk session

/-- A session from its start to its end. -/
def run (arguments : Arguments) (selection : Selection) : IO UInt32 := do
  let files ← survey arguments
  let (started, session) ←
    step (Program.start arguments (← freshWords 0)) { world := { files }, selection }
  match started with
  | .error error => giveUp error session
  | .ok desk =>
    match ← turn Console.opening desk session with
    | (.error error, _, session) => giveUp (.console error) session
    | (.ok (), desk, session) => serve (← IO.getStdin) desk session

/-! ## Texts about the program -/

/-- The text about the options. -/
def help : String :=
  "Encrypted status log backed by a secure element\n\n" ++
  "Options:\n" ++
  "      --config <CONFIG>            configuration file\n" ++
  "      --force-regenerate           overwrite the key slot with a fresh key on boot\n" ++
  "      --storage <STORAGE>          medium of the log: flash, sdcard or memory\n" ++
  "      --mount-point <MOUNT_POINT>  directory the log file lives in\n" ++
  "      --hsm-state <HSM_STATE>      state file of the secure element\n" ++
  "      --timeout-ms <TIMEOUT_MS>    limit for a command, in milliseconds\n" ++
  "  -h, --help                       this text\n" ++
  "  -V, --version                    the version\n\n" ++
  Console.usage

/-- The complaint about words that are no use. -/
def complaint : UsageError → String
  | .invalidValue => "error: a value is missing or not allowed"
  | .valueValidation => "error: a value is no number"
  | .unknownArgument => "error: unexpected argument"
  | .argumentConflict => "error: an option is given twice"
  | .tooManyValues => "error: unexpected value"
  | .displayHelp => help
  | .displayVersion => "0.1.0"

end SealedLog.Machine

open SealedLog in
/-- Runs the program. It ends with 0, with 1 after a failure, with 2 if the words are no use, and
with 101 if a list of notices is torn, which is found out first. -/
def main (words : List String) : IO UInt32 := do
  let config ← IO.getEnv configVariable
  let state ← IO.getEnv stateVariable
  match Selection.asked (← IO.getEnv selectionVariable) with
  | none => IO.eprintln "error: a cut falls inside a character"; return 101
  | some selection =>
    match Arguments.ofWords words config state with
    | .ok arguments => Machine.run arguments selection
    | .error .displayHelp => IO.print Machine.help; return 0
    | .error .displayVersion => IO.println (Machine.complaint .displayVersion); return 0
    | .error error => IO.eprintln (Machine.complaint error); return 2
