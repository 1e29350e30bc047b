import SealedLog.Journal
import SealedLog.Text.Escape

/-!
# The operator console

An operator works on a journal by single bytes: one adds a status entry, one empties the log, one
prints it. What is printed goes to a screen, which can fail at any time; what happens is reported in
notices.

- `OperatorCommand.ofByte`: what a byte asks for.
- `Screen`: what can be printed on. A `Page` keeps what it takes, and takes only so many bytes.
- `Console.printLog`: the log on the screen.
- `Console.run`: a session from its opening to the end of the input.
-/

namespace SealedLog

/-- What an operator can ask for. -/
inductive OperatorCommand
  | append
  | clear
  | print
  /-- The end of a line asks for nothing. -/
  | ignore
  | unknown (byte : UInt8)
deriving Repr, DecidableEq

namespace OperatorCommand

/-- What a byte asks for. -/
def ofByte (byte : UInt8) : OperatorCommand :=
  let c := Char.ofNat byte.toNat
  if c = 'a' ∨ c = 'A' ∨ c = '1' then .append
  else if c = 'c' ∨ c = 'C' ∨ c = '2' then .clear
  else if c = 'p' ∨ c = 'P' then .print
  else if c = '\r' ∨ c = '\n' then .ignore
  else .unknown byte

end OperatorCommand

/-- What a console prints on. It does what it likes with a text, and can fail whenever it is asked
for something. -/
class Screen (ω : Type) where
  /-- Writes a text. A failure can leave a part of it there. -/
  write : String → ω → Except SystemError Unit × ω
  /-- Passes on what was written. -/
  flush : ω → Except SystemError Unit × ω

/-- Writes some texts one after the other and passes them on, up to the first failure. -/
def Screen.tell {ω : Type} [Screen ω] : List String → ω → Except SystemError Unit × ω
  | [], screen => flush screen
  | text :: more, screen =>
    match write text screen with
    | (.ok (), screen) => tell more screen
    | (.error error, screen) => (.error error, screen)

/-- A screen that keeps what is written. -/
structure Page where
  shown : String := ""
  /-- Bytes it takes in all, if there is a limit. -/
  capacity : Option Nat := none
deriving Repr, DecidableEq

namespace Page

/-- Writes a text, or its first part if there is no room for all of it. -/
def write (text : String) (page : Page) : Except SystemError Unit × Page :=
  match page.capacity with
  | none => (.ok (), { page with shown := page.shown ++ text })
  | some capacity =>
    let room := capacity - page.shown.length
    if text.length ≤ room then (.ok (), { page with shown := page.shown ++ text })
    else
      (.error .nothingWritten,
        { page with shown := page.shown ++ String.ofList (text.toList.take room) })

instance : Screen Page where
  write := write
  flush page := (.ok (), page)

end Page

/-- How an operator's input ends. -/
inductive InputEnd
  | closed
  /-- Reading is interrupted; read again, the input turns out to be closed. -/
  | interrupted
  | failed (error : SystemError)
deriving Repr, DecidableEq

/-- What an operator types. -/
structure OperatorInput where
  bytes : Bytes
  ending : InputEnd := .closed
deriving Repr, DecidableEq

/-- Why a console operation stopped. -/
inductive ConsoleError
  | openLog (source : LogError)
  | readLog (source : StoreError)
  | output (source : SystemError)
  | input (source : SystemError)
deriving Repr, DecidableEq

namespace ConsoleError

/-- The words for the error and for all that is behind it, outermost first. -/
def chain : ConsoleError → List String
  | openLog source => "failed to open log for reading" :: source.message :: source.causes
  | readLog source => "failed to read log" :: source.message :: source.causes
  | output source => [source.message]
  | input source => ["failed to read operator input", source.message]

/-- The words for the error alone. -/
def summary (error : ConsoleError) : String := error.chain.headD ""

/-- The error with everything behind it. -/
def message (error : ConsoleError) : String := String.intercalate ": " error.chain

end ConsoleError

/-- A journal and the screen of its operator. -/
structure Console (ε μ ω : Type) where
  journal : Journal ε μ
  screen : ω

namespace Console

variable {ε μ ω α error : Type}

/-- An attempt on the journal. -/
def onJournal (attempt : Attempt (Journal ε μ) error α) : Attempt (Console ε μ ω) error α :=
  attempt.within Console.journal fun journal console => { console with journal }

/-- A step on the screen. -/
def onScreen (step : ω → Except SystemError Unit × ω) : Attempt (Console ε μ ω) ConsoleError Unit :=
  ExceptT.mk (modifyGet fun console =>
    let (result, screen) := step console.screen
    (result.mapError .output, { console with screen }))

/-- The commands an operator has, line by line. -/
def usageLines : List String :=
  ["commands:\n",
    "  a | 1   append an encrypted status record\n",
    "  c | 2   clear the log\n",
    "  p       print the log as hex\n"]

/-- The commands an operator has. -/
def usage : String := String.join usageLines

variable [Screen ω]

/-- Prints a text. -/
def print (text : String) : Attempt (Console ε μ ω) ConsoleError Unit :=
  onScreen (Screen.write text)

/-- Prints the commands. -/
def printUsage : Attempt (Console ε μ ω) ConsoleError Unit := onScreen (Screen.tell usageLines)

variable [Medium μ]

/-- The next piece of a dump. -/
def nextItem (dump : HexDump (Medium.Reader μ)) :
    Act (Console ε μ ω) (Option (Except StoreError HexChunk) × HexDump (Medium.Reader μ)) :=
  Act.within (fun console => console.journal.store)
    (fun store console => { console with journal := { console.journal with store } })
    (Store.onSite dump.next)

/-- Prints the pieces of a dump, at most so many, and adds up their bytes. -/
def printItems : Nat → Nat → HexDump (Medium.Reader μ) → Attempt (Console ε μ ω) ConsoleError Nat
  | 0, total, _ => return total
  | limit + 1, total, dump => do
    let (item, dump) ← (nextItem dump : Act (Console ε μ ω) _)
    match item with
    | none => return total
    | some (.error error) => throw (.readLog error)
    | some (.ok chunk) =>
      print (chunk.line ++ "\n")
      printItems limit (total + chunk.bytes.length) dump

/-- How many pieces a dump can have. -/
def itemsLeft (dump : HexDump (Medium.Reader μ)) : Act (Console ε μ ω) Nat := do
  let console ← get
  let world ← (Scene.world : Scene World)
  return dump.left ⟨console.journal.store.medium, world.files⟩

/-- Prints the log, a line for each piece. -/
def printLog : Attempt (Console ε μ ω) ConsoleError Unit := do
  let dump ← (onJournal Journal.dump).orElseAs .openLog
  if dump.missing then
    Scene.note ⟨.info, "no existing log file found.", [], .console⟩
  else
    let limit ← (itemsLeft dump : Act (Console ε μ ω) Nat)
    let total ← printItems limit 0 dump
    onScreen Screen.flush
    let recordLen := (← get).journal.store.recordLen
    if recordLen = 0 then Scene.halt .emptyRecords
    Scene.note ⟨.info, "log dumped",
      [("bytes", toString total), ("records", toString (total / recordLen))], .console⟩

variable [Element ε]

/-- Reports an error of a command, which ends only that command. -/
def complain (what : String) (message : String) : Scene Unit :=
  Scene.note ⟨.error, what, [("error", message)], .console⟩

/-- Does what a byte asks for. -/
def obey (byte : UInt8) : Attempt (Console ε μ ω) ConsoleError Unit := do
  match OperatorCommand.ofByte byte with
  | .append =>
    match ← (onJournal Journal.appendStatus).caught with
    | .ok report =>
      Scene.note ⟨.info, "record appended", [("seq", toString report.seq)], .console⟩
    | .error error => complain "append failed" error.message
  | .clear =>
    match ← (onJournal Journal.clear).caught with
    | .ok () => Scene.note ⟨.info, "log cleared.", [], .console⟩
    | .error error => complain "clear failed" error.message
  | .print =>
    -- A screen that fails here is reported like a log that cannot be read.
    match ← Attempt.caught printLog with
    | .ok () => pure ()
    | .error error => complain "dump failed" error.summary
  | .ignore => pure ()
  | .unknown byte =>
    Scene.note ⟨.warn, "unknown command", [("byte", Escape.ascii byte)], .console⟩
    printUsage

/-- Does what the bytes ask for, one after the other. -/
def obeyAll : Bytes → Attempt (Console ε μ ω) ConsoleError Unit
  | [] => pure ()
  | byte :: more => do
    obey byte
    obeyAll more

/-- What an operator sees first: the log and the commands. -/
def opening : Attempt (Console ε μ ω) ConsoleError Unit := do
  printLog
  printUsage

/-- A whole session. -/
def run (input : OperatorInput) : Attempt (Console ε μ ω) ConsoleError Unit := do
  opening
  obeyAll input.bytes
  match input.ending with
  | .closed | .interrupted => pure ()
  | .failed error => throw (.input error)

end Console

end SealedLog
