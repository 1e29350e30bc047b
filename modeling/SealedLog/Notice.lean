import SealedLog.Text.Escape

/-!
# Notices

What a run reports besides its results: one line per event, with a level, a text and named
fields. A field holds its text as it is shown.

- `Notice.line`: the line shown, `LEVEL text name=value`.
- `Notice.hasField`: the names by which a notice can be asked for.
-/

namespace SealedLog

/-- How important a notice is. -/
inductive Level
  | error
  | warn
  | info
deriving Repr, DecidableEq

namespace Level

/-- The name of a level in front of a line. -/
def name : Level → String
  | error => "ERROR"
  | warn => "WARN"
  | info => "INFO"

/-- The most important level has the lowest rank. -/
def rank : Level → Nat
  | error => 1
  | warn => 2
  | info => 3

end Level

/-- Who reports: the program around the log, the log itself, or one of its parts. -/
inductive Reporter
  | program
  | console
  | journal
  | custody
  | gateway
  | store
  | medium
  | element
deriving Repr, DecidableEq

namespace Reporter

/-- The name by which an operator asks for the notices of a reporter. -/
def name : Reporter → String
  | program => "enclog"
  | console => "enclog::console"
  | journal => "enclog_core"
  | custody => "enclog_core::keys"
  | gateway => "enclog_core::gateway"
  | store => "enclog_core::log_store"
  | medium => "enclog_core::storage"
  | element => "enclog_core::soft"

end Reporter

/-- One reported event. -/
structure Notice where
  level : Level
  text : String
  fields : List (String × String) := []
  reporter : Reporter
deriving Repr, DecidableEq

namespace Notice

/-- A plain text as a field shows it. -/
def quoted (text : String) : String := "\"" ++ text ++ "\""

/-- Whether a notice has a field. Its text counts as the field `message`. -/
def hasField (notice : Notice) (name : String) : Bool :=
  name = "message" || notice.fields.any fun field => field.1 = name

/-- The line for a notice. Its text is made harmless for terminals, its fields are shown as they
are. -/
def line (notice : Notice) : String :=
  String.intercalate " "
    (notice.level.name :: Escape.harmless notice.text
      :: notice.fields.map fun field => field.1 ++ "=" ++ field.2)

end Notice

end SealedLog
