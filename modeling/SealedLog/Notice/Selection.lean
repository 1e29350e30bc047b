import SealedLog.Notice.Selection.Entry

/-!
# Which notices are shown

An operator asks for notices by a list of entries with commas between them, as in
`warn,enclog_core=info`. The most specific entry decides about a notice.

- `Selection.ofText`: the selection that a list asks for.
- `Selection.admits`: whether a notice is shown.
-/

namespace SealedLog

/-- Which notices an operator asked for, entry by entry. -/
structure Selection where
  entries : List Selection.Entry
deriving Repr, DecidableEq

namespace Selection

/-- The notices of all reporters up to a level. -/
def upTo (level : Level) : Selection := ⟨[{ rank := level.rank }]⟩

/-- What is shown if nothing sensible is asked for. -/
def usual : Selection := upTo .info

/-- The selection that a list asks for; none if an entry is torn. An empty list asks for errors
only, and a list with a malformed entry for what is usual. The first flaw counts. -/
def ofText (text : String) : Option Selection :=
  match (text.splitOn ",").filter (· ≠ "") with
  | [] => some (upTo .error)
  | parts =>
    match parts.mapM fun part => Entry.ofPart part.toList with
    | .ok entries => some ⟨entries⟩
    | .error .malformed => some usual
    | .error .torn => none

/-- The selection for the value of a variable that may not be set. -/
def asked : Option String → Option Selection
  | none => some usual
  | some text => ofText text

/-- The entry that decides about a notice: the most specific one, and the last among equals. -/
def decisive? (selection : Selection) (notice : Notice) : Option Entry :=
  (selection.entries.filter (·.concerns notice)).foldl
    (fun best entry => if best.all (·.yieldsTo entry) then some entry else best) none

/-- Whether a notice is shown. One that no entry is about is not. -/
def admits (selection : Selection) (notice : Notice) : Bool :=
  (selection.decisive? notice).any fun entry => notice.level.rank ≤ entry.rank

end Selection

end SealedLog
