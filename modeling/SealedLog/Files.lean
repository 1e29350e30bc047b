import SealedLog.Bytes
import SealedLog.Path
import SealedLog.SystemError

/-!
# The file system

A file system is a finite map from places to files and directories, each with permission bits.
Programs see it through steps that can fail: looking a path up, making directories, opening,
writing, renaming. Besides the failures that the map itself causes, a schedule of mishaps can
make any step fail, and can cut a write short.

- `Files.locate`: where a path leads, or why it leads nowhere.
- `Files.attempt`: one step under the schedule of mishaps.
- `Files.read?`, `Files.mode?`: what is at a place, the views that statements use.

No links exist, so a place has one name. Steps act with full privileges: permission bits are
kept, and never refuse an access.
-/

namespace SealedLog

/-- The names from the root down to a file or directory. -/
abbrev Place := List (List Char)

/-- What is at a place. -/
inductive Node
  | file (content : Bytes) (mode : Nat)
  | directory (mode : Nat)
deriving Repr, DecidableEq

/-- A failure to come: the step it meets fails, and a write stores `after` bytes first. -/
structure Mishap where
  after : Nat
  error : SystemError
deriving Repr, DecidableEq

/-- A file system with the place relative paths start from, the permission bits that new nodes
never get, and the mishaps of the coming steps. -/
structure Files where
  nodes : List (Place × Node) := []
  home : Place := []
  umask : Nat := 0o022
  mishaps : List (Option Mishap) := []
deriving Repr

/-- A step on the file system. -/
abbrev FileStep := ExceptT SystemError (StateM Files)

namespace Files

/-- The permission bits of a node that is asked for with `mode`. -/
def masked (umask mode : Nat) : Nat := mode - (mode &&& umask)

/-- A directory counts as one block when its size is asked for. -/
def directorySize : Nat := 4096

/-- The node at a place. The root is always a directory. -/
def node? (files : Files) (place : Place) : Option Node :=
  match files.nodes.lookup place with
  | some node => some node
  | none => if place = [] then some (.directory 0o755) else none

/-- The nodes without those at a place. -/
def without (place : Place) (nodes : List (Place × Node)) : List (Place × Node) :=
  nodes.filter fun entry => !(entry.1 == place)

/-- Puts a node at a place. -/
def put (files : Files) (place : Place) (node : Node) : Files :=
  { files with nodes := (place, node) :: without place files.nodes }

/-- Takes a place and everything below it away. -/
def remove (files : Files) (place : Place) : Files :=
  { files with nodes := files.nodes.filter fun entry => !place.isPrefixOf entry.1 }

/-- The content of the file at a place. -/
def contentAt? (files : Files) (place : Place) : Option Bytes :=
  match files.node? place with
  | some (.file content _) => some content
  | _ => none

/-- The permission bits of the node at a place. -/
def modeAt? (files : Files) (place : Place) : Option Nat :=
  match files.node? place with
  | some (.file _ mode) | some (.directory mode) => some mode
  | none => none

/-! ## Looking a path up -/

/-- Where a path leads. The place need not hold a node, but the directory above it exists. -/
structure Target where
  place : Place
  /-- The path ends with a slash, so only a directory will do. -/
  slash : Bool
  /-- The path ends with a name, and not with dots or at the root. -/
  named : Bool
deriving Repr, DecidableEq

/-- How far a path leads without its last name. -/
structure Approach where
  /-- The directory the last name stands in; all of the path if it ends with no name. -/
  place : Place
  name : Option (List Char)
  /-- The path ends with a slash. -/
  slash : Bool
deriving Repr, DecidableEq

/-- The longest name a directory takes, in bytes. -/
def longestName : Nat := 255

/-- The longest path, in bytes. -/
def longestPath : Nat := 4095

/-- Follows the pieces of a path from a place that is known to be a directory when it holds
one. -/
def follow (files : Files) (place : Place) : List (List Char) → Except SystemError Place
  | [] => .ok place
  | piece :: rest =>
    match files.node? place with
    | none => .error .notFound
    | some (.file _ _) => .error .notADirectory
    | some (.directory _) =>
      if piece = ['.'] then follow files place rest
      else if piece = ['.', '.'] then follow files place.dropLast rest
      else if longestName < (utf8 (String.ofList piece)).length then .error .nameTooLong
      else follow files (place ++ [piece]) rest

/-- Where a path leads before its last name is looked at. -/
def approach (files : Files) (path : Path) : Except SystemError Approach :=
  let chars := path.text.toList
  let pieces := (Path.pieces chars).filter (· ≠ [])
  let slash := decide (chars.getLast? = some '/')
  let start := if path.isAbsolute then [] else files.home
  if chars.contains '\x00' then .error .zeroInPath
  else if chars = [] then .error .notFound
  else if longestPath < (utf8 path.text).length then .error .nameTooLong
  else
    match pieces.getLast?.bind Part.ofPiece? with
    | some (.name name) =>
      -- The dot asks for a directory without going on.
      (files.follow start (pieces.dropLast ++ [['.']])).map fun place => ⟨place, some name, slash⟩
    | _ => (files.follow start pieces).map fun place => ⟨place, none, slash⟩

/-- Where a path leads, or why it leads nowhere. -/
def locate (files : Files) (path : Path) : Except SystemError Target :=
  match files.approach path with
  | .error error => .error error
  | .ok ⟨place, none, slash⟩ => .ok ⟨place, slash, false⟩
  | .ok ⟨place, some name, slash⟩ =>
    if longestName < (utf8 (String.ofList name)).length then .error .nameTooLong
    else .ok ⟨place ++ [name], slash, true⟩

/-- The place and node of an existing path. -/
def existing (files : Files) (path : Path) : Except SystemError (Place × Node) :=
  match files.locate path with
  | .error error => .error error
  | .ok target =>
    match files.node? target.place with
    | none => .error .notFound
    | some (.file content mode) =>
      if target.slash then .error .notADirectory
      else .ok (target.place, .file content mode)
    | some (.directory mode) => .ok (target.place, .directory mode)

/-! ## Views -/

/-- The content of the file a path leads to. -/
def read? (files : Files) (path : Path) : Option Bytes :=
  match files.existing path with
  | .ok (_, .file content _) => some content
  | _ => none

/-- The permission bits of what a path leads to. -/
def mode? (files : Files) (path : Path) : Option Nat :=
  match files.existing path with
  | .ok (_, .file _ mode) | .ok (_, .directory mode) => some mode
  | .error _ => none

/-- The names in a directory, in no particular order. -/
def names (files : Files) (path : Path) : List String :=
  match files.existing path with
  | .ok (place, .directory _) =>
    files.nodes.filterMap fun entry =>
      if entry.1.length = place.length + 1 ∧ place.isPrefixOf entry.1 then
        entry.1.getLast?.map String.ofList
      else none
  | _ => []

/-! ## Steps -/

/-- One step: it fails if a mishap is due, and otherwise does what it does. -/
def attempt {α : Type} (act : Files → Except SystemError (α × Files)) : FileStep α :=
  fun files =>
    match files.mishaps with
    | some mishap :: later => (.error mishap.error, { files with mishaps := later })
    | due =>
      let files := { files with mishaps := due.drop 1 }
      match act files with
      | .error error => (.error error, files)
      | .ok (a, files) => (.ok a, files)

/-- Whether a path leads to a directory. -/
def isDirectory (path : Path) : FileStep Bool := fun files =>
  match files.existing path with
  | .ok (_, .directory _) => (.ok true, files)
  | _ => (.ok false, files)

/-- Whether a path leads to anything. -/
def present (path : Path) : FileStep Bool := fun files =>
  match files.existing path with
  | .ok _ => (.ok true, files)
  | .error _ => (.ok false, files)

/-- Makes one directory. -/
def makeDirectory (path : Path) : FileStep Unit := attempt fun files => do
  let target ← files.locate path
  if !target.named then .error .alreadyExists
  else if (files.node? target.place).isSome then .error .alreadyExists
  else .ok ((), files.put target.place (.directory (masked files.umask 0o777)))

/-- Makes the first of a chain of nested directories, outer ones as needed. -/
def makeNested : List Path → FileStep Unit
  | [] => pure ()
  | path :: outer =>
    if path.text.isEmpty then pure ()
    else fun files =>
      match makeDirectory path files with
      | (.ok (), files) => (.ok (), files)
      -- Only a missing directory above leads upwards.
      | (.error .notFound, files) =>
        match makeNested outer files with
        | (.error error, files) => (.error error, files)
        | (.ok (), files) => settle path files
      -- Any other failure does not matter if a directory is there.
      | (.error error, files) =>
        match isDirectory path files with
        | (.ok true, files) => (.ok (), files)
        | (_, files) => (.error error, files)
where
  /-- Makes the directory now that those above it exist; one that is there already will do. -/
  settle (path : Path) : FileStep Unit := fun files =>
    match makeDirectory path files with
    | (.ok (), files) => (.ok (), files)
    | (.error error, files) =>
      match isDirectory path files with
      | (.ok true, files) => (.ok (), files)
      | (_, files) => (.error error, files)

/-- Makes a directory and those above it, as far as they are missing. -/
def makeDirectories (path : Path) : FileStep Unit := makeNested path.ancestors

/-- The node with other permission bits. -/
def Node.withMode (mode : Nat) : Node → Node
  | .file content _ => .file content mode
  | .directory _ => .directory mode

/-- Sets the permission bits of what a path leads to. -/
def setMode (path : Path) (mode : Nat) : FileStep Unit := attempt fun files => do
  let (place, node) ← files.existing path
  .ok ((), files.put place (Node.withMode mode node))

/-- Opens a file for writing at its end, and creates it with `mode` if it is missing. With
`empty` an existing file loses its content first. Creation apart, permission bits stay. -/
def openForWriting (path : Path) (mode : Nat) (empty : Bool) : FileStep Place :=
  attempt fun files => do
    let approach ← files.approach path
    -- Neither dots nor a name with a slash behind it are a file, whatever the name is.
    if approach.slash || approach.name.isNone then .error .isADirectory
    else
      let target ← files.locate path
      -- The mode counts only for a file that is created now.
      match files.node? target.place with
      | some (.directory _) => .error .isADirectory
      | some (.file content bits) =>
        .ok (target.place, files.put target.place (.file (if empty then [] else content) bits))
      | none => .ok (target.place, files.put target.place (.file [] (masked files.umask mode)))

/-- Gives an opened file these permission bits, unless its lowest nine are these already. -/
def tighten (place : Place) (mode : Nat) : FileStep Unit := attempt fun files =>
  match files.node? place with
  | some (.file content bits) =>
    if bits % 0o1000 = mode then .ok ((), files)
    else .ok ((), files.put place (.file content mode))
  | _ => .ok ((), files)

/-- The file system with more bytes at the end of an opened file. -/
def appended (files : Files) (place : Place) (bytes : Bytes) : Files :=
  match files.node? place with
  | some (.file content mode) => files.put place (.file (content ++ bytes) mode)
  | _ => files

/-- One write to the end of an opened file: how many bytes were taken. A mishap lets `after`
bytes through and comes back at the next write. -/
def writeSome (place : Place) (bytes : Bytes) : FileStep Nat := fun files =>
  match files.mishaps with
  | some mishap :: later =>
    if mishap.after = 0 ∨ bytes = [] then (.error mishap.error, { files with mishaps := later })
    else
      let taken := min mishap.after bytes.length
      let files := { files with mishaps := some { mishap with after := 0 } :: later }
      (.ok taken, files.appended place (bytes.take taken))
  | due =>
    let files := { files with mishaps := due.drop 1 }
    (.ok bytes.length, files.appended place bytes)

/-- Writes all bytes to the end of an opened file, or a first part of them. -/
def writeAll (place : Place) (bytes : Bytes) : FileStep Unit := fun files =>
  match files.mishaps with
  | some mishap :: later =>
    let files := { files with mishaps := later }
    (.error mishap.error, files.appended place (bytes.take mishap.after))
  | due =>
    let files := { files with mishaps := due.drop 1 }
    (.ok (), files.appended place bytes)

/-- Waits until an opened file is stored for good. -/
def sync (_place : Place) : FileStep Unit := attempt fun files => .ok ((), files)

/-- Moves a file to another path, in one step, in place of a file that is there. -/
def rename (source destination : Path) : FileStep Unit := attempt fun files => do
  let (place, node) ← files.existing source
  let target ← files.locate destination
  if !target.named then .error .busy
  else
    match node with
    | .directory _ => .error .alreadyExists
    | .file content mode =>
      if target.slash then .error .notADirectory
      else if target.place = place then .ok ((), files)
      else
        match files.node? target.place with
        | some (.directory _) => .error .isADirectory
        | _ => .ok ((), (files.remove place).put target.place (.file content mode))

/-- Everything in a file. -/
def readAll (path : Path) : FileStep Bytes := attempt fun files => do
  match ← files.existing path with
  | (_, .file content _) => .ok (content, files)
  | (_, .directory _) => .error .isADirectory

/-- The size of what a path leads to. -/
def size (path : Path) : FileStep Nat := attempt fun files => do
  match ← files.existing path with
  | (_, .file content _) => .ok (content.length, files)
  | (_, .directory _) => .ok (directorySize, files)

end Files

end SealedLog
