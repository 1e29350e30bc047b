/-!
# Path names

A path is its text. Its parts are what lies between the slashes: repeated slashes, and dots that
stand between slashes, say nothing. Only the last part can carry an extension.

- `Path.parts`: the parts of a path.
- `Path.join`: the second path below the first, or the second alone when it is absolute.
- `Path.withExtension`: the path with the extension of its last part replaced.
-/

namespace SealedLog

/-- The name of a file or directory as it was written. -/
structure Path where
  text : String
deriving Repr, DecidableEq, Inhabited

/-- One part of a path. -/
inductive Part
  | root
  | here
  | up
  | name (chars : List Char)
deriving Repr, DecidableEq

/-- A piece that names something: not empty, and no single dot. -/
def Part.ofPiece? (piece : List Char) : Option Part :=
  if piece = [] ∨ piece = ['.'] then none
  else if piece = ['.', '.'] then some .up
  else some (.name piece)

namespace Path

/-- The pieces of a text between its slashes; one piece when there is no slash. -/
def pieces : List Char → List (List Char)
  | [] => [[]]
  | c :: rest =>
    if c = '/' then [] :: pieces rest
    else
      match pieces rest with
      | [] => [[c]]
      | first :: more => (c :: first) :: more

/-- Absolute paths start at the root. -/
def isAbsolute (path : Path) : Bool := path.text.toList.head? = some '/'

/-- The parts of a path. A dot counts only in front of a relative path. -/
def parts (path : Path) : List Part :=
  let found := pieces path.text.toList
  let named := found.filterMap Part.ofPiece?
  if path.isAbsolute then .root :: named
  else if found.head? = some ['.'] then .here :: named
  else named

/-- A reversed text without the slashes, and the dots after slashes, that it starts with. -/
def trimReversed : List Char → List Char
  | '/' :: rest => trimReversed rest
  | '.' :: '/' :: rest => trimReversed ('/' :: rest)
  | chars => chars
termination_by chars => chars.length

/-- The last part, if it is a name. -/
def fileName (path : Path) : Option (List Char) :=
  match path.parts.getLast? with
  | some (.name chars) => some chars
  | _ => none

/-- A file name cut at its last dot; a dot in front does not count. -/
def splitName (name : List Char) : List Char × Option (List Char) :=
  let tail := (name.reverse.takeWhile (· ≠ '.')).reverse
  let stem := name.take (name.length - tail.length - 1)
  if stem = [] ∨ tail.length = name.length then (name, none) else (stem, some tail)

/-- What follows the last dot of the last part. -/
def extension (path : Path) : Option (List Char) :=
  path.fileName.bind fun name => (splitName name).2

/-- The path with the extension of its last part replaced, or added. A path that ends with no
name stays as it is, and so does one that ends with none as soon as it has lost its extension. -/
def withExtension (path : Path) (extension : String) : Path :=
  match path.fileName with
  | none => path
  | some name =>
    let chars := path.text.toList
    let trimmed := (trimReversed chars.reverse).reverse
    let stem := (splitName name).1
    let kept := trimmed.take (trimmed.length - (name.length - stem.length))
    -- Of a name like `..key` only the directory above is left.
    if stem = ['.'] ∧ trimmed = chars then ⟨String.ofList (kept ++ ['.'])⟩
    else ⟨String.ofList (kept ++ '.' :: extension.toList)⟩

/-- The path without its last part; the root and the empty path have none. -/
def parent (path : Path) : Option Path :=
  match path.parts.getLast? with
  | none | some .root => none
  | some _ =>
    let before := (trimReversed path.text.toList.reverse).dropWhile (· ≠ '/')
    let kept := trimReversed before
    if kept = [] ∧ path.isAbsolute then some ⟨"/"⟩ else some ⟨String.ofList kept.reverse⟩

/-- A path and the paths above it, nearest first. -/
def above : Nat → Path → List Path
  | 0, _ => []
  | depth + 1, path =>
    match path.parent with
    | none => [path]
    | some outer => path :: above depth outer

/-- A path and all paths above it, nearest first. -/
def ancestors (path : Path) : List Path := above (path.parts.length + 1) path

/-- The second path below the first. -/
def join (path : Path) (below : String) : Path :=
  if below.toList.head? = some '/' then ⟨below⟩
  else if path.text.isEmpty || path.text.toList.getLast? = some '/' then ⟨path.text ++ below⟩
  else ⟨path.text ++ "/" ++ below⟩

end Path

end SealedLog
