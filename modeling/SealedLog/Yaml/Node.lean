import SealedLog.Yaml.Token

/-!
# YAML nodes

The tokens of a text describe documents, and a document is a tree of scalars, sequences and
mappings. A node can be given a name, by which a later alias refers to it. Names are resolved
while the tree is built: an alias whose name is not known yet is an error.

- `Node.document`: the only document of a list of tokens.
- `Node.ofText?`: the only document of a text.
-/

namespace SealedLog.Yaml

/-- A node of a document. Named nodes have a number, and an alias holds the number of the node
it stands for. -/
inductive Node
  | alias (number : Nat)
  | scalar (number : Option Nat) (tag : Option Bytes) (style : Style) (text : String)
  | sequence (number : Option Nat) (items : List Node)
  | mapping (number : Option Nat) (members : List (Node × Node))
deriving Repr

namespace Node

/-- A node that says nothing. -/
def empty : Node := .scalar none none .plain ""

/-- Tokens that are left, the names given so far, and the tag handles of the document. -/
structure Source where
  tokens : List Token
  names : List (String × Nat) := []
  handles : List (String × Bytes) := []

/-- Takes something off the tokens, or fails. -/
abbrev Reader := StateT Source Option

/-- The next token, which stays. -/
def peek : Reader (Option Token) := do return (← get).tokens.head?

/-- Takes the next token off. -/
def skip : Reader Unit := modify fun source => { source with tokens := source.tokens.drop 1 }

/-- Whether the next token is one of some. -/
def isAt (tokens : List Token) : Reader Bool := do
  return (← peek).any tokens.contains

/-- Takes the next token off if it is the one given. -/
def accept (token : Token) : Reader Bool := do
  if ← isAt [token] then
    skip
    return true
  else return false

/-- Takes the comma in front of an entry of a flow collection off; the first has none. -/
def separated (first : Bool) : Reader Bool := if first then return true else accept .flowEntry

/-- Gives a node its number. A name that was given before gets a new number. -/
def number (name : Option String) : Reader (Option Nat) := do
  match name with
  | none => return none
  | some name =>
    let source ← get
    let next := source.names.length
    set { source with
      names := (name, next) :: source.names.filter fun entry => entry.1 != name }
    return some next

/-- A tag in full. -/
def fullTag (handle : String) (suffix : Bytes) : Reader Bytes := do
  if handle == "" then return suffix
  else
    match (← get).handles.lookup handle with
    | some start => return start ++ suffix
    | none => failure

/-- The name and the tag in front of a node, in either order. -/
def properties : Reader (Option String × Option Bytes) := do
  match ← peek with
  | some (.anchor name) =>
    skip
    match ← peek with
    | some (.tag handle suffix) =>
      skip
      return (some name, some (← fullTag handle suffix))
    | _ => return (some name, none)
  | some (.tag handle suffix) =>
    skip
    match ← peek with
    | some (.anchor name) =>
      skip
      return (some name, some (← fullTag handle suffix))
    | _ => return (none, some (← fullTag handle suffix))
  | _ => return (none, none)

mutual

/-- One node. Only a block node can be a block collection, and only a value in a mapping can be
a sequence without a start. -/
def node : Nat → Bool → Bool → Reader Node
  | 0, _, _ => failure
  | fuel + 1, inBlock, bare => do
    match ← peek with
    | some (.alias name) =>
      skip
      match (← get).names.lookup name with
      | some number => return .alias number
      | none => failure
    | _ =>
      let (name, tag) ← properties
      match ← peek with
      | some (.scalar style text) =>
        skip
        return .scalar (← number name) tag style text
      | some .flowSequenceStart =>
        skip
        let number ← number name
        return .sequence number (← flowItems fuel true)
      | some .flowMappingStart =>
        skip
        let number ← number name
        return .mapping number (← flowMembers fuel true)
      | some token =>
        if bare && token == .blockEntry then
          let number ← number name
          return .sequence number (← bareItems fuel)
        else if inBlock && token == .blockSequenceStart then
          skip
          let number ← number name
          return .sequence number (← blockItems fuel)
        else if inBlock && token == .blockMappingStart then
          skip
          let number ← number name
          return .mapping number (← blockMembers fuel)
        else blank name tag
      | none => blank name tag

/-- A node that is nothing but a name or a tag. -/
def blank (name : Option String) (tag : Option Bytes) : Reader Node := do
  if name.isSome || tag.isSome then return .scalar (← number name) tag .plain ""
  else failure

/-- The items of a block sequence, up to its end. -/
def blockItems : Nat → Reader (List Node)
  | 0 => failure
  | fuel + 1 => do
    if ← accept .blockEntry then
      let item ←
        if ← isAt [.blockEntry, .blockEnd] then pure Node.empty else node fuel true false
      return item :: (← blockItems fuel)
    else if ← accept .blockEnd then return []
    else failure

/-- The items of a sequence without a start, as far as they go. -/
def bareItems : Nat → Reader (List Node)
  | 0 => failure
  | fuel + 1 => do
    if ← accept .blockEntry then
      let item ←
        if ← isAt [.blockEntry, .key, .value, .blockEnd] then pure Node.empty
        else node fuel true false
      return item :: (← bareItems fuel)
    else return []

/-- The members of a block mapping, up to its end. -/
def blockMembers : Nat → Reader (List (Node × Node))
  | 0 => failure
  | fuel + 1 => do
    if ← accept .key then
      let key ← blockPart fuel
      let member ← if ← accept .value then blockPart fuel else pure Node.empty
      return (key, member) :: (← blockMembers fuel)
    else if ← accept .blockEnd then return []
    else failure

/-- A key or value of a block mapping, which may be left out. -/
def blockPart : Nat → Reader Node
  | 0 => failure
  | fuel + 1 => do
    if ← isAt [.key, .value, .blockEnd] then return .empty else node fuel true true

/-- The items of a flow sequence, up to its end. -/
def flowItems : Nat → Bool → Reader (List Node)
  | 0, _ => failure
  | fuel + 1, first => do
    if ← accept .flowSequenceEnd then return []
    else if !(← separated first) then failure
    else if ← accept .key then
      let pair ← flowPair fuel
      return .mapping none [pair] :: (← flowItems fuel false)
    else if ← accept .flowSequenceEnd then return []
    else
      let item ← node fuel false false
      return item :: (← flowItems fuel false)

/-- A single pair as an item of a flow sequence. The token in the place of a missing key is lost. -/
def flowPair : Nat → Reader (Node × Node)
  | 0 => failure
  | fuel + 1 => do
    let key ←
      if ← isAt [.value, .flowEntry, .flowSequenceEnd] then do
        skip
        pure Node.empty
      else node fuel false false
    if ← accept .value then
      if ← isAt [.flowEntry, .flowSequenceEnd] then return (key, .empty)
      else return (key, ← node fuel false false)
    else return (key, .empty)

/-- The members of a flow mapping, up to its end. -/
def flowMembers : Nat → Bool → Reader (List (Node × Node))
  | 0, _ => failure
  | fuel + 1, first => do
    if ← accept .flowMappingEnd then return []
    else if !(← separated first) then failure
    else if ← accept .key then
      let key ← flowPart fuel [.value, .flowEntry, .flowMappingEnd]
      let member ←
        if ← accept .value then flowPart fuel [.flowEntry, .flowMappingEnd]
        else pure Node.empty
      return (key, member) :: (← flowMembers fuel false)
    else if ← accept .flowMappingEnd then return []
    else
      let key ← node fuel false false
      return (key, .empty) :: (← flowMembers fuel false)

/-- A key or value of a flow mapping, which is left out before the tokens given. -/
def flowPart : Nat → List Token → Reader Node
  | 0, _ => failure
  | fuel + 1, ends => do
    if ← isAt ends then return .empty else node fuel false false

end

/-- The handles that every document has. -/
def usualHandles : List (String × Bytes) :=
  [("!", utf8 "!"), ("!!", utf8 "tag:yaml.org,2002:")]

/-- Reads the directives in front of a document: the tag handles, after those already read. At
most one directive gives a version. -/
def directives : Nat → Bool → List (String × Bytes) → Reader (List (String × Bytes))
  | 0, _, _ => failure
  | fuel + 1, versioned, handles => do
    match ← peek with
    | some (.versionDirective major minor) =>
      skip
      if versioned || major != 1 || !(minor == 1 || minor == 2) then failure
      else directives fuel true handles
    | some (.tagDirective handle start) =>
      skip
      if (handles.lookup handle).isSome then failure
      else directives fuel versioned ((handle, start) :: handles)
    | _ => return handles

/-- Takes off the marks after a document. -/
def skipEnds : Nat → Reader Unit
  | 0 => pure ()
  | fuel + 1 => do
    if ← accept .documentEnd then skipEnds fuel

/-- Whether a token is a directive. -/
def isDirective : Token → Bool
  | .versionDirective _ _ | .tagDirective _ _ => true
  | _ => false

/-- The content of a document behind its mark, which may be missing. -/
def content (fuel : Nat) : Reader Node := do
  let next ← peek
  if next.isNone || next.any isDirective || (← isAt [.documentStart, .documentEnd]) then
    return .empty
  else node fuel true false

/-- The only document; without any tokens there is an empty one. -/
def onlyDocument (fuel : Nat) : Reader (Option Node) := do
  let next ← peek
  match next with
  | none => return none
  | some token =>
    let document ←
      if isDirective token || token == .documentStart then do
        let handles ← directives fuel false []
        modify fun source => { source with handles := handles ++ usualHandles }
        if ← accept .documentStart then content fuel else failure
      else do
        modify fun source => { source with handles := usualHandles }
        node fuel true false
    skipEnds fuel
    if (← peek).isNone then return some document else failure

/-- The only document of a list of tokens. -/
def document (tokens : List Token) : Option (Option Node) :=
  (onlyDocument (4 * tokens.length + 8) { tokens }).map (·.1)

/-- The only document of a text; the inner `none` says that there is nothing in it. -/
def ofText? (text : String) : Option (Option Node) := (Token.scan text).bind document

mutual

/-- The named nodes of a tree, outer ones first. -/
def named : Node → List (Nat × Node)
  | .alias _ => []
  | .scalar number tag style text => (number.map (·, .scalar number tag style text)).toList
  | .sequence number items =>
    (number.map (·, .sequence number items)).toList ++ namedItems items
  | .mapping number members =>
    (number.map (·, .mapping number members)).toList ++ namedMembers members

/-- The named nodes of the items of a sequence. -/
def namedItems : List Node → List (Nat × Node)
  | [] => []
  | item :: more => named item ++ namedItems more

/-- The named nodes of the members of a mapping. -/
def namedMembers : List (Node × Node) → List (Nat × Node)
  | [] => []
  | (key, member) :: more => named key ++ named member ++ namedMembers more

end

/-- What a node stands for: an alias stands for the last node with its number. -/
def resolve (names : List (Nat × Node)) : Node → Option Node
  | .alias number => names.reverse.lookup number
  | node => some node

end Node

end SealedLog.Yaml
