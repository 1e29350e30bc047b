import SealedLog.Pattern.Class

/-!
# The spelling of patterns

A pattern is a row of characters, classes, groups and alternatives, each of which may be repeated.
Modes are switched by `(?` with letters up to the end of the group, or by such letters and a colon
for one group. Counts of repetitions do not occur.

- `Pattern.Reader.step`: one more piece of a pattern.
- `Pattern.read?`: a whole pattern.
-/

namespace SealedLog.Pattern

namespace Reader

/-! ## Groups -/

/-- The letters for modes. -/
def modeLetters : List Char := ['i', 'm', 's', 'U', 'u', 'R', 'x']

/-- The change that some letters ask for: those behind a dash are switched off. No letter and no
dash may come twice, and something must follow a dash. -/
def modeChange? (letters : List Char) : Option ModeChange :=
  let known := letters.all fun c => c = '-' || modeLetters.contains c
  if known && letters.eraseDups.length = letters.length && letters.getLast? ≠ some '-' then
    let on := letters.takeWhile (· ≠ '-')
    let switch (c : Char) : Option Bool :=
      if letters.contains c then some (on.contains c) else none
    some ⟨switch 'i', switch 'u', switch 'x'⟩
  else none

/-- Whether a group may have a name. -/
def isGroupName : List Char → Bool
  | [] => false
  | first :: rest =>
    (first = '_' || CharacterClass.isAlphabetic first)
      && rest.all fun c => ['_', '.', '[', ']'].contains c || CharacterClass.isAlphanumeric c

/-- A group whose closing parenthesis has not come. -/
structure OpenGroup where
  change : ModeChange := {}
  /-- The alternatives that are complete, latest first. -/
  branches : List Pattern := []
  /-- The parts of the last one, latest first. -/
  parts : List Pattern := []
  spaced : Bool := false

namespace OpenGroup

/-- The group with one more part. -/
def add (group : OpenGroup) (part : Pattern) : OpenGroup :=
  { group with parts := part :: group.parts }

/-- The last alternative. -/
def branch (group : OpenGroup) : Pattern :=
  match group.parts with
  | [part] => part
  | parts => .sequence parts.reverse

/-- All that stands in the group. -/
def inner (group : OpenGroup) : Pattern :=
  match group.branches with
  | [] => group.branch
  | branches => .alternatives (branches.reverse ++ [group.branch])

/-- The group when a sign of repetition has come. It is for the part in front of it. -/
def repeated? (group : OpenGroup) : Option OpenGroup :=
  match group.parts with
  | [] | .modes _ :: _ => none
  | part :: parts => some { group with parts := .repeated part :: parts }

end OpenGroup

/-- A pattern in the making: the group at hand, those around it, innermost first, and the names of
groups so far. The whole pattern is the outermost group. -/
structure State where
  group : OpenGroup := {}
  outer : List OpenGroup := []
  names : List (List Char) := []

namespace State

/-- The state with one more part. -/
def add (state : State) (part : Pattern) : State := { state with group := state.group.add part }

/-- The state inside a new group. -/
def enter (state : State) (change : ModeChange) : State :=
  { state with
    group := { change, spaced := change.spaced.getD state.group.spaced }
    outer := state.group :: state.outer }

/-- The state inside a new group with a name, which must be the first of that name. -/
def enterNamed? (state : State) (chars : List Char) : Option (State × List Char) :=
  let name := chars.takeWhile (· ≠ '>')
  match chars.drop name.length with
  | [] => none
  | _ :: rest =>
    if isGroupName name && !state.names.contains name then
      some ({ state.enter {} with names := name :: state.names }, rest)
    else none

/-- The state behind letters for modes: inside a group that has them, or in the same group. -/
def enterModes? (state : State) (chars : List Char) : Option (State × List Char) := do
  let letters := chars.takeWhile fun c => c ≠ ':' ∧ c ≠ ')'
  let change ← modeChange? letters
  match chars.drop letters.length with
  | ':' :: rest => return (state.enter change, rest)
  | _ :: rest =>
    if letters = [] then none
    else
      let spaced := change.spaced.getD state.group.spaced
      return ({ state with group := { state.group.add (.modes change) with spaced } }, rest)
  | [] => none

/-- The state behind an opening parenthesis. Groups that look ahead or behind are refused. -/
def enter? (state : State) (chars : List Char) : Option (State × List Char) :=
  match skip state.group.spaced chars with
  | '?' :: '=' :: _ | '?' :: '!' :: _ | '?' :: '<' :: '=' :: _ | '?' :: '<' :: '!' :: _ => none
  | '?' :: 'P' :: '<' :: rest | '?' :: '<' :: rest => state.enterNamed? rest
  | '?' :: rest => state.enterModes? rest
  | rest => some (state.enter {}, rest)

/-- The state behind a closing parenthesis. -/
def leave? (state : State) : Option State :=
  match state.outer with
  | [] => none
  | around :: outer =>
    some { state with
      group := around.add (.group state.group.change state.group.inner), outer }

end State

/-- Takes one more piece of a pattern, of which the first character is at hand. -/
def step (state : State) (c : Char) (rest : List Char) : Option (State × List Char) :=
  match c with
  | '(' => state.enter? rest
  | ')' => state.leave?.map (·, rest)
  | '|' =>
    let group := state.group
    let branches := group.branch :: group.branches
    some ({ state with group := { group with branches, parts := [] } }, rest)
  | '[' => do
    let (cls, rest) := openClass state.group.spaced rest
    let (closed, rest) ← readClass state.group.spaced (2 * rest.length + 2) cls [] rest
    return (state.add (.set closed), rest)
  | '?' | '*' | '+' => do
    let group ← state.group.repeated?
    -- A question mark right behind the sign only asks for few repetitions.
    let rest := match rest with
      | '?' :: rest => rest
      | rest => rest
    return ({ state with group }, rest)
  | '\x7b' => none
  | '\\' => do
    let (part, rest) ← escape? state.group.spaced rest
    return (state.add part, rest)
  | '.' => some (state.add .any, rest)
  | '^' | '$' => some (state.add (.assertion false), rest)
  | c => some (state.add (.char ⟨c, false⟩), rest)

/-- Takes all pieces of a pattern; `fuel` bounds their number. -/
def readAll : Nat → State → List Char → Option Pattern
  | 0, _, _ => none
  | fuel + 1, state, chars =>
    match skip state.group.spaced chars with
    | [] => if state.outer.isEmpty then some state.group.inner else none
    | c :: rest => do
      let (state, rest) ← step state c rest
      readAll fuel state rest

end Reader

/-- The pattern that a text spells. -/
def read? (chars : List Char) : Option Pattern :=
  Reader.readAll (chars.length + 1) {} chars

end SealedLog.Pattern
