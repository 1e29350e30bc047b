import SealedLog.Proofs.Files.Steps
import SealedLog.SoftElement.StateFile

/-!
# File systems but for the bytes in them

How the steps that store a file end, and which files and directories are there afterwards, does not
depend on the bytes stored or on those in any file.

- `Files.shape`: a file system with all files empty.
- `Blurs step blurred`: `blurred` does to the shape what `step` does to the file system. The rules
  follow the ways in which steps are put together.
- `blurs_save`: storing slots, whatever they are, is storing no bytes at all as far as shapes go.
-/

namespace SealedLog

/-- A node without the bytes in it. -/
def Node.shape : Node → Node
  | .file _ mode => .file [] mode
  | .directory mode => .directory mode

namespace Files

variable {α β : Type}

/-- A file system without the bytes in its files. -/
def shape (files : Files) : Files :=
  { files with nodes := files.nodes.map fun entry => (entry.1, entry.2.shape) }

/-! ## Looking a path up -/

theorem node?_shape (files : Files) (place : Place) :
    files.shape.node? place = (files.node? place).map Node.shape := by
  have hlookup : ∀ nodes : List (Place × Node),
      (nodes.map fun entry => (entry.1, entry.2.shape)).lookup place
        = (nodes.lookup place).map Node.shape := by
    intro nodes
    induction nodes with
    | nil => rfl
    | cons entry rest ih =>
      rw [List.map_cons, List.lookup_cons, List.lookup_cons, ih]
      cases place == entry.1 <;> rfl
  rw [node?, node?, shape, hlookup]
  cases files.nodes.lookup place with
  | some node => rfl
  | none =>
    by_cases hroot : place = []
    · simp only [hroot, if_true, Option.map_none, Option.map_some]
      rfl
    · simp only [hroot, if_false, Option.map_none]

theorem follow_shape (files : Files) (start : Place) (pieces : List (List Char)) :
    files.shape.follow start pieces = files.follow start pieces := by
  induction pieces generalizing start with
  | nil => rfl
  | cons piece rest ih =>
    rw [follow, follow, node?_shape, ih, ih, ih]
    rcases files.node? start with _ | (_ | _) <;> rfl

theorem approach_shape (files : Files) (path : Path) :
    files.shape.approach path = files.approach path := by
  rw [approach, approach, show files.shape.home = files.home from rfl]
  simp only [follow_shape]

theorem locate_shape (files : Files) (path : Path) :
    files.shape.locate path = files.locate path := by
  rw [locate, locate, approach_shape]

/-- The same node is found, as far as its shape goes. -/
theorem existing_shape (files : Files) (path : Path) :
    files.shape.existing path
      = (files.existing path).map fun found => (found.1, found.2.shape) := by
  rw [existing, existing, locate_shape]
  cases files.locate path with
  | error error => rfl
  | ok target =>
    dsimp only
    rw [node?_shape]
    rcases files.node? target.place with _ | (_ | _)
    · rfl
    · cases target.slash <;> rfl
    · rfl

/-! ## Changes -/

theorem shape_put (files : Files) (place : Place) (node : Node) :
    (files.put place node).shape = files.shape.put place node.shape := by
  rw [put, put, shape, shape, List.map_cons, without, without, List.filter_map]
  rfl

theorem shape_remove (files : Files) (place : Place) :
    (files.remove place).shape = files.shape.remove place := by
  rw [remove, remove, shape, shape, List.filter_map]
  rfl

/-- Bytes at the end of a file are not seen in its shape. -/
theorem shape_appended (files : Files) (place : Place) (bytes : Bytes) :
    (files.appended place bytes).shape = files.shape.appended place [] := by
  rw [appended, appended, node?_shape]
  rcases files.node? place with _ | (⟨content, mode⟩ | mode)
  · rfl
  · exact shape_put files place _
  · rfl

/-! ## Steps -/

/-- What `step` does to a file system, `blurred` does to the shape of it, with the same result. -/
def Blurs (step blurred : FileStep α) : Prop :=
  ∀ files : Files, blurred files.shape = ((step files).1, (step files).2.shape)

theorem blurs_pure (a : α) : Blurs (pure a) (pure a) := fun _ => rfl

theorem blurs_bind {first blurred : FileStep α} {second blurred' : α → FileStep β}
    (hfirst : Blurs first blurred) (hsecond : ∀ a, Blurs (second a) (blurred' a)) :
    Blurs (first >>= second) (blurred >>= blurred') := by
  intro files
  have hshape := hfirst files
  cases hstep : first files with
  | mk result files' =>
    rw [hstep] at hshape
    cases result with
    | error error => rw [bind_of_error _ hshape, bind_of_error _ hstep]
    | ok a =>
      rw [bind_of_ok _ hshape, bind_of_ok _ hstep]
      exact hsecond a files'

/-- What a mishap does to a step it does whatever is in the files. -/
theorem blurs_attempt {act : Files → Except SystemError (α × Files)}
    (h : ∀ files : Files,
      act files.shape = (act files).map fun found => (found.1, found.2.shape)) :
    Blurs (attempt act) (attempt act) := by
  intro files
  cases hdue : files.mishaps.head?.join with
  | some mishap =>
    have hshape : files.shape.mishaps.head?.join = some mishap := hdue
    rw [attempt_due hdue, attempt_due hshape]
    rfl
  | none =>
    have hshape : files.shape.mishaps.head?.join = none := hdue
    rw [attempt_of_none_due act hdue, attempt_of_none_due act hshape,
      show files.shape.later = files.later.shape from rfl, h]
    cases act files.later <;> rfl

theorem blurs_isDirectory (path : Path) : Blurs (isDirectory path) (isDirectory path) := by
  intro files
  rw [isDirectory, isDirectory, existing_shape]
  rcases files.existing path with _ | ⟨place, _ | _⟩ <;> rfl

theorem blurs_makeDirectory (path : Path) : Blurs (makeDirectory path) (makeDirectory path) := by
  refine blurs_attempt fun files => ?_
  rw [locate_shape]
  cases files.locate path with
  | error error => rfl
  | ok target =>
    simp only [bind, Except.bind]
    cases target.named with
    | false => rfl
    | true =>
      simp only [Bool.not_true, Bool.false_eq_true, if_false]
      rw [node?_shape]
      cases files.node? target.place with
      | some node => rfl
      | none =>
        simp only [Option.map_none, Option.isSome_none, Bool.false_eq_true, if_false, Except.map]
        rw [shape_put]
        rfl

/-- A step that is two steps, one after the other, whatever the first comes to. -/
theorem blurs_settle (path : Path) :
    Blurs (makeNested.settle path) (makeNested.settle path) := by
  intro files
  rw [makeNested.settle, makeNested.settle, blurs_makeDirectory path files]
  rcases makeDirectory path files with ⟨error | _, made⟩
  · dsimp only
    rw [blurs_isDirectory path made]
    rcases isDirectory path made with ⟨_ | (_ | _), looked⟩ <;> rfl
  · rfl

theorem blurs_makeNested (paths : List Path) : Blurs (makeNested paths) (makeNested paths) := by
  induction paths with
  | nil => exact blurs_pure ()
  | cons path outer ih =>
    rw [makeNested]
    split
    · exact blurs_pure ()
    · intro files
      dsimp only
      rw [blurs_makeDirectory path files]
      rcases makeDirectory path files with ⟨error | _, made⟩
      · cases error
        case notFound =>
          dsimp only
          rw [ih made]
          rcases makeNested outer made with ⟨_ | _, nested⟩
          · rfl
          · exact blurs_settle path nested
        all_goals
          dsimp only
          rw [blurs_isDirectory path made]
          rcases isDirectory path made with ⟨_ | (_ | _), looked⟩ <;> rfl
      · rfl

theorem blurs_openForWriting (path : Path) (mode : Nat) (empty : Bool) :
    Blurs (openForWriting path mode empty) (openForWriting path mode empty) := by
  refine blurs_attempt fun files => ?_
  rw [approach_shape]
  cases files.approach path with
  | error error => rfl
  | ok approach =>
    simp only [bind, Except.bind]
    cases approach.slash || approach.name.isNone with
    | true => rfl
    | false =>
      simp only [Bool.false_eq_true, if_false]
      rw [locate_shape]
      cases files.locate path with
      | error error => rfl
      | ok target =>
        dsimp only
        rw [node?_shape]
        rcases files.node? target.place with _ | (⟨content, bits⟩ | bits)
        · dsimp only [Except.map]
          rw [shape_put]
          rfl
        · -- A file that is not emptied has no bytes in the shape either.
          dsimp only [Except.map]
          rw [shape_put]
          cases empty <;> rfl
        · rfl

/-- Whatever is written, only its length could count, and no step asks for it. -/
theorem blurs_writeAll (place : Place) (bytes : Bytes) :
    Blurs (writeAll place bytes) (writeAll place []) := by
  intro files
  rw [writeAll, writeAll, show files.shape.mishaps = files.mishaps from rfl]
  split
  · dsimp only
    rw [List.take_nil, shape_appended]
    rfl
  · dsimp only
    rw [shape_appended]
    rfl

theorem blurs_sync (place : Place) : Blurs (sync place) (sync place) :=
  blurs_attempt fun _ => rfl

theorem blurs_rename (source destination : Path) :
    Blurs (rename source destination) (rename source destination) := by
  refine blurs_attempt fun files => ?_
  rw [existing_shape]
  rcases files.existing source with error | ⟨place, node⟩
  · rfl
  · simp only [bind, Except.bind, Except.map]
    rw [locate_shape]
    cases files.locate destination with
    | error error => rfl
    | ok target =>
      dsimp only
      cases target.named with
      | false => rfl
      | true =>
        simp only [Bool.not_true, Bool.false_eq_true, if_false]
        cases node with
        | directory mode => rfl
        | file content mode =>
          dsimp only [Node.shape]
          cases target.slash with
          | true => rfl
          | false =>
            simp only [Bool.false_eq_true, if_false]
            by_cases hplace : target.place = place
            · simp only [hplace, if_true]
            · simp only [hplace, if_false]
              have hmoved : Except.ok (ε := SystemError)
                  ((), (files.shape.remove place).put target.place (.file [] mode))
                  = .ok ((), ((files.remove place).put target.place
                      (.file content mode)).shape) := by
                rw [shape_put, shape_remove]
                rfl
              rw [node?_shape]
              rcases files.node? target.place with _ | (_ | _)
              · exact hmoved
              · exact hmoved
              · rfl

/-! ## State files -/

theorem blurs_prepare (path : Path) : Blurs (StateFile.prepare path) (StateFile.prepare path) := by
  rw [StateFile.prepare]
  split
  · exact blurs_pure ()
  · split
    · exact blurs_pure ()
    · exact blurs_makeNested _

/-- Storing a file comes to the same whatever is stored and whatever is in the files there are. -/
theorem blurs_replace (path : Path) (content : Bytes) :
    Blurs (StateFile.replace path content) (StateFile.replace path []) := by
  refine blurs_bind (blurs_prepare path) fun _ => ?_
  refine blurs_bind (blurs_openForWriting _ _ _) fun place => ?_
  refine blurs_bind (blurs_writeAll place content) fun _ => ?_
  exact blurs_bind (blurs_sync place) fun _ => blurs_rename _ _

theorem blurs_save (hash : Bytes → Bytes) (path : Path) (slots : Slots) :
    Blurs (StateFile.save hash path slots) (StateFile.replace path []) :=
  blurs_replace path _

end Files

end SealedLog
