import SealedLog.Files

/-!
# Storage media

A medium keeps the bytes of one log, or no log at all. It hands out writers and readers that move
bytes in pieces of its own choosing, ask to be called again, or fail. It may keep the bytes in
files.

A medium asks to be called again only so often, and a log ends somewhere: `patience` and
`remaining` bound how long a writer and a reader can go on. This is what lets the loops below
come to an end.

- `Medium.writeAll`: all of some bytes, in as many calls as it takes.
- `Medium.readToEnd`: everything a reader has to give.
- `Medium.readUpTo`: as much as fits, for readers of fixed-size pieces.
-/

namespace SealedLog

/-- What a call to move bytes came to. -/
inductive Reply (α : Type)
  | moved (what : α)
  /-- Nothing was moved; the call is to be made again. -/
  | interrupted
  | failed (error : SystemError)

/-- Whether a read that was replied to so leaves less to read: it brought bytes, or it used up
some patience. -/
def Reply.advances : Reply Bytes → Bool
  | moved bytes => !bytes.isEmpty
  | interrupted => true
  | failed _ => false

/-- A medium together with the file system it may use. -/
structure Site (μ : Type) where
  medium : μ
  files : Files

/-- A storage medium with states `μ`. -/
class Medium (μ : Type) where
  Reader : Type
  Writer : Type
  /-- Where the log is, for reports. -/
  describe : μ → String
  /-- Opens the log at its end; it is created if there is none. -/
  openAppend : Site μ → Except SystemError Writer × Site μ
  /-- Takes some first part of the bytes given. -/
  write : Writer → Bytes → Site μ → (Reply Nat × Writer) × Site μ
  flush : Writer → Site μ → Except SystemError Unit × Site μ
  /-- Makes the log empty; it is created if there is none. -/
  truncate : Site μ → Except SystemError Unit × Site μ
  /-- Opens the log at its start, if there is one. -/
  openRead : Site μ → Except SystemError (Option Reader) × Site μ
  /-- Brings some bytes, at most so many; none at the end of the log. -/
  read : Reader → Nat → Site μ → (Reply Bytes × Reader) × Site μ
  /-- The length of the log, if there is one. -/
  size : Site μ → Except SystemError (Option Nat) × Site μ
  patience : Writer → Site μ → Nat
  remaining : Reader → Site μ → Nat
  patience_lt : ∀ writer bytes site,
    (write writer bytes site).1.1 = .interrupted →
      patience (write writer bytes site).1.2 (write writer bytes site).2 < patience writer site
  remaining_le : ∀ reader limit site,
    remaining (read reader limit site).1.2 (read reader limit site).2 ≤ remaining reader site
  remaining_lt : ∀ reader limit site,
    (read reader limit site).1.1.advances = true →
      remaining (read reader limit site).1.2 (read reader limit site).2 < remaining reader site

namespace Medium

variable {μ : Type} [Medium μ]

/-- Writes all bytes. A writer that takes none of them has failed. -/
def writeAll (writer : Writer μ) (bytes : Bytes) (site : Site μ) :
    (Except SystemError Unit × Writer μ) × Site μ :=
  if bytes = [] then ((.ok (), writer), site)
  else
    let called := write writer bytes site
    match _h : called.1.1 with
    | .failed error => ((.error error, called.1.2), called.2)
    | .interrupted => writeAll called.1.2 bytes called.2
    | .moved count =>
      if count = 0 then ((.error .nothingWritten, called.1.2), called.2)
      else writeAll called.1.2 (bytes.drop count) called.2
termination_by (bytes.length, patience writer site)
decreasing_by
  · apply Prod.Lex.right
    exact patience_lt writer bytes site _h
  · apply Prod.Lex.left
    simp only [List.length_drop]
    have := List.length_pos_iff.mpr ‹¬bytes = []›
    omega

/-- Reads to the end. -/
def readToEnd (reader : Reader μ) (site : Site μ) : Except SystemError Bytes × Site μ :=
  let called := read reader 32 site
  match _h : called.1.1 with
  | .failed error => (.error error, called.2)
  | .interrupted => readToEnd called.1.2 called.2
  | .moved bytes =>
    if _e : bytes = [] then (.ok [], called.2)
    else
      let rest := readToEnd called.1.2 called.2
      (rest.1.map (bytes ++ ·), rest.2)
termination_by remaining reader site
decreasing_by
  · exact remaining_lt reader 32 site (by simp [called, _h, Reply.advances])
  · exact remaining_lt reader 32 site (by simp [called, _h, Reply.advances, _e])

/-- Reads until so many bytes are there or the log ends. -/
def readUpTo (want : Nat) (reader : Reader μ) (site : Site μ) :
    (Except SystemError Bytes × Reader μ) × Site μ :=
  if want = 0 then ((.ok [], reader), site)
  else
    let called := read reader want site
    match _h : called.1.1 with
    | .failed error => ((.error error, called.1.2), called.2)
    | .interrupted => readUpTo want called.1.2 called.2
    | .moved bytes =>
      if _e : bytes = [] then ((.ok [], called.1.2), called.2)
      else
        let rest := readUpTo (want - bytes.length) called.1.2 called.2
        ((rest.1.1.map (bytes ++ ·), rest.1.2), rest.2)
termination_by remaining reader site
decreasing_by
  · exact remaining_lt reader want site (by simp [called, _h, Reply.advances])
  · exact remaining_lt reader want site (by simp [called, _h, Reply.advances, _e])

end Medium

/-! ## One of two media -/

namespace Medium

variable {α β : Type}

/-- A site whose medium is one of two, the first. -/
def Site.first (site : Site α) : Site (α ⊕ β) := ⟨.inl site.medium, site.files⟩

/-- A site whose medium is one of two, the second. -/
def Site.second (site : Site β) : Site (α ⊕ β) := ⟨.inr site.medium, site.files⟩

variable [Medium α] [Medium β]

/-- One write, with the writer of the medium that is there. -/
def writeEither (writer : Writer α ⊕ Writer β) (bytes : Bytes) (site : Site (α ⊕ β)) :
    (Reply Nat × (Writer α ⊕ Writer β)) × Site (α ⊕ β) :=
  match writer, site.medium with
  | .inl writer, .inl medium =>
    let called := write writer bytes ⟨medium, site.files⟩
    ((called.1.1, .inl called.1.2), Site.first called.2)
  | .inr writer, .inr medium =>
    let called := write writer bytes ⟨medium, site.files⟩
    ((called.1.1, .inr called.1.2), Site.second called.2)
  | writer, _ => ((.failed .notFound, writer), site)

/-- One read, with the reader of the medium that is there. -/
def readEither (reader : Reader α ⊕ Reader β) (limit : Nat) (site : Site (α ⊕ β)) :
    (Reply Bytes × (Reader α ⊕ Reader β)) × Site (α ⊕ β) :=
  match reader, site.medium with
  | .inl reader, .inl medium =>
    let called := read reader limit ⟨medium, site.files⟩
    ((called.1.1, .inl called.1.2), Site.first called.2)
  | .inr reader, .inr medium =>
    let called := read reader limit ⟨medium, site.files⟩
    ((called.1.1, .inr called.1.2), Site.second called.2)
  | reader, _ => ((.failed .notFound, reader), site)

/-- The patience of the medium that is there. -/
def patienceEither (writer : Writer α ⊕ Writer β) (site : Site (α ⊕ β)) : Nat :=
  match writer, site.medium with
  | .inl writer, .inl medium => patience writer ⟨medium, site.files⟩
  | .inr writer, .inr medium => patience writer ⟨medium, site.files⟩
  | _, _ => 0

/-- What the medium that is there has left to read. -/
def remainingEither (reader : Reader α ⊕ Reader β) (site : Site (α ⊕ β)) : Nat :=
  match reader, site.medium with
  | .inl reader, .inl medium => remaining reader ⟨medium, site.files⟩
  | .inr reader, .inr medium => remaining reader ⟨medium, site.files⟩
  | _, _ => 0

instance : Medium (α ⊕ β) where
  Reader := Reader α ⊕ Reader β
  Writer := Writer α ⊕ Writer β
  describe := Sum.elim describe describe
  openAppend site :=
    match site.medium with
    | .inl medium =>
      let called := openAppend ⟨medium, site.files⟩
      (called.1.map .inl, Site.first called.2)
    | .inr medium =>
      let called := openAppend ⟨medium, site.files⟩
      (called.1.map .inr, Site.second called.2)
  write := writeEither
  flush writer site :=
    match writer, site.medium with
    | .inl writer, .inl medium =>
      let called := flush writer ⟨medium, site.files⟩
      (called.1, Site.first called.2)
    | .inr writer, .inr medium =>
      let called := flush writer ⟨medium, site.files⟩
      (called.1, Site.second called.2)
    | _, _ => (.error .notFound, site)
  truncate site :=
    match site.medium with
    | .inl medium =>
      let called := truncate ⟨medium, site.files⟩
      (called.1, Site.first called.2)
    | .inr medium =>
      let called := truncate ⟨medium, site.files⟩
      (called.1, Site.second called.2)
  openRead site :=
    match site.medium with
    | .inl medium =>
      let called := openRead ⟨medium, site.files⟩
      (called.1.map (·.map .inl), Site.first called.2)
    | .inr medium =>
      let called := openRead ⟨medium, site.files⟩
      (called.1.map (·.map .inr), Site.second called.2)
  read := readEither
  size site :=
    match site.medium with
    | .inl medium =>
      let called := size ⟨medium, site.files⟩
      (called.1, Site.first called.2)
    | .inr medium =>
      let called := size ⟨medium, site.files⟩
      (called.1, Site.second called.2)
  patience := patienceEither
  remaining := remainingEither
  patience_lt := by
    rintro (writer | writer) bytes ⟨medium | medium, files⟩ h
    · exact patience_lt writer bytes ⟨medium, files⟩ h
    · simp [writeEither] at h
    · simp [writeEither] at h
    · exact patience_lt writer bytes ⟨medium, files⟩ h
  remaining_le := by
    rintro (reader | reader) limit ⟨medium | medium, files⟩
    · exact remaining_le reader limit ⟨medium, files⟩
    · exact Nat.le_refl _
    · exact Nat.le_refl _
    · exact remaining_le reader limit ⟨medium, files⟩
  remaining_lt := by
    rintro (reader | reader) limit ⟨medium | medium, files⟩ h
    · exact remaining_lt reader limit ⟨medium, files⟩ h
    · simp [readEither, Reply.advances] at h
    · simp [readEither, Reply.advances] at h
    · exact remaining_lt reader limit ⟨medium, files⟩ h

end Medium

end SealedLog
