import SealedLog.Error
import SealedLog.Medium

/-!
# Hex dumps

A log is shown in pieces of thirty-two bytes, each on a line with its offset. A dump reads the
log as it goes; it ends with the log, or with the first failure to read it.

- `HexChunk.line`: one line, `00000020: 4f 6a`.
- `HexDump.next`: the next piece.
- `HexDump.items`: the next pieces, at most so many.
-/

namespace SealedLog

/-- Bytes on a line. -/
def dumpChunkLen : Nat := 32

/-- One piece of a dump. -/
structure HexChunk where
  offset : Nat
  bytes : Bytes
deriving Repr, DecidableEq

namespace HexChunk

/-- The bytes without blanks. -/
def hex (chunk : HexChunk) : String := Hex.encode chunk.bytes

/-- The line for a piece. -/
def line (chunk : HexChunk) : String :=
  Hex.padded 8 chunk.offset ++ ":"
    ++ String.ofList (chunk.bytes.flatMap fun byte => ' ' :: Hex.pair byte)

end HexChunk

/-- A dump with what is left to be read; nothing is left after the end or a failure. -/
structure HexDump (ρ : Type) where
  reader : Option ρ
  target : String
  offset : Nat := 0
  /-- There is no log. -/
  missing : Bool := false

namespace HexDump

variable {μ : Type} [Medium μ]

/-- The next piece, if there is one. -/
def next (dump : HexDump (Medium.Reader μ)) (site : Site μ) :
    (Option (Except StoreError HexChunk) × HexDump (Medium.Reader μ)) × Site μ :=
  match dump.reader with
  | none => ((none, dump), site)
  | some reader =>
    let filled := Medium.readUpTo dumpChunkLen reader site
    match filled.1.1 with
    | .error error =>
      ((some (.error (.readFailed dump.target error)), { dump with reader := none }), filled.2)
    | .ok bytes =>
      -- Nothing more is read once the end was met.
      if bytes = [] then ((none, { dump with reader := none }), filled.2)
      else
        ((some (.ok ⟨dump.offset, bytes⟩),
          { dump with reader := some filled.1.2, offset := dump.offset + bytes.length }),
          filled.2)

/-- A bound on the number of pieces left: every piece takes at least a byte or a failure. -/
def left (dump : HexDump (Medium.Reader μ)) (site : Site μ) : Nat :=
  match dump.reader with
  | none => 0
  | some reader => Medium.remaining reader site + 1

/-- The next pieces, at most so many. -/
def items : Nat → HexDump (Medium.Reader μ) → Site μ → List (Except StoreError HexChunk) × Site μ
  | 0, _, site => ([], site)
  | limit + 1, dump, site =>
    match next dump site with
    | ((none, _), site) => ([], site)
    | ((some item, dump), site) =>
      let (more, site) := items limit dump site
      (item :: more, site)

/-- All pieces that are left. -/
def all (dump : HexDump (Medium.Reader μ)) (site : Site μ) :
    List (Except StoreError HexChunk) × Site μ :=
  items (dump.left site) dump site

end HexDump

end SealedLog
