import SealedLog.Bytes

/-!
# The SHA-256 digest

The digest of a byte string, thirty-two bytes, as the standard defines it. State files carry it
so that a changed file is noticed.

- `Sha256.padded`: the message with its end mark and length, whole blocks of 64 bytes.
- `Sha256.digest`: the digest.
-/

namespace SealedLog.Sha256

/-- The constants of the sixty-four rounds. -/
def constants : List UInt32 :=
  [0x428a2f98, 0x71374491, 0xb5c0fbcf, 0xe9b5dba5, 0x3956c25b, 0x59f111f1, 0x923f82a4, 0xab1c5ed5,
   0xd807aa98, 0x12835b01, 0x243185be, 0x550c7dc3, 0x72be5d74, 0x80deb1fe, 0x9bdc06a7, 0xc19bf174,
   0xe49b69c1, 0xefbe4786, 0x0fc19dc6, 0x240ca1cc, 0x2de92c6f, 0x4a7484aa, 0x5cb0a9dc, 0x76f988da,
   0x983e5152, 0xa831c66d, 0xb00327c8, 0xbf597fc7, 0xc6e00bf3, 0xd5a79147, 0x06ca6351, 0x14292967,
   0x27b70a85, 0x2e1b2138, 0x4d2c6dfc, 0x53380d13, 0x650a7354, 0x766a0abb, 0x81c2c92e, 0x92722c85,
   0xa2bfe8a1, 0xa81a664b, 0xc24b8b70, 0xc76c51a3, 0xd192e819, 0xd6990624, 0xf40e3585, 0x106aa070,
   0x19a4c116, 0x1e376c08, 0x2748774c, 0x34b0bcb5, 0x391c0cb3, 0x4ed8aa4a, 0x5b9cca4f, 0x682e6ff3,
   0x748f82ee, 0x78a5636f, 0x84c87814, 0x8cc70208, 0x90befffa, 0xa4506ceb, 0xbef9a3f7, 0xc67178f2]

/-- The eight words a digest starts from. -/
def initial : List UInt32 :=
  [0x6a09e667, 0xbb67ae85, 0x3c6ef372, 0xa54ff53a, 0x510e527f, 0x9b05688c, 0x1f83d9ab,
   0x5be0cd19]

/-- A word turned to the right. -/
def turn (word : UInt32) (places : UInt32) : UInt32 :=
  (word >>> places) ||| (word <<< (32 - places))

/-- The bytes of a number, most significant first, `width` of them. -/
def bigEndian : Nat → Nat → Bytes
  | 0, _ => []
  | width + 1, n => bigEndian width (n / 256) ++ [UInt8.ofNat (n % 256)]

/-- The message, a mark, zeros up to a whole block, and the length in bits. -/
def padded (message : Bytes) : Bytes :=
  let zeros := (119 - message.length % 64) % 64
  message ++ 0x80 :: (List.replicate zeros 0 ++ bigEndian 8 (8 * message.length))

/-- The words of a block. -/
def words : Bytes → List UInt32
  | a :: b :: c :: d :: rest =>
    ((a.toUInt32 <<< 24) ||| (b.toUInt32 <<< 16) ||| (c.toUInt32 <<< 8) ||| d.toUInt32) ::
      words rest
  | _ => []

/-- The next word of the schedule from the sixteen before it. -/
def nextWord (last : List UInt32) : UInt32 :=
  let w0 := last.getD 0 0
  let w1 := last.getD 1 0
  let w9 := last.getD 9 0
  let w14 := last.getD 14 0
  w0 + (turn w1 7 ^^^ turn w1 18 ^^^ (w1 >>> 3)) + w9
    + (turn w14 17 ^^^ turn w14 19 ^^^ (w14 >>> 10))

/-- The schedule of a block: `more` words after the window of sixteen given. -/
def schedule : Nat → List UInt32 → List UInt32
  | 0, window => window
  | more + 1, window =>
    match window with
    | [] => []
    | oldest :: rest => oldest :: schedule more (rest ++ [nextWord window])

/-- One round with its constant and its word of the schedule. -/
def round (state : List UInt32) (step : UInt32 × UInt32) : List UInt32 :=
  match state with
  | [a, b, c, d, e, f, g, h] =>
    let t1 := h + (turn e 6 ^^^ turn e 11 ^^^ turn e 25)
      + ((e &&& f) ^^^ ((~~~ e) &&& g)) + step.1 + step.2
    let t2 := (turn a 2 ^^^ turn a 13 ^^^ turn a 22)
      + ((a &&& b) ^^^ (a &&& c) ^^^ (b &&& c))
    [t1 + t2, a, b, c, d + t1, e, f, g]
  | other => other

/-- The state after one block. -/
def absorb (state : List UInt32) (block : Bytes) : List UInt32 :=
  let steps := constants.zip (schedule 48 (words block))
  List.zipWith (· + ·) state (steps.foldl round state)

/-- The state after `count` blocks. -/
def absorbAll : Nat → List UInt32 → Bytes → List UInt32
  | 0, state, _ => state
  | count + 1, state, message =>
    absorbAll count (absorb state (message.take 64)) (message.drop 64)

/-- The digest of a message. -/
def digest (message : Bytes) : Bytes :=
  let whole := padded message
  (absorbAll (whole.length / 64) initial whole).flatMap fun word => bigEndian 4 word.toNat

end SealedLog.Sha256
