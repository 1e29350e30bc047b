/-!
# Spans of time

A span is a number of nanoseconds. In a message it is written in the largest unit that makes its
integer part non-zero, with the exact fraction and no trailing zeros: `5s`, `1.5ms`, `0ns`.

- `Span.isWithin`: what is over at the very moment of a limit is not within it.
- `Span.text`: a span in a message.
-/

namespace SealedLog

/-- A length of time, counted in nanoseconds. -/
structure Span where
  nanos : Nat
deriving Repr, DecidableEq, Inhabited

namespace Span

instance : Add Span := ⟨fun a b => ⟨a.nanos + b.nanos⟩⟩

/-- What is left of a span when another one is over; nothing if that one is longer. -/
instance : Sub Span := ⟨fun a b => ⟨a.nanos - b.nanos⟩⟩

/-- The span of so many milliseconds. -/
def ofMillis (n : Nat) : Span := ⟨n * 1000000⟩

/-- Whether a span is over before a limit, if there is one. -/
def isWithin (span : Span) : Option Span → Bool
  | none => true
  | some limit => span.nanos < limit.nanos

/-- The digits of `rest / 10 ^ places`, with the trailing zeros cut. -/
def fraction (rest places : Nat) : List Char :=
  let digits := Nat.toDigits 10 rest
  let padded := List.replicate (places - digits.length) '0' ++ digits
  (padded.reverse.dropWhile (· = '0')).reverse

/-- A whole number of units and a rest, of which `10 ^ places` make one unit. -/
def written (whole rest places : Nat) (unit : String) : String :=
  let digits := fraction rest places
  if digits.isEmpty then toString whole ++ unit
  else toString whole ++ "." ++ String.ofList digits ++ unit

/-- The span in its largest fitting unit. -/
def text (span : Span) : String :=
  let n := span.nanos
  if 1000000000 ≤ n then written (n / 1000000000) (n % 1000000000) 9 "s"
  else if 1000000 ≤ n then written (n / 1000000) (n % 1000000) 6 "ms"
  else if 1000 ≤ n then written (n / 1000) (n % 1000) 3 "µs"
  else written n 0 0 "ns"

end Span

end SealedLog
