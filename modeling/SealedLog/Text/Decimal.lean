/-!
# Decimal numerals

Numbers in stored texts are written in plain decimal, without sign, leading zeros or exponent.

- `Decimal.digits`: the digits of a number, most significant first.
- `Decimal.value`: the number that a list of digits stands for.
-/

namespace SealedLog.Decimal

/-- The digit of a value below ten. -/
def digit (value : Nat) : Char := Char.ofNat (48 + value)

/-- The decimal digits of a number. -/
def digits (n : Nat) : List Char :=
  if n < 10 then [digit n] else digits (n / 10) ++ [digit (n % 10)]
termination_by n

/-- The value of a decimal digit, if the character is one. -/
def value? (c : Char) : Option Nat :=
  if '0' ≤ c ∧ c ≤ '9' then some (c.toNat - 48) else none

/-- The number written by digits in a base, most significant first; `none` at any other
character. -/
def readWith (base : Nat) (digitValue : Char → Option Nat) (start : Nat) : List Char → Option Nat
  | [] => some start
  | c :: rest =>
    match digitValue c with
    | none => none
    | some d => readWith base digitValue (base * start + d) rest

/-- The number written by one or more decimal digits. -/
def value (text : List Char) : Option Nat :=
  if text.isEmpty then none else readWith 10 value? 0 text

/-- The decimal spelling of a number. -/
def write (n : Nat) : String := String.ofList (digits n)

end SealedLog.Decimal
