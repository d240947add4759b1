import TtDal.Platform.Thread

/-!
# Text conversion

The conversions of the C library the code uses, in the C locale: `strtoul` in base ten, `sscanf`
for unsigned numbers and literal characters, and `%x` with zero padding. Numbers follow glibc: a
sign is accepted and negates modulo the width of `unsigned long`, an overflow saturates, a `0x`
prefix alone reads as zero, and the result is then cut to the width of the object it is stored in.
-/

namespace TtDal.Platform

def isSpace (c : Char) : Bool :=
  c = ' ' || ('\t' ≤ c && c ≤ '\r')

/-- The value of a digit in the given base, at most sixteen. -/
def digitValue (base : ℕ) (c : Char) : Option ℕ :=
  let value :=
    if '0' ≤ c ∧ c ≤ '9' then some (c.toNat - '0'.toNat)
    else if 'a' ≤ c ∧ c ≤ 'f' then some (c.toNat - 'a'.toNat + 10)
    else if 'A' ≤ c ∧ c ≤ 'F' then some (c.toNat - 'A'.toNat + 10)
    else none
  value.filter (· < base)

/-- The number a run of digits denotes, after those already read. -/
def digitsValue (base : ℕ) (acc : ℕ) (digits : List Char) : ℕ :=
  digits.foldl (fun acc c ↦ acc * base + (digitValue base c).getD 0) acc

/-- An optional sign: whether it negates, and the text behind it. -/
def scanSign : List Char → Bool × List Char
  | '-' :: rest => (true, rest)
  | '+' :: rest => (false, rest)
  | text => (false, text)

/-- Whether a magnitude overflows `unsigned long`, and the value reported for it. -/
def unsignedLong (negative : Bool) (magnitude : ℕ) : ℕ × Bool :=
  if 2 ^ 64 ≤ magnitude then (2 ^ 64 - 1, true)
  else if negative then ((2 ^ 64 - magnitude) % 2 ^ 64, false)
  else (magnitude, false)

/-- `strtoul(text, &end, 10)`: the value, the text at `end`, and whether it overflowed. -/
def strtoul (text : List Char) : ℕ × List Char × Bool :=
  let (negative, behind) := scanSign (text.dropWhile isSpace)
  let (digits, rest) := behind.span fun c ↦ (digitValue 10 c).isSome
  if digits = [] then
    (0, text, false)
  else
    let (value, overflow) := unsignedLong negative (digitsValue 10 0 digits)
    (value, rest, overflow)

/-- The prefix `%x` accepts before the digits: whether it was there, and the text behind it. -/
def scanHexPrefix : List Char → Bool × List Char
  | '0' :: 'x' :: rest => (true, rest)
  | '0' :: 'X' :: rest => (true, rest)
  | text => (false, text)

/-- One numeric conversion of `sscanf`, or `none` when the input does not match. -/
def scanNumber (base : ℕ) (text : List Char) : Option (ℕ × List Char) :=
  let (negative, behind) := scanSign (text.dropWhile isSpace)
  let (zero, behind) := if base = 16 then scanHexPrefix behind else (false, behind)
  let (digits, rest) := behind.span fun c ↦ (digitValue base c).isSome
  if digits = [] ∧ zero = false then
    none
  else
    some ((unsignedLong negative (digitsValue base 0 digits)).1, rest)

inductive Directive where
  /-- An unsigned conversion in a base, stored in an object of so many bits. -/
  | number (base bits : ℕ)
  | literal (c : Char)

/-- The values `sscanf` stores, in order; their number is its result. -/
def sscanf : List Directive → List Char → List ℕ
  | [], _ => []
  | .number base bits :: format, text =>
    match scanNumber base text with
    | some (value, rest) => value % 2 ^ bits :: sscanf format rest
    | none => []
  | .literal c :: format, text =>
    match text with
    | d :: rest => if d = c then sscanf format rest else []
    | [] => []

/-- `%x` padded with zeros to a width. -/
def hex (width value : ℕ) : List Char :=
  (Nat.toDigits 16 value).leftpad width '0'

/-- What `snprintf` leaves in a buffer of the given size. -/
def snprintf (size : ℕ) (text : List Char) : List Char :=
  text.take (size - 1)

end TtDal.Platform
