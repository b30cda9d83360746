import Testbed.Text.Digit
import Testbed.Toml.Value

/-!
# Numbers and other scalars of TOML

A scalar is read from all of the characters that make it up. Digits may be grouped by single
underscores between them.
-/

namespace Testbed.Toml

open Text (digitIn?)

/-! ## Numbers -/

/-- The digits without the underscores between them. -/
def ungrouped? (base : Nat) : List Char → Option (List Nat)
  | [] => none
  | [c] => (digitIn? base c).map ([·])
  | c :: '_' :: rest => do return (← digitIn? base c) :: (← ungrouped? base rest)
  | c :: rest => do return (← digitIn? base c) :: (← ungrouped? base rest)

def ofDigits (base : Nat) (ds : List Nat) : Nat :=
  ds.foldl (fun n d => n * base + d) 0

/-- The sign before a number, if any, and what follows it. -/
def signed : List Char → Int × List Char
  | '-' :: rest => (-1, rest)
  | '+' :: rest => (1, rest)
  | cs => (1, cs)

/-- A decimal number that does not begin with a superfluous zero. -/
def decimal? (cs : List Char) : Option Nat := do
  let ds ← ungrouped? 10 cs
  match ds with
  | 0 :: _ :: _ => none
  | _ => some (ofDigits 10 ds)

/-- The greatest integers a document can hold. -/
def maxInteger : Int := 0xffffffffffffffffffffffffffffffff

/-- The least integer a document can hold. -/
def minInteger : Int := -0x80000000000000000000000000000000

def inRange? (n : Int) : Option Int :=
  if minInteger ≤ n ∧ n ≤ maxInteger then some n else none

/-- A whole number: decimal with or without a sign, or in another base without one. -/
def integer? (cs : List Char) : Option Int :=
  match cs with
  | '0' :: 'x' :: rest => do inRange? (ofDigits 16 (← ungrouped? 16 rest))
  | '0' :: 'o' :: rest => do inRange? (ofDigits 8 (← ungrouped? 8 rest))
  | '0' :: 'b' :: rest => do inRange? (ofDigits 2 (← ungrouped? 2 rest))
  | _ =>
    let (sign, rest) := signed cs
    do inRange? (sign * (← decimal? rest))

/-- `digits · 10 ^ exponent` rounds to a number that binary floating point with 64 bits can hold. -/
def isFiniteFloat (digits : Nat) (exponent : Int) : Bool :=
  let size := (Nat.toDigits 10 digits).length + exponent
  if digits = 0 ∨ size ≤ 308 then true
  else if 309 < size then false
  else
    let limit := Nat.pow 2 1024 - Nat.pow 2 970
    if 0 ≤ exponent then digits * Nat.pow 10 exponent.toNat < limit
    else digits < limit * Nat.pow 10 exponent.natAbs

def isExponentMark (c : Char) : Bool := c = 'e' || c = 'E'

/-- The exponent of a number, which may begin with zeros; 0 where there is none. -/
def exponent? : List Char → Option Int
  | [] => some 0
  | _ :: cs =>
    let (sign, rest) := signed cs
    (ungrouped? 10 rest).map fun ds => sign * ofDigits 10 ds

/-- The digits after the point of a number; none where there is no point. -/
def fraction? : List Char → Option (List Nat)
  | [] => some []
  | _ :: cs => ungrouped? 10 cs

/-- A number with a fraction or an exponent that is not too large. -/
def isFloat (cs : List Char) : Bool :=
  let unsigned := (signed cs).2
  unsigned = ['i', 'n', 'f'] || unsigned = ['n', 'a', 'n'] ||
    let mantissa := unsigned.takeWhile (!isExponentMark ·)
    let whole := mantissa.takeWhile (· ≠ '.')
    match decimal? whole, fraction? (mantissa.dropWhile (· ≠ '.')),
        exponent? (unsigned.dropWhile (!isExponentMark ·)) with
    | some n, some ds, some e =>
      whole.length < unsigned.length &&
        isFiniteFloat (ds.foldl (fun n d => n * 10 + d) n) (e - ds.length)
    | _, _, _ => false

/-! ## Scalars -/

/-- The value of a scalar that is not a string. -/
def scalarValue? (cs : List Char) : Option Value :=
  if cs = ['t', 'r', 'u', 'e'] then some (.boolean true)
  else if cs = ['f', 'a', 'l', 's', 'e'] then some (.boolean false)
  else match integer? cs with
    | some n => some (.integer n)
    | none =>
      if isFloat cs then some .float else (dateTime? cs).map .dateTime

/-- Characters that a scalar is made of. -/
def isScalarChar (c : Char) : Bool :=
  c.isAlphanum || c = '+' || c = '-' || c = '_' || c = '.' || c = ':'

def isDate (cs : List Char) : Bool :=
  match date? cs with
  | some (_, []) => true
  | _ => false

/-- The characters of the scalar at the beginning of `cs`, and what follows. A single space joins a
date to a time after it. -/
def scalarChars (cs : List Char) : List Char × List Char :=
  let first := cs.takeWhile isScalarChar
  let rest := cs.dropWhile isScalarChar
  match rest with
  | ' ' :: c :: _ =>
    if isDate first && c.isDigit then
      let second := rest.tail.takeWhile isScalarChar
      (first ++ ' ' :: second, rest.tail.dropWhile isScalarChar)
    else (first, rest)
  | _ => (first, rest)

end Testbed.Toml
