import Mathlib.Data.Int.Basic
import Mathlib.Data.Nat.Log
import Mathlib.Data.String.Basic

/-!
# Decimal floating point

The finite part of the `decimal` module in its default context: 28 digits, rounding to the even
neighbour, exponents up to 999999, and exceptions on an invalid operation, on a division by zero
and on an overflow.  A value is a sign, a coefficient and an exponent; `Decimal("1.0")` and
`Decimal("1")` are different values that compare equal.
-/

namespace AgentRuntimeOps.Lib

/-- A decimal number, or something that is none. -/
inductive Decimal where
  | finite (negative : Bool) (coefficient : Nat) (exponent : Int)
  | infinite (negative : Bool)
  | nan
  deriving DecidableEq, Repr

/-- The exceptions of the context. -/
inductive DecimalError where
  | invalidOperation
  | divisionByZero
  | overflow
  deriving DecidableEq, Repr

namespace Decimal

/-! ## The context -/

/-- `prec` -/
def precision : Nat := 28

/-- `Emax` -/
def maxExponent : Int := 999999

/-- `Etiny()` -/
def tinyExponent : Int := -1000026

/-- `Etop()` -/
def topExponent : Int := 999972

/-- The number of digits of a coefficient; 0 has one. -/
def digitCount (n : Nat) : Nat := Nat.log 10 n + 1

/-- How a value between two neighbours is rounded. -/
inductive Rounding where
  | halfEven
  | halfUp

/-- `n / 10 ^ k`, rounded. -/
def roundedShift (rounding : Rounding) (n k : Nat) : Nat :=
  let quotient := n / 10 ^ k
  let rest := 2 * (n % 10 ^ k)
  match rounding with
  | .halfUp => if 10 ^ k ≤ rest then quotient + 1 else quotient
  | .halfEven =>
      if rest < 10 ^ k ∨ rest = 10 ^ k ∧ quotient % 2 = 0 then quotient else quotient + 1

/-- `_rescale`: the value with this exponent. -/
def rescale (rounding : Rounding) (coefficient : Nat) (exponent target : Int) : Nat :=
  if target ≤ exponent then coefficient * 10 ^ (exponent - target).toNat
  else roundedShift rounding coefficient (target - exponent).toNat

/-- `_fix`: the value in the context. -/
def fix (negative : Bool) (coefficient : Nat) (exponent : Int) : Except DecimalError Decimal :=
  if coefficient = 0 then
    .ok (.finite negative 0 (min (max exponent tinyExponent) maxExponent))
  else
    let lowest := (digitCount coefficient : Int) + exponent - precision
    if topExponent < lowest then .error .overflow
    else
      let lowest := max lowest tinyExponent
      if lowest ≤ exponent then .ok (.finite negative coefficient exponent)
      else
        let rounded := rescale .halfEven coefficient exponent lowest
        -- a carry can give one digit too many
        if precision < digitCount rounded then
          if topExponent < lowest + 1 then .error .overflow
          else .ok (.finite negative (rounded / 10) (lowest + 1))
        else .ok (.finite negative rounded lowest)

/-! ## Operations -/

/-- `Decimal(n)` -/
def ofInt (n : Int) : Decimal := .finite (n < 0) n.natAbs 0

/-- The value with this sign, as an integer multiple of the unit. -/
def signed (negative : Bool) (n : Nat) : Int := if negative then -n else n

/-- `x + y` -/
def add : Decimal → Decimal → Except DecimalError Decimal
  | .finite s m e, .finite t n f =>
      let low := min e f
      let sum := signed s (m * 10 ^ (e - low).toNat) + signed t (n * 10 ^ (f - low).toNat)
      fix (if sum = 0 then s && t else sum < 0) sum.natAbs low
  | _, _ => .error .invalidOperation

/-- `x * y` -/
def mul : Decimal → Decimal → Except DecimalError Decimal
  | .finite s m e, .finite t n f => fix (s != t) (m * n) (e + f)
  | _, _ => .error .invalidOperation

/-- Drop zeros at the end, at most `n` of them. -/
def dropZeros : Nat → Nat → Nat × Nat
  | 0, coefficient => (coefficient, 0)
  | n + 1, coefficient =>
      if coefficient % 10 = 0 then
        let (shorter, dropped) := dropZeros n (coefficient / 10)
        (shorter, dropped + 1)
      else (coefficient, 0)

/-- `x / y` -/
def div : Decimal → Decimal → Except DecimalError Decimal
  | .finite s m e, .finite t n f =>
      if n = 0 then .error (if m = 0 then .invalidOperation else .divisionByZero)
      else if m = 0 then fix (s != t) 0 (e - f)
      else
        let shift : Int := (digitCount n : Int) - digitCount m + precision + 1
        let exponent := e - f - shift
        let dividend := m * 10 ^ shift.toNat
        let divisor := n * 10 ^ (-shift).toNat
        let quotient := dividend / divisor
        if dividend % divisor ≠ 0 then
          -- keep the rounding of an inexact quotient correct
          fix (s != t) (if quotient % 5 = 0 then quotient + 1 else quotient) exponent
        else
          let (shorter, dropped) := dropZeros (e - f - exponent).toNat quotient
          fix (s != t) shorter (exponent + dropped)
  | _, _ => .error .invalidOperation

/-- `x.quantize(Decimal("1E-places"), rounding)` -/
def quantize (rounding : Rounding) (places : Nat) : Decimal → Except DecimalError Decimal
  | .finite s m e =>
      let target : Int := -places
      if m = 0 then fix s 0 target
      else if maxExponent < (digitCount m : Int) + e - 1 ∨
          (precision : Int) < (digitCount m : Int) + e - 1 - target + 1 then
        .error .invalidOperation
      else
        let rescaled := rescale rounding m e target
        if precision < digitCount rescaled then .error .invalidOperation else fix s rescaled target
  | _ => .error .invalidOperation

/-- `x == y` for numbers. -/
def numericEq : Decimal → Decimal → Bool
  | .finite s m e, .finite t n f =>
      let low := min e f
      signed s (m * 10 ^ (e - low).toNat) == signed t (n * 10 ^ (f - low).toNat)
  | _, _ => false

/-- `int(x)` -/
def toInt : Decimal → Int
  | .finite s m e =>
      signed s (if 0 ≤ e then m * 10 ^ e.toNat else m / 10 ^ (-e).toNat)
  | _ => 0

/-- `format(x, "f")` -/
def format : Decimal → String
  | .finite s m e =>
      let (m, e) : Nat × Int := if m = 0 ∧ 0 < e then (0, 0) else (m, e)
      let digits := Nat.toDigits 10 m
      let place := e + digits.length
      let text :=
        if place < 0 then '0' :: '.' :: List.replicate (-place).toNat '0' ++ digits
        else if (digits.length : Int) < place then
          digits ++ List.replicate (place - digits.length).toNat '0'
        else
          let whole := digits.take place.toNat
          let fraction := digits.drop place.toNat
          (if whole = [] then ['0'] else whole) ++ (if fraction = [] then [] else '.' :: fraction)
      String.ofList (if s then '-' :: text else text)
  | .infinite s => if s then "-Infinity" else "Infinity"
  | .nan => "NaN"

example : (div (.ofInt 1) (.ofInt 3)) = .ok (.finite false (10 ^ 28 / 3) (-28)) := by decide

example : (quantize .halfUp 2 (.finite false 12345 (-3))).map format = .ok "12.35" := by decide

/-! ## Reading -/

/-- The value of a text of digits, where `digit` knows the decimal digits. -/
def digitsValue? (digit : Char → Option Nat) (text : List Char) : Option Nat :=
  text.foldl (fun value c => do
    let value ← value
    let d ← digit c
    return 10 * value + d) (some 0)

/-- An exponent: a sign, and at least one digit. -/
def exponent? (digit : Char → Option Nat) (text : List Char) : Option Int :=
  match text with
  | [] => none
  | '-' :: [] => none
  | '+' :: [] => none
  | '-' :: digits => (digitsValue? digit digits).map fun n => -(n : Int)
  | '+' :: digits => (digitsValue? digit digits).map Int.ofNat
  | digits => (digitsValue? digit digits).map Int.ofNat

/-- The number in a text without sign: digits with a point, and an exponent. -/
def unsigned? (digit : Char → Option Nat) (text : List Char) : Option (Nat × Int) := do
  let mantissa := text.takeWhile fun c => c ≠ 'e' ∧ c ≠ 'E'
  let exponent ← match text.dropWhile fun c => c ≠ 'e' ∧ c ≠ 'E' with
    | [] => some 0
    | _ :: rest => exponent? digit rest
  let whole := mantissa.takeWhile (· ≠ '.')
  let fraction := (mantissa.dropWhile (· ≠ '.')).drop 1
  if whole = [] ∧ fraction = [] then none
  else
    let coefficient ← digitsValue? digit (whole ++ fraction)
    return (coefficient, exponent - fraction.length)

/-- The largest exponent of the first digit of a number that is read. -/
def maxReadExponent : Int := 999999999999999999

/-- The smallest exponent of a number that is read. -/
def minReadExponent : Int := -1999999999999999997

/-- The number can be kept as it is written. -/
def isReadable (coefficient : Nat) (exponent : Int) : Bool :=
  minReadExponent ≤ exponent &&
    (if coefficient = 0 then exponent else digitCount coefficient - 1 + exponent) ≤ maxReadExponent

/-- `Decimal(text)`, for a text without white space around it; `none` is an invalid operation. -/
def parse (digit : Char → Option Nat) (text : List Char) : Option Decimal :=
  let text := text.filter (· ≠ '_')
  let (negative, rest) : Bool × List Char := match text with
    | '-' :: rest => (true, rest)
    | '+' :: rest => (false, rest)
    | rest => (false, rest)
  let lower := rest.map Char.toLower
  if lower = "inf".toList ∨ lower = "infinity".toList then some (.infinite negative)
  else if "nan".toList <+: lower ∨ "snan".toList <+: lower then
    let diagnostic := lower.drop (if "nan".toList <+: lower then 3 else 4)
    (digitsValue? digit diagnostic).map fun _ => .nan
  else do
    let (coefficient, exponent) ← unsigned? digit rest
    if isReadable coefficient exponent then some (.finite negative coefficient exponent) else none

example : parse (fun c => if c.isDigit then some (c.toNat - 48) else none) "-1_0.50e3".toList =
    some (.finite true 1050 1) := by decide

end Decimal

end AgentRuntimeOps.Lib
