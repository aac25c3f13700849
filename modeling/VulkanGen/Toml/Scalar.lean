import VulkanGen.Document
import VulkanGen.Toml.Lexical

/-!
# TOML: numbers and points in time

A scalar without quotes is the longest run of the characters that such scalars
are made of.  What it is follows from its spelling: an integer in base 10, 16, 8
or 2, a number with a fraction or an exponent, a date, a time, both, or one of
the words `true`, `false`, `inf` and `nan`.  A date and a time may also stand
side by side with one space between them.

Digits may be grouped by single underscores.  Integers fit in 64 bits with a
sign, and a number that is too large for a double is refused.

* `grouped`, `isDecimal`           how digits may be spelled
* `integer?`, `real?`, `moment?`   one reader for each kind of scalar
-/

namespace VulkanGen.Toml

/-- Digits with single underscores between some of them. -/
def grouped (digit : Char → Bool) : List Char → Bool
  | [] => false
  | [c] => digit c
  | c :: '_' :: rest => digit c && grouped digit rest
  | c :: rest => digit c && grouped digit rest

/-- A text without its underscores. -/
def ungrouped (cs : List Char) : List Char :=
  cs.filter (· != '_')

/-- The sign in front of a text, and what follows it. -/
def signed : List Char → Bool × List Char
  | '+' :: rest => (false, rest)
  | '-' :: rest => (true, rest)
  | cs => (false, cs)

/-- Decimal digits without a zero in front of others. -/
def isDecimal (cs : List Char) : Bool :=
  grouped Char.isDigit cs && (cs.length == 1 || cs.head? != some '0')

/-- An integer that fits in 64 bits with a sign. -/
def int64? (n : Int) : Option Document :=
  if -0x8000000000000000 ≤ n ∧ n ≤ 0x7FFFFFFFFFFFFFFF then some (.integer n) else none

/-- The integer of digits in a base. -/
def radix? (base : Nat) (digit : Char → Bool) (cs : List Char) : Option Document :=
  if grouped digit cs then int64? (Text.ofDigits base hexValue 0 (ungrouped cs)) else none

/-- An integer. -/
def integer? (cs : List Char) : Option Document :=
  match cs with
  | '0' :: 'x' :: rest => radix? 16 isHex rest
  | '0' :: 'o' :: rest => radix? 8 (fun c => '0' ≤ c && c ≤ '7') rest
  | '0' :: 'b' :: rest => radix? 2 (fun c => c == '0' || c == '1') rest
  | _ =>
    let (negative, digits) := signed cs
    if isDecimal digits then
      let n := Text.decimal (ungrouped digits)
      int64? (if negative then -n else n)
    else none

/-- The middle between the largest double and the power of two above it. -/
def doubleLimit : Nat :=
  Nat.pow 2 1024 - Nat.pow 2 970

/-- Whether `digits * 10 ^ exponent` is too large for a double, that is, not below
the limit. -/
def overflows (digits : Nat) (exponent : Int) : Bool :=
  if digits == 0 then false
  else
    let places := (toString digits).length + exponent
    if places > 310 then true
    else if places < 300 then false
    else if exponent ≥ 0 then digits * Nat.pow 10 exponent.toNat ≥ doubleLimit
    else digits ≥ doubleLimit * Nat.pow 10 (-exponent).toNat

/-- A number with a fraction, an exponent or both. -/
def real? (cs : List Char) : Option Document :=
  let (negative, body) := signed cs
  let inMantissa := fun c : Char => c != 'e' && c != 'E'
  let mantissa := body.takeWhile inMantissa
  let exponent := (body.dropWhile inMantissa).drop 1
  let whole := mantissa.takeWhile (· != '.')
  let fraction := (mantissa.dropWhile (· != '.')).drop 1
  let hasFraction := mantissa.contains '.'
  let hasExponent := body.any fun c => c == 'e' || c == 'E'
  let (down, places) := signed exponent
  if (hasFraction || hasExponent) && isDecimal whole &&
      (!hasFraction || grouped Char.isDigit fraction) &&
      (!hasExponent || grouped Char.isDigit places) then
    let digits := Text.decimal (ungrouped whole ++ ungrouped fraction)
    let power : Int := Text.decimal (ungrouped places)
    let shift : Int := (ungrouped fraction).length
    if !negative && overflows digits ((if down then -power else power) - shift) then none
    else some (.real (.ofList cs))
  else none

/-- A word that stands for a value. -/
def word? (cs : List Char) : Option Document :=
  match cs with
  | ['t', 'r', 'u', 'e'] => some (.boolean true)
  | ['f', 'a', 'l', 's', 'e'] => some (.boolean false)
  | _ =>
    let body := (signed cs).2
    if body == ['i', 'n', 'f'] || body == ['n', 'a', 'n'] then some (.real (.ofList cs)) else none

/-! ## Points in time -/

/-- The number of exactly `count` digits in front of a text, if it is in a range. -/
def digits? (count least most : Nat) (cs : List Char) : Option (Nat × List Char) :=
  let digits := cs.take count
  let n := Text.decimal digits
  if digits.length == count && digits.all Char.isDigit && least ≤ n && n ≤ most then
    some (n, cs.drop count)
  else none

/-- The text behind a character. -/
def behind? (c : Char) : List Char → Option (List Char)
  | d :: rest => if c == d then some rest else none
  | [] => none

/-- The number of days of a month. -/
def daysOf (year month : Nat) : Nat :=
  if month == 2 then
    if year % 4 == 0 && (year % 100 != 0 || year % 400 == 0) then 29 else 28
  else if month == 4 || month == 6 || month == 9 || month == 11 then 30
  else 31

/-- The text behind a date. -/
def date? (cs : List Char) : Option (List Char) := do
  let (year, rest) ← digits? 4 0 9999 cs
  let (month, rest) ← digits? 2 1 12 (← behind? '-' rest)
  let (_, rest) ← digits? 2 1 (daysOf year month) (← behind? '-' rest)
  return rest

/-- The text behind a time of day. -/
def time? (cs : List Char) : Option (List Char) := do
  let (_, rest) ← digits? 2 0 23 cs
  let (_, rest) ← digits? 2 0 59 (← behind? ':' rest)
  let (_, rest) ← digits? 2 0 60 (← behind? ':' rest)
  match rest with
  | '.' :: fraction =>
    if (fraction.takeWhile Char.isDigit).isEmpty then none
    else return fraction.dropWhile Char.isDigit
  | _ => return rest

/-- The text behind the distance from universal time. -/
def offset? : List Char → Option (List Char)
  | 'Z' :: rest | 'z' :: rest => some rest
  | '+' :: rest | '-' :: rest => do
    let (_, rest) ← digits? 2 0 23 rest
    let (_, rest) ← digits? 2 0 59 (← behind? ':' rest)
    return rest
  | _ => none

/-- Whether a text is a time of day with or without its distance from universal time. -/
def isZonedTime (cs : List Char) : Bool :=
  match time? cs with
  | none => false
  | some [] => true
  | some rest => offset? rest == some []

/-- A date, a time, or both. -/
def moment? (cs : List Char) : Option Document :=
  let isMoment :=
    match date? cs with
    | some [] => true
    | some ('T' :: rest) | some ('t' :: rest) | some (' ' :: rest) => isZonedTime rest
    | some _ => false
    | none => time? cs == some []
  if isMoment then some (.moment (.ofList cs)) else none

/-- A character of a scalar without quotes. -/
def isScalar (c : Char) : Bool :=
  c.isAlphanum || c == '_' || c == '+' || c == '-' || c == '.' || c == ':'

/-- The scalar without quotes in front of a text, and the rest. -/
def scalarRun (cs : List Char) : List Char × List Char :=
  let run := cs.takeWhile isScalar
  let rest := cs.dropWhile isScalar
  match rest with
  | ' ' :: c :: more =>
    if date? run == some [] && c.isDigit then
      (run ++ ' ' :: (c :: more).takeWhile isScalar, (c :: more).dropWhile isScalar)
    else (run, rest)
  | _ => (run, rest)

/-- Reads a scalar without quotes. -/
def scalar : Reader Document := fun cs =>
  let (run, rest) := scalarRun cs
  match (moment? run).or ((real? run).or ((integer? run).or (word? run))) with
  | some value => .ok (value, rest)
  | none => fail cs

example : (integer? "1_000".toList).isSome = true := by decide
example : (integer? "01".toList).isSome = false := by decide
example : (integer? "9223372036854775808".toList).isSome = false := by decide
example : (moment? "1979-05-27 07:32:00Z".toList).isSome = true := by decide
example : (moment? "1979-02-29".toList).isSome = false := by decide

end VulkanGen.Toml
