/-!
# Double-precision numbers

A finite number is a natural mantissa times a power of two, with its sign apart, so zero has two
signs. A decimal is read as the nearest such number, a tie going to the even mantissa.
-/

namespace ShellStyle

/-- A number of 53 significant bits, an infinity, or no number. -/
inductive Binary64 where
  | finite (negative : Bool) (mantissa : Nat) (exponent : Int)
  | infinite (negative : Bool)
  | undefined
  deriving DecidableEq, Repr

namespace Binary64

/-- The quotient rounded to the nearest natural, a tie going to the even one. -/
def roundedQuotient (num den : Nat) : Nat :=
  let q := num / den
  let twice := 2 * (num % den)
  if twice < den then q
  else if den < twice then q + 1
  else if q % 2 = 0 then q else q + 1

/-- The quotient of two naturals over a power of two, as two naturals. -/
def scaled (num den : Nat) (exponent : Int) : Nat × Nat :=
  if 0 ≤ exponent then (num, den * Nat.pow 2 exponent.toNat)
  else (num * Nat.pow 2 (-exponent).toNat, den)

/-- The least exponent of a finite number. -/
def leastExponent : Int :=
  -1074

/-- The least mantissa with all its 53 bits. -/
def leastNormal : Nat :=
  0x10000000000000

/-- The greatest exponent of a finite number. -/
def greatestExponent : Int :=
  971

/-- The number nearest to the quotient of two naturals, the second of them positive. -/
def ofQuotient (negative : Bool) (num den : Nat) : Binary64 :=
  if num = 0 then finite negative 0 leastExponent
  else
    let guess : Int := (Nat.log2 num : Int) - (Nat.log2 den : Int) - 53
    let (n, d) := scaled num den guess
    let fitted := if n < d * (2 * leastNormal) then guess else guess + 1
    let exponent := if fitted < leastExponent then leastExponent else fitted
    let (n, d) := scaled num den exponent
    let mantissa := roundedQuotient n d
    let (mantissa, exponent) :=
      if mantissa = 2 * leastNormal then (leastNormal, exponent + 1) else (mantissa, exponent)
    if greatestExponent < exponent then infinite negative
    else finite negative mantissa exponent

/-- The number of decimal digits of a natural. -/
def digitCount (n : Nat) : Nat :=
  (Nat.toDigits 10 n).length

/-- The number nearest to `digits * 10 ^ power`. -/
def ofDecimal (negative : Bool) (digits : Nat) (power : Int) : Binary64 :=
  if digits = 0 then finite negative 0 leastExponent
  else
    let magnitude := power + digitCount digits
    if 310 < magnitude then infinite negative
    else if magnitude < -330 then finite negative 0 leastExponent
    else if 0 ≤ power then ofQuotient negative (digits * Nat.pow 10 power.toNat) 1
    else ofQuotient negative digits (Nat.pow 10 (-power).toNat)

/-- The number without its fraction; infinities and undefined numbers have none. -/
def truncate? : Binary64 → Option Int
  | finite negative mantissa exponent =>
    let magnitude :=
      if 0 ≤ exponent then mantissa * Nat.pow 2 exponent.toNat
      else mantissa / Nat.pow 2 (-exponent).toNat
    some (if negative then -(magnitude : Int) else magnitude)
  | infinite _ => none
  | undefined => none

/-- Whether the number is zero, of either sign. -/
def isZero : Binary64 → Bool
  | finite _ mantissa _ => mantissa == 0
  | infinite _ => false
  | undefined => false

end Binary64

end ShellStyle
