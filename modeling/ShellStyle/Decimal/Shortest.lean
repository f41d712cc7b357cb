import ShellStyle.Decimal.Binary64

/-!
# The shortest decimal of a number

A finite number is written with the fewest decimal digits that read back as it, and of those with
the nearest. Numbers from `0.0001` up to `10 ^ 16` are written positionally with at least one place,
others with an exponent of at least two digits.
-/

namespace ShellStyle.Binary64

/-- Digits and the place of the decimal point: `digits` times `10 ^ power`. -/
structure Decimal where
  digits : Nat
  power : Int
  deriving DecidableEq, Repr

/-- The quotient times `4 * 10 ^ -power`, as two naturals. -/
def onGrid (num den : Nat) (power : Int) : Nat × Nat :=
  if 0 ≤ power then (num, den * Nat.pow 10 power.toNat)
  else (num * Nat.pow 10 (-power).toNat, den)

/-- The least `k` with `num / den < 10 ^ k`, found by going up from `k`. -/
def magnitudeFrom (num den : Nat) (k : Int) : Nat → Int
  | 0 => k
  | fuel + 1 =>
    let (n, d) := onGrid num den k
    if n < d then k else magnitudeFrom num den (k + 1) fuel

/-- The decimal on the grid of `power` that reads back as `mantissa * 2 ^ exponent`, if there is
one: a neighbour of the number within the interval of numbers that round to it, the nearer of
two. -/
def gridPoint? (mantissa : Nat) (exponent : Int) (power : Int) : Option Nat :=
  let halved := mantissa == leastNormal && leastExponent < exponent
  -- The number and the ends of its interval, in quarters of the last bit.
  let value := 4 * mantissa
  let low := if halved then value - 1 else value - 2
  let high := value + 2
  let (one, unit) :=
    if 0 ≤ exponent then (Nat.pow 2 exponent.toNat, 4)
    else (1, 4 * Nat.pow 2 (-exponent).toNat)
  let (scale, grid) := onGrid one unit power
  let below := value * scale / grid
  let hit := fun point : Nat =>
    let point := point * grid
    if mantissa % 2 = 0 then low * scale ≤ point && point ≤ high * scale
    else low * scale < point && point < high * scale
  let lowHit := hit below
  let highHit := hit (below + 1)
  if lowHit && highHit then
    let toLow := value * scale - below * grid
    let toHigh := (below + 1) * grid - value * scale
    if toLow < toHigh then some below
    else if toHigh < toLow then some (below + 1)
    else if below % 2 = 0 then some below else some (below + 1)
  else if lowHit then some below
  else if highHit then some (below + 1)
  else none

/-- The first grid, from coarse to fine, with a decimal that reads back. -/
def shortestFrom (mantissa : Nat) (exponent : Int) (power : Int) : Nat → Decimal
  | 0 => ⟨0, power⟩
  | fuel + 1 =>
    match gridPoint? mantissa exponent power with
    | some digits => ⟨digits, power⟩
    | none => shortestFrom mantissa exponent (power - 1) fuel

/-- The shortest decimal that reads back as the positive number `mantissa * 2 ^ exponent`. -/
def shortest (mantissa : Nat) (exponent : Int) : Decimal :=
  let (num, den) :=
    if 0 ≤ exponent then (mantissa * Nat.pow 2 exponent.toNat, 1)
    else (mantissa, Nat.pow 2 (-exponent).toNat)
  let magnitude := magnitudeFrom num den (-330) 700
  shortestFrom mantissa exponent (magnitude - 1) 18

/-- The digits of a natural without the zeros it ends with. -/
def significantDigits (n : Nat) : List Char :=
  ((Nat.toDigits 10 n).reverse.dropWhile (· == '0')).reverse

/-- Positive digits with the decimal point in front of digit number `point`. -/
def positional (digits : List Char) (point : Int) : List Char :=
  if point ≤ 0 then '0' :: '.' :: List.replicate (-point).toNat '0' ++ digits
  else
    let whole := digits.take point.toNat
    let fraction := digits.drop point.toNat
    whole ++ List.replicate (point.toNat - whole.length) '0' ++
      '.' :: (if fraction.isEmpty then ['0'] else fraction)

/-- Positive digits with one digit before the point and an exponent. -/
def scientific (digits : List Char) (point : Int) : List Char :=
  let power := point - 1
  let exponent := Nat.toDigits 10 power.natAbs
  let exponent := if exponent.length < 2 then '0' :: exponent else exponent
  digits.take 1 ++ (if digits.length ≤ 1 then [] else '.' :: digits.drop 1) ++
    'e' :: (if power < 0 then '-' else '+') :: exponent

/-- The text of a number. -/
def text : Binary64 → String
  | undefined => "nan"
  | infinite negative => if negative then "-inf" else "inf"
  | finite negative mantissa exponent =>
    let unsigned :=
      if mantissa = 0 then ['0', '.', '0']
      else
        let decimal := shortest mantissa exponent
        let digits := significantDigits decimal.digits
        let point := decimal.power + digitCount decimal.digits
        if -4 < point ∧ point ≤ 16 then positional digits point else scientific digits point
    String.ofList (if negative then '-' :: unsigned else unsigned)

end ShellStyle.Binary64
