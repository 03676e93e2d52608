import DirectoryLogin.Text.Digit
/-!
# Binary Floating-Point Numbers

Numbers with a 53-bit mantissa, as timeouts in seconds and fractions in loosely typed data have them. A number
is kept as an exact dyadic fraction, so rounding and printing are arithmetic on natural numbers.

- `ofRatio?` rounds a quotient to the nearest such number, a half to the even neighbour.
- `toText` writes the fewest digits that read back as the same number.
-/

namespace DirectoryLogin

/-- The number `mantissa · 2 ^ exponent`, negated if `negative`. The mantissa has at most 53 bits. -/
structure Binary64 where
  /-- The sign; zero may have one. -/
  negative : Bool
  /-- The digits, as a whole number. -/
  mantissa : Nat
  /-- The power of two that the mantissa is scaled by. -/
  exponent : Int
deriving DecidableEq, Repr

namespace Binary64

/-! ## §1 Rounding -/

/-- A power of two. -/
def twoTo (n : Nat) : Nat :=
  Nat.pow 2 n

/-- A power of ten. -/
def tenTo (n : Nat) : Nat :=
  Nat.pow 10 n

/-- The quotient of two numbers to the nearest whole number, a half to the even one. -/
def roundQuotient (num den : Nat) : Nat :=
  let q := num / den
  let twice := 2 * (num % den)
  if twice < den then q else if twice > den then q + 1 else q + q % 2

/-- The mantissa of `num / den` at a given exponent. -/
def mantissaAt (num den : Nat) (exponent : Int) : Nat :=
  if exponent < 0 then roundQuotient (num * twoTo (-exponent).toNat) den
  else roundQuotient num (den * twoTo exponent.toNat)

/-- The least exponent, below the normal range, that a number may have. -/
def leastExponent : Int := -1074

/-- The greatest exponent of a 53-bit mantissa. -/
def greatestExponent : Int := 971

/-- The exponent at which `num / den` has 53 bits before the point, or the least one. -/
def exponentOf (num den : Nat) : Int :=
  let guess : Int := (num.log2 : Int) - (den.log2 : Int) - 52
  let below := if guess < 0 then num * twoTo (-guess).toNat < den * twoTo 52 else num < den * twoTo (52 + guess.toNat)
  max leastExponent (if below then guess - 1 else guess)

/-- The number nearest to `num / den`; absent if it lies beyond the greatest one. -/
def ofRatio? (num den : Nat) : Option Binary64 :=
  if num == 0 then some ⟨false, 0, 0⟩
  else
    let e := exponentOf num den
    let m := mantissaAt num den e
    -- rounding up may carry into one more bit
    let (m, e) := if m == twoTo 53 then (twoTo 52, e + 1) else (m, e)
    if e > greatestExponent then none else some ⟨false, m, e⟩

/-- The number written as `digits · 10 ^ power`. -/
def ofDecimal? (negative : Bool) (digits : Nat) (power : Int) : Option Binary64 :=
  let value :=
    if power < 0 then ofRatio? digits (tenTo (-power).toNat) else ofRatio? (digits * tenTo power.toNat) 1
  value.map fun x => { x with negative := negative }

/-- A number divided by a whole number. -/
def divNat? (x : Binary64) (d : Nat) : Option Binary64 :=
  let value :=
    if x.exponent < 0 then ofRatio? x.mantissa (d * twoTo (-x.exponent).toNat)
    else ofRatio? (x.mantissa * twoTo x.exponent.toNat) d
  value.map fun y => { y with negative := x.negative }

/-! ## §2 Whole numbers -/

/-- The whole number nearest to zero that the number reaches. -/
def truncate (x : Binary64) : Int :=
  let size :=
    if x.exponent < 0 then x.mantissa / twoTo (-x.exponent).toNat else x.mantissa * twoTo x.exponent.toNat
  if x.negative then -(size : Int) else size

/-- The number has no fraction. -/
def isWhole (x : Binary64) : Bool :=
  0 ≤ x.exponent || x.mantissa % twoTo (-x.exponent).toNat == 0

/-- The whole number that it is. -/
def toInt? (x : Binary64) : Option Int :=
  if x.isWhole then some x.truncate else none

/-! ## §3 Shortest digits -/

/-- The number of decimal digits of a whole number. -/
def digitCount (n : Nat) : Nat :=
  (Nat.toDigits 10 n).length

/-- Numerator and denominator of the size of a number. -/
def ratio (x : Binary64) : Nat × Nat :=
  if x.exponent < 0 then (x.mantissa, twoTo (-x.exponent).toNat) else (x.mantissa * twoTo x.exponent.toNat, 1)

/-- The number that `digits · 10 ^ power` reads back as has this mantissa and exponent. -/
def readsBack (x : Binary64) (digits : Nat) (power : Int) : Bool :=
  ofDecimal? x.negative digits power == some x

/-- A power of ten as a quotient. -/
def powerOfTen (power : Int) : Nat × Nat :=
  if power < 0 then (1, tenTo (-power).toNat) else (tenTo power.toNat, 1)

/-- The decimal power of the leading digit of a quotient. -/
def leadingPower (num den : Nat) : Int :=
  let guess : Int := (digitCount num : Int) - digitCount den
  let (p, q) := powerOfTen guess
  if num * q < den * p then guess - 1 else guess

/-- Of the two neighbours on a decimal grid the one that reads back, the nearer one if both do. -/
def onGrid? (x : Binary64) (power : Int) : Option (Nat × Int) :=
  let (num, den) := x.ratio
  let (p, q) := powerOfTen power
  let above := num * q
  let unit := den * p
  let low := above / unit
  let nearest := roundQuotient above unit
  let other := if nearest == low then low + 1 else low
  if x.readsBack nearest power then some (nearest, power)
  else if x.readsBack other power then some (other, power)
  else none

/-- The first grid that holds a decimal that reads back, from `digits` significant digits on. -/
def shortestFrom (x : Binary64) (lead : Int) : Nat → Nat → Nat × Int
  | _, 0 => (x.mantissa, 0)
  | digits, tries + 1 =>
    match x.onGrid? (lead - digits + 1) with
    | some found => found
    | none => shortestFrom x lead (digits + 1) tries

/-- Drop the zeros at the end of a decimal. -/
def dropZeros : Nat → Nat → Int → Nat × Int
  | 0, digits, power => (digits, power)
  | steps + 1, digits, power =>
    if digits % 10 == 0 && digits != 0 then dropZeros steps (digits / 10) (power + 1) else (digits, power)

/-- The digits and the power of ten of the shortest decimal that reads back as the number. -/
def shortest (x : Binary64) : Nat × Int :=
  if x.mantissa == 0 then (0, 0)
  else
    let (num, den) := x.ratio
    let (digits, power) := x.shortestFrom (leadingPower num den) 1 17
    dropZeros (digitCount digits) digits power

/-! ## §4 Text -/

/-- Digits with a point after `whole` of them, with at least one digit on each side. -/
def positional (digits : List Char) (point : Int) : List Char :=
  if point ≤ 0 then '0' :: '.' :: (List.replicate (-point).toNat '0' ++ digits)
  else
    let whole := digits.take point.toNat
    let fraction := digits.drop point.toNat
    whole ++ List.replicate (point.toNat - digits.length) '0' ++ '.' :: (if fraction.isEmpty then ['0'] else fraction)

/-- Digits as one digit, a fraction and a power of ten. -/
def scientific (digits : List Char) (power : Int) : List Char :=
  let head := digits.take 1 ++ (if digits.length ≤ 1 then [] else '.' :: digits.drop 1)
  let size := Nat.toDigits 10 power.natAbs
  head ++ 'e' :: (if power < 0 then '-' else '+') :: ((if size.length < 2 then ['0'] else []) ++ size)

/-- The text of a number: positional from `0.0001` to below `10 ^ 16`, with a power of ten beyond. -/
def toText (x : Binary64) : String :=
  let (digits, power) := x.shortest
  let ds := Nat.toDigits 10 digits
  let point : Int := ds.length + power
  let body := if -4 < point ∧ point ≤ 16 then positional ds point else scientific ds (point - 1)
  String.ofList ((if x.negative then ['-'] else []) ++ body)

end Binary64

end DirectoryLogin
