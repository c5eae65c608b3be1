import TypedResources.Number.Binary64

-- The text of a floating-point number: the fewest decimal digits that read back as the number, and
-- of those the nearest. Very large and very small numbers are written with an exponent.

namespace TypedResources.Binary64

-- Decimal digits and the place of the point, counted from in front of the first digit.
structure Decimal where
  digits : List Char
  point  : Int
deriving DecidableEq

-- The place of the point in the decimal form of a number of units that is not zero.
def pointOf (units : Nat) : Int :=
  (Nat.toDigits 10 (units * Nat.pow 10 324 / unitsPerOne)).length - 324

-- Four times the bounds between which all reals round to a number of units.
def interval (units : Nat) : Nat × Nat :=
  let step := spacing units
  let isLowest := 1 < step && units = Nat.pow 2 52 * step
  (4 * units - (if isLowest then step else 2 * step), 4 * units + 2 * step)

-- A power of ten as a quotient.
def powerOfTen (e : Int) : Nat × Nat :=
  (Nat.pow 10 e.toNat, Nat.pow 10 (-e).toNat)

-- The decimals of `count` digits next to a number of units that round to it, the nearer one first.
def neighbours (units count : Nat) : List Nat :=
  let (num, den) := powerOfTen (pointOf units - count)
  -- A decimal `d` stands for `d * num / den`, which is compared in quarters of units.
  let scale   := 4 * num * unitsPerOne
  let floor   := 4 * units * den / scale
  let (lo, hi) := interval units
  let closed  := units / spacing units % 2 = 0
  let fits    := fun d : Nat =>
    let x := d * scale
    if closed then lo * den ≤ x && x ≤ hi * den else lo * den < x && x < hi * den
  let below := 4 * units * den - floor * scale
  let above := (floor + 1) * scale - 4 * units * den
  let isUpper := above < below || (above = below && floor % 2 = 1)
  (if isUpper then [floor + 1, floor] else [floor, floor + 1]).filter fits

-- Seventeen digits always suffice.
def shortest (units : Nat) : Decimal :=
  match (List.range 17).findSome? fun n => (neighbours units (n + 1)).head?.map (n + 1, ·) with
  | none            => ⟨['0'], 1⟩
  | some (count, d) =>
    let digits := Nat.toDigits 10 d
    ⟨(digits.reverse.dropWhile (· = '0')).reverse, pointOf units + digits.length - count⟩

-- Numbers from a ten-thousandth up to below ten to the sixteenth are written without an exponent.
def Decimal.isPlain (d : Decimal) : Bool :=
  -4 < d.point && d.point ≤ 16

def Decimal.toPlain (d : Decimal) : List Char :=
  let size := d.digits.length
  if d.point ≤ 0 then '0' :: '.' :: List.replicate (-d.point).toNat '0' ++ d.digits
  else if size ≤ d.point then d.digits ++ List.replicate (d.point.toNat - size) '0' ++ ['.', '0']
  else d.digits.take d.point.toNat ++ '.' :: d.digits.drop d.point.toNat

-- The exponent has a sign and at least two digits.
def Decimal.toScientific (d : Decimal) : List Char :=
  let fraction := if d.digits.length ≤ 1 then [] else '.' :: d.digits.drop 1
  let e        := d.point - 1
  let exponent := Nat.toDigits 10 e.natAbs
  d.digits.take 1 ++ fraction ++ ['e', if e < 0 then '-' else '+'] ++
    List.replicate (2 - exponent.length) '0' ++ exponent

def toText : Binary64 → List Char
  | nan          => ['n', 'a', 'n']
  | infinite s   => sign s ++ ['i', 'n', 'f']
  | finite s 0   => sign s ++ ['0', '.', '0']
  | finite s u   =>
    let d := shortest u
    sign s ++ if d.isPlain then d.toPlain else d.toScientific
where
  sign (isNegative : Bool) : List Char :=
    if isNegative then ['-'] else []

end TypedResources.Binary64
