-- Floating-point numbers with 53 significant bits. A finite number is a sign and a count of the
-- smallest unit, 2 to the power -1074, so that sums and products can be formed exactly and then
-- rounded once, to the nearest number and from halfway to the even one.

namespace TypedResources

inductive Binary64
  | nan
  | infinite (isNegative : Bool)
  | finite (isNegative : Bool) (units : Nat)
deriving DecidableEq

namespace Binary64

-- How many smallest units make one.
def unitsPerOne : Nat :=
  Nat.pow 2 1074

-- The least count of units that is out of range.
def limit : Nat :=
  Nat.pow 2 2098

-- Numbers of this many units are this many units apart.
def spacing (units : Nat) : Nat :=
  Nat.pow 2 (units.log2 - 52)

def zero : Binary64 :=
  finite false 0

def negate : Binary64 → Binary64
  | nan          => nan
  | infinite s   => infinite !s
  | finite s u   => finite (!s) u

-- The integer nearest to a quotient; of two that are equally near, the even one.
def nearest (num den : Nat) : Nat :=
  let q := num / den
  let r := num % den
  if den < 2 * r || (2 * r = den && q % 2 = 1) then q + 1 else q

-- The number nearest to `num / den` units.
def roundUnits (isNegative : Bool) (num den : Nat) : Binary64 :=
  let step  := spacing (num / den)
  let units := nearest num (den * step) * step
  if limit ≤ units then infinite isNegative else finite isNegative units

def ofNat (n : Nat) : Binary64 :=
  roundUnits false (n * unitsPerOne) 1

-- The number nearest to `digits` times 10 to the power `exponent`. Exponents far out of range are
-- told by the number of digits.
def ofDecimal (digits : Nat) (exponent : Int) : Binary64 :=
  let magnitude := exponent + (Nat.toDigits 10 digits).length
  if digits = 0 || magnitude < -330 then zero
  else if 330 < magnitude then infinite false
  else if 0 ≤ exponent then roundUnits false (digits * Nat.pow 10 exponent.toNat * unitsPerOne) 1
  else roundUnits false (digits * unitsPerOne) (Nat.pow 10 (-exponent).toNat)

def signedUnits (isNegative : Bool) (units : Nat) : Int :=
  if isNegative then -units else units

def add : Binary64 → Binary64 → Binary64
  | nan,        _          => nan
  | _,          nan        => nan
  | infinite s, infinite t => if s = t then infinite s else nan
  | infinite s, _          => infinite s
  | _,          infinite t => infinite t
  | finite s u, finite t v =>
    let sum := signedUnits s u + signedUnits t v
    if sum = 0 then finite (s && t) 0 else roundUnits (sum < 0) sum.natAbs 1

def mul : Binary64 → Binary64 → Binary64
  | nan,        _          => nan
  | _,          nan        => nan
  | infinite s, infinite t => infinite (s != t)
  | infinite s, finite t v => if v = 0 then nan else infinite (s != t)
  | finite s u, infinite t => if u = 0 then nan else infinite (s != t)
  | finite s u, finite t v => roundUnits (s != t) (u * v) unitsPerOne

instance : Add Binary64 := ⟨add⟩
instance : Mul Binary64 := ⟨mul⟩
instance : Neg Binary64 := ⟨negate⟩

end Binary64

end TypedResources
