import TypedResources.Number.Binary64
import TypedResources.Text.Lines
import TypedResources.Text.Quoted

-- Reading numbers from texts. White space around a number does not count, and the decimal digits of
-- all scripts do.

namespace TypedResources

namespace Numeral

inductive Fault
  | notInteger (base : Nat) (text : Text.Points)
  | notDecimal (text : Text.Points)
  -- Nothing is left where a digit has to be.
  | empty
  -- A decimal integer has more digits than are read.
  | tooLong (digits : Nat)
  -- An integer has more digits than are written.
  | tooLarge
  -- An integer has no number of the floating kind near to it.
  | outOfRange
deriving DecidableEq

-- The greatest number of decimal digits that are read or written.
def digitLimit : Nat := 4300

-- The least number with more digits than that.
def integerLimit : Nat :=
  Nat.pow 10 digitLimit

-- Of a text that is no integer the first 200 characters are told, with the quote.
def Fault.message : Fault → String
  | notInteger base text =>
    "invalid literal for int() with base " ++ toString base ++ ": " ++ ((Text.quoted text).take 200).toString
  | notDecimal text => "could not convert string to float: " ++ Text.quoted text
  | empty => "string index out of range"
  | tooLong digits =>
    "Exceeds the limit (" ++ toString digitLimit ++ " digits) for integer string conversion: value has " ++
      toString digits ++ " digits; use sys.set_int_max_str_digits() to increase the limit"
  | tooLarge =>
    "Exceeds the limit (" ++ toString digitLimit ++ " digits) for integer string conversion; " ++
      "use sys.set_int_max_str_digits() to increase the limit"
  | outOfRange => "int too large to convert to float"

-- The value of a digit or of a letter that stands for one.
def digitValue? (c : Char) : Option Nat :=
  if 'a' ≤ c && c ≤ 'z' then some (c.toNat - 'a'.toNat + 10)
  else if 'A' ≤ c && c ≤ 'Z' then some (c.toNat - 'A'.toNat + 10)
  else Text.decimalValue? c

def isDigitOf (base : Nat) (c : Char) : Bool :=
  match digitValue? c with
  | some d => d < base
  | none   => false

def valueOf (base : Nat) (digits : List Char) : Nat :=
  digits.foldl (fun n c => n * base + (digitValue? c).getD 0) 0

-- Whether a sign says minus, and what follows the sign.
def sign : List Char → Bool × List Char
  | '-' :: t => (true, t)
  | '+' :: t => (false, t)
  | s        => (false, s)

def baseMark? (base : Nat) : Option Char :=
  if base = 2 then some 'b' else if base = 8 then some 'o' else if base = 16 then some 'x' else none

-- Drops the mark that names the base, if it is there.
def dropBaseMark (base : Nat) : List Char → List Char
  | '0' :: c :: t => if some c.toLower = baseMark? base then t else '0' :: c :: t
  | s             => s

def signed (isNegative : Bool) (n : Nat) : Int :=
  if isNegative then -n else n

def readInteger (base : Nat) (text : List Char) : Except Fault Int :=
  let (isNegative, body) := sign (Text.trim text)
  let body   := dropBaseMark base body
  let digits := body.takeWhile (isDigitOf base)
  if baseMark? base = none && digitLimit < digits.length then .error (.tooLong digits.length)
  else if digits = [] || digits.length < body.length then
    .error (.notInteger base (Text.Points.ofChars text))
  else .ok (signed isNegative (valueOf base digits))

def isZeroToNine (c : Char) : Bool :=
  isDigitOf 10 c

-- The exponent that ends a number; nothing if the text is no exponent.
def exponent? : List Char → Option Int
  | []     => some 0
  | c :: t =>
    let (isNegative, digits) := sign t
    if (c = 'e' || c = 'E') && digits ≠ [] && digits.all isZeroToNine then
      some (signed isNegative (valueOf 10 digits))
    else none

-- Digits with a point anywhere or nowhere among them, and perhaps an exponent.
def magnitude? (text : List Char) : Option Binary64 :=
  let whole := text.takeWhile isZeroToNine
  let rest  := text.drop whole.length
  let fraction := if rest.head? = some '.' then rest.tail.takeWhile isZeroToNine else []
  let rest  := if rest.head? = some '.' then rest.tail.drop fraction.length else rest
  if whole = [] && fraction = [] then none
  else (exponent? rest).map fun e =>
    Binary64.ofDecimal (valueOf 10 (whole ++ fraction)) (e - fraction.length)

def readDecimal (text : List Char) : Except Fault Binary64 :=
  let (isNegative, body) := sign (Text.trim text)
  let word  := String.ofList (body.map Char.toLower)
  let value := if word = "inf" || word = "infinity" then some (Binary64.infinite false)
    else if word = "nan" then some Binary64.nan
    else magnitude? body
  match value with
  | some x => .ok (if isNegative then -x else x)
  | none   => .error (.notDecimal (Text.Points.ofChars text))

-- The fault of a text in which each half was taken for a character that is in no number.
def Fault.retold (text : Text.Points) : Fault → Fault
  | notInteger base _ => notInteger base text
  | notDecimal _      => notDecimal text
  | f                 => f

def ofPoints {α : Type} (read : List Char → Except Fault α) (text : Text.Points) : Except Fault α :=
  (read (text.map Text.Point.toChar)).mapError (·.retold text)

def writeInteger (n : Int) : Except Fault String :=
  if integerLimit ≤ n.natAbs then .error .tooLarge else .ok (toString n)

end Numeral

end TypedResources
