import TypedResources.Text.Case
import TypedResources.Text.Utf8
import TypedResources.Yaml.Fault
import TypedResources.Yaml.Tag

-- What the text of a scalar stands for under each tag.

namespace TypedResources.Yaml

-- A value as others see it. What is inside of a collection is looked up by its number.
inductive Value
  | null
  | boolean (b : Bool)
  | integer (n : Int)
  | float (x : Binary64)
  | text (s : Text.Points)
  | bytes (b : Bytes)
  | moment
  | list (items : List Nat)
  | pairs
  | set
  | mapping (entries : List (Nat × Nat))
deriving DecidableEq

-- Collections are no keys.
def Value.isKey : Value → Bool
  | list _    => false
  | pairs     => false
  | set       => false
  | mapping _ => false
  | _         => true

namespace Scalar

open Text (Points)

def withoutLow (text : Points) : Points :=
  text.filter (· ≠ .char '_')

def numeral {α : Type} : Except Numeral.Fault α → Except Fault α
  | .ok a    => .ok a
  | .error f => .error (.numeral f)

def boolean (text : Points) : Except Fault Bool :=
  let word := text.lower
  if (Tag.trueWords.map Points.ofString).contains word then .ok true
  else if (Tag.falseWords.map Points.ofString).contains word then .ok false
  else .error (.boolean word)

-- The places of a number in base sixty make up a sum, the last place counting once.
def sexagesimal {α : Type} [Add α] [Mul α] (zero : α) (ofNat : Nat → α) (places : List α) : α :=
  (places.reverse.zipIdx).foldl (fun sum (d, i) => sum + d * ofNat (Nat.pow 60 i)) zero

def places (text : Points) : List Points :=
  Text.splitAll (· = .char ':') text

-- Whether a sign says minus, and what follows the sign.
def sign : Points → Bool × Points
  | .char '-' :: t => (true, t)
  | .char '+' :: t => (false, t)
  | s              => (false, s)

def readInteger (base : Nat) (text : Points) : Except Fault Int :=
  numeral (Numeral.ofPoints (Numeral.readInteger base) text)

def readDecimal (text : Points) : Except Fault Binary64 :=
  numeral (Numeral.ofPoints Numeral.readDecimal text)

-- Low lines do not count. A leading zero makes a number octal.
def integer (text : Points) : Except Fault Int := do
  let text := withoutLow text
  if text = [] then numeral (.error .empty)
  let (isNegative, body) := sign text
  let n ← match body with
    | []                          => numeral (.error .empty)
    | [.char '0']                 => pure 0
    | .char '0' :: .char 'b' :: t => readInteger 2 t
    | .char '0' :: .char 'x' :: t => readInteger 16 t
    | .char '0' :: _              => readInteger 8 body
    | _                           =>
      if body.contains (.char ':') then do
        let ns ← (places body).mapM (readInteger 10)
        pure (sexagesimal 0 Int.ofNat ns)
      else readInteger 10 body
  return if isNegative then -n else n

def float (text : Points) : Except Fault Binary64 := do
  let text := (withoutLow text).lower
  if text = [] then numeral (.error .empty)
  let (isNegative, body) := sign text
  let x ←
    if body = Points.ofString ".inf" then pure (.infinite false)
    else if body = Points.ofString ".nan" then pure .nan
    else if body.contains (.char ':') then do
      let xs ← (places body).mapM readDecimal
      if Binary64.ofNat (Nat.pow 60 (xs.length - 1)) = .infinite false then numeral (.error .outOfRange)
      pure (sexagesimal Binary64.zero Binary64.ofNat xs)
    else readDecimal body
  return if isNegative then -x else x

def sextet? (c : Char) : Option Nat :=
  if 'A' ≤ c && c ≤ 'Z' then some (c.toNat - 'A'.toNat)
  else if 'a' ≤ c && c ≤ 'z' then some (c.toNat - 'a'.toNat + 26)
  else if '0' ≤ c && c ≤ '9' then some (c.toNat - '0'.toNat + 52)
  else if c = '+' then some 62
  else if c = '/' then some 63
  else none

-- The bytes of a text in base 64; characters outside of the alphabet do not count. `place` is the
-- number of sextets since the last whole group, `held` the bits of the last one that are not yet in
-- a byte, and `pads` the number of padding signs in a row. Nothing if a group is left unfinished.
def base64? (place held pads : Nat) : List Char → Option Bytes
  | []     => if place = 0 then some [] else none
  | c :: t =>
    if c = '=' then
      if 2 ≤ place && 4 ≤ place + pads + 1 then some []
      else base64? place held (if 2 ≤ place then pads + 1 else pads) t
    else match sextet? c, place with
      | none,   _ => base64? place held pads t
      | some n, 0 => base64? 1 n 0 t
      | some n, 1 => (base64? 2 (n % 16) 0 t).map ((held * 4 + n / 16).toUInt8 :: ·)
      | some n, 2 => (base64? 3 (n % 4) 0 t).map ((held * 16 + n / 4).toUInt8 :: ·)
      | some n, _ => (base64? 0 0 0 t).map ((held * 64 + n).toUInt8 :: ·)

def binary (text : Points) : Except Fault Bytes :=
  match (text.chars?.filter (·.all (·.toNat < 128))).bind (base64? 0 0 0) with
  | some b => .ok b
  | none   => .error .malformed

def timestamp (text : Points) : Except Fault Unit :=
  match text.chars?.bind Timestamp.ofText? with
  | none   => .error .timestamp
  | some t =>
    match t.fault? with
    | some f => .error (.calendar f)
    | none   => .ok ()

-- The value of a scalar; tags of collections and unknown ones have none.
def value (tag : Tag) (text : Points) : Except Fault Value :=
  match tag with
  | .null      => .ok .null
  | .boolean   => (boolean text).map .boolean
  | .integer   => (integer text).map .integer
  | .float     => (float text).map .float
  | .binary    => (binary text).map .bytes
  | .timestamp => (timestamp text).map fun _ => .moment
  | .string    => .ok (.text text)
  | _          => .error .malformed

end Scalar

end TypedResources.Yaml
