import TypedResources.Number.Numeral

-- Reading JSON. Beyond the standard the words `NaN`, `Infinity` and `-Infinity` are numbers, and an
-- object may name a key more than once.

namespace TypedResources.Json

inductive Value
  | null
  | boolean (b : Bool)
  | integer (n : Int)
  | float (x : Binary64)
  | text (s : String)
  | array (items : List Value)
  | object (entries : List (String × Value))

inductive Fault
  | malformed
  | number (fault : Numeral.Fault)
deriving DecidableEq

-- What was read, and what follows it.
abbrev Scanned (α : Type) := α × List Char

def isSpace (c : Char) : Bool :=
  c = ' ' || c = '\t' || c = '\n' || c = '\r'

def skipSpace (s : List Char) : List Char :=
  s.dropWhile isSpace

def escapes : List (Char × Char) :=
  [('"', '"'), ('\\', '\\'), ('/', '/'), ('b', '\x08'), ('f', '\x0c'), ('n', '\n'), ('r', '\r'), ('t', '\t')]

-- The code of four hexadecimal digits.
def hex4? (s : List Char) : Option Nat :=
  let digits := s.take 4
  if digits.length = 4 && digits.all fun c => c.toNat < 128 && Numeral.isDigitOf 16 c then
    some (Numeral.valueOf 16 digits)
  else none

-- The code in a second escape right behind the first, if it ends a surrogate pair.
def lowSurrogate? : List Char → Option Nat
  | '\\' :: 'u' :: t => (hex4? t).filter fun n => 0xDC00 ≤ n && n ≤ 0xDFFF
  | _                => none

def charOf (n : Nat) : Char :=
  if n.isValidChar then Char.ofNat n else '\uFFFD'

-- What an escape stands for, from behind its backslash on, and the number of characters it takes.
-- Half of a surrogate pair is no character, so the replacement character stands for it.
def escape? (s : List Char) : Option (Char × Nat) :=
  match s with
  | 'u' :: t => (hex4? t).map fun n =>
    match if 0xD800 ≤ n && n ≤ 0xDBFF then lowSurrogate? (t.drop 4) else none with
    | some low => (Char.ofNat (0x10000 + (n - 0xD800) * 0x400 + (low - 0xDC00)), 11)
    | none     => (charOf n, 5)
  | c :: _   => (escapes.lookup c).map (·, 1)
  | []       => none

-- A text from behind its opening quote on. `skip` characters belong to an escape that is read.
def scanText : Nat → List Char → Except Fault (Scanned (List Char))
  | _,        []     => .error .malformed
  | skip + 1, _ :: t => scanText skip t
  | 0,        c :: t =>
    if c = '"' then .ok ([], t)
    else if c.toNat < 0x20 then .error .malformed
    else if c = '\\' then
      match escape? t with
      | some (d, width) => (scanText width t).map fun (s, rest) => (d :: s, rest)
      | none            => .error .malformed
    else (scanText 0 t).map fun (s, rest) => (c :: s, rest)

-- The digits, the fraction and the exponent that begin a text. A point or an exponent mark
-- without a digit behind it is not part of the number.
def scanNumber (isNegative : Bool) (s : List Char) : Except Fault (Scanned Value) :=
  let whole := if s.head? = some '0' then ['0'] else s.takeWhile Char.isDigit
  let rest  := s.drop whole.length
  let fraction := match rest with
    | '.' :: t => t.takeWhile Char.isDigit
    | _        => []
  let rest := if fraction = [] then rest else rest.drop (fraction.length + 1)
  let (exponent, rest) := match rest with
    | c :: t =>
      let (isNegative, u) := Numeral.sign t
      let digits := u.takeWhile Char.isDigit
      if (c = 'e' || c = 'E') && digits ≠ [] then
        (some (Numeral.signed isNegative (Numeral.valueOf 10 digits)), u.drop digits.length)
      else (none, rest)
    | []     => (none, rest)
  if whole = [] then .error .malformed
  else if fraction = [] && exponent = none then
    match Numeral.readInteger 10 whole with
    | .ok n    => .ok (.integer (if isNegative then -n else n), rest)
    | .error f => .error (.number f)
  else
    let x := Binary64.ofDecimal (Numeral.valueOf 10 (whole ++ fraction)) (exponent.getD 0 - fraction.length)
    .ok (.float (if isNegative then -x else x), rest)

def words : List (List Char × Value) :=
  [("null".toList, .null), ("true".toList, .boolean true), ("false".toList, .boolean false),
   ("NaN".toList, .float .nan), ("Infinity".toList, .float (.infinite false)),
   ("-Infinity".toList, .float (.infinite true))]

def scanScalar (s : List Char) : Except Fault (Scanned Value) :=
  match words.find? fun (word, _) => word.isPrefixOf s with
  | some (word, v) => .ok (v, s.drop word.length)
  | none           =>
    match s with
    | '-' :: t => scanNumber true t
    | _        => scanNumber false s

-- The items of an array or of an object, from the first one on. `item` reads one.
def scanItems {α : Type} (close : Char) (item : List Char → Except Fault (Scanned α)) :
    Nat → List Char → Except Fault (Scanned (List α))
  | 0,        _ => .error .malformed
  | fuel + 1, s => do
    let (a, s) ← item s
    match skipSpace s with
    | ',' :: t =>
      let (as, s) ← scanItems close item fuel (skipSpace t)
      return (a :: as, s)
    | c :: t   => if c = close then return ([a], t) else throw .malformed
    | []       => throw .malformed

def scanEntry (value : List Char → Except Fault (Scanned Value)) (s : List Char) :
    Except Fault (Scanned (String × Value)) := do
  match s with
  | '"' :: t =>
    let (key, s) ← scanText 0 t
    match skipSpace s with
    | ':' :: t =>
      let (v, s) ← value (skipSpace t)
      return ((String.ofList key, v), s)
    | _ => throw .malformed
  | _ => throw .malformed

-- A value at the beginning of a text; `fuel` bounds the nesting.
def scanValue : Nat → List Char → Except Fault (Scanned Value)
  | 0,        _ => .error .malformed
  | fuel + 1, s => do
    match s with
    | '"' :: t =>
      let (text, s) ← scanText 0 t
      return (.text (String.ofList text), s)
    | '[' :: t =>
      match skipSpace t with
      | ']' :: s => return (.array [], s)
      | t        =>
        let (items, s) ← scanItems ']' (scanValue fuel) (t.length + 1) t
        return (.array items, s)
    | '{' :: t =>
      match skipSpace t with
      | '}' :: s => return (.object [], s)
      | t        =>
        let (entries, s) ← scanItems '}' (scanEntry (scanValue fuel)) (t.length + 1) t
        return (.object entries, s)
    | _ => scanScalar s

-- The value that a text consists of, white space around it apart.
def read (text : List Char) : Except Fault Value := do
  let (v, rest) ← scanValue (text.length + 1) (skipSpace text)
  if skipSpace rest = [] then return v else throw .malformed

-- The value under a key of an object; of several the last one.
def Value.get? (key : String) : Value → Option Value
  | object entries => entries.reverse.lookup key
  | _              => none

end TypedResources.Json
