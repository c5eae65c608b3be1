import TypedResources.Text.Split
import TypedResources.Yaml.Timestamp

-- The tags of nodes, and the tag that a plain text has by its looks: `yes` is a boolean, `0x1F` an
-- integer, `1:30` an integer in base sixty, and what looks like nothing else is a string.

namespace TypedResources.Yaml

inductive Tag
  | null
  | boolean
  | integer
  | float
  | binary
  | timestamp
  | orderedMap
  | pairs
  | set
  | string
  | sequence
  | mapping
  | merge
  | value
  | unknown
deriving DecidableEq

namespace Tag

def standardPrefix : List Char :=
  "tag:yaml.org,2002:".toList

def standardNames : List (String × Tag) :=
  [("null", null), ("bool", boolean), ("int", integer), ("float", float), ("binary", binary),
   ("timestamp", timestamp), ("omap", orderedMap), ("pairs", pairs), ("set", set), ("str", string),
   ("seq", sequence), ("map", mapping), ("merge", merge), ("value", value)]

def ofName (name : List Char) : Tag :=
  if standardPrefix.isPrefixOf name then
    (standardNames.lookup (String.ofList (name.drop standardPrefix.length))).getD unknown
  else unknown

def trueWords : List String :=
  ["yes", "true", "on"]

def falseWords : List String :=
  ["no", "false", "off"]

-- A word in lower case, with a capital, or in capitals.
def spellings (word : String) : List (List Char) :=
  let w := word.toList
  [w, w.take 1 |>.map Char.toUpper |>.append (w.drop 1), w.map Char.toUpper]

def isBoolean (s : List Char) : Bool :=
  ((trueWords ++ falseWords).flatMap spellings).contains s

def isNull (s : List Char) : Bool :=
  s = [] || s = ['~'] || (spellings "null").contains s

def isDigitOrLow (c : Char) : Bool :=
  c.isDigit || c = '_'

def dropSign : List Char → List Char
  | '-' :: t => t
  | '+' :: t => t
  | s        => s

-- Digits with low lines between, that begin with a digit.
def isDigits : List Char → Bool
  | []     => false
  | c :: t => c.isDigit && t.all isDigitOrLow

-- A digit of base sixty: at most two decimal digits, the first of two below six.
def isSixtieth : List Char → Bool
  | [c]    => c.isDigit
  | [c, d] => '0' ≤ c && c ≤ '5' && d.isDigit
  | _      => false

-- Digits, then at least one more place of base sixty behind a colon.
def isSexagesimal (s : List Char) : Bool :=
  match Text.splitAll (· = ':') s with
  | first :: second :: rest => isDigits first && (second :: rest).all isSixtieth
  | _                       => false

def isInteger (s : List Char) : Bool :=
  match dropSign s with
  | ['0']           => true
  | '0' :: 'b' :: t => t ≠ [] && t.all fun c => c = '0' || c = '1' || c = '_'
  | '0' :: 'x' :: t => t ≠ [] && t.all fun c =>
      isDigitOrLow c || ('a' ≤ c && c ≤ 'f') || ('A' ≤ c && c ≤ 'F')
  | '0' :: t        => t.all fun c => ('0' ≤ c && c ≤ '7') || c = '_'
  | s               => isDigits s || isSexagesimal s

-- A signed exponent, or nothing.
def isExponent : List Char → Bool
  | []          => true
  | c :: d :: t => (c = 'e' || c = 'E') && (d = '-' || d = '+') && t ≠ [] && t.all Char.isDigit
  | _           => false

def isFloat (s : List Char) : Bool :=
  let body  := dropSign s
  let whole := body.takeWhile (· ≠ '.')
  match body.drop whole.length with
  | []       => false
  | _ :: t   =>
    let exponent := t.dropWhile isDigitOrLow
    if whole = [] then
      (t.head?.map Char.isDigit).getD false && isExponent exponent && body = s ||
      (spellings "inf").contains t ||
      ["nan", "NaN", "NAN"].contains (String.ofList t) && body = s
    else
      isDigits whole && isExponent exponent || isSexagesimal whole && exponent = []

-- The tag of a plain text. A line feed at its end does not change its looks.
def ofPlain (text : List Char) : Tag :=
  let s := if text.getLast? = some '\n' && 1 < text.length then text.dropLast else text
  if isBoolean s then boolean
  else if isFloat s then float
  else if isInteger s then integer
  else if s = ['<', '<'] then merge
  else if isNull s then null
  else if Timestamp.isImplicit s then timestamp
  else if s = ['='] then value
  else if s = ['!'] || s = ['&'] || s = ['*'] then unknown
  else string

end Tag

end TypedResources.Yaml
