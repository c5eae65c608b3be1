import TypedResources.Text.Split
import TypedResources.Xml.CharsetTable

-- Encodings beyond the standard ones of XML, under the names that a declaration may use.

namespace TypedResources.Xml

-- The character that a byte stands for.
def PageRun.char? (runs : List PageRun) (byte : Nat) : Option Char :=
  (runs.find? fun r => r.first ≤ byte && byte < r.first + r.count).map fun r =>
    Char.ofNat (r.code + (byte - r.first))

def isNameMark (c : Char) : Bool :=
  c.isAlphanum || c = '.'

-- The name in lower case, with one low line for each stretch of other marks inside of it.
def plainName (name : List Char) : String :=
  let parts := (Text.splitAll (!isNameMark ·) name).filter (· ≠ [])
  String.ofList (List.intercalate ['_'] (parts.map (·.map Char.toLower)))

-- Only for an alias may a dot stand where it has a low line.
def codec? (name : List Char) : Option Codec :=
  let plain := plainName name
  let undotted := String.ofList (plain.toList.map fun c => if c = '.' then '_' else c)
  codecs.find? (·.aliases.contains plain) <|> codecs.find? (·.aliases.contains undotted) <|>
    codecs.find? (·.names.contains plain)

def charset (name : List Char) : Except Unreadable Charset :=
  match codec? name with
  | some codec => codec.charset
  | none       => .error .unknown

end TypedResources.Xml
