import TypedResources.Text.WordTable

-- The character classes that names, patterns and trimming rest on. Each is total on Unicode and
-- agrees with the familiar ASCII class below 128.

namespace TypedResources.Text

-- A letter, a number or the low line.
def isWord (c : Char) : Bool :=
  if c.toNat < 128 then c.isAlphanum || c = '_' else wordRanges.has c.toNat

def isDecimal (c : Char) : Bool :=
  if c.toNat < 128 then c.isDigit else decimalRanges.has c.toNat

-- The value of a decimal digit of any script: the digits of a script follow each other from zero on.
def decimalValue? (c : Char) : Option Nat :=
  (decimalRanges.find? fun r => r.1 ≤ c.toNat && c.toNat ≤ r.2).map fun r => (c.toNat - r.1) % 10

def blankRanges : Ranges := [
  (0x9, 0xD), (0x1C, 0x20), (0x85, 0x85), (0xA0, 0xA0), (0x1680, 0x1680), (0x2000, 0x200A),
  (0x2028, 0x2029), (0x202F, 0x202F), (0x205F, 0x205F), (0x3000, 0x3000)]

-- White space, the separators of files, groups, records and units among it.
def isBlank (c : Char) : Bool :=
  blankRanges.has c.toNat

-- The characters that end a line. A carriage return followed by a line feed ends one line.
def isLineEnd (c : Char) : Bool :=
  c = '\n' || c = '\r' || c = '\x0b' || c = '\x0c' || c = '\x1c' || c = '\x1d' || c = '\x1e' ||
  c = '\u0085' || c = '\u2028' || c = '\u2029'

end TypedResources.Text
