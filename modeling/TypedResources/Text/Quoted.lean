import TypedResources.Text.Points
import TypedResources.Text.PrintTable

-- A text between quotes, as it is shown in messages: in single quotes unless it holds those and no
-- double ones, with escapes for the quote, the backslash and all that cannot be printed.

namespace TypedResources.Text

def isPrintable (c : Char) : Bool :=
  if c.toNat < 128 then 32 ≤ c.toNat && c.toNat ≠ 127 else !unprintableRanges.has c.toNat

-- The lower-case hexadecimal digits of `n`, at least `width` of them.
def hexDigits (n width : Nat) : List Char :=
  let digits := Nat.toDigits 16 n
  List.replicate (width - digits.length) '0' ++ digits

def quoteChar (quote c : Char) : List Char :=
  if c = quote || c = '\\' then ['\\', c]
  else if c = '\n' then ['\\', 'n']
  else if c = '\r' then ['\\', 'r']
  else if c = '\t' then ['\\', 't']
  else if isPrintable c then [c]
  else if c.toNat < 0x100 then '\\' :: 'x' :: hexDigits c.toNat 2
  else if c.toNat < 0x10000 then '\\' :: 'u' :: hexDigits c.toNat 4
  else '\\' :: 'U' :: hexDigits c.toNat 8

def halfEscape (n : Fin 0x800) : List Char :=
  '\\' :: 'u' :: hexDigits (0xD800 + n) 4

def quotePoint (quote : Char) : Point → List Char
  | .char c => quoteChar quote c
  | .half n => halfEscape n

def quoted (text : Points) : String :=
  let quote := if text.contains (.char '\'') && !text.contains (.char '"') then '"' else '\''
  String.ofList (quote :: text.flatMap (quotePoint quote) ++ [quote])

-- A text as it is shown where halves cannot be written.
def shown (text : Points) : String :=
  String.ofList <| text.flatMap fun
    | .char c => [c]
    | .half n => halfEscape n

end TypedResources.Text
