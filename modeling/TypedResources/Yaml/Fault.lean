import TypedResources.Calendar
import TypedResources.Number.Numeral

-- What can be wrong with a YAML stream. Most faults are told apart by nobody; the others arise where
-- a text cannot be turned into the value that its tag calls for.

namespace TypedResources.Yaml

inductive Fault
  | malformed
  -- An escape names a code point beyond the last one, or beyond what a word holds.
  | codePoint (code : Nat)
  | boolean (text : Text.Points)
  | numeral (fault : Numeral.Fault)
  | timestamp
  | calendar (fault : CalendarFault)
deriving DecidableEq

-- Code points are held in words of this many values.
def Fault.wordLimit : Nat := Nat.pow 2 31

def Fault.message : Fault → String
  | malformed      => "the text is not a YAML document"
  | codePoint code =>
    if code < wordLimit then "chr() arg not in range(0x110000)"
    else "Python int too large to convert to C int"
  | boolean text   => Text.quoted text
  | numeral f      => f.message
  | timestamp      => "'NoneType' object has no attribute 'groupdict'"
  | calendar f     => f.message

end TypedResources.Yaml
