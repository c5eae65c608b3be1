import TypedResources.Call.Shape
import TypedResources.Text.Lines

-- The calls of each shape in a text.

namespace TypedResources

open Call

-- The parts of a call that its replacement is made from.
structure Call where
  shape     : Shape
  text      : List Char
  -- The package in front of the resource class, if one is written.
  package   : Option (List Char)
  field     : List Char
  arguments : List Char
deriving DecidableEq

namespace Call

def ofOccurrence (shape : Shape) (o : Occurrence Slot) : Call where
  shape     := shape
  text      := o.text
  package   := (o.get? .package).map fun p => (p.reverse.dropWhile (· = '.')).reverse
  field     := (o.get? .field).getD []
  arguments := Text.trim ((o.get? .arguments).getD [])

-- The reference that the call looks up, without the package.
def key (c : Call) : String :=
  reference c.shape.tag (String.ofList c.field)

end Call

end TypedResources
