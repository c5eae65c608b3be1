import TypedResources.Failure
import TypedResources.Pattern.Search
import TypedResources.Resource
import TypedResources.Text.Lines
import TypedResources.Xml.Document

-- Value documents: the resources that the children of a document's root define.

namespace TypedResources.Definition

-- The kind that an element of this name defines.
def kindOf? (tag : List Char) : Option Kind :=
  match String.ofList tag with
  | "string"        => some .string
  | "color"         => some .color
  | "bool"          => some .boolean
  | "integer"       => some .integer
  | "dimen"         => some .dimension
  | "fraction"      => some .fraction
  | "array"         => some .array
  | "string-array"  => some .stringArray
  | "integer-array" => some .intArray
  | "plurals"       => some .plural
  | _               => none

open Pattern in
-- A percent sign, a position that may be left out, and a conversion. Two percent signs stand for
-- one in the text, so a placeholder begins at an odd one.
def placeholder : Pattern Unit :=
  all [notAfter (· = '%'), many (word "%%"), char '%',
    opt (seq (many1 (one Text.isDecimal)) (char '$')), one ("sdfxoce".toList.contains ·)]

def hasPlaceholder (text : List Char) : Bool :=
  (placeholder.search? text).isSome

-- The items of a plural that name their quantity.
def quantities (children : List Xml.Node) : List String :=
  children.filterMap fun item =>
    if item.localName? = some "item".toList && item.get "quantity".toList ≠ [] then
      some (String.ofList (Text.trim (item.get "quantity".toList)))
    else none

def resource? (element : Xml.Node) : Option ValueResource := do
  let kind ← kindOf? (← element.localName?)
  let name := Text.trim (element.get "name".toList)
  guard (name ≠ [])
  let name := String.ofList name
  match kind with
  | .string => return { name, kind, parameterized := hasPlaceholder element.allText }
  | .plural => return { name, kind, quantities := quantities element.children }
  | kind    => return { name, kind }

def resources (root : Xml.Node) : List ValueResource :=
  root.children.filterMap resource?

def read (d : Disk) (p : Path) : Except Failure (List ValueResource) :=
  match d.readBytes p with
  | .error f  => .error (.disk f p)
  | .ok bytes =>
    match Xml.parse bytes with
    | .ok root                          => .ok (resources root)
    | .error (.malformed fault)         => .error (.badDocument p fault)
    | .error (.unreadable reason name)  => .error (.unreadableEncoding reason name)

end TypedResources.Definition
