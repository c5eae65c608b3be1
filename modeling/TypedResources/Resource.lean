import TypedResources.Disk.Path
import TypedResources.Naming

-- Resources: what kinds there are, how each is referred to, and how they are grouped by module.

namespace TypedResources

-- The kinds of resource that a value document defines.
inductive Kind
  | array
  | boolean
  | color
  | dimension
  | fraction
  | intArray
  | integer
  | plural
  | string
  | stringArray
deriving DecidableEq

namespace Kind

-- By ascending label.
def all : List Kind :=
  [array, boolean, color, dimension, fraction, intArray, integer, plural, string, stringArray]

theorem mem_all (k : Kind) : k ∈ all := by
  cases k <;> decide

-- The type of the resource in a reference; all arrays share one.
def tag : Kind → String
  | array | intArray | stringArray => "array"
  | boolean   => "bool"
  | color     => "color"
  | dimension => "dimen"
  | fraction  => "fraction"
  | integer   => "integer"
  | plural    => "plurals"
  | string    => "string"

def label : Kind → String
  | array       => "Array"
  | boolean     => "Boolean"
  | color       => "Color"
  | dimension   => "Dimension"
  | fraction    => "Fraction"
  | intArray    => "IntArray"
  | integer     => "Integer"
  | plural      => "Plural"
  | string      => "String"
  | stringArray => "StringArray"

end Kind

-- The parts of the generated class: one for each kind, and one for drawables.
inductive Block
  | values (kind : Kind)
  | drawables
deriving DecidableEq

def Block.name : Block → String
  | values kind => kind.label ++ "s"
  | drawables   => "Drawables"

def Block.tag : Block → String
  | values kind => kind.tag
  | drawables   => "drawable"

-- An entry of a value document. `quantities` lists the items of a plural.
structure ValueResource where
  name          : String
  kind          : Kind
  parameterized : Bool        := false
  quantities    : List String := []
deriving DecidableEq

inductive Category
  | values
  | drawables
deriving DecidableEq

def Category.name : Category → String
  | values    => "VALUES"
  | drawables => "DRAWABLES"

-- The files of one category that a module contributes.
structure ResourceGroup where
  category : Category
  owner    : ModuleId
  files    : List Path
deriving DecidableEq

-- A reference to a resource, without the package of its class.
def reference (tag field : String) : String :=
  "R." ++ tag ++ "." ++ field

end TypedResources
