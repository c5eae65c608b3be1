import TypedResources.Text.Case
import TypedResources.Text.Class
import TypedResources.Text.Split

-- How accessors are named. A resource name is camel-cased, and the accessors of a dependency carry
-- its module name behind a low line, which camel case itself never leaves in a name.

namespace TypedResources

-- A module that contributes resources, and the package of its resource class. The primary module
-- has no name.
structure ModuleId where
  name    : String
  package : String
deriving DecidableEq

def ModuleId.isPrimary (m : ModuleId) : Bool :=
  m.name = ""

namespace Naming

def isSeparator (c : Char) : Bool :=
  c = '_' || c = '.' || c = '-'

-- The non-empty stretches between separators.
def words (s : List Char) : List (List Char) :=
  (Text.splitAll isSeparator s).filter (· ≠ [])

def capitalize : List Char → List Char
  | []     => []
  | c :: t => Text.upperChar c ++ t

-- Without a separator a name is taken to be in camel case already.
def camelCase (s : List Char) : List Char :=
  if !s.any isSeparator then s
  else match words s with
    | []           => []
    | head :: tail => Text.lower head ++ tail.flatMap capitalize

-- What makes the accessor names of a dependency differ from all others.
def moduleSuffix (m : ModuleId) : List Char :=
  if m.isPrimary then []
  else '_' :: camelCase (m.name.toList.map fun c => if Text.isWord c then c else '_')

def functionName (resource : String) (m : ModuleId) : String :=
  String.ofList (camelCase resource.toList ++ moduleSuffix m)

-- The field of the resource class that holds a resource's identifier.
def fieldName (resource : String) : String :=
  String.ofList (resource.toList.map fun c => if c = '.' then '_' else c)

-- The resource class of a module, as an expression.
def resourceClass (m : ModuleId) : String :=
  if m.isPrimary || m.package = "" then "R" else m.package ++ ".R"

end Naming

end TypedResources
