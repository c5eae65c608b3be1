import TypedResources.Plural
import TypedResources.Resource

-- The accessors of the generated class: one line of code for each resource, and a comment line above
-- some. Of the resources that would share a function name the first one gets it.

namespace TypedResources

namespace ClassFile

def contextParameter : String := "context: Context = application"
def themeParameter : String := "theme: Theme = application.theme"

-- The signature of an accessor, and its body for a reference.
structure Signature where
  parameters : String
  returnType : String
  body       : String → String

def Signature.render (s : Signature) (function reference : String) : String :=
  "@JvmOverloads @JvmStatic fun " ++ function ++ "(" ++ s.parameters ++ "): " ++ s.returnType ++
    " = " ++ s.body reference

def kindSignature : Kind → Signature
  | .array | .stringArray =>
    ⟨contextParameter, "kotlin.Array<String>", fun r => "context.resources.getStringArray(" ++ r ++ ")"⟩
  | .boolean   => ⟨contextParameter, "Boolean", fun r => "context.resources.getBoolean(" ++ r ++ ")"⟩
  | .color     => ⟨themeParameter, "Int", fun r => "application.resources.getColor(" ++ r ++ ", theme)"⟩
  | .dimension => ⟨contextParameter, "Float", fun r => "context.resources.getDimension(" ++ r ++ ")"⟩
  | .fraction  =>
    ⟨"base: Int = 0, pbase: Int = 0, " ++ contextParameter, "Float",
      fun r => "context.resources.getFraction(" ++ r ++ ", base, pbase)"⟩
  | .intArray  => ⟨contextParameter, "IntArray", fun r => "context.resources.getIntArray(" ++ r ++ ")"⟩
  | .integer   => ⟨contextParameter, "Int", fun r => "context.resources.getInteger(" ++ r ++ ")"⟩
  | .plural    =>
    ⟨"quantity: Int, vararg args: Any?, " ++ contextParameter, "String",
      fun r => "if (args.isEmpty()) context.resources.getQuantityString(" ++ r ++ ", quantity) " ++
        "else context.resources.getQuantityString(" ++ r ++ ", quantity, *args)"⟩
  | .string    =>
    ⟨"vararg args: Any?, " ++ contextParameter, "String",
      fun r => "if (args.isEmpty()) context.getString(" ++ r ++ ") else context.getString(" ++ r ++
        ", *args)"⟩

def drawableSignature : Signature :=
  ⟨themeParameter, "Drawable", fun r => "application.resources.getDrawable(" ++ r ++ ", theme)"⟩

end ClassFile

-- A value that a module defines.
structure Entry where
  owner : ModuleId
  value : ValueResource
deriving DecidableEq

namespace Entry

def function (e : Entry) : String :=
  Naming.functionName e.value.name e.owner

-- The identifier that the accessor looks up, in the resource class of the module.
def lookup (e : Entry) : String :=
  Naming.resourceClass e.owner ++ "." ++ e.value.kind.tag ++ "." ++ Naming.fieldName e.value.name

def comment? (e : Entry) : Option String :=
  if e.value.kind = .string && e.value.parameterized then
    some "/** Formatted string: pass its format arguments through `args`. */"
  else if e.value.kind = .plural && !e.value.quantities.isEmpty then
    some ("/** Quantities: " ++ ", ".intercalate (Plural.listItems e.value.quantities) ++ ". */")
  else none

def lines (e : Entry) : List String :=
  e.comment?.toList ++ [(ClassFile.kindSignature e.value.kind).render e.function e.lookup]

end Entry

-- A drawable that a module holds, by its resource name.
structure Drawable where
  owner : ModuleId
  name  : String
deriving DecidableEq

namespace Drawable

def function (a : Drawable) : String :=
  Naming.functionName a.name a.owner

def lookup (a : Drawable) : String :=
  Naming.resourceClass a.owner ++ ".drawable." ++ Naming.fieldName a.name

def line (a : Drawable) : String :=
  ClassFile.drawableSignature.render a.function a.lookup

end Drawable

-- Pairs each element with whether it is the first one with its key.
def markFirst {α : Type} (key : α → String) : List String → List α → List (α × Bool)
  | _,    []     => []
  | seen, a :: l =>
    if seen.contains (key a) then (a, false) :: markFirst key seen l
    else (a, true) :: markFirst key (key a :: seen) l

def firsts {α : Type} (key : α → String) (l : List α) : List α :=
  ((markFirst key [] l).filter Prod.snd).map Prod.fst

end TypedResources
