import TypedResources.Call.Basic
import TypedResources.Naming

-- What a call is replaced by. A call names a field of a resource class; the accessors that stand for
-- such a field are its targets, and a call is replaced only if a single one of them remains.

namespace TypedResources

def accessorClass : String := "ResourceManager"

namespace Migration

-- An accessor of the generated class, and the module whose resource it looks up.
structure Target where
  block    : Block
  function : String
  owner    : String
deriving DecidableEq

-- The accessor as it is shown in messages.
def Target.name (t : Target) : String :=
  t.block.name ++ "." ++ t.function

def Target.call (t : Target) (arguments : String) : String :=
  accessorClass ++ "." ++ t.name ++ "(" ++ arguments ++ ")"

-- A resource is reached by its reference, and its accessor is named after it and its module.
def Target.ofResource (block : Block) (name : String) (owner : ModuleId) : String × Target :=
  (reference block.tag (Naming.fieldName name), ⟨block, Naming.functionName name owner, owner.name⟩)

-- What is known of the resources of a project.
structure Knowledge where
  -- The package of the generated class.
  package : String := ""
  -- The modules that contribute resources, in the order in which they were located.
  owners  : List ModuleId := []
  -- The targets with the references that lead to them, in the order of the resources.
  targets : List (String × Target) := []
deriving DecidableEq

namespace Knowledge

def targetsOf (k : Knowledge) (reference : String) : List Target :=
  k.targets.filterMap fun (r, t) => if r = reference then some t else none

-- The module that a package belongs to; of several the first one located.
def moduleOf? (k : Knowledge) (package : String) : Option String :=
  if package = "" then none else (k.owners.find? (·.package = package)).map ModuleId.name

def references (k : Knowledge) : List String :=
  (k.targets.map Prod.fst).eraseDups

end Knowledge

-- Why a call is left as it is.
inductive Refusal
  | unknown
  -- The reference is qualified by a package that is no known module's.
  | foreign (package : String)
  | ambiguous (targets : List Target)
deriving DecidableEq

def Refusal.message (reference : String) : Refusal → String
  | unknown         => reference ++ " not found in the resource set"
  | foreign package => reference ++ " from " ++ package ++ " is not in the resource set"
  | ambiguous ts    => reference ++ " is ambiguous (" ++ ", ".intercalate (ts.map Target.name) ++ ")"

-- The targets of a module if it has any of these, and all of them otherwise.
def narrow (module : Option String) (targets : List Target) : List Target :=
  match module with
  | none   => targets
  | some m =>
    let own := targets.filter (·.owner = m)
    if own.isEmpty then targets else own

-- The target of a call in a file that imports the resource class of `imported`. A package in
-- front of the reference goes before the import.
def resolve (k : Knowledge) (imported : Option String) (c : Call) : Except Refusal Target :=
  let package    := c.package.map String.ofList
  let candidates := (k.targetsOf c.key).filter fun t => c.shape.blocks.contains t.block
  match candidates, package.filter fun p => (k.moduleOf? p).isNone with
  | [], _      => .error .unknown
  | _,  some p => .error (.foreign p)
  | _,  none   =>
    match narrow ((package.or imported).bind k.moduleOf?) candidates with
    | [t] => .ok t
    | ts  => .error (.ambiguous ts)

end Migration

end TypedResources
