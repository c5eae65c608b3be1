import TypedResources.ClassFile.Accessor
import TypedResources.Definition
import TypedResources.Disk.Tree
import TypedResources.Run

-- The generated class: its blocks, what is logged while they are made, and its text. All documents
-- are read before the first block is made, and the text depends on their resources alone.

namespace TypedResources

-- How malformed documents are met, and the language that plurals are checked for.
structure ClassFile.Options where
  strict   : Bool   := true
  language : String := "en"
deriving DecidableEq

-- A document that was left out because it is malformed.
structure SkippedDocument where
  path  : Path
  fault : Xml.Fault
deriving DecidableEq

def SkippedDocument.failure (s : SkippedDocument) : Failure :=
  .badDocument s.path s.fault

structure ClassFile where
  content : String
  skipped : List SkippedDocument
deriving DecidableEq

namespace ClassFile

def sortPaths (files : List Path) : List Path :=
  sortBy (fun p q => p ≤ q) files

-- The value documents of all modules, group by group and each group in the order of its paths.
def documents (groups : List ResourceGroup) : List (ModuleId × Path) :=
  (groups.filter (·.category = .values)).flatMap fun g => (sortPaths g.files).map (g.owner, ·)

def drawables (groups : List ResourceGroup) : List Drawable :=
  (groups.filter (·.category = .drawables)).flatMap fun g =>
    (sortPaths g.files).map fun p => ⟨g.owner, resourceBaseName p⟩

-- The entries of the documents that can be read. A malformed one is a failure or is passed over.
def readEntries (strict : Bool) :
    List (ModuleId × Path) → Query (List Entry × List SkippedDocument)
  | []                  => return ([], [])
  | (owner, p) :: rest => do
    match Definition.read (← read) p with
    | .ok values =>
      let (entries, skipped) ← readEntries strict rest
      return (values.map (⟨owner, ·⟩) ++ entries, skipped)
    | .error (.badDocument p fault) =>
      if strict then throw (.badDocument p fault)
      Query.log .error .generation ((Failure.badDocument p fault).message ++ " (skipped)")
      let (entries, skipped) ← readEntries strict rest
      return (entries, ⟨p, fault⟩ :: skipped)
    | .error f => throw f

-- The entries of one kind in the order of their names.
def entriesOf (kind : Kind) (entries : List Entry) : List Entry :=
  sortBy (fun a b => a.value.name ≤ b.value.name) (entries.filter (·.value.kind = kind))

def occurringKinds (entries : List Entry) : List Kind :=
  Kind.all.filter fun k => entries.any (·.value.kind = k)

-- The accessors of one kind.
def emitted (kind : Kind) (entries : List Entry) : List Entry :=
  firsts Entry.function (entriesOf kind entries)

def emittedDrawables (assets : List Drawable) : List Drawable :=
  firsts Drawable.function (sortBy (fun a b => a.name ≤ b.name) assets)

-- A named part of the class, with the lines of its accessors.
structure Part where
  name  : String
  lines : List String
deriving DecidableEq

def valueParts (entries : List Entry) : List Part :=
  (occurringKinds entries).map fun k =>
    ⟨(Block.values k).name, (emitted k entries).flatMap Entry.lines⟩

def drawableParts (assets : List Drawable) : List Part :=
  if assets.isEmpty then []
  else [⟨Block.drawables.name, (emittedDrawables assets).map Drawable.line⟩]

def record (level : Level) (message : String) : Record :=
  ⟨level, .generation, message⟩

-- What a plural lacks in a language, and what it has in vain.
def pluralRecords (language : String) (e : Entry) : Log :=
  let items   := e.value.quantities
  let name    := "Plural '" ++ e.value.name ++ "'"
  let list    := ", ".intercalate
  let missing := Plural.missing language items
  let unused  := Plural.unused language items
  (if Plural.lacksFallback items then
    [record .warning (name ++ " has no 'other' item; defined quantities: " ++
      (if list items = "" then "none" else list items))] else []) ++
  (if missing.isEmpty then [] else
    [record .warning (name ++ " has no item for " ++ list missing ++ ", selected in '" ++ language ++ "'")]) ++
  (if unused.isEmpty then [] else
    [record .warning (name ++ " defines " ++ list unused ++ ", never selected in '" ++ language ++ "'")])

def entryRecords (language : String) (kind : Kind) : Entry × Bool → Log
  | (e, false) => [record .debug ("Skipping duplicate " ++ (Block.values kind).name ++ "." ++ e.function)]
  | (e, true)  => if kind = .plural then pluralRecords language e else []

def records (language : String) (entries : List Entry) : Log :=
  (occurringKinds entries).flatMap fun k =>
    (markFirst Entry.function [] (entriesOf k entries)).flatMap (entryRecords language k)

def header (package : String) : List String :=
  ["// Generated by resourcegen. Do not edit.",
   "package " ++ package,
   "",
   "import android.app.Application",
   "import android.content.Context",
   "import android.content.res.Resources.Theme",
   "import android.graphics.drawable.Drawable",
   "import " ++ package ++ ".R",
   "",
   "object ResourceManager \x7b",
   "",
   "    private var _application: Application? = null",
   "    private val application: Application",
   "        get() = _application ?: throw IllegalStateException(\"" ++
     "ResourceManager is not initialized. " ++
     "Please call ResourceManager.initialize(this) in your Application class." ++ "\")",
   "",
   "    @JvmStatic",
   "    fun initialize(application: Application) \x7b",
   "        _application = application",
   "    \x7d"]

def Part.render (p : Part) : List String :=
  ["", "    object " ++ p.name ++ " \x7b"] ++ p.lines.map ("        " ++ ·) ++ ["    \x7d"]

-- The parts of one category under its title; a category without parts has no section.
def renderSection (category : Category) (parts : List Part) : List String :=
  if parts.isEmpty then []
  else ["", "    // ----- " ++ category.name ++ " -----"] ++ parts.flatMap Part.render

-- Some lines, each with its end. Irreducible, so that two classes are compared by their lines.
@[irreducible]
def unlines (lines : List String) : String :=
  String.join (lines.map (· ++ "\n"))

theorem unlines_nil : unlines [] = "" := by
  simp [unlines]

theorem unlines_cons (line : String) (lines : List String) :
    unlines (line :: lines) = line ++ "\n" ++ unlines lines := by
  simp [unlines]

def render (package : String) (entries : List Entry) (assets : List Drawable) : String :=
  unlines (header package ++ renderSection .values (valueParts entries) ++
    renderSection .drawables (drawableParts assets) ++ ["\x7d"])

-- The class for a package, from the resources of all modules.
def generate (options : Options) (package : String) (groups : List ResourceGroup) :
    Query ClassFile := do
  let (entries, skipped) ← readEntries options.strict (documents groups)
  modifyThe Log (· ++ records options.language entries)
  return ⟨render package entries (drawables groups), skipped⟩

end ClassFile

end TypedResources
