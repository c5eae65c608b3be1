import TypedResources.Disk.Text
import TypedResources.Number.Shortest
import TypedResources.Text.Case
import TypedResources.Yaml.Document

-- The settings of a module: defaults, and what the file beside the build file says otherwise. A
-- setting of the wrong kind is left at its default.

namespace TypedResources

open Text (Points)

structure GenerationSettings where
  output         : Path := Path.ofString "build/generated/resourcegen/main/ResourceManager.kt"
  drawablePrefix : Points := "drawable"
  cacheDir       : Path := Path.ofString "build/cache/resourcegen"
  cache          : Bool := true
  strict         : Bool := true
  pluralLanguage : Points := "en"
deriving DecidableEq

structure MigrationSettings where
  reportPath       : Path := Path.ofString "build/reports/migration/resourcegen-migration-report.html"
  sourceDirs       : List Points := ["src/main"]
  sourceExtensions : List Points := ["kt", "java"]
deriving DecidableEq

structure Settings where
  moduleRoot  : Path
  projectRoot : Option Path := none
  generation  : GenerationSettings := {}
  migration   : MigrationSettings := {}
deriving DecidableEq

namespace Settings

-- Paths are read from the root of the module.
def resolve (s : Settings) (p : Path) : Path :=
  s.moduleRoot / p

def effectiveProjectRoot (s : Settings) : Path :=
  s.projectRoot.getD s.moduleRoot.parent

open Yaml (Value Document)

def numeral {α : Type} : Except Numeral.Fault α → Except Failure α
  | .ok a    => .ok a
  | .error f => .error (.badSettings (.numeral f))

-- A text or a number that is not empty, as a text.
def text? : Value → Except Failure (Option Points)
  | .text s    => return if s = [] then none else some s
  | .integer n => do return some (← numeral (Numeral.writeInteger n))
  | .float x   => return some (.ofChars x.toText)
  | _          => return none

def trueWords : List String := ["true", "yes", "1"]
def falseWords : List String := ["false", "no", "0"]

def flag? : Value → Option Bool
  | .boolean b => some b
  | .text s    => do
    let word := String.ofList (Text.lower (Text.trim (← s.chars?)))
    if trueWords.contains word then some true
    else if falseWords.contains word then some false
    else none
  | _          => none

def itemText? : Value → Except Failure (Option Points)
  | .text s    => return some s
  | .boolean b => return some (Points.ofString (if b then "True" else "False"))
  | v          => text? v

-- The texts and numbers of a list; a text alone is a list of one. Of bytes the numbers are taken.
def texts (d : Document) : Value → Except Failure (List Points)
  | .text s     => return [s]
  | .bytes b    => return b.map fun n => Points.ofString (toString n.toNat)
  | .list items => do return (← items.mapM fun i => itemText? (d.value i)).filterMap id
  | _           => return []

def readGeneration (d : Document) (v : Value) : Except Failure GenerationSettings := do
  let s : GenerationSettings := {}
  let output ← text? (d.get "output" v)
  let drawablePrefix ← text? (d.get "drawable_prefix" v)
  let cacheDir ← text? (d.get "cache_dir" v)
  let pluralLanguage ← text? (d.get "plural_language" v)
  return {
    output         := (output.map Path.ofPoints).getD s.output
    drawablePrefix := drawablePrefix.getD s.drawablePrefix
    cacheDir       := (cacheDir.map Path.ofPoints).getD s.cacheDir
    cache          := (flag? (d.get "cache" v)).getD s.cache
    strict         := (flag? (d.get "strict" v)).getD s.strict
    pluralLanguage := pluralLanguage.getD s.pluralLanguage }

-- Dots in front of an extension do not count, and neither does an empty list.
def readMigration (d : Document) (v : Value) : Except Failure MigrationSettings := do
  let s : MigrationSettings := {}
  let reportPath ← text? (d.get "report_path" v)
  let sourceDirs ← texts d (d.get "source_dirs" v)
  let extensions ← texts d (d.get "source_extensions" v)
  let plain := extensions.map fun e => e.dropWhile (· = .char '.')
  return {
    reportPath       := (reportPath.map Path.ofPoints).getD s.reportPath
    sourceDirs       := if sourceDirs = [] then s.sourceDirs else sourceDirs
    sourceExtensions := if plain = [] then s.sourceExtensions else plain }

-- The first component that is refused on its own, with the plain form of the path up to it.
def refusedPart? (p : Path) : Option (Disk.Fault × Path) :=
  (p.parts.find? Disk.isRefused).map fun part =>
    let before := p.parts.takeWhile (!Disk.isRefused ·)
    (Disk.refusal ⟨.relative, [part]⟩,
      ⟨if p.isAbsolute then .root else .relative, Path.normalize before ++ [part]⟩)

-- The absolute plain form of a path.
def plainPath (d : Disk) (p : Path) : Except Failure Path :=
  match refusedPart? p with
  | some (f, q) => .error (.disk f q)
  | none        =>
    if p.isAbsolute then .ok (Path.resolve p p)
    else (d.here).map fun here => Path.resolve here p

def ofDocument (disk : Disk) (moduleRoot : Path) (d : Document) : Except Failure Settings := do
  match d.rootValue with
  | .null => return { moduleRoot := moduleRoot }
  | .mapping entries =>
    let root := Value.mapping entries
    let generation ← readGeneration d (d.get "generation" root)
    let migration ← readMigration d (d.get "migration" root)
    let projectRoot ← text? (d.get "project_root" root)
    return ⟨moduleRoot, ← projectRoot.mapM fun p => plainPath disk (moduleRoot / Path.ofPoints p),
      generation, migration⟩
  | _ => throw .settingsNoMapping

-- A tilde in front of a relative path stands for the home directory.
def expandHome (d : Disk) (p : Path) : Except Failure Path :=
  match p.isAbsolute, p.parts with
  | false, first :: rest =>
    if first = "~" then
      let home := Path.ofString d.home
      .ok ⟨home.anchor, home.parts ++ rest⟩
    else if first.toList.head? = some '~' then .error .unknownHome
    else .ok p
  | _, _ => .ok p

-- The settings file for a path: in the directory itself, or beside the file.
def file (d : Disk) (p : Path) : Except Failure Path := do
  let p ← expandHome d p
  plainPath d <|
    if d.isDir p then p.child settingsFile
    else if p.name = settingsFile then p
    else p.parent.child settingsFile

-- The settings that hold at a path. A file that is missing or blank says nothing.
def load (d : Disk) (p : Path) : Except Failure Settings := do
  let f ← file d p
  if !d.has f then return { moduleRoot := f.parent }
  let text ← d.readText f
  if Text.trim text = [] then return { moduleRoot := f.parent }
  match Document.ofText text with
  | .error e => throw (.badSettings e)
  | .ok doc  => ofDocument d f.parent doc

end Settings

end TypedResources
