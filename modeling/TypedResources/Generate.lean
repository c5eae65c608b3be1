import TypedResources.Cache
import TypedResources.ClassFile.Basic
import TypedResources.Locate
import TypedResources.Settings

-- Generating the class of a module: from the cache if that is up to date, and from the module's
-- resources otherwise. A class that leaves a document out is never kept in the cache.

namespace TypedResources

structure Generated where
  path      : Path
  fromCache : Bool
  skipped   : List SkippedDocument := []

namespace Generate

def log (message : String) : Action Unit :=
  Action.log .info .generator message

def site (s : Settings) (module : Path) : Locate.Site :=
  ⟨s.effectiveProjectRoot, module, Path.component s.generation.drawablePrefix⟩

-- What is found of a module before its class is made.
structure Inputs where
  package  : String
  groups   : List ResourceGroup
  -- The files whose modification times tell whether the class is up to date.
  observed : List Path
deriving DecidableEq

def inputs (s : Settings) (module : Path) : Query Inputs := do
  let some package ← BuildFile.namespace? module | throw (.noNamespace module)
  let groups ← Locate.groups (site s module)
  let observed ← Locate.observed (site s module)
  return ⟨package, groups, observed ++ [s.moduleRoot.child settingsFile]⟩

def classOf (s : Settings) (i : Inputs) : Query ClassFile :=
  ClassFile.generate ⟨s.generation.strict, Text.shown s.generation.pluralLanguage⟩ i.package i.groups

def cacheOf (s : Settings) (module : Path) (observed : List Path) : Cache :=
  Cache.ofRoot (s.resolve s.generation.cacheDir) module.name observed

-- The cached class, if it may be used and is up to date.
def cached? (s : Settings) (c : Cache) : Action (Option String) := do
  if !s.generation.cache then return none
  let d ← Action.disk
  if ← Action.ofExcept (c.isUpToDate d) then Action.ofExcept (c.content? d)
  else return none

-- Keeps a complete class for the next time, and forgets the last one otherwise.
def keep (s : Settings) (c : Cache) (made : ClassFile) : Action Unit := do
  if s.generation.cache && made.skipped.isEmpty then
    let _ ← c.put made.content
  else c.invalidate

def reuse (output : Path) (content : String) : Action Generated := do
  log "Inputs unchanged; reusing cached ResourceManager"
  Action.writeBelow output content.toList
  return { path := output, fromCache := true }

def regenerate (s : Settings) (c : Cache) (i : Inputs) (output : Path) : Action Generated := do
  let made ← (classOf s i : Query _)
  keep s c made
  Action.writeBelow output made.content.toList
  log ("Wrote " ++ output.toString)
  return { path := output, fromCache := false, skipped := made.skipped }

-- Generates the class of a module, whose path is in plain form, into a file.
def run (s : Settings) (module output : Path) : Action Generated := do
  log ("Generating ResourceManager for " ++ module.toString)
  let i ← (inputs s module : Query _)
  let cache := cacheOf s module i.observed
  match ← cached? s cache with
  | some content => reuse output content
  | none         => regenerate s cache i output

-- The file that the settings name for the class.
def outputOf (s : Settings) : Path :=
  s.resolve s.generation.output

-- A call of the generator for a module, whose path need not be in plain form.
structure Request where
  module   : Path
  settings : Option Settings := none
  output   : Option Path := none

-- Settings that are not given are those that hold at the module, and an output that is not given is
-- the one that they name.
def Request.run (r : Request) : Action Generated := do
  let d ← Action.disk
  let module ← Action.ofExcept ((Settings.expandHome d r.module).bind (Settings.plainPath d))
  let s ← Action.ofExcept (r.settings.elim (Settings.load d module) .ok)
  Generate.run s module (r.output.getD (outputOf s))

end Generate

end TypedResources
