import TypedResources.ClassFile.Basic
import TypedResources.Disk.Text
import TypedResources.Locate
import TypedResources.Migration.Revision
import TypedResources.Settings

-- Migrating a module: its calls of resource getters become calls of the generated accessors, in
-- place, and a report says what was changed.

namespace TypedResources

-- The module to migrate, and the directory that the paths of its dependencies start from.
structure Migration where
  module   : Path
  project  : Path
  settings : Settings

-- What is known outlives a failure, so that a later file is met with it.
abbrev Migrating := ExceptT Failure (StateT Migration.Knowledge (StateM Session))

namespace Migrating

def ofAction {α : Type} (a : Action α) : Migrating α :=
  ExceptT.mk fun k => do return (← a.run, k)

instance : MonadLift Action Migrating := ⟨ofAction⟩

def outcome {α : Type} (m : Migrating α) (k : Migration.Knowledge) (s : Session) :
    Except Failure α × Migration.Knowledge × Session :=
  let ((r, k), s) := (m.run.run k).run s
  (r, k, s)

-- A run that begins with no knowledge, and whose own is forgotten.
def toAction {α : Type} (m : Migrating α) : Action α :=
  ExceptT.mk fun s =>
    let (r, _, s) := m.outcome {} s
    (r, s)

end Migrating

-- The files that a migration changed, and its report.
structure Migrated where
  files  : List FileChanges
  report : Path

namespace Migration

def log (level : Level) (message : String) : Action Unit :=
  Action.log level .migration message

-- The targets of the value documents of a group. A malformed document has none.
def documentTargets (owner : ModuleId) : List Path → Query (List (String × Target))
  | []      => return []
  | p :: ps => do
    let own ← match Definition.read (← read) p with
      | .ok values =>
        pure (values.map fun v => Target.ofResource (.values v.kind) v.name owner)
      | .error (.badDocument p fault) =>
        Query.log .error .migration
          ((Failure.badDocument p fault).message ++ " (resources from it will not be migrated)")
        pure []
      | .error f => throw f
    return own ++ (← documentTargets owner ps)

def groupTargets (g : ResourceGroup) : Query (List (String × Target)) :=
  match g.category with
  | .values    => documentTargets g.owner (ClassFile.sortPaths g.files)
  | .drawables => return g.files.map fun p => Target.ofResource .drawables (resourceBaseName p) g.owner

-- The targets of all groups, each once.
def targets (groups : List ResourceGroup) : Query (List (String × Target)) := do
  return ((← groups.mapM groupTargets).flatten).eraseDups

def site (m : Migration) : Locate.Site :=
  ⟨m.project, m.module, Path.component m.settings.generation.drawablePrefix⟩

def learn (m : Migration) : Migrating Unit := do
  let package ← ((BuildFile.namespace? m.module : Query _) : Action _)
  modifyThe Knowledge ({ · with package := package.getD "" })
  let groups ← ((Locate.groups m.site : Query _) : Action _)
  modifyThe Knowledge ({ · with owners := groups.map ResourceGroup.owner })
  let found ← ((targets groups : Query _) : Action _)
  modifyThe Knowledge ({ · with targets := found })
  let count := (← getThe Knowledge).references.length
  log .debug ("Loaded " ++ toString count ++ " resource identifiers")

-- Migrates one file; nothing if there is nothing to change in it.
def migrateFile (p : Path) : Migrating (Option FileChanges) := do
  let text ← Action.ofExcept ((← Action.disk).readRaw p)
  let r := revise (← getThe Knowledge) (p.suffix = ".java".toList) text
  for e in r.events do
    log .info (e.message p.toString)
  if r.changes.isEmpty then return none
  Action.writeText p r.text
  return some ⟨p.name, p.toString, r.sortedChanges⟩

-- The directories that hold sources, of which one at least has to exist.
def sourceRoots (m : Migration) : Action (List Path) := do
  let roots := m.settings.migration.sourceDirs.map fun dir => m.module / Path.ofPoints dir
  let existing := roots.filter (← Action.disk).isDir
  if existing.isEmpty then throw (.noSourceDirectory roots) else return existing

-- The source files below the roots, each once.
def sourceFiles (m : Migration) (d : Disk) (roots : List Path) : List Path :=
  (roots.flatMap (d.filesBelow (hasExtension (m.settings.migration.sourceExtensions.map Path.component)))).eraseDups

def reportPath (m : Migration) : Path :=
  m.settings.resolve m.settings.migration.reportPath

-- Where the report is, as a link.
def reportUri (m : Migration) (d : Disk) : String :=
  (Path.resolve ⟨.root, d.workingDir.key⟩ m.reportPath).toUri

def run (m : Migration) (confirmed : Bool) : Migrating Migrated := do
  if !confirmed then throw .unconfirmed
  let roots ← m.sourceRoots
  m.learn
  let changed ← (m.sourceFiles (← Action.disk) roots).mapM migrateFile
  let files := changed.filterMap id
  log .info ("Modified " ++ toString files.length ++ " file(s) with a total of " ++
    toString (totalChanges files) ++ " change(s).")
  let page := Report.render (← getThe Session).date files
  Action.writeBelow m.reportPath page.toList
  log .info ("Migration report: " ++ m.reportUri (← Action.disk))
  return ⟨files, m.reportPath⟩

end Migration

end TypedResources
