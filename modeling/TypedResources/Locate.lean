import TypedResources.BuildFile.Module
import TypedResources.Disk.Tree
import TypedResources.Resource

-- Finding the resource files of a module and of the modules it depends on. Their own dependencies
-- are not followed.

namespace TypedResources.Locate

-- Where to look: the module, the directory that module paths start from, and what the names of
-- drawable directories start with.
structure Site where
  project : Path
  module  : Path
  drawablePrefix : String := "drawable"

def resourcePath : Path := ⟨.relative, ["src", "main", "res"]⟩

def drawableDirs (d : Disk) (drawablePrefix : String) (res : Path) : List Path :=
  if d.isDir res then
    (d.list res).filterMap fun
      | (name, .dir)  => if drawablePrefix.toList.isPrefixOf name.toList then some (res.child name) else none
      | (_, .file ..) => none
  else []

-- The value documents of one module as one group, and each drawable directory as one more.
def moduleGroups (d : Disk) (drawablePrefix : String) (dir : Path) (owner : ModuleId) :
    List ResourceGroup :=
  let res := dir / resourcePath
  ⟨.values, owner, d.filesIn (hasExtension ["xml"]) (res.child "values")⟩ ::
    (drawableDirs d drawablePrefix res).map fun drawables =>
      ⟨.drawables, owner, d.filesIn isResourceFile drawables⟩

-- The directory of a module, whose path is written with colons.
def dependencyDir (project : Path) (modulePath : String) : Path :=
  project / ((Text.splitAll (· = ':') modulePath.toList).map fun part =>
    Path.ofString (String.ofList part)).foldl Path.join ⟨.relative, []⟩

def dependencyGroups (site : Site) (modulePath : String) : Query (List ResourceGroup) := do
  let dir := dependencyDir site.project modulePath
  match ← BuildFile.namespace? dir with
  | some package => return moduleGroups (← read) site.drawablePrefix dir ⟨modulePath, package⟩
  | none         =>
    Query.log .debug .locator
      ("Skipping dependency '" ++ modulePath ++ "': namespace could not be resolved")
    return []

-- The groups of the module itself, then those of its dependencies in the order they are declared.
def groups (site : Site) : Query (List ResourceGroup) := do
  let package := (← BuildFile.namespace? site.module).getD ""
  let own := moduleGroups (← read) site.drawablePrefix site.module ⟨"", package⟩
  let others ← (← BuildFile.dependencies site.module).mapM (dependencyGroups site)
  let all := own ++ others.flatten
  Query.log .debug .locator
    ("Located " ++ toString all.length ++ " resource groups for " ++ site.module.toString)
  return all

-- Every file that the generated class depends on: the resource files, and the build file.
def observed (site : Site) : Query (List Path) := do
  let gs ← groups site
  return gs.flatMap ResourceGroup.files ++ [BuildFile.path (← read) site.module]

end TypedResources.Locate
