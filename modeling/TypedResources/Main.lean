import Std.Time.DateTime.Timestamp
import TypedResources.Clock
import TypedResources.CommandLine.Basic

-- The program itself. What a command may look at is read from the disk, the command is carried out
-- on what was read, and what it changed is written back.

namespace TypedResources.Main

open CommandLine (Arguments)

-- What is read before a run: all that stands at and below some keys, and of others only the file
-- itself. The directories above them are read in either case.
structure Extent where
  trees : List Key := []
  spots : List Key := []

def Extent.keysAbove (e : Extent) : List Key :=
  (e.trees ++ e.spots).flatMap fun k => (List.range (k.length + 1)).map k.take

-- The plain form of a path as it was given, if it has one.
def plain? (d : Disk) (text : String) : Option Path :=
  if text = "" then none
  else ((Settings.expandHome d (Path.ofString text)).bind (Settings.plainPath d)).toOption

-- The keys of paths that are read from the working directory.
def keys (d : Disk) (ps : List Path) : List Key :=
  ps.map fun p => (Path.resolve ⟨.root, d.workingDir.key⟩ p).parts

-- What says where a module's resources are: its build files and its manifest.
def descriptions (module : Path) : List Path :=
  [module.child BuildFile.groovyFile, module.child BuildFile.kotlinFile, module / BuildFile.manifestPath]

-- What the arguments name.
def argumentExtent (d : Disk) (a : Arguments) : Extent :=
  let module   := (plain? d a.module).toList
  let settings := (module ++ module.map Path.parent).map (Path.child · settingsFile)
  { spots := d.workingDir.key :: keys d
      (module ++ settings ++ module.flatMap descriptions ++ (plain? d a.output).toList ++
        (plain? d a.logFile).toList) }

-- What the settings and the build file name: the resources of the module and of those it depends
-- on, the cached class, the sources, and the files that are written.
def moduleExtent (d : Disk) (a : Arguments) (module : Path) (s : Settings) : Extent :=
  let project      := (plain? d a.projectRoot).getD s.effectiveProjectRoot
  let dependencies := (((BuildFile.dependencies module).outcome d []).1.toOption.getD []).map
    (Locate.dependencyDir project)
  { trees := keys d
      ((Generate.cacheOf s module []).dir ::
        (module :: dependencies).map (fun dir => dir / Locate.resourcePath) ++
        s.migration.sourceDirs.map fun dir => module / Path.ofPoints dir)
    spots := keys d
      (dependencies.flatMap descriptions ++ [s.resolve s.generation.output, s.resolve s.migration.reportPath]) }

def textOf (k : Key) : String :=
  "/" ++ "/".intercalate k

-- What stands at a key, if anything does. The content of a file that is not wanted is left out.
def readNode (wanted : Path → Bool) (k : Key) : IO (Option Node) := do
  let place := System.mkFilePath [textOf k]
  try
    let found ← place.metadata
    match found.type with
    | .dir => return some .dir
    | _    =>
      let time    := found.modified
      let content ← if wanted ⟨.root, k⟩ then pure (← IO.FS.readBinFile place).toList else pure []
      return some (.file content (time.sec * Clock.nanosecondsPerSecond + time.nsec.toNat))
  catch _ => return none

-- What stands below a directory, at most `depth` directories down.
def readBelow (wanted : Path → Bool) : Nat → Key → IO (List (Key × Node))
  | 0,         _ => return []
  | depth + 1, k => do
    let mut found := []
    for entry in ← (System.mkFilePath [textOf k]).readDir do
      let key := k ++ [entry.fileName]
      match ← readNode wanted key with
      | none      => pure ()
      | some .dir => found := (key, .dir) :: (← readBelow wanted depth key) ++ found
      | some n    => found := (key, n) :: found
    return found

-- A chain of links that leads back to itself is followed no deeper than this.
def depthLimit : Nat := 40

def addNew (d : Disk) : Key × Node → Disk
  | (k, n) => if (d.node? k).isSome then d else d.set k n

-- Of the files in trees, only the content of those with one of the extensions is read.
def readExtent (extensions : List String) (d : Disk) (e : Extent) : IO Disk := do
  let above ← (e.keysAbove.eraseDups.filter (· ≠ [])).filterMapM fun k =>
    return (← readNode (fun _ => true) k).map (k, ·)
  let disk := above.foldl addNew d
  let isOutermost := fun k : Key => !(e.trees.any fun t => t ≠ k && t.isPrefixOf k)
  let roots := (e.trees.eraseDups.filter isOutermost).filter fun k => disk.node? k = some .dir
  let below ← roots.mapM (readBelow (hasExtension extensions) depthLimit)
  return below.flatten.foldl addNew disk

-- The directories of one disk that another one lacks.
def dirsBeyond (d other : Disk) : List Key :=
  d.entries.filterMap fun (k, n) =>
    if n = .dir && (other.node? k).isNone then some k else none

-- Carries over to the real disk what a run changed of what was read.
def writeBack (before after : Disk) : IO Unit := do
  for k in after.removedSince before do
    IO.FS.removeFile (textOf k)
  for k in (dirsBeyond before after).mergeSort fun a b => b.length ≤ a.length do
    IO.FS.removeDir (textOf k)
  for k in (dirsBeyond after before).mergeSort fun a b => a.length ≤ b.length do
    IO.FS.createDirAll (textOf k)
  for (k, content) in after.changedSince before do
    IO.FS.writeBinFile (textOf k) content.toByteArray

-- The files whose content matters, sources apart: documents, and the cached class with its record.
def knownExtensions : List String :=
  ["xml", "kt", "json"]

-- What a command line may look at, as it stands on the real disk.
def readDisk (words : List String) : IO Disk := do
  let home := (← IO.getEnv "HOME").getD "/"
  let here := (Path.ofString (← IO.currentDir).toString).parts
  let empty : Disk := { entries := [], workingDir := { key := here }, home := home }
  let .ok (_, a) := CommandLine.readArguments words | return empty
  let disk ← readExtent [] empty (argumentExtent empty a)
  let some module := plain? disk a.module | return disk
  let .ok s := Settings.load disk module | return disk
  readExtent (knownExtensions ++ s.migration.sourceExtensions.map Path.component) disk (moduleExtent disk a module s)

def now : IO Int := do
  return (← Std.Time.Timestamp.now).toNanosecondsSinceUnixEpoch.val

def run (words : List String) : IO UInt32 := do
  let disk ← readDisk words
  let (result, session) := (CommandLine.run words).outcome (Clock.session disk (← now))
  writeBack disk session.disk
  match result with
  | .ok outcome    =>
    IO.print outcome.output
    IO.eprint outcome.error
    return outcome.code.toUInt32
  | .error failure =>
    IO.eprintln failure.message
    return 1

end TypedResources.Main

def main (args : List String) : IO UInt32 :=
  TypedResources.Main.run args
