import TypedResources.Disk.Basic
import TypedResources.Text.Case

-- Walking a directory tree. The order is fixed by names alone: the files of a directory come before
-- what lies deeper, and siblings ascend by code points.

namespace TypedResources

def excludedDirs : List String :=
  [".git", ".gradle", ".idea", "build", "node_modules", "__pycache__"]

def excludedFiles : List String :=
  [".DS_Store", "Thumbs.db"]

namespace Disk

def accepts (p : Path → Bool) (path : Path) : Bool :=
  !excludedFiles.contains path.name && p path

-- The accepted files that stand directly in `root`.
def filesIn (d : Disk) (p : Path → Bool) (root : Path) : List Path :=
  if d.isDir root then
    (d.list root).filterMap fun
      | (name, .file ..) => if accepts p (root.child name) then some (root.child name) else none
      | (_, .dir)        => none
  else []

-- The accepted files below `root`, at most `depth` directories down.
def walk (d : Disk) (p : Path → Bool) : Nat → Path → List Path
  | 0,         _    => []
  | depth + 1, root =>
    d.filesIn p root ++ (d.list root).flatMap fun
      | (name, .dir)  => if excludedDirs.contains name then [] else d.walk p depth (root.child name)
      | (_, .file ..) => []

-- No tree is deeper than the number of entries on its disk.
def filesBelow (d : Disk) (p : Path → Bool) (root : Path) : List Path :=
  if d.isDir root then d.walk p (d.entries.length + 1) root else []

end Disk

-- Lower case and leading dots do not matter in an extension.
def plainExtension (ext : List Char) : List Char :=
  (Text.lower ext).dropWhile (· = '.')

def hasExtension (extensions : List String) (p : Path) : Bool :=
  (extensions.map (plainExtension ·.toList)).contains (plainExtension p.suffix)

-- A file's resource name: what stands before the first dot.
def resourceBaseName (p : Path) : String :=
  String.ofList (p.name.toList.takeWhile (· ≠ '.'))

-- Lower-case ASCII letters, digits and low lines after a letter; a line feed may end the name.
def isResourceName (name : List Char) : Bool :=
  let isLetter : Char → Bool := fun c => 'a' ≤ c && c ≤ 'z'
  let isRest   : Char → Bool := fun c => isLetter c || ('0' ≤ c && c ≤ '9') || c = '_'
  match name with
  | []     => false
  | c :: t => isLetter c && (t.all isRest || (t.getLast? = some '\n' && t.dropLast.all isRest))

def isResourceFile (p : Path) : Bool :=
  isResourceName (resourceBaseName p).toList

end TypedResources
