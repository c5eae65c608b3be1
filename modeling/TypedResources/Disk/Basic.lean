import TypedResources.Disk.Path
import TypedResources.Sorting

-- A disk holds files and directories under absolute keys, without links. A path reaches a key by
-- walking from directory to directory, so every step but the last has to exist.

namespace TypedResources

inductive Node
  | file (content : Bytes) (modified : Int)
  | dir
deriving DecidableEq

-- The components of an absolute path in plain form; the root has none.
abbrev Key := List String

-- The directory that relative paths start from, by the key it had when it was entered. Where it has
-- been removed, nothing is found in it, whatever stands under its key later on.
structure WorkingDir where
  key  : Key := []
  -- How many directories were removed, this one and those above it.
  lost : Nat := 0
deriving DecidableEq

-- What becomes of it when a key is removed.
def WorkingDir.without (w : WorkingDir) (k : Key) : WorkingDir :=
  if k.isPrefixOf w.key then { w with lost := max w.lost (w.key.length + 1 - k.length) } else w

-- `entries` lists every file and directory but the root, each key once, in no particular order.
structure Disk where
  entries    : List (Key × Node)
  workingDir : WorkingDir := {}
  home       : String     := ""

namespace Disk

inductive Fault
  | notFound
  | alreadyExists
  | notDirectory
  | isDirectory
  -- No name has a zero character or half of a surrogate pair, so a path with one is refused before it
  -- is followed.
  | zeroCharacter
  | unencodable
deriving DecidableEq

def node? (d : Disk) (k : Key) : Option Node :=
  if k = [] then some .dir else (d.entries.find? (·.1 = k)).map Prod.snd

def set (d : Disk) (k : Key) (n : Node) : Disk :=
  { d with entries := (k, n) :: d.entries.filter (·.1 ≠ k) }

-- Removes a key and all keys below it.
def eraseBelow (d : Disk) (k : Key) : Disk :=
  { d with
    entries    := d.entries.filter fun e => !k.isPrefixOf e.1
    workingDir := d.workingDir.without k }

def follow (d : Disk) : Key → List String → Except Fault Key
  | k, []           => .ok k
  | k, part :: rest =>
    match d.node? k with
    | none           => .error .notFound
    | some (.file ..) => .error .notDirectory
    | some .dir      => d.follow (if part = ".." then k.dropLast else k ++ [part]) rest

-- Follows a path from a directory. Of those that were removed only the one above them is reached.
def climb (d : Disk) : Nat → Key → List String → Except Fault Key
  | 0,        k, parts        => d.follow k parts
  | _ + 1,    _, []           => .error .notFound
  | lost + 1, k, part :: rest =>
    if part = ".." && (lost ≠ 0 || d.node? k.dropLast = some .dir) then d.climb lost k.dropLast rest
    else .error .notFound

def isUnencodable (part : String) : Bool :=
  !(Path.pointsOf part).all Text.Point.isEncodable

def hasZeroCharacter (part : String) : Bool :=
  (Path.pointsOf part).contains (.char '\x00')

def isRefused (part : String) : Bool :=
  isUnencodable part || hasZeroCharacter part

def refuses (p : Path) : Bool :=
  p.parts.any isRefused

-- The fault of a path that is refused. Halves are found first.
def refusal (p : Path) : Fault :=
  if p.parts.any isUnencodable then .unencodable else .zeroCharacter

-- Where a path starts from.
def origin (d : Disk) (p : Path) : WorkingDir :=
  if p.isAbsolute then {} else d.workingDir

def locate (d : Disk) (p : Path) : Except Fault Key :=
  if refuses p then .error (refusal p)
  else d.climb (d.origin p).lost (d.origin p).key p.parts

def stat (d : Disk) (p : Path) : Except Fault Node := do
  let k ← d.locate p
  match d.node? k with
  | some n => return n
  | none   => .error .notFound

def has (d : Disk) (p : Path) : Bool :=
  match d.stat p with
  | .ok _    => true
  | .error _ => false

def isDir (d : Disk) (p : Path) : Bool :=
  match d.stat p with
  | .ok .dir => true
  | _        => false

def isFile (d : Disk) (p : Path) : Bool :=
  match d.stat p with
  | .ok (.file ..) => true
  | _              => false

def readBytes (d : Disk) (p : Path) : Except Fault Bytes := do
  match ← d.stat p with
  | .file content _ => return content
  | .dir            => .error .isDirectory

def writeBytes (d : Disk) (p : Path) (content : Bytes) (now : Int) : Except Fault Disk := do
  let k ← d.locate p
  match d.node? k with
  | some .dir => .error .isDirectory
  | _         => return d.set k (.file content now)

def makeDir (d : Disk) (p : Path) : Except Fault Disk := do
  let k ← d.locate p
  match d.node? k with
  | some _ => .error .alreadyExists
  | none   => return d.set k .dir

-- Makes a directory and those above it that are missing; one that stands already is kept.
-- A fault comes with the path it arose at.
def makeDirs (d : Disk) (p : Path) : Except (Fault × Path) Disk :=
  go p.parts.reverse
where
  -- The components in reverse order, so that the parent is the tail.
  go : List String → Except (Fault × Path) Disk
    -- A working directory that was removed counts as one that stands.
    | [] => if (d.origin p).lost = 0 then ensure d ⟨p.anchor, []⟩ else .ok d
    | part :: above =>
      let q : Path := ⟨p.anchor, (part :: above).reverse⟩
      match d.makeDir q with
      | .error .notFound => do ensure (← go above) q
      | _                => ensure d q
  ensure (d : Disk) (q : Path) : Except (Fault × Path) Disk :=
    match d.makeDir q with
    | .ok d    => .ok d
    | .error f => if d.isDir q then .ok d else .error (f, q)

def removeTree (d : Disk) (p : Path) : Except Fault Disk := do
  match ← d.stat p with
  | .file .. => .error .notDirectory
  | .dir     => return d.eraseBelow (← d.locate p)

-- What stands directly in a directory, by ascending name.
def children (d : Disk) (k : Key) : List (String × Node) :=
  sortBy (fun a b => a.1 ≤ b.1) <| d.entries.filterMap fun (key, n) =>
    match key.getLast? with
    | some name => if key.dropLast = k then some (name, n) else none
    | none      => none

def list (d : Disk) (p : Path) : List (String × Node) :=
  match d.locate p with
  | .ok k    => d.children k
  | .error _ => []

-- The files whose content differs from what `before` holds, and those that it alone holds.
def changedSince (d before : Disk) : List (Key × Bytes) :=
  d.entries.filterMap fun (k, n) =>
    match n, before.node? k with
    | .dir, _              => none
    | .file c _, some (.file c' _) => if c = c' then none else some (k, c)
    | .file c _, _         => some (k, c)

def removedSince (d before : Disk) : List Key :=
  before.entries.filterMap fun (k, n) =>
    match n, d.node? k with
    | .file .., some (.file ..) => none
    | .file .., _               => some k
    | .dir, _                   => none

end Disk

end TypedResources
