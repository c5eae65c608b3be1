import TypedResources.Disk.Text
import TypedResources.Json
import TypedResources.Run

-- The last generated class of a module, with a record of the newest modification time among the
-- files that it was made from. The class is up to date while that time stays what it was.

namespace TypedResources

structure Cache where
  dir      : Path
  -- The files that the cached class was made from.
  observed : List Path
deriving DecidableEq

namespace Cache

-- The cache of a module below a directory that holds those of all modules.
def ofRoot (root : Path) (module : String) (observed : List Path) : Cache :=
  ⟨root / Path.ofString module, observed⟩

def contentFile (c : Cache) : Path :=
  c.dir.child "content.kt"

def recordFile (c : Cache) : Path :=
  c.dir.child "timestamp.json"

def log (message : String) : Action Unit :=
  Action.log .debug .cache message

-- When a file was modified; nothing if there is no such file.
def modified? (d : Disk) (p : Path) : Except Failure (Option Int) :=
  match d.stat p with
  | .ok (.file _ time) => .ok (some time)
  | .ok .dir           => .ok none
  | .error .notFound   => .ok none
  | .error f           => .error (.disk f p)

-- The newest modification time among files, and zero if none exists.
def newest (d : Disk) (files : List Path) : Except Failure Int := do
  return ((← files.mapM (modified? d)).filterMap id).foldl max 0

def version : Nat := 1

def isVersion : Json.Value → Bool
  | .integer n => n = version
  | .boolean b => b.toNat = version
  | .float x   => x = Binary64.ofNat version
  | _          => false

-- The time in a record; nothing if the text is no record.
def recorded? (text : List Char) : Except Failure (Option Int) :=
  if text.head? = some '\uFEFF' then .ok none
  else match Json.read text with
    | .error .malformed  => .ok none
    | .error (.number f) => .error (.badNumber f)
    | .ok v              =>
      match v.get? "version", v.get? "most_recent_input_timestamp" with
      | some w, some (.integer time) => .ok (if isVersion w then some time else none)
      | _, _                         => .ok none

-- The time that the cached class was recorded with. A record that cannot be reached counts as
-- missing, and so does one without the class.
def stored? (d : Disk) (c : Cache) : Except Failure (Option Int) := do
  match d.readText c.recordFile with
  | .ok text                     => return (← recorded? text).filter fun _ => d.has c.contentFile
  | .error (.disk fault p)       => if fault.isSystem then return none else throw (.disk fault p)
  | .error f                     => throw f

def isUpToDate (d : Disk) (c : Cache) : Except Failure Bool := do
  match ← stored? d c with
  | none      => return false
  | some time => return time = (← newest d c.observed)

-- The cached class, up to date or not.
def content? (d : Disk) (c : Cache) : Except Failure (Option String) :=
  match d.readText c.contentFile with
  | .ok text                 => .ok (some (String.ofList text))
  | .error (.disk .notFound _) => .ok none
  | .error f                 => .error f

-- The text of a record; `stamp` says when it was written.
def record (time : Int) (stamp : String) : String :=
  "\x7b\n" ++
  "  \"most_recent_input_timestamp\": " ++ toString time ++ ",\n" ++
  "  \"updated_at\": \"" ++ stamp ++ "\",\n" ++
  "  \"version\": " ++ toString version ++ "\n" ++
  "\x7d"

-- Forgets the cached class.
def invalidate (c : Cache) : Action Unit := do
  if (← Action.disk).has c.dir then
    Action.removeTree c.dir
    log ("Cache invalidated at " ++ c.dir.toString)

-- Stores a class with the newest modification time, which it returns.
def put (c : Cache) (content : String) : Action Int := do
  let time ← Action.ofExcept (newest (← Action.disk) c.observed)
  Action.makeDirs c.dir
  Action.writeText c.contentFile content.toList
  Action.writeText c.recordFile (record time (← getThe Session).stamp).toList
  log ("Cached generated content at " ++ c.dir.toString)
  return time

end Cache

end TypedResources
