import TypedResources.Failure
import TypedResources.Log

-- The two ways in which an operation meets the world. A query looks at the disk and cannot change
-- it; an action can. Both may fail, and what was logged or written before a failure stays.

namespace TypedResources

abbrev Query := ReaderT Disk (ExceptT Failure (StateM Log))

-- The disk, the records made so far, and the time that all that is written bears.
structure Session where
  disk      : Disk
  log       : Log    := []
  -- Nanoseconds since the epoch.
  time      : Int    := 0
  -- The time as it is written in reports, in cache records and in transcripts.
  date      : String := ""
  stamp     : String := ""
  lineStamp : String := ""

abbrev Action := ExceptT Failure (StateM Session)

def Query.log (level : Level) (component : Component) (message : String) : Query Unit :=
  modifyThe Log (· ++ [⟨level, component, message⟩])

def Action.log (level : Level) (component : Component) (message : String) : Action Unit :=
  modifyThe Session fun s => { s with log := s.log ++ [⟨level, component, message⟩] }

-- The outcome of a query on a disk, with the records it adds to a log.
def Query.outcome {α : Type} (q : Query α) (d : Disk) (log : Log) : Except Failure α × Log :=
  ((q.run d).run).run log

def Action.outcome {α : Type} (a : Action α) (s : Session) : Except Failure α × Session :=
  a.run.run s

def Query.toAction {α : Type} (q : Query α) : Action α :=
  ExceptT.mk fun s =>
    let (r, log) := q.outcome s.disk s.log
    (r, { s with log := log })

instance : MonadLift Query Action := ⟨Query.toAction⟩

namespace Action

def disk : Action Disk := do
  return (← getThe Session).disk

def setDisk (d : Disk) : Action Unit :=
  modifyThe Session ({ · with disk := d })

def ofExcept {α : Type} : Except Failure α → Action α
  | .ok a    => return a
  | .error f => throw f

-- Makes a directory and those above it that are missing.
def makeDirs (p : Path) : Action Unit := do
  match (← disk).makeDirs p with
  | .ok d         => setDisk d
  | .error (f, q) => throw (.disk f q)

-- Writes a file in a directory that exists already.
def writeText (p : Path) (text : List Char) : Action Unit := do
  let s ← getThe Session
  setDisk (← ofExcept (diskFailure p (s.disk.writeBytes p (Text.Utf8.encode text) s.time)))

-- Writes a file, and makes the directories above it that are missing.
def writeBelow (p : Path) (text : List Char) : Action Unit := do
  makeDirs p.parent
  writeText p text

def removeTree (p : Path) : Action Unit := do
  setDisk (← ofExcept (diskFailure p ((← disk).removeTree p)))

end Action

end TypedResources
