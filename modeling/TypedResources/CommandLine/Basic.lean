import TypedResources.CommandLine.Grammar
import TypedResources.Generate
import TypedResources.Migration.Basic

-- Carrying a command line out. Failures of the program's own and those of the disk end it with a
-- message and an exit code; the few others are passed on.

namespace TypedResources.CommandLine

-- What a command line comes to: its exit code, and what it shows.
structure Outcome where
  code   : Nat
  output : String := ""
  error  : String := ""
deriving DecidableEq

def Stop.outcome : Stop → Outcome
  | help g          => ⟨0, g.usage ++ g.help, ""⟩
  | wrong g message => ⟨2, "", g.usage ++ g.program ++ ": error: " ++ message ++ "\n"⟩

-- How a failure is met: with a message and the exit code 1, or not at all.
abbrev Handler := Failure → Option String

-- The failure's own wording.
def plainly (f : Failure) : String :=
  f.message ++ "\n"

def troubled (command : Command) (f : Failure) : String :=
  "resourcegen " ++ command.name ++ " failed: " ++ f.message ++ "\nRun with --verbose for more details.\n"

def isSystem : Failure → Bool
  | .disk fault _ => fault.isSystem
  | _             => false

def onTranscript (p : Path) : Handler := fun f =>
  if isSystem f then some ("Cannot open log file " ++ p.toString ++ ": " ++ plainly f) else none

def onSettings : Handler
  | .badSettings .malformed => some (plainly (.badSettings .malformed))
  | .settingsNoMapping      => some (plainly .settingsNoMapping)
  | _                       => none

def onGenerate : Handler
  | .noNamespace module     => some (plainly (.noNamespace module))
  | .badDocument path fault => some (plainly (.badDocument path fault))
  | f                       => if isSystem f then some (troubled .generate f) else none

def onMigrate : Handler
  | .disk .notFound path      => some (plainly (.disk .notFound path))
  | .noSourceDirectory roots  => some (plainly (.noSourceDirectory roots))
  | .unconfirmed              => some (plainly .unconfirmed)
  | f                         => if isSystem f then some (troubled .migrate f) else none

-- A run that ends early, with what it has shown so far.
abbrev Guarded := ExceptT String Action

def guarded {α : Type} (h : Handler) (a : Action α) : Guarded α :=
  ExceptT.mk do
    try return .ok (← a)
    catch f => match h f with
      | some message => return .error message
      | none         => throw f

-- A path as the user wrote it.
def userPath (text : String) : Action Path := do
  Action.ofExcept (Settings.expandHome (← Action.disk) (Path.ofString text))

def userPlainPath (text : String) : Action Path := do
  Action.ofExcept (Settings.plainPath (← Action.disk) (← userPath text))

-- A path below the working directory is shown from there.
def shown (here p : Path) : String :=
  match Path.relativeTo? here (Path.resolve here p) with
  | some q => q.toString
  | none   => p.toString

def transcriptOf (a : Arguments) : Action (Option Path) :=
  if a.logFile = "" then return none else some <$> userPath a.logFile

def projectRootOf (a : Arguments) (s : Settings) : Action (Option Path) :=
  if a.projectRoot = "" then return s.projectRoot else some <$> userPlainPath a.projectRoot

def outputOf (a : Arguments) (s : Settings) : Action Path :=
  if a.output = "" then return Generate.outputOf s else userPath a.output

-- The settings as the options change them.
def adapt (a : Arguments) (s : Settings) : Settings :=
  { s with generation := { s.generation with
    cache  := s.generation.cache && !a.noCache
    strict := s.generation.strict && !a.lenient } }

def generate (a : Arguments) (s : Settings) (module : Path) : Guarded String := do
  let output ← outputOf a s
  let made ← guarded onGenerate (Generate.run (adapt a s) module output)
  -- A run can remove the working directory together with a cached class.
  let here ← (do Action.ofExcept (← Action.disk).here : Action _)
  let head := if made.fromCache then "ResourceManager up to date at " ++ shown here made.path ++ " (cached)\n"
    else "ResourceManager generated at " ++ shown here made.path ++ "\n"
  return head ++ String.join (made.skipped.map fun doc =>
    "Skipped malformed document: " ++ shown here doc.path ++ "\n")

def migrate (a : Arguments) (s : Settings) (module : Path) : Guarded String := do
  if !a.confirm then
    throw ("Migration rewrites source files in place. Commit or back up your work, " ++
      "then re-run with --confirm.\n")
  let m : Migration := ⟨module, s.effectiveProjectRoot, s⟩
  let done ← guarded onMigrate (m.run true).toAction
  return "Modified " ++ toString done.files.length ++ " file(s) with a total of " ++
    toString (totalChanges done.files) ++ " change(s).\nReport: " ++ m.reportUri (← Action.disk) ++ "\n"

def perform (c : Command) (a : Arguments) : Guarded String := do
  let module ← userPlainPath a.module
  let s ← guarded onSettings (do Action.ofExcept (Settings.load (← Action.disk) module))
  let projectRoot ← projectRootOf a s
  let s := { s with projectRoot := projectRoot }
  match c with
  | .generate => generate a s module
  | .migrate  => migrate a s module

-- The file that a transcript is written to, wherever its path is read from.
def transcriptFile (d : Disk) (p : Path) : Path :=
  Path.resolve ⟨.root, d.workingDir.key⟩ p

-- Makes an empty transcript. One on a relative path is lost where there is no working directory.
def openTranscript (p : Path) : Action Unit := do
  Action.makeDirs p.parent
  let d ← Action.disk
  if !p.isAbsolute then
    let _ ← Action.ofExcept d.here
  Action.writeText (transcriptFile d p) []

-- Writes all records to the transcript, if it is still there, even when the run fails.
def withTranscript {α : Type} (p : Path) (a : Action α) : Action α :=
  ExceptT.mk fun s =>
    let (r, s) := a.run.run s
    let file := transcriptFile s.disk p
    let text := Text.Utf8.encode (Logging.transcript s.lineStamp s.log).toList
    match if s.disk.isFile file then s.disk.writeBytes file text s.time else .error .notFound with
    | .ok d    => (r, { s with disk := d })
    | .error _ => (r, s)

def transcribed {α : Type} (p : Option Path) (a : Action α) : Action α :=
  match p with
  | some p => withTranscript p a
  | none   => a

-- What a command comes to, with the records of it that the console shows.
def conclude (logging : Logging) (result : Except String String) : Action Outcome := do
  let console := logging.console (← getThe Session).log
  match result with
  | .ok output     => return ⟨0, output, console⟩
  | .error message => return ⟨1, "", console ++ message⟩

-- Carries out a command that was read.
def carryOut (c : Command) (a : Arguments) : Action Outcome := do
  let logFile ← transcriptOf a
  match ← (logFile.forM fun p => guarded (onTranscript p) (openTranscript p)).run with
  | .error message => return ⟨1, "", message⟩
  | .ok ()         => conclude ⟨a.verbose, logFile.isSome⟩ (← transcribed logFile (perform c a).run)

def run (words : List String) : Action Outcome :=
  match readArguments words with
  | .error stop => return stop.outcome
  | .ok (c, a)  => carryOut c a

end TypedResources.CommandLine
