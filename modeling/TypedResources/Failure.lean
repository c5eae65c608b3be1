import TypedResources.Disk.Basic
import TypedResources.Text.Utf8
import TypedResources.Xml.Fault
import TypedResources.Yaml.Fault

-- Why an operation comes to no result. A failure is a cause; its wording is in `message` alone.

namespace TypedResources

namespace Disk.Fault

-- The number and the name of a fault that is found on the disk, and not in the path as it is written.
def system? : Fault → Option (Nat × String)
  | notFound      => some (2, "No such file or directory")
  | alreadyExists => some (17, "File exists")
  | notDirectory  => some (20, "Not a directory")
  | isDirectory   => some (21, "Is a directory")
  | zeroCharacter => none
  | unencodable   => none

def isSystem (f : Fault) : Bool :=
  f.system?.isSome

-- Tells of the first half that is in no name, or of it and those behind it in a row.
def unencodableMessage (text : Text.Points) : String :=
  let start := text.findIdx (!·.isEncodable)
  let run   := (text.drop start).takeWhile Text.Point.isHalf
  let place :=
    if run.length = 1 then
      "character '" ++ Text.shown run ++ "' in position " ++ toString start
    else "characters in position " ++ toString start ++ "-" ++ toString (start + run.length - 1)
  "'utf-8' codec can't encode " ++ place ++ ": surrogates not allowed"

def message (p : Path) (f : Fault) : String :=
  match f.system? with
  | some (number, name) =>
    -- Where the working directory is missing, no path is told.
    let place := if p = ⟨.relative, []⟩ && f = notFound then "" else ": " ++ Text.quoted p.toPoints
    "[Errno " ++ toString number ++ "] " ++ name ++ place
  | none                =>
    if f = zeroCharacter then "embedded null byte" else unencodableMessage p.toPoints

end Disk.Fault

-- The name of the file that holds a module's settings.
def settingsFile : String := ".resourcegen.yml"

inductive Failure
  | disk (fault : Disk.Fault) (path : Path)
  | notText (failure : Text.Utf8.Failure)
  -- A value document is malformed.
  | badDocument (path : Path) (fault : Xml.Fault)
  -- A document is in an encoding of this name.
  | unreadableEncoding (reason : Xml.Unreadable) (name : String)
  | noSourceDirectory (roots : List Path)
  | noNamespace (module : Path)
  | badSettings (fault : Yaml.Fault)
  | settingsNoMapping
  | badNumber (fault : Numeral.Fault)
  | noSuchMoment (fault : CalendarFault)
  -- A tilde stands in front of a name that is no user's.
  | unknownHome
  | unconfirmed
deriving DecidableEq

def Failure.message : Failure → String
  | disk fault p => fault.message p
  | notText f => f.message
  | badDocument p f => "Failed to parse resource document " ++ p.toString ++ ": " ++ f.message
  | unreadableEncoding reason name => reason.message name
  | noSourceDirectory roots => "Source directory not found: " ++ ", ".intercalate (roots.map Path.toString)
  | noNamespace module =>
    "Namespace could not be found in either build.gradle, build.gradle.kts or " ++
    "AndroidManifest.xml for module at " ++ module.toString ++ ". " ++
    "Please ensure the module is properly configured."
  | badSettings .malformed =>
    "Failed to parse " ++ settingsFile ++ ": " ++ Yaml.Fault.malformed.message
  | badSettings fault => fault.message
  | settingsNoMapping => settingsFile ++ " must contain a mapping at the root"
  | badNumber fault => fault.message
  | noSuchMoment fault => fault.message
  | unknownHome => "Could not determine home directory."
  | unconfirmed =>
    "Migration modifies source files in place; re-run with confirmation " ++
    "after committing or backing up your work."

def diskFailure {α : Type} (p : Path) : Except Disk.Fault α → Except Failure α
  | .ok a    => .ok a
  | .error f => .error (.disk f p)

end TypedResources
