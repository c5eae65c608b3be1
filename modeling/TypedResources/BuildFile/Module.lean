import TypedResources.BuildFile.Comment
import TypedResources.Pattern.Search
import TypedResources.Run
import TypedResources.Text.Lines
import TypedResources.Xml.Document

-- What a module says of itself: its package, from the build file or else from the manifest, and the
-- sibling modules it depends on.

namespace TypedResources.BuildFile

open Pattern

def quote : Pattern Unit :=
  one fun c => c = '"' || c = '\''

def unquoted : Char → Bool :=
  fun c => c ≠ '"' && c ≠ '\''

def namespacePattern : Pattern Unit :=
  all [border Text.isWord, word "namespace", blanks, opt (char '='), blanks, quote,
    keep () (many1 (one unquoted)), quote]

-- The path of a module in quotes, behind a colon and free of outer white space.
def projectPath : Pattern Unit :=
  all [word "project", blanks, char '(', blanks, quote, blanks, char ':', blanks,
    keep () (seq (one unquoted) (manyLazy (one unquoted))), blanks, quote, blanks, char ')']

-- A configuration applied to a project in parentheses, and one followed by a project.
def dependencyPatterns : List (Pattern Unit) :=
  ["implementation", "api"].flatMap fun configuration =>
    [all [border Text.isWord, word configuration, blanks, char '(', blanks, projectPath, blanks, char ')'],
     all [border Text.isWord, word configuration, many1 (one Text.isBlank), projectPath]]

-- The first match of a pattern in a line, as the part it keeps.
def found? (p : Pattern Unit) (line : List Char) : Option String :=
  ((p.search? line).bind (·.get? ())).map String.ofList

def groovyFile : String := "build.gradle"
def kotlinFile : String := "build.gradle.kts"
def manifestPath : Path := ⟨.relative, ["src", "main", "AndroidManifest.xml"]⟩

-- The first of the two build files that exists, or the second if neither does.
def path (d : Disk) (module : Path) : Path :=
  if d.has (module.child groovyFile) then module.child groovyFile else module.child kotlinFile

-- The lines of a build file, as code. Bytes that are no text do no harm.
def codeLines (d : Disk) (p : Path) : Except Failure (List (List Char)) := do
  let bytes ← diskFailure p (d.readBytes p)
  let lines := (Text.splitLines (Text.Utf8.decodeLenient bytes)).map Text.withoutLineEnd
  return (stripComments lines).map Prod.snd

def warn (message : String) : Query Unit :=
  Query.log .warning .modules message

def namespaceFromBuildFile (module : Path) : Query (Option String) := do
  let d ← read
  let p := path d module
  if !d.has p then
    warn ("Failed to find build.gradle/build.gradle.kts in " ++ module.toString)
    return none
  let lines ← codeLines d p
  match lines.findSome? (found? namespacePattern) with
  | some name => return some name
  | none      =>
    warn ("Failed to find namespace in " ++ p.toString)
    return none

def namespaceFromManifest (module : Path) : Query (Option String) := do
  let d ← read
  let p := module / manifestPath
  if !d.has p then
    warn ("Failed to find AndroidManifest.xml at " ++ p.toString)
    return none
  match Xml.parse (← diskFailure p (d.readBytes p)) with
  | .error (.malformed fault) =>
    warn ("Failed to parse " ++ p.toString ++ ": " ++ fault.message)
    return none
  | .error (.unreadable reason name) => throw (.unreadableEncoding reason name)
  | .ok root =>
    let package := Text.trim (root.get "package".toList)
    if package = [] then
      warn ("Failed to find attribute `package` in " ++ p.toString)
      return none
    return some (String.ofList package)

-- The package of a module's resource class.
def namespace? (module : Path) : Query (Option String) := do
  match ← namespaceFromBuildFile module with
  | some name => return some name
  | none      => namespaceFromManifest module

-- The paths of the modules that a module depends on, in the order of its build file.
def dependencies (module : Path) : Query (List String) := do
  let d ← read
  let p := path d module
  if !d.has p then return []
  let lines ← codeLines d p
  return lines.flatMap fun line => dependencyPatterns.filterMap (found? · line)

end TypedResources.BuildFile
