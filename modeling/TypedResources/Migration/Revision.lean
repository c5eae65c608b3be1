import TypedResources.Migration.Target
import TypedResources.Report
import TypedResources.Sorting

-- The revision of the source text of one file. Import lines are read and kept, and the other lines go
-- through the shapes of calls one after another, so that each shape meets what the ones before it
-- have left. A file that was changed and that imports a resource class gets an import of the
-- generated class behind it.

namespace TypedResources.Migration

-- What became of a call or of the imports, with the number of the line.
inductive Event
  | replaced (line : Nat) (before after : String)
  | skipped (line : Nat) (reference : String) (refusal : Refusal)
  | imported (line : Nat) (before added : String)
deriving DecidableEq

def Event.change? : Event → Option Change
  | replaced line before after => some ⟨line, before, after⟩
  | skipped ..                 => none
  | imported line before added => some ⟨line, before, before ++ "\n" ++ added⟩

-- What is told about an event in a file.
def Event.message (file : String) : Event → String
  | replaced line before after =>
    "Updated: " ++ file ++ ":" ++ toString line ++ ": " ++ before ++ " -> " ++ after
  | skipped line reference refusal =>
    "Skipped: " ++ file ++ ":" ++ toString line ++ ": " ++ refusal.message reference
  | imported line _ added =>
    "Updated: " ++ file ++ ":" ++ toString line ++ ": added " ++ added

def migrateCall (k : Knowledge) (imported : Option String) (line : Nat) (c : Call) : List Char × Event :=
  match resolve k imported c with
  | .error refusal => (c.text, .skipped line c.key refusal)
  | .ok target     =>
    let replacement := target.call (String.ofList c.arguments)
    (replacement.toList, .replaced line (String.ofList c.text) replacement)

def migratePiece (k : Knowledge) (imported : Option String) (line : Nat) (shape : Call.Shape) :
    Piece Call.Slot → List Char × List Event
  | .plain c => ([c], [])
  | .found o =>
    let (text, event) := migrateCall k imported line (Call.ofOccurrence shape o)
    (text, [event])

-- Replaces the calls of one shape.
def migrateShape (k : Knowledge) (imported : Option String) (line : Nat) (body : List Char)
    (shape : Call.Shape) : List Char × List Event :=
  let pieces := (shape.pattern.cut body).map (migratePiece k imported line shape)
  (pieces.flatMap Prod.fst, pieces.flatMap Prod.snd)

-- Replaces the calls of all shapes.
def migrateBody (k : Knowledge) (imported : Option String) (line : Nat) (body : List Char) :
    List Char × List Event :=
  Call.shapes.foldl (fun (body, events) shape =>
    let (body, more) := migrateShape k imported line body shape
    (body, events ++ more)) (body, [])

-- The parts of the name that a line imports, if it is an import and nothing else.
def importedName? (body : List Char) : Option (List (List Char)) :=
  let line := Text.trimStart body
  let rest := line.drop "import".length
  let name := Text.trimStart rest
  let path := name.takeWhile fun c => Text.isWord c || c = '.'
  let tail := Text.trim (name.drop path.length)
  let parts := Text.splitAll (· = '.') path
  if "import".toList.isPrefixOf line && (rest.head?.map Text.isBlank).getD false &&
      (tail = [] || tail = [';']) && !parts.contains [] then some parts
  else none

inductive Import
  -- The resource class of a package.
  | resources (package : String)
  | accessors
deriving DecidableEq

def import? (body : List Char) : Option Import := do
  let parts ← importedName? body
  let last ← parts.getLast?
  if last = ['R'] && 2 ≤ parts.length then
    return .resources (String.ofList (List.intercalate ['.'] parts.dropLast))
  else if last = accessorClass.toList then return .accessors
  else none

-- What the lines so far have brought. `imported` is the package of the last import of a resource
-- class, and the number of lines before it.
structure Revision where
  lines        : List Text.Line          := []
  events       : List Event              := []
  imported     : Option (String × Nat)   := none
  hasAccessors : Bool                    := false
deriving DecidableEq

def Revision.addLine (k : Knowledge) (r : Revision) (line : Text.Line) : Revision :=
  let keep := { r with lines := r.lines ++ [line] }
  match import? line.body with
  | some (.resources package) => { keep with imported := some (package, r.lines.length) }
  | some .accessors           => { keep with hasAccessors := true }
  | none                      =>
    let (body, events) := migrateBody k (r.imported.map Prod.fst) (r.lines.length + 1) line.body
    { r with lines := r.lines ++ [⟨body, line.ending⟩], events := r.events ++ events }

def Revision.changes (r : Revision) : List Change :=
  r.events.filterMap Event.change?

-- The import of the generated class, indented like the line it follows.
def accessorImport (k : Knowledge) (isJava : Bool) (like : List Char) : List Char :=
  like.takeWhile Text.isBlank ++
    ("import " ++ k.package ++ "." ++ accessorClass ++ (if isJava then ";" else "")).toList

-- Adds the import behind the import of a resource class. Both lines have the same ending.
def Revision.addImport (k : Knowledge) (isJava : Bool) (index : Nat) (r : Revision) : Revision :=
  match r.lines[index]? with
  | none      => r
  | some line =>
    let ending := if line.ending = [] then ['\n'] else line.ending
    let added  := accessorImport k isJava line.body
    { r with
      lines  := r.lines.take index ++ [⟨line.body, ending⟩, ⟨added, ending⟩] ++ r.lines.drop (index + 1)
      events := r.events ++
        [.imported (index + 1) (String.ofList (Text.trim line.body)) (String.ofList (Text.trim added))] }

-- A file that was not changed gets no import.
def Revision.finish (k : Knowledge) (isJava : Bool) (r : Revision) : Revision :=
  match r.imported with
  | some (_, index) => if r.changes.isEmpty || r.hasAccessors then r else r.addImport k isJava index
  | none            => r

def revise (k : Knowledge) (isJava : Bool) (text : List Char) : Revision :=
  (((Text.splitLines text).map Text.Line.ofList).foldl (Revision.addLine k) {}).finish k isJava

def Revision.text (r : Revision) : List Char :=
  r.lines.flatMap Text.Line.toList

-- The changes by ascending line, those of one line in the order in which they were made.
def Revision.sortedChanges (r : Revision) : List Change :=
  sortBy (fun a b => a.line ≤ b.line) r.changes

end TypedResources.Migration
