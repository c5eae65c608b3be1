import TypedResources.Failure
import TypedResources.Text.Lines

-- Files as texts, and the working directory as a path. Bytes that are no UTF-8 are a failure.

namespace TypedResources.Disk

-- A text exactly as it stands in the file.
def readRaw (d : Disk) (p : Path) : Except Failure (List Char) := do
  match Text.Utf8.decode (← diskFailure p (d.readBytes p)) with
  | .ok text => return text
  | .error e => throw (.notText e)

-- A text with line feeds for all of its line endings.
def readText (d : Disk) (p : Path) : Except Failure (List Char) :=
  (d.readRaw p).map Text.unifyNewlines

-- The working directory. One that was removed has no path, and none is told of it.
def here (d : Disk) : Except Failure Path :=
  if d.workingDir.lost = 0 then .ok ⟨.root, d.workingDir.key⟩ else .error (.disk .notFound ⟨.relative, []⟩)

end TypedResources.Disk
