-- Removing comments from the lines of a build file. The scanner remembers one thing from line to
-- line, whether a block comment is open; a string literal ends with its line.

namespace TypedResources.BuildFile

-- Where the scanner stands between two characters.
inductive Scan
  | code
  | quoted (quote : Char)
  | block
deriving DecidableEq

-- The code of one line, and whether a block comment is still open at its end.
def stripLine : Scan → List Char → List Char × Bool
  | .block,    '*' :: '/' :: t => stripLine .code t
  | .block,    _ :: t          => stripLine .block t
  | .block,    []              => ([], true)
  | .code,     '/' :: '/' :: _ => ([], false)
  | .code,     '/' :: '*' :: t => stripLine .block t
  | .code,     c :: t          =>
    let r := stripLine (if c = '"' || c = '\'' then .quoted c else .code) t
    (c :: r.1, r.2)
  | .quoted q, '\\' :: d :: t  =>
    let r := stripLine (.quoted q) t
    ('\\' :: d :: r.1, r.2)
  | .quoted q, c :: t          =>
    let r := stripLine (if c = q then .code else .quoted q) t
    (c :: r.1, r.2)
  | .code,     []              => ([], false)
  | .quoted _, []              => ([], false)

def stripLines (inBlock : Bool) : List (List Char) → List (List Char)
  | []           => []
  | line :: rest =>
    let r := stripLine (if inBlock then .block else .code) line
    r.1 :: stripLines r.2 rest

-- Every line with its number, counted from one, and its comments removed.
def stripComments (lines : List (List Char)) : List (Nat × List Char) :=
  ((stripLines false lines).zipIdx 1).map fun (code, n) => (n, code)

end TypedResources.BuildFile
