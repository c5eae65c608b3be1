import TypedResources.Xml.Tree

-- From the bytes of a document to its root element. The first bytes give an encoding away, and the
-- XML declaration may name another one for all that follows it.

namespace TypedResources.Xml

-- The encoding that a declaration asks for, in a document that is being read in another one.
def Encoding.named (current : Encoding) (name : List Char) : Except Failure Encoding :=
  let standard : Option Encoding :=
    if 128 ≤ name.length then none
    else match String.ofList (name.map Char.toUpper) with
      | "ISO-8859-1" => some .latin1
      | "US-ASCII"   => some .ascii
      | "UTF-8"      => some .utf8
      | "UTF-16"     => some (if current.unitWidth = 2 then current else .utf16BE)
      | "UTF-16BE"   => some .utf16BE
      | "UTF-16LE"   => some .utf16LE
      | _            => none
  match standard with
  | some e =>
    if e.unitWidth ≠ current.unitWidth || (e.unitWidth = 2 && e ≠ current) then
      .error (.malformed .incompatibleEncoding)
    else .ok e
  | none   =>
    match charset name with
    | .ok (.page runs) => .ok (.page runs)
    | .ok .foreign     => .error (.malformed .unusableEncoding)
    | .error reason    => .error (.unreadable reason (String.ofList name))

def malformed {α : Type} : Except Fault α → Except Failure α
  | .ok a    => .ok a
  | .error f => .error (.malformed f)

def parse (bytes : Bytes) : Except Failure Node := do
  let (encoding, mark) ← malformed (Encoding.detect bytes)
  let bytes := bytes.drop mark
  let source := encoding.decode bytes
  match ← malformed (scanMark source.stop source.chars) with
  | (.declaration body, rest) =>
    let some d := declaration? body | .error (.malformed .malformedDeclaration)
    match d.encoding with
    | none      => malformed (readDocument d.standalone ⟨rest, source.stop⟩)
    | some name =>
      let read := (source.chars.length - rest.length) * encoding.unitWidth
      let encoding ← encoding.named name
      malformed (readDocument d.standalone (encoding.decode (bytes.drop read)))
  | _ => malformed (readDocument false source)

end TypedResources.Xml
