import TypedResources.Text.Lines
import TypedResources.Xml.Source

-- The tokens of element content: text, references, tags and what is passed over. Every scanner takes
-- the reason `stop` why its text ends, and returns what it read and what is left.

namespace TypedResources.Xml

-- What was read, and what is left of the text.
abbrev Scanned (α : Type) := α × List Char

-- A piece of an attribute value or of an entity: a character, or a reference that stands for some.
inductive Part
  | char (c : Char)
  | number (code : Nat)
  | entity (name : List Char)
deriving DecidableEq

structure Tag where
  name       : List Char
  attributes : List (List Char × List Part)
  isEmpty    : Bool
deriving DecidableEq

inductive Token
  | text (s : List Char)
  | number (code : Nat)
  | entity (name : List Char)
  | startTag (tag : Tag)
  | endTag (name : List Char)
  -- A comment or a processing instruction.
  | ignored
deriving DecidableEq

def expect (c : Char) (stop : Stop) : List Char → Except Fault (Scanned Unit)
  | []     => .error (stop.fault false)
  | d :: t => if c = d then .ok ((), t) else .error .invalidToken

def skipSpace (s : List Char) : List Char :=
  s.dropWhile isSpace

-- A name without a colon.
def scanName (stop : Stop) : List Char → Except Fault (Scanned (List Char))
  | []     => .error (stop.fault true)
  | c :: t => if isNameStart c then .ok (c :: t.takeWhile isNameChar, t.dropWhile isNameChar)
              else .error .invalidToken

-- A name, and a second one behind a colon if there is one.
def scanQName (stop : Stop) (s : List Char) : Except Fault (Scanned (List Char)) := do
  let (first, s) ← scanName stop s
  match s with
  | ':' :: s =>
    let (second, s) ← scanName stop s
    match s with
    | ':' :: _ => .error .invalidToken
    | _        => .ok (first ++ ':' :: second, s)
  | _ => .ok (first, s)

def hexDigit? (c : Char) : Option Nat :=
  if '0' ≤ c && c ≤ '9' then some (c.toNat - '0'.toNat)
  else if 'a' ≤ c && c ≤ 'f' then some (c.toNat - 'a'.toNat + 10)
  else if 'A' ≤ c && c ≤ 'F' then some (c.toNat - 'A'.toNat + 10)
  else none

def digitIn (base : Nat) (c : Char) : Option Nat :=
  (hexDigit? c).filter (· < base)

def scanNumber (base : Nat) (stop : Stop) (s : List Char) : Except Fault (Scanned Part) :=
  let isDigit : Char → Bool := fun c => (digitIn base c).isSome
  let digits  := s.takeWhile isDigit
  match s.dropWhile isDigit with
  | []       => .error (stop.fault false)
  | ';' :: t =>
    if digits.isEmpty then .error .invalidToken
    else .ok (.number (digits.foldl (fun n c => n * base + (digitIn base c).getD 0) 0), t)
  | _        => .error .invalidToken

-- What follows an ampersand.
def scanReference (stop : Stop) : List Char → Except Fault (Scanned Part)
  | '#' :: 'x' :: s => scanNumber 16 stop s
  | '#' :: s        => scanNumber 10 stop s
  | s               => do
    let (name, s) ← scanName stop s
    match s with
    | []       => .error (stop.fault true)
    | ';' :: s => .ok (.entity name, s)
    | _        => .error .invalidToken

-- The parts of a text up to a closing quote, or to its end if there is no quote to close.
-- `fuel` bounds their number.
def scanParts (quote : Option Char) (stop : Stop) : Nat → List Char → Except Fault (Scanned (List Part))
  | 0,        s  => .ok ([], s)
  | _ + 1,    [] => if quote.isSome then .error (stop.fault true) else .ok ([], [])
  | fuel + 1, c :: s =>
    if quote = some c then .ok ([], s)
    else if c = '<' then .error .invalidToken
    else if c = '&' then do
      let (part, s)  ← scanReference stop s
      let (parts, s) ← scanParts quote stop fuel s
      return (part :: parts, s)
    else do
      let (parts, s) ← scanParts quote stop fuel s
      return (.char c :: parts, s)

-- One attribute, from its name to the quote that closes its value.
def scanAttribute (stop : Stop) (s : List Char) : Except Fault (Scanned (List Char × List Part)) := do
  let (name, s) ← scanQName stop s
  if s = [] then .error (stop.fault true)
  let ((), s) ← expect '=' stop (skipSpace s)
  match skipSpace s with
  | []     => .error (stop.fault false)
  | q :: s =>
    if q = '"' || q = '\'' then do
      let (parts, s) ← scanParts (some q) stop (s.length + 1) s
      return ((name, parts), s)
    else .error .invalidToken

-- The attributes of a tag and its end, which tells whether the element is empty. An attribute
-- has white space before it. `fuel` bounds the number of attributes.
def scanAttributes (stop : Stop) : Nat → List Char → Except Fault (Scanned (List (List Char × List Part) × Bool))
  | 0,        _ => .error .invalidToken
  | fuel + 1, s =>
    match s with
    | []       => .error (stop.fault true)
    | '>' :: t => .ok (([], false), t)
    | '/' :: t => do
      let ((), t) ← expect '>' stop t
      return (([], true), t)
    | c :: _   =>
      if !isSpace c then .error .invalidToken
      else match skipSpace s with
        | []     => .error (stop.fault true)
        | d :: t =>
          if d = '>' || d = '/' then scanAttributes stop fuel (d :: t)
          else do
            let (a, s) ← scanAttribute stop (d :: t)
            -- Behind a quote, unlike behind a name, no character beyond ASCII is looked for.
            if s = [] then .error (stop.fault false)
            let ((as, isEmpty), s) ← scanAttributes stop fuel s
            return ((a :: as, isEmpty), s)

def scanStartTag (stop : Stop) (s : List Char) : Except Fault (Scanned Tag) := do
  let (name, s) ← scanQName stop s
  let ((attributes, isEmpty), s) ← scanAttributes stop (s.length + 1) s
  return (⟨name, attributes, isEmpty⟩, s)

-- What follows `</`. Colons are not checked here, since the name has to match one that was.
def scanEndTag (stop : Stop) : List Char → Except Fault (Scanned (List Char))
  | []     => .error (stop.fault true)
  | c :: t =>
    let isRest : Char → Bool := fun c => isNameChar c || c = ':'
    if !isNameStart c then .error .invalidToken
    else
      let name := c :: t.takeWhile isRest
      match t.dropWhile isRest with
      | []     => .error (stop.fault true)
      | d :: t =>
        if d = '>' then .ok (name, t)
        else if isSpace d then
          match skipSpace t with
          | []       => .error (stop.fault false)
          | '>' :: t => .ok (name, t)
          | _        => .error .invalidToken
        else .error .invalidToken

-- What follows `<!-`.
def scanComment (stop : Stop) (s : List Char) : Except Fault (Scanned Unit) := do
  let ((), s) ← expect '-' stop s
  go s
where
  go : List Char → Except Fault (Scanned Unit)
    | []                    => .error (stop.fault true)
    | '-' :: '-' :: '>' :: t => .ok ((), t)
    | ['-', '-']            => .error (stop.fault false)
    | '-' :: '-' :: _       => .error .invalidToken
    | ['-']                 => .error (stop.fault true)
    | _ :: t                => go t

-- A processing instruction: its target, and what stands between it and the end mark.
structure Instruction where
  target : List Char
  body   : List Char
deriving DecidableEq

-- What follows `<?`. The target `xml` is written in lower case only.
def scanInstruction (stop : Stop) (s : List Char) : Except Fault (Scanned Instruction) := do
  let (target, s) ← scanName stop s
  if s = [] then .error (stop.fault true)
  if target.map Char.toLower = ['x', 'm', 'l'] && target ≠ ['x', 'm', 'l'] then .error .invalidToken
  match s with
  | '?' :: s =>
    let ((), s) ← expect '>' stop s
    return (⟨target, []⟩, s)
  | c :: _   =>
    if !isSpace c then .error .invalidToken
    else
      let (body, s) ← go s
      return (⟨target, body⟩, s)
  | []       => .error (stop.fault true)
where
  go : List Char → Except Fault (Scanned (List Char))
    | []              => .error (stop.fault true)
    | '?' :: '>' :: t => .ok ([], t)
    | ['?']           => .error (stop.fault true)
    | c :: t          => do
      let (body, t) ← go t
      return (c :: body, t)

-- What follows `<![`: the keyword, and a text that no markup interrupts.
def scanCharacterData (stop : Stop) (s : List Char) : Except Fault (Scanned (List Char)) :=
  let keyword := "CDATA[".toList
  if (String.ofList (s.take 6)).utf8ByteSize < 6 then .error (stop.fault false)
  else if s.take 6 ≠ keyword then .error .invalidToken
  else do
    let (body, s) ← go (s.drop 6)
    return (Text.unifyNewlines body, s)
where
  go : List Char → Except Fault (Scanned (List Char))
    | []                     =>
      match stop with
      | .invalid => .error .invalidToken
      | .cut     => .error .partialCharacter
      | _        => .error .unclosedCharacterData
    | ']' :: ']' :: '>' :: t => .ok ([], t)
    | c :: t                 => do
      let (body, t) ← go t
      return (c :: body, t)

-- Text up to the next markup. The end mark of character data does not occur in it.
def takeText : List Char → List Char
  | []                     => []
  | ']' :: ']' :: '>' :: _ => []
  | c :: t                 => if c = '<' || c = '&' then [] else c :: takeText t

-- The token at the head of a text that is not empty.
def scanToken (stop : Stop) : List Char → Except Fault (Scanned Token)
  | '<' :: '!' :: '-' :: s => do
    let ((), s) ← scanComment stop s
    return (.ignored, s)
  | '<' :: '!' :: '[' :: s => do
    let (text, s) ← scanCharacterData stop s
    return (.text text, s)
  | '<' :: '!' :: s        => .error (if s = [] then stop.fault false else .invalidToken)
  | '<' :: '?' :: s        => do
    let (pi, s) ← scanInstruction stop s
    if pi.target = ['x', 'm', 'l'] then .error .misplacedDeclaration
    return (.ignored, s)
  | '<' :: '/' :: s        => do
    let (name, s) ← scanEndTag stop s
    return (.endTag name, s)
  | '<' :: s               => do
    let (tag, s) ← scanStartTag stop s
    return (.startTag tag, s)
  | '&' :: s               => do
    let (part, s) ← scanReference stop s
    match part with
    | .number n    => return (.number n, s)
    | .entity name => return (.entity name, s)
    | .char c      => return (.text [c], s)
  | s                      =>
    let text := takeText s
    if text = [] then .error .invalidToken else .ok (.text (Text.unifyNewlines text), s.drop text.length)

end TypedResources.Xml
