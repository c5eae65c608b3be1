import TypedResources.Xml.Value

-- What comes before the root element: the XML declaration and the document type. Its marks are told
-- apart without regard to where they stand; a mark in the wrong place is a syntax error.

namespace TypedResources.Xml

inductive Mark
  -- The document ends.
  | finish
  | space
  | comment
  | instruction
  | declaration (body : List Char)
  -- An element begins; nothing of it is read.
  | element
  | literal (text : List Char)
  | declOpen (keyword : List Char)
  | declClose
  | sectionOpen
  | sectionClose
  | bracketOpen
  | bracketClose
  | parenOpen
  -- The second field holds what stands behind the parenthesis: `*`, `?` or `+`.
  | parenClose (times : Option Char)
  | comma
  | bar
  | percent
  | parameter (name : List Char)
  | keyword (name : List Char)
  | name (text : List Char)
  | prefixedName (text : List Char)
  | timesName
  | nameToken
deriving DecidableEq

-- What a mark amounts to where it may not stand.
def Mark.fault : Mark → Fault
  | finish        => .noElement
  | parameter _   => .parameterReference
  | declaration _ => .misplacedDeclaration
  | _             => .syntaxError

def isTextEnd : Stop → Bool
  | .clean | .halfUnit => true
  | _                  => false

def scanLiteral (quote : Char) (stop : Stop) (s : List Char) :
    Except Fault (Scanned (List Char)) :=
  let text := s.takeWhile (· ≠ quote)
  match s.dropWhile (· ≠ quote) with
  | []     => .error (stop.fault true)
  | _ :: t =>
    match t with
    | []     => if isTextEnd stop then .ok (text, t) else .error .invalidToken
    | c :: _ =>
      if isSpace c || c = '>' || c = '%' || c = '[' then .ok (text, t) else .error .invalidToken

-- What follows `<!`, neither a comment nor a section.
def scanKeyword (stop : Stop) (s : List Char) : Except Fault (Scanned (List Char)) :=
  let isLetter : Char → Bool := fun c => c.isAlpha || c = '_'
  let word := s.takeWhile isLetter
  match s.dropWhile isLetter with
  | []          => .error (stop.fault false)
  | '%' :: t    =>
    match t with
    | []     => .error (stop.fault false)
    | c :: _ => if word = [] || isSpace c || c = '%' then .error .invalidToken else .ok (word, '%' :: t)
  | c :: t      => if word = [] || !isSpace c then .error .invalidToken else .ok (word, c :: t)

-- What follows a percent sign.
def scanPercent (stop : Stop) (s : List Char) : Except Fault (Scanned Mark) :=
  match s with
  | []     => .error (stop.fault true)
  | c :: _ =>
    if isSpace c || c = '%' then .ok (.percent, s)
    else do
      let (name, s) ← scanName stop s
      match s with
      | []       => .error (stop.fault true)
      | ';' :: s => return (.parameter name, s)
      | _        => .error .invalidToken

-- What follows a number sign.
def scanHash (stop : Stop) (s : List Char) : Except Fault (Scanned Mark) := do
  let (name, s) ← scanName stop s
  match s with
  | []     => if isTextEnd stop then return (.keyword name, s) else .error (stop.fault true)
  | c :: _ =>
    if isSpace c || c = ')' || c = '>' || c = '%' || c = '|' then return (.keyword name, s)
    else .error .invalidToken

def scanNameMark (stop : Stop) (s : List Char) : Except Fault (Scanned Mark) :=
  let isRest : Char → Bool := fun c => isNameChar c || c = ':'
  let text := s.takeWhile isRest
  let rest := s.dropWhile isRest
  let colons := text.count ':'
  let begins := (text.head?.map isNameStart).getD false
  let mark   :=
    if begins && colons = 0 then Mark.name text
    else if begins && colons = 1 && text.getLast? ≠ some ':' then .prefixedName text
    else .nameToken
  if text = [] then .error .invalidToken
  else match rest with
    | []     =>
      if !isTextEnd stop then .error (stop.fault true)
      else if begins && colons = 1 && text.getLast? = some ':' then .error .unclosedToken
      else .ok (mark, [])
    | c :: t =>
      if isSpace c || c = '>' || c = ')' || c = ',' || c = '|' || c = '[' || c = '%' then .ok (mark, rest)
      else if (c = '*' || c = '+' || c = '?') && mark ≠ .nameToken then .ok (.timesName, t)
      else .error .invalidToken

def scanMark (stop : Stop) : List Char → Except Fault (Scanned Mark)
  | []                     =>
    match stop with
    | .clean    => .ok (.finish, [])
    | .halfUnit => .error .unclosedToken
    | .invalid  => .error .invalidToken
    | .cut      => .error .partialCharacter
  | '"' :: s               => do
    let (text, s) ← scanLiteral '"' stop s
    return (.literal text, s)
  | '\'' :: s              => do
    let (text, s) ← scanLiteral '\'' stop s
    return (.literal text, s)
  | '<' :: '!' :: '-' :: s => do
    let ((), s) ← scanComment stop s
    return (.comment, s)
  | '<' :: '!' :: '[' :: s => .ok (.sectionOpen, s)
  | '<' :: '!' :: s        => do
    let (word, s) ← scanKeyword stop s
    return (.declOpen word, s)
  | '<' :: '?' :: s        => do
    let (pi, s) ← scanInstruction stop s
    return (if pi.target = ['x', 'm', 'l'] then .declaration pi.body else .instruction, s)
  | '<' :: s               =>
    match s with
    | []     => .error (stop.fault true)
    | c :: _ =>
      if c.isAlpha || c = '_' || 128 ≤ c.toNat then .ok (.element, '<' :: s) else .error .invalidToken
  | '%' :: s               => scanPercent stop s
  | '#' :: s               => scanHash stop s
  | ',' :: s               => .ok (.comma, s)
  | '|' :: s               => .ok (.bar, s)
  | '>' :: s               => .ok (.declClose, s)
  | '[' :: s               => .ok (.bracketOpen, s)
  | ']' :: ']' :: '>' :: s => .ok (.sectionClose, s)
  | [']', ']']             => .error .unclosedToken
  | ']' :: s               => .ok (.bracketClose, s)
  | '(' :: s               => .ok (.parenOpen, s)
  | ')' :: s               =>
    match s with
    | []     => if isTextEnd stop then .ok (.parenClose none, s) else .error .invalidToken
    | c :: t =>
      if c = '*' || c = '?' || c = '+' then .ok (.parenClose (some c), t)
      else if isSpace c || c = '>' || c = ',' || c = '|' || c = ')' then .ok (.parenClose none, s)
      else .error .invalidToken
  | c :: s                 =>
    if isSpace c then .ok (.space, skipSpace s) else scanNameMark stop (c :: s)

-- The next mark that is no space.
def nextMark (stop : Stop) (s : List Char) : Except Fault (Scanned Mark) :=
  scanMark stop (skipSpace s)

structure Declaration where
  encoding   : Option (List Char)
  standalone : Bool
deriving DecidableEq

-- One setting of the declaration: white space, a name, an equals sign and a quoted value of
-- letters, digits, dots, hyphens and low lines. Nothing is left at the end.
def scanSetting (s : List Char) : Option (Option (List Char × List Char) × List Char) :=
  match s with
  | []     => some (none, [])
  | c :: _ =>
    if !isSpace c then none
    else
      let s := skipSpace s
      if s = [] then some (none, [])
      else
        let isRest : Char → Bool := fun c => !isSpace c && c ≠ '=' && c.toNat < 128
        let name := s.takeWhile isRest
        match name, skipSpace (s.dropWhile isRest) with
        | _ :: _, '=' :: t =>
          match skipSpace t with
          | q :: t =>
            let isValue : Char → Bool := fun c => c.isAlphanum || c = '.' || c = '-' || c = '_'
            if q ≠ '"' && q ≠ '\'' then none
            else match t.dropWhile isValue with
              | r :: u => if r = q then some (some (name, t.takeWhile isValue), u) else none
              | []     => none
          | [] => none
        | _, _ => none

-- The version comes first and may be any; the encoding and the word on standing alone may follow.
def declaration? (body : List Char) : Option Declaration := do
  let (version, s) ← scanSetting body
  let (name, _) ← version
  guard (name = "version".toList)
  let (second, s) ← scanSetting s
  let some (name, value) := second | return ⟨none, false⟩
  if name = "encoding".toList then
    guard ((value.head?.map Char.isAlpha).getD false)
    let (third, s) ← scanSetting s
    let some (name, alone) := third | return ⟨some value, false⟩
    guard (name = "standalone".toList)
    return ⟨some value, ← answer alone s⟩
  else
    guard (name = "standalone".toList)
    return ⟨none, ← answer value s⟩
where
  answer (value rest : List Char) : Option Bool := do
    guard (skipSpace rest = [])
    if value = "yes".toList then return true
    guard (value = "no".toList)
    return false

-- The text of an entity: numbers are replaced, other references are kept as they are written.
def entityText (fuel : Nat) (s : List Char) : Except Fault (List Char) :=
  match fuel, s with
  | 0,        _                 => .ok []
  | _,        []                => .ok []
  | fuel + 1, '\r' :: '\n' :: t => do return '\n' :: (← entityText fuel t)
  | fuel + 1, '\r' :: t         => do return '\n' :: (← entityText fuel t)
  | _ + 1,    '%' :: t          =>
    match scanPercent .clean t with
    | .ok (.parameter _, _) => .error .parameterReference
    | _                     => .error .invalidToken
  | fuel + 1, '&' :: t          =>
    match scanReference .clean t with
    | .error _                => .error .invalidToken
    | .ok (.number n, rest)   =>
      match charOfNumber? n with
      | none   => .error .characterNumber
      | some c => do return c :: (← entityText fuel rest)
    | .ok (.entity name, rest) => do return '&' :: name ++ ';' :: (← entityText fuel rest)
    | .ok (.char c, rest)      => do return c :: (← entityText fuel rest)
  | fuel + 1, c :: t            => do return c :: (← entityText fuel t)

def isPublicIdChar (c : Char) : Bool :=
  c.isAlphanum || c = ' ' || c = '\n' || c = '\r' || "-'()+,./:=?;!*#@$_%".toList.contains c

def checkPublicId (s : List Char) : Except Fault Unit :=
  if s.all isPublicIdChar then .ok () else .error .publicId

def scanLiteralMark (stop : Stop) (s : List Char) : Except Fault (Scanned (List Char)) := do
  match ← nextMark stop s with
  | (.literal text, s) => return (text, s)
  | (m, _)             => .error m.fault

def scanDeclClose (stop : Stop) (s : List Char) : Except Fault (List Char) := do
  match ← nextMark stop s with
  | (.declClose, s) => return s
  | (m, _)          => .error m.fault

-- The identifier of something outside, behind the keyword `SYSTEM` or `PUBLIC`.
def scanExternalId (stop : Stop) (keyword : List Char) (s : List Char) : Except Fault (List Char) := do
  if keyword = "SYSTEM".toList then
    let (_, s) ← scanLiteralMark stop s
    return s
  else if keyword = "PUBLIC".toList then
    let (id, s) ← scanLiteralMark stop s
    checkPublicId id
    let (_, s) ← scanLiteralMark stop s
    return s
  else .error .syntaxError

namespace Doctype

def addEntity (d : Doctype) (e : Entity) : Doctype :=
  if d.isKept && (predefined? e.name).isNone && (d.entity? e.name).isNone then
    { d with entities := d.entities ++ [e] }
  else d

-- A value, or the lack of one, that is declared for an attribute.
def addRule (d : Doctype) (r : AttributeRule) : Doctype :=
  if !d.isKept || (r.default?.isSome && (d.rulesOf r.element).any (·.name = r.name)) then d
  else { d with attributes := d.attributes ++ [r] }

-- What follows `<!ENTITY`.
def scanEntity (d : Doctype) (stop : Stop) (s : List Char) : Except Fault (Scanned Doctype) := do
  match ← nextMark stop s with
  | (.percent, s) =>
    match ← nextMark stop s with
    | (.name _, s) => do
      match ← nextMark stop s with
      | (.literal text, s) =>
        if d.isKept then let _ ← entityText (text.length + 1) text
        return (d, ← scanDeclClose stop s)
      | (.name keyword, s) => return (d, ← scanDeclClose stop (← scanExternalId stop keyword s))
      | (m, _) => .error m.fault
    | (m, _) => .error m.fault
  | (.name name, s) =>
    match ← nextMark stop s with
    | (.literal text, s) =>
      let text ← if d.isKept then entityText (text.length + 1) text else pure text
      let d := d.addEntity ⟨name, some text, false⟩
      return (d, ← scanDeclClose stop s)
    | (.name keyword, s) => do
      let s ← scanExternalId stop keyword s
      match ← nextMark stop s with
      | (.declClose, s) => return (d.addEntity ⟨name, none, false⟩, s)
      | (.name ndata, s) =>
        if ndata ≠ "NDATA".toList then .error .syntaxError
        match ← nextMark stop s with
        | (.name _, s) => return (d.addEntity ⟨name, none, true⟩, ← scanDeclClose stop s)
        | (m, _)       => .error m.fault
      | (m, _) => .error m.fault
    | (m, _) => .error m.fault
  | (m, _) => .error m.fault

-- What follows `<!NOTATION`.
def scanNotation (stop : Stop) (s : List Char) : Except Fault (List Char) := do
  match ← nextMark stop s with
  | (.name _, s) =>
    match ← nextMark stop s with
    | (.name keyword, s) =>
      if keyword = "SYSTEM".toList then
        let (_, s) ← scanLiteralMark stop s
        scanDeclClose stop s
      else if keyword = "PUBLIC".toList then do
        let (id, s) ← scanLiteralMark stop s
        checkPublicId id
        match ← nextMark stop s with
        | (.declClose, s) => return s
        | (.literal _, s) => scanDeclClose stop s
        | (m, _)          => .error m.fault
      else .error .syntaxError
    | (m, _) => .error m.fault
  | (m, _) => .error m.fault

-- The rest of a list of alternatives in parentheses, behind the first parenthesis.
def scanAlternatives (namesOnly : Bool) (stop : Stop) : Nat → List Char → Except Fault (List Char)
  | 0,        _ => .error .syntaxError
  | fuel + 1, s => do
    let (m, s) ← nextMark stop s
    let fits := match m with
      | .name _         => true
      | .prefixedName _ => !namesOnly
      | .nameToken      => !namesOnly
      | _               => false
    if !fits then .error m.fault
    match ← nextMark stop s with
    | (.bar, s)             => scanAlternatives namesOnly stop fuel s
    | (.parenClose none, s) => return s
    | (m, _)                => .error m.fault

def tokenizedTypes : List String :=
  ["ID", "IDREF", "IDREFS", "ENTITY", "ENTITIES", "NMTOKEN", "NMTOKENS"]

-- The declared type of an attribute: whether it is character data.
def scanAttributeType (stop : Stop) (s : List Char) : Except Fault (Scanned Bool) := do
  match ← nextMark stop s with
  | (.parenOpen, s) => return (false, ← scanAlternatives false stop (s.length + 1) s)
  | (.name word, s) =>
    if word = "CDATA".toList then return (true, s)
    else if tokenizedTypes.contains (String.ofList word) then return (false, s)
    else if word = "NOTATION".toList then
      match ← nextMark stop s with
      | (.parenOpen, s) => return (false, ← scanAlternatives true stop (s.length + 1) s)
      | (m, _)          => .error m.fault
    else .error .syntaxError
  | (m, _) => .error m.fault

-- A default value. Its quotes are gone, so it is read to its end.
def defaultValue (d : Doctype) (isCdata : Bool) (text : List Char) : Except Fault (List Char) :=
  match scanParts none .clean (text.length + 1) text with
  | .error _       => .error .invalidToken
  | .ok (parts, _) => attributeValue d isCdata parts

-- The declarations of an element's attributes, one after the other.
def scanAttributeRules (stop : Stop) (element : List Char) :
    Nat → Doctype → List Char → Except Fault (Scanned Doctype)
  | 0,        _, _ => .error .syntaxError
  | fuel + 1, d, s => do
    match ← nextMark stop s with
    | (.declClose, s) => return (d, s)
    | (m, s) =>
      let some name := nameOf m | .error m.fault
      let (isCdata, s) ← scanAttributeType stop s
      let withDefault (text : List Char) : Except Fault Doctype := do
        if d.isKept then
          return d.addRule ⟨element, name, isCdata, some (← defaultValue d isCdata text)⟩
        else return d
      match ← nextMark stop s with
      | (.literal text, s) => scanAttributeRules stop element fuel (← withDefault text) s
      | (.keyword word, s) =>
        if word = "IMPLIED".toList || word = "REQUIRED".toList then
          scanAttributeRules stop element fuel (d.addRule ⟨element, name, isCdata, none⟩) s
        else if word = "FIXED".toList then do
          let (text, s) ← scanLiteralMark stop s
          scanAttributeRules stop element fuel (← withDefault text) s
        else .error .syntaxError
      | (m, _) => .error m.fault
where
  nameOf : Mark → Option (List Char)
    | .name n         => some n
    | .prefixedName n => some n
    | _               => none

-- The rest of a content model of elements, at a place where a member is due. `groups` holds, for
-- each open group, the connector that its members are joined by so far.
def scanModel (stop : Stop) : Nat → Bool → List (Option Mark) → List Char → Except Fault (List Char)
  | 0,        _,     _,              _ => .error .syntaxError
  | _,        false, [],             s => scanDeclClose stop s
  | _,        true,  [],             _ => .error .syntaxError
  | fuel + 1, true,  groups,         s => do
    match ← nextMark stop s with
    | (.parenOpen, s)      => scanModel stop fuel true (none :: groups) s
    | (.name _, s)         => scanModel stop fuel false groups s
    | (.prefixedName _, s) => scanModel stop fuel false groups s
    | (.timesName, s)      => scanModel stop fuel false groups s
    | (m, _)               => .error m.fault
  | fuel + 1, false, joint :: outer, s => do
    match ← nextMark stop s with
    | (.parenClose _, s) => scanModel stop fuel false outer s
    | (.comma, s)        =>
      if joint = some .bar then .error .syntaxError
      else scanModel stop fuel true (some .comma :: outer) s
    | (.bar, s)          =>
      if joint = some .comma then .error .syntaxError
      else scanModel stop fuel true (some .bar :: outer) s
    | (m, _)             => .error m.fault

-- The rest of a content model that admits text, behind the word for text.
def scanMixed (stop : Stop) : Nat → Bool → List Char → Except Fault (List Char)
  | 0,        _,       _ => .error .syntaxError
  | fuel + 1, isFirst, s => do
    match ← nextMark stop s with
    | (.parenClose (some '*'), s) => scanDeclClose stop s
    | (.parenClose none, s)       => if isFirst then scanDeclClose stop s else .error .syntaxError
    | (.bar, s)                   =>
      match ← nextMark stop s with
      | (.name _, s)         => scanMixed stop fuel false s
      | (.prefixedName _, s) => scanMixed stop fuel false s
      | (m, _)               => .error m.fault
    | (m, _)                      => .error m.fault

-- What follows `<!ELEMENT`.
def scanElement (stop : Stop) (s : List Char) : Except Fault (List Char) := do
  let (m, s) ← nextMark stop s
  match m with
  | .name _ | .prefixedName _ =>
    match ← nextMark stop s with
    | (.name word, s) =>
      if word = "EMPTY".toList || word = "ANY".toList then scanDeclClose stop s else .error .syntaxError
    | (.parenOpen, s) =>
      match ← nextMark stop s with
      | (.keyword word, s) =>
        if word = "PCDATA".toList then scanMixed stop (s.length + 1) true s else .error .syntaxError
      | _ => scanModel stop (s.length + 1) true [none] s
    | (m, _) => .error m.fault
  | m => .error m.fault

-- The declarations between the brackets of a document type, and the closing bracket.
def scanSubset (stop : Stop) : Nat → Doctype → List Char → Except Fault (Scanned Doctype)
  | 0,        _, _ => .error .syntaxError
  | fuel + 1, d, s => do
    match ← nextMark stop s with
    | (.bracketClose, s) => return (d, s)
    | (.comment, s)      => scanSubset stop fuel d s
    | (.instruction, s)  => scanSubset stop fuel d s
    | (.parameter _, s)  =>
      scanSubset stop fuel { d with hasUnread := true, isKept := d.standalone } s
    | (.declOpen word, s) =>
      if word = "ENTITY".toList then do
        let (d, s) ← d.scanEntity stop s
        scanSubset stop fuel d s
      else if word = "NOTATION".toList then do
        scanSubset stop fuel d (← scanNotation stop s)
      else if word = "ELEMENT".toList then do
        scanSubset stop fuel d (← scanElement stop s)
      else if word = "ATTLIST".toList then do
        match ← nextMark stop s with
        | (m, s) =>
          let some element := scanAttributeRules.nameOf m | .error m.fault
          let (d, s) ← scanAttributeRules stop element (s.length + 1) d s
          scanSubset stop fuel d s
      else .error .syntaxError
    | (m, _) => .error m.fault

-- What follows `<!DOCTYPE`, up to its end.
def scan (standalone : Bool) (stop : Stop) (s : List Char) : Except Fault (Scanned Doctype) := do
  let d : Doctype := { standalone := standalone }
  let (m, s) ← nextMark stop s
  if (scanAttributeRules.nameOf m).isNone then .error m.fault
  match ← nextMark stop s with
  | (.name keyword, s) => rest { d with hasUnread := true } (← nextMark stop (← scanExternalId stop keyword s))
  | mark               => rest d mark
where
  rest (d : Doctype) : Mark × List Char → Except Fault (Scanned Doctype)
    | (.declClose, s)   => .ok (d, s)
    | (.bracketOpen, s) => do
      let (d, s) ← scanSubset stop (s.length + 1) d s
      return (d, ← scanDeclClose stop s)
    | (m, _)            => .error m.fault

end Doctype

end TypedResources.Xml
