import TypedResources.Xml.Token

-- What a document type declares, as far as it bears on content, and the values of attributes. Of
-- two declarations of one name the first counts.

namespace TypedResources.Xml

-- An entity without text lies outside of the document.
structure Entity where
  name     : List Char
  text     : Option (List Char)
  isBinary : Bool
deriving DecidableEq

-- What is declared of an attribute: whether its white space is kept, and its default value.
structure AttributeRule where
  element  : List Char
  name     : List Char
  isCdata  : Bool
  default? : Option (List Char)
deriving DecidableEq

structure Doctype where
  entities   : List Entity        := []
  attributes : List AttributeRule := []
  -- Some declarations are not read, because they lie outside or in a parameter entity.
  hasUnread  : Bool := false
  standalone : Bool := false
  -- Whether further declarations still count.
  isKept     : Bool := true

namespace Doctype

-- An entity that is not declared here is declared nowhere.
def isComplete (d : Doctype) : Bool :=
  !d.hasUnread || d.standalone

def entity? (d : Doctype) (name : List Char) : Option Entity :=
  d.entities.find? (·.name = name)

def rulesOf (d : Doctype) (element : List Char) : List AttributeRule :=
  d.attributes.filter (·.element = element)

def isCdata (d : Doctype) (element name : List Char) : Bool :=
  match (d.rulesOf element).find? (·.name = name) with
  | some r => r.isCdata
  | none   => true

end Doctype

def predefined? (name : List Char) : Option Char :=
  if name = ['l', 't'] then some '<'
  else if name = ['g', 't'] then some '>'
  else if name = ['a', 'm', 'p'] then some '&'
  else if name = "quot".toList then some '"'
  else if name = "apos".toList then some '\''
  else none

def charOfNumber? (n : Nat) : Option Char :=
  if h : n.isValidChar then
    let c := Char.ofNatAux n h
    if isXmlChar c then some c else none
  else none

-- In a value that is not character data, no space comes first or follows another one.
def pushSpace (isCdata : Bool) (value : List Char) : List Char :=
  if !isCdata && (value = [] || value.head? = some ' ') then value else ' ' :: value

-- Appends parts to a value, which is held in reverse. White space becomes spaces, unless it is
-- written by number.
def appendParts (entity : List Char → List Char → Except Fault (List Char)) (isCdata : Bool) :
    List Part → List Char → Except Fault (List Char)
  | [],                              value => .ok value
  | .char '\r' :: .char '\n' :: rest, value => appendParts entity isCdata rest (pushSpace isCdata value)
  | .char c :: rest,                 value =>
    appendParts entity isCdata rest (if isSpace c then pushSpace isCdata value else c :: value)
  | .number n :: rest,               value =>
    match charOfNumber? n with
    | none   => .error .characterNumber
    | some c =>
      appendParts entity isCdata rest (if c = ' ' then pushSpace isCdata value else c :: value)
  | .entity name :: rest,            value =>
    match predefined? name with
    | some c => appendParts entity isCdata rest (c :: value)
    | none   => do appendParts entity isCdata rest (← entity name value)

-- Appends the text of an entity. Entities inside of it are followed, but none is entered twice;
-- `depth` bounds how many are open at a time.
def appendEntity (d : Doctype) (isCdata : Bool) :
    Nat → List (List Char) → List Char → List Char → Except Fault (List Char)
  | 0,         _,       _,    _     => .error .recursiveEntity
  | depth + 1, entered, name, value =>
    match d.entity? name with
    | none   => if d.isComplete then .error .undefinedEntity else .ok value
    | some e =>
      if entered.contains name then .error .recursiveEntity
      else if e.isBinary then .error .binaryEntity
      else match e.text with
        | none      => .error .externalEntityInAttribute
        | some text =>
          match scanParts none .clean (text.length + 1) text with
          | .error _       => .error .invalidToken
          | .ok (parts, _) =>
            appendParts (appendEntity d isCdata depth (name :: entered)) isCdata parts value

def attributeValue (d : Doctype) (isCdata : Bool) (parts : List Part) : Except Fault (List Char) := do
  let value ← appendParts (appendEntity d isCdata (d.entities.length + 1) []) isCdata parts []
  return (if !isCdata && value.head? = some ' ' then value.tail else value).reverse

end TypedResources.Xml
