import TypedResources.Xml.Prolog

-- The tree of a document: elements with their attributes, and the text between tags. Names are
-- resolved against the namespaces in scope.

namespace TypedResources.Xml

-- A name and the namespace it belongs to, if any.
structure QName where
  space : Option (List Char)
  name  : List Char
deriving DecidableEq

inductive Node
  | text (s : List Char)
  | element (tag : QName) (attributes : List (QName × List Char)) (children : List Node)

namespace Node

-- All text inside of a node, in document order.
def allText : Node → List Char
  | text s          => s
  | element _ _ ns => ofChildren ns
where
  ofChildren : List Node → List Char
    | []      => []
    | n :: ns => n.allText ++ ofChildren ns

-- The name of an element, without its namespace.
def localName? : Node → Option (List Char)
  | text _          => none
  | element tag _ _ => some tag.name

-- The value of an attribute that belongs to no namespace; without the attribute it is empty.
def get (name : List Char) : Node → List Char
  | text _                 => []
  | element _ attributes _ => (attributes.lookup ⟨none, name⟩).getD []

def children : Node → List Node
  | text _         => []
  | element _ _ ns => ns

end Node

-- The namespace that each prefix stands for, innermost binding first. The default namespace has
-- the empty prefix, and no namespace is the empty one.
abbrev Scope := List (List Char × List Char)

def xmlNamespace : List Char :=
  "http://www.w3.org/XML/1998/namespace".toList

def xmlnsNamespace : List Char :=
  "http://www.w3.org/2000/xmlns/".toList

def xmlPrefix : List Char :=
  ['x', 'm', 'l']

def xmlnsPrefix : List Char :=
  "xmlns".toList

def documentScope : Scope :=
  [(xmlPrefix, xmlNamespace)]

-- The namespace of a prefix, or nothing if none is bound to it.
def Scope.find? (scope : Scope) (pre : List Char) : Option (List Char) :=
  (scope.lookup pre).filter (· ≠ [])

-- The parts of a name before and after its colon; without one the first is empty.
def splitName (name : List Char) : List Char × List Char :=
  match name.dropWhile (· ≠ ':') with
  | []     => ([], name)
  | _ :: t => (name.takeWhile (· ≠ ':'), t)

-- The prefix that an attribute binds, if it is a namespace declaration.
def boundPrefix? (name : List Char) : Option (List Char) :=
  let (pre, rest) := splitName name
  if name = xmlnsPrefix then some [] else if pre = xmlnsPrefix then some rest else none

def bind (scope : Scope) (pre uri : List Char) : Except Fault Scope :=
  if uri = [] && pre ≠ [] then .error .undeclaredPrefix
  else if pre = xmlnsPrefix then .error .reservedPrefixXmlns
  else if uri.contains '}' then .error .syntaxError
  else if pre = xmlPrefix && uri ≠ xmlNamespace then .error .reservedPrefixXml
  else if pre ≠ xmlPrefix && uri = xmlNamespace then .error .reservedNamespace
  else if pre ≠ xmlPrefix && uri = xmlnsNamespace then .error .reservedNamespace
  else .ok ((pre, uri) :: scope)

-- The attributes that a tag spells out, with their values, and the scope inside of the element.
def specified (d : Doctype) (element : List Char) :
    List (List Char) → Scope → List (List Char × List Part) →
      Except Fault (List (List Char × List Char) × Scope)
  | _,    scope, []                    => .ok ([], scope)
  | seen, scope, (name, parts) :: rest => do
    if seen.contains name then .error .duplicateAttribute
    let value ← attributeValue d (d.isCdata element name) parts
    match boundPrefix? name with
    | some pre => specified d element (name :: seen) (← bind scope pre value) rest
    | none     =>
      let (attributes, scope) ← specified d element (name :: seen) scope rest
      return ((name, value) :: attributes, scope)

-- The declared attributes that a tag leaves out.
def defaulted : Scope → List (List Char × List Char) →
    Except Fault (List (List Char × List Char) × Scope)
  | scope, []                    => .ok ([], scope)
  | scope, (name, value) :: rest => do
    match boundPrefix? name with
    | some pre => defaulted (← bind scope pre value) rest
    | none     =>
      let (attributes, scope) ← defaulted scope rest
      return ((name, value) :: attributes, scope)

-- Attribute names belong to a namespace only through a prefix.
def resolveAttributes (scope : Scope) :
    List QName → List (List Char × List Char) → Except Fault (List (QName × List Char))
  | _,    []                    => .ok []
  | seen, (name, value) :: rest => do
    let (pre, base) := splitName name
    if pre = [] then
      return (⟨none, name⟩, value) :: (← resolveAttributes scope seen rest)
    else match scope.find? pre with
      | none     => .error .unboundPrefix
      | some uri =>
        let q : QName := ⟨some uri, base⟩
        if seen.contains q then .error .duplicateAttribute
        else return (q, value) :: (← resolveAttributes scope (q :: seen) rest)

def resolveElement (scope : Scope) (name : List Char) : Except Fault QName :=
  let (pre, base) := splitName name
  match scope.find? pre with
  | some uri => .ok ⟨some uri, base⟩
  | none     => if pre = [] then .ok ⟨none, name⟩ else .error .unboundPrefix

-- An element as its tag shows it, and the scope inside of it.
def openElement (d : Doctype) (scope : Scope) (tag : Tag) :
    Except Fault ((QName × List (QName × List Char)) × Scope) := do
  let (given, scope) ← specified d tag.name [] scope tag.attributes
  let names := tag.attributes.map Prod.fst
  let missing := (d.rulesOf tag.name).filterMap fun r =>
    if names.contains r.name then none else r.default?.map (r.name, ·)
  let (added, scope) ← defaulted scope missing
  let attributes ← resolveAttributes scope [] (given ++ added)
  return ((← resolveElement scope tag.name, attributes), scope)

-- An element whose end tag is yet to come. Its children are held in reverse.
structure Frame where
  raw        : List Char
  tag        : QName
  attributes : List (QName × List Char)
  scope      : Scope
  children   : List Node

-- What has been read: the open elements, innermost first, and the nodes outside of them, reversed.
structure Progress where
  frames : List Frame
  nodes  : List Node
  scope  : Scope

namespace Progress

def add (ns : List Node) (p : Progress) : Progress :=
  match p.frames with
  | []      => { p with nodes := ns.reverse ++ p.nodes }
  | f :: fs => { p with frames := { f with children := ns.reverse ++ f.children } :: fs }

def currentScope (p : Progress) : Scope :=
  (p.frames.head?.map Frame.scope).getD p.scope

def close (p : Progress) (name : List Char) : Except Fault Progress :=
  match p.frames with
  | []      => .error .asynchronousEntity
  | f :: fs =>
    if f.raw ≠ name then .error .mismatchedTag
    else .ok ({ p with frames := fs }.add [.element f.tag f.attributes f.children.reverse])

-- A tag opens an element, which is complete at once if it is empty.
def enter (d : Doctype) (tag : Tag) (p : Progress) : Except Fault Progress := do
  let ((name, attributes), scope) ← openElement d p.currentScope tag
  if tag.isEmpty then return p.add [.element name attributes []]
  else return { p with frames := ⟨tag.name, name, attributes, scope, []⟩ :: p.frames }

end Progress

-- Reads content token by token: of a document up to the end of its root, of an entity up to the
-- end of its text. `entity` gives the nodes of an entity; `fuel` bounds the number of tokens.
def readContent (d : Doctype) (stop : Stop) (entity : Scope → List Char → Except Fault (List Node))
    (isDocument : Bool) : Nat → Progress → List Char → Except Fault (Scanned Progress)
  | 0,        _, _ => .error .noElement
  | fuel + 1, p, s => do
    if s = [] then
      match stop with
      | .clean =>
        if isDocument then .error .noElement
        else if p.frames.isEmpty then return (p, []) else .error .asynchronousEntity
      | stop   => .error (stop.fault true)
    else
      let (token, s) ← scanToken stop s
      let p ← match token with
        | .ignored     => pure p
        | .text t      => pure (p.add [.text t])
        | .number n    =>
          match charOfNumber? n with
          | some c => pure (p.add [.text [c]])
          | none   => .error .characterNumber
        | .entity name =>
          match predefined? name with
          | some c => pure (p.add [.text [c]])
          | none   => do pure (p.add (← entity p.currentScope name))
        | .startTag t  => p.enter d t
        | .endTag name => p.close name
      if isDocument && p.frames.isEmpty then return (p, s)
      readContent d stop entity isDocument fuel p s

-- The nodes that an entity stands for. None is entered twice; `depth` bounds how many are open.
def entityNodes (d : Doctype) :
    Nat → List (List Char) → Scope → List Char → Except Fault (List Node)
  | 0,         _,       _,     _    => .error .recursiveEntity
  | depth + 1, entered, scope, name =>
    match d.entity? name with
    | none   => .error (if d.isComplete then .undefinedEntity else .unresolvedEntity name)
    | some e =>
      if entered.contains name then .error .recursiveEntity
      else if e.isBinary then .error .binaryEntity
      else match e.text with
        | none      => .error (.unresolvedEntity name)
        | some text => do
          let (p, _) ← readContent d .clean (entityNodes d depth (name :: entered)) false
            (text.length + 1) ⟨[], [], scope⟩ text
          return p.nodes.reverse

-- What follows the root element: nothing but space, comments and instructions.
def readEpilog (stop : Stop) : Nat → List Char → Except Fault Unit
  | 0,        _ => .error .junkAfterRoot
  | fuel + 1, s => do
    match ← scanMark stop s with
    | (.finish, _)      => return
    | (.space, s)       => readEpilog stop fuel s
    | (.comment, s)     => readEpilog stop fuel s
    | (.instruction, s) => readEpilog stop fuel s
    | _                 => .error .junkAfterRoot

-- The document type, if there is one, and the text from the root element on.
def readProlog (standalone : Bool) (stop : Stop) :
    Nat → Option Doctype → List Char → Except Fault (Scanned Doctype)
  | 0,        _, _ => .error .noElement
  | fuel + 1, d, s => do
    match ← scanMark stop s with
    | (.space, s)       => readProlog standalone stop fuel d s
    | (.comment, s)     => readProlog standalone stop fuel d s
    | (.instruction, s) => readProlog standalone stop fuel d s
    | (.element, s)     => return (d.getD { standalone := standalone }, s)
    | (.declOpen word, s) =>
      if d.isSome || word ≠ "DOCTYPE".toList then .error .syntaxError
      let (d, s) ← Doctype.scan standalone stop s
      readProlog standalone stop fuel (some d) s
    | (m, _)            => .error m.fault

-- The root element of a text whose encoding is settled.
def readDocument (standalone : Bool) (s : Source) : Except Fault Node := do
  let (d, text) ← readProlog standalone s.stop (s.chars.length + 1) none s.chars
  let (p, rest) ← readContent d s.stop (entityNodes d (d.entities.length + 1) []) true
    (text.length + 1) ⟨[], [], documentScope⟩ text
  readEpilog s.stop (rest.length + 1) rest
  match p.nodes with
  | root :: _ => return root
  | []        => .error .noElement

end TypedResources.Xml
