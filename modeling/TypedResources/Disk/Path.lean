import TypedResources.Text.Quoted
import TypedResources.Text.Split
import TypedResources.Text.Utf8

-- Paths as an anchor and a list of components. Reading a path drops empty components and single
-- dots and keeps double dots, so that writing it again gives its plain form.

namespace TypedResources

open Text (Point Points)

-- What a path starts from: the working directory, the root, or the root spelt with two slashes.
inductive Anchor
  | relative
  | root
  | twoSlashes
deriving DecidableEq

def Anchor.text : Anchor → String
  | relative   => ""
  | root       => "/"
  | twoSlashes => "//"

@[ext]
structure Path where
  anchor : Anchor
  parts  : List String
deriving DecidableEq

namespace Path

-- No name holds a slash, so one in a component marks half of a surrogate pair.
def mark : Point → List Char
  | .char c => [c]
  | .half n => ['/', Char.ofNat (0xE000 + n.val)]

def component (text : Points) : String :=
  String.ofList (text.flatMap mark)

-- The text of a component.
def pointsOf (part : String) : Points :=
  go part.toList
where
  go : List Char → Points
    | []            => []
    | '/' :: c :: t =>
      if 0xE000 ≤ c.toNat && c.toNat < 0xE800 then .halfAt (c.toNat - 0xE000) :: go t
      else .char '/' :: go (c :: t)
    | c :: t        => .char c :: go t

def ofPoints (text : Points) : Path :=
  let slashes := text.takeWhile (· = .char '/')
  let anchor  := match slashes.length with
    | 0 => Anchor.relative
    | 2 => Anchor.twoSlashes
    | _ => Anchor.root
  let parts := (Text.splitAll (· = .char '/') text).map component |>.filter fun p => p ≠ "" && p ≠ "."
  ⟨anchor, parts⟩

def ofString (s : String) : Path :=
  ofPoints s

def toPoints (p : Path) : Points :=
  if p.anchor = .relative && p.parts.isEmpty then "."
  else Points.ofString p.anchor.text ++ List.intercalate [.char '/'] (p.parts.map pointsOf)

def toString (p : Path) : String :=
  Text.shown p.toPoints

instance : ToString Path := ⟨toString⟩

def isAbsolute (p : Path) : Bool :=
  p.anchor ≠ .relative

-- An absolute right side replaces the left one.
def join (p q : Path) : Path :=
  if q.isAbsolute then q else ⟨p.anchor, p.parts ++ q.parts⟩

instance : Div Path := ⟨join⟩

-- The path of one more component.
def child (p : Path) (name : String) : Path :=
  ⟨p.anchor, p.parts ++ [name]⟩

def name (p : Path) : String :=
  p.parts.getLast?.getD ""

def parent (p : Path) : Path :=
  ⟨p.anchor, p.parts.dropLast⟩

-- The part of a name from its last dot on, if that dot stands neither first nor last.
def suffixOf (name : List Char) : List Char :=
  let tail := name.reverse.takeWhile (· ≠ '.')
  let dot  := name.length - tail.length - 1
  if tail.isEmpty || tail.length = name.length || dot = 0 then [] else '.' :: tail.reverse

def suffix (p : Path) : List Char :=
  suffixOf p.name.toList

-- Paths are ordered as lists of their components, the anchor being the first.
def components (p : Path) : List String :=
  if p.anchor = .relative then p.parts else p.anchor.text :: p.parts

instance : LE Path := ⟨fun p q => List.le p.components q.components⟩

instance (p q : Path) : Decidable (p ≤ q) :=
  List.decidableLE p.components q.components

-- Cancels each component against a double dot that follows it; above the root there is nothing.
def normalize (parts : List String) : List String :=
  (parts.foldl (fun above p => if p = ".." then above.tail else p :: above) []).reverse

-- The absolute plain form of a path that is read from `base`.
def resolve (base p : Path) : Path :=
  ⟨.root, normalize (base / p).parts⟩

def relativeTo? (base p : Path) : Option Path :=
  if base.components.isPrefixOf p.components then
    some ⟨.relative, p.components.drop base.components.length⟩
  else none

-- Bytes outside the unreserved characters and the slash are written as a percent sign and two digits.
def uriEscape (bytes : Bytes) : List Char :=
  bytes.flatMap fun b =>
    let c := Char.ofNat b.toNat
    if c.isAlphanum || c = '_' || c = '.' || c = '-' || c = '~' || c = '/' then [c]
    else '%' :: (Text.hexDigits b.toNat 2).map Char.toUpper

-- The bytes that name a path.
def encode (text : Points) : Bytes :=
  text.flatMap fun
    | .char c => Text.Utf8.encode [c]
    | .half n => [(n.val - 0x400).toUInt8]

def toUri (p : Path) : String :=
  "file://" ++ String.ofList (uriEscape (encode p.toPoints))

end Path

end TypedResources
