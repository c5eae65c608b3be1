import TypedResources.Text.Utf8
import TypedResources.Xml.Charset
import TypedResources.Xml.Fault
import TypedResources.Xml.NameTable

-- From bytes to characters. A document is read up to the first byte that is no part of a character
-- it may hold, so its source is a text and the reason why no more of it follows.

namespace TypedResources.Xml

inductive Stop
  -- The document ends here.
  | clean
  | invalid
  -- The last character lacks some of its bytes.
  | cut
  -- One byte of a two-byte unit is left over.
  | halfUnit
deriving DecidableEq

structure Source where
  chars : List Char
  stop  : Stop
deriving DecidableEq

-- What is wrong where a text stops in the middle of a token. A character that lacks bytes is only
-- told from a wrong one where some character beyond ASCII is allowed.
def Stop.fault (wide : Bool) : Stop → Fault
  | clean    => .unclosedToken
  | invalid  => .invalidToken
  | cut      => if wide then .partialCharacter else .invalidToken
  | halfUnit => .unclosedToken

def isXmlChar (c : Char) : Bool :=
  (0x20 ≤ c.toNat || c = '\t' || c = '\n' || c = '\r') && c.toNat ≠ 0xFFFE && c.toNat ≠ 0xFFFF

-- Names hold no colon here: a colon divides two names.
def isNameStart (c : Char) : Bool :=
  if c.toNat < 128 then c.isAlpha || c = '_' else nameStartRanges.has c.toNat

def isNameChar (c : Char) : Bool :=
  if c.toNat < 128 then c.isAlphanum || c = '_' || c = '-' || c = '.'
  else nameStartRanges.has c.toNat || nameRestRanges.has c.toNat

def isSpace (c : Char) : Bool :=
  c = ' ' || c = '\t' || c = '\n' || c = '\r'

inductive Encoding
  | utf8
  | utf16LE
  | utf16BE
  | latin1
  | ascii
  -- One byte to a character.
  | page (runs : List PageRun)
deriving DecidableEq

namespace Encoding

def unitWidth : Encoding → Nat
  | utf16LE | utf16BE => 2
  | _                 => 1

-- The number of bytes that a first byte calls for.
def utf8Width (b : UInt8) : Nat :=
  if b < 0xC0 then 1 else if b < 0xE0 then 2 else if b < 0xF0 then 3 else if b < 0xF5 then 4 else 1

def utf8Step (b : UInt8) (t : Bytes) : Except Stop (Char × Nat) :=
  if (t.take 3).length + 1 < utf8Width b then .error .cut
  else match Text.Utf8.chunk b t with
    | .char c w => .ok (c, w)
    | .bad ..   => .error .invalid

-- The first of two surrogates takes what follows for the second.
def utf16Step (unit : UInt8 → UInt8 → Nat) (b : UInt8) : Bytes → Except Stop (Char × Nat)
  | []      => .error .halfUnit
  | b₂ :: t =>
    let n := unit b b₂
    if 0xDC00 ≤ n && n < 0xE000 then .error .invalid
    else if n < 0xD800 || 0xE000 ≤ n then .ok (Char.ofNat n, 2)
    else match t with
      | b₃ :: b₄ :: _ => .ok (Char.ofNat (0x10000 + (n % 0x400) * 0x400 + unit b₃ b₄ % 0x400), 4)
      | _             => .error .cut

def step : Encoding → UInt8 → Bytes → Except Stop (Char × Nat)
  | utf8,       b, t => utf8Step b t
  | utf16LE,    b, t => utf16Step (fun lo hi => hi.toNat * 256 + lo.toNat) b t
  | utf16BE,    b, t => utf16Step (fun hi lo => hi.toNat * 256 + lo.toNat) b t
  | latin1,     b, _ => .ok (Char.ofNat b.toNat, 1)
  | ascii,      b, _ => if b < 0x80 then .ok (Char.ofNat b.toNat, 1) else .error .invalid
  | page runs,  b, _ =>
    match PageRun.char? runs b.toNat with
    | some c => .ok (c, 1)
    | none   => .error .invalid

def decode (e : Encoding) (bytes : Bytes) : Source :=
  go 0 bytes
where
  -- `skip` bytes belong to the character that came before.
  go : Nat → Bytes → Source
    | _,        []     => ⟨[], .clean⟩
    | skip + 1, _ :: t => go skip t
    | 0,        b :: t =>
      match e.step b t with
      | .error stop  => ⟨[], stop⟩
      | .ok (c, w) =>
        if isXmlChar c then
          let s := go (w - 1) t
          ⟨c :: s.chars, s.stop⟩
        else ⟨[], .invalid⟩

-- The encoding that the first bytes give away, and how many of them are a mark and no text.
def detect : Bytes → Except Fault (Encoding × Nat)
  | []                        => .error .noElement
  | [b]                       =>
    if b = 0xFE || b = 0xFF || b = 0xEF || b = 0x00 || b = 0x3C then .error .unclosedToken
    else .ok (utf8, 0)
  | 0xFE :: 0xFF :: _         => .ok (utf16BE, 2)
  | 0xFF :: 0xFE :: _         => .ok (utf16LE, 2)
  | 0x3C :: 0x00 :: _         => .ok (utf16LE, 0)
  | [0xEF, 0xBB]              => .error .unclosedToken
  | 0xEF :: 0xBB :: 0xBF :: _ => .ok (utf8, 3)
  | 0x00 :: _                 => .ok (utf16BE, 0)
  | _                         => .ok (utf8, 0)

end Encoding

end TypedResources.Xml
