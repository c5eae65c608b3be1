import TypedResources.Text.Case

-- Texts that may hold halves of surrogate pairs. No file has one in it, but an escape can ask for one.

namespace TypedResources.Text

-- A character, or half of a surrogate pair by its number from U+D800 on.
inductive Point
  | char (c : Char)
  | half (n : Fin 0x800)
deriving DecidableEq

abbrev Points := List Point

namespace Point

def halfAt (n : Nat) : Point :=
  half (Fin.ofNat 0x800 n)

def ofNat (code : Nat) : Point :=
  if 0xD800 ≤ code && code < 0xE000 then halfAt (code - 0xD800) else char (Char.ofNat code)

def char? : Point → Option Char
  | char c => some c
  | half _ => none

def isHalf : Point → Bool
  | char _ => false
  | half _ => true

-- Halves from U+DC80 to U+DCFF stand for the bytes of a name that are no text.
def isEncodable : Point → Bool
  | char _ => true
  | half n => 0x480 ≤ n.val && n.val < 0x500

-- For readers that take no half for anything.
def toChar : Point → Char
  | char c => c
  | half _ => '\uFFFD'

end Point

namespace Points

def ofChars (s : List Char) : Points :=
  s.map .char

def ofString (s : String) : Points :=
  ofChars s.toList

instance : Coe String Points := ⟨ofString⟩

-- The characters of a text that has no half.
def chars? (t : Points) : Option (List Char) :=
  t.mapM Point.char?

-- A half has no case, and it stands between words.
def lower (t : Points) : Points :=
  go [] t
where
  -- `word` holds the characters since the last half, nearest first.
  go (word : List Char) : Points → Points
    | []           => ofChars (Text.lower word.reverse)
    | .char c :: t => go (c :: word) t
    | .half n :: t => ofChars (Text.lower word.reverse) ++ .half n :: go [] t

end Points

end TypedResources.Text
