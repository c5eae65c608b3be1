import TypedResources.Text.CaseTable

-- Full case mapping: a character may become several, and a capital sigma is lowered to its final
-- form exactly at the end of a word.

namespace TypedResources.Text

def CaseRun.contains (r : CaseRun) (n : Nat) : Bool :=
  r.first ≤ n && n ≤ r.last && (n - r.first) % r.step = 0

def CaseRun.map (r : CaseRun) (n : Nat) : Char :=
  Char.ofNat (n + r.offset).toNat

-- The image of `c` under the first run that contains it; a character of no run is kept.
def mapThrough (runs : List CaseRun) (c : Char) : Char :=
  match runs.find? (·.contains c.toNat) with
  | some r => r.map c.toNat
  | none   => c

def lowerChar (c : Char) : List Char :=
  if c = '\u0130' then ['i', '\u0307'] else [mapThrough lowerRuns c]

def upperChar (c : Char) : List Char :=
  match upperExpansions.find? (·.1 = c.toNat) with
  | some (_, codes) => codes.map Char.ofNat
  | none            => [mapThrough upperRuns c]

def isCased (c : Char) : Bool :=
  casedRanges.has c.toNat

def isCaseIgnorable (c : Char) : Bool :=
  ignorableRanges.has c.toNat

-- Whether the first character that is not case-ignorable is a cased letter.
def meetsCased (s : List Char) : Bool :=
  ((s.dropWhile isCaseIgnorable).head?.map isCased).getD false

-- A capital sigma ends a word when a cased letter stands before it and none follows.
def endsWord (before after : List Char) : Bool :=
  meetsCased before && !meetsCased after

def lower (s : List Char) : List Char :=
  go [] s
where
  -- `before` holds what precedes, nearest first.
  go (before : List Char) : List Char → List Char
    | []     => []
    | c :: t =>
      let image := if c = '\u03A3' then [if endsWord before t then '\u03C2' else '\u03C3'] else lowerChar c
      image ++ go (c :: before) t

end TypedResources.Text
