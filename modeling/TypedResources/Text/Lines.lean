import TypedResources.Text.Class

-- Trimming, and cutting a text into lines. `splitLines` loses nothing: the lines, with their
-- endings, concatenate to the text.

namespace TypedResources.Text

def trimStart (s : List Char) : List Char :=
  s.dropWhile isBlank

def trimEnd (s : List Char) : List Char :=
  (s.reverse.dropWhile isBlank).reverse

def trim (s : List Char) : List Char :=
  trimEnd (trimStart s)

-- One line with its ending, if it has one, split off.
structure Line where
  body   : List Char
  ending : List Char
deriving DecidableEq

def Line.toList (l : Line) : List Char :=
  l.body ++ l.ending

-- The lines of a text with their endings, which are whole only if the text is.
def splitLines : List Char → List (List Char)
  | []               => []
  | '\r' :: '\n' :: t => ['\r', '\n'] :: splitLines t
  | c :: t           =>
    if isLineEnd c then [c] :: splitLines t
    else match splitLines t with
      | []         => [[c]]
      | line :: ls => (c :: line) :: ls

-- A line without any of the characters that end lines.
def withoutLineEnd (line : List Char) : List Char :=
  line.takeWhile (!isLineEnd ·)

-- Splits off the trailing carriage returns and line feeds; other endings stay in the body.
def Line.ofList (line : List Char) : Line :=
  let isBreak : Char → Bool := fun c => c = '\r' || c = '\n'
  ⟨(line.reverse.dropWhile isBreak).reverse, (line.reverse.takeWhile isBreak).reverse⟩

-- A carriage return, alone or before a line feed, becomes a line feed.
def unifyNewlines : List Char → List Char
  | []               => []
  | '\r' :: '\n' :: t => '\n' :: unifyNewlines t
  | '\r' :: t         => '\n' :: unifyNewlines t
  | c :: t           => c :: unifyNewlines t

theorem flatten_splitLines (s : List Char) : (splitLines s).flatten = s := by
  fun_induction splitLines s <;> simp_all

theorem Line.toList_ofList (line : List Char) : (Line.ofList line).toList = line := by
  simp [Line.toList, Line.ofList, ← List.reverse_append]

end TypedResources.Text
