import TypedResources.Yaml.Fault
import TypedResources.Text.Utf8

-- The tokens of a YAML stream. Indentation becomes tokens of its own, and a text turns out to be a
-- key only when a colon follows it on its line, so the token for a key is put in behind.

namespace TypedResources.Yaml

inductive Token
  | streamEnd
  | versionDirective (major : Nat)
  | tagDirective (handle pre : List Char)
  | otherDirective
  | documentStart
  | documentEnd
  | blockSequenceStart
  | blockMappingStart
  | blockEnd
  | flowSequenceStart
  | flowSequenceEnd
  | flowMappingStart
  | flowMappingEnd
  | blockEntry
  | flowEntry
  | key
  | value
  | alias (name : List Char)
  | anchor (name : List Char)
  | tag (handle : Option (List Char)) (suffix : List Char)
  | scalar (text : Text.Points) (isPlain : Bool)
deriving DecidableEq

structure Cursor where
  rest   : List Char
  index  : Nat := 0
  line   : Nat := 0
  column : Nat := 0

def endMark : Char := '\x00'

def isBreak (c : Char) : Bool :=
  c = '\n' || c = '\r' || c = '\u0085' || c = '\u2028' || c = '\u2029'

def isBreakOrEnd (c : Char) : Bool :=
  c = endMark || isBreak c

def isSpaceOrEnd (c : Char) : Bool :=
  c = ' ' || isBreakOrEnd c

def isBlankOrEnd (c : Char) : Bool :=
  c = '\t' || isSpaceOrEnd c

-- Letters, digits, hyphens and low lines.
def isNameChar (c : Char) : Bool :=
  c.isAlphanum || c = '-' || c = '_'

namespace Cursor

def peek (c : Cursor) (n : Nat) : Char :=
  c.rest.getD n endMark

def head (c : Cursor) : Char :=
  c.peek 0

def step (c : Cursor) : Cursor :=
  match c.rest with
  | []     => c
  | d :: t =>
    if isBreak d && !(d = '\r' && t.head? = some '\n') then ⟨t, c.index + 1, c.line + 1, 0⟩
    else if d = '\uFEFF' then ⟨t, c.index + 1, c.line, c.column⟩
    else ⟨t, c.index + 1, c.line, c.column + 1⟩

def forward : Nat → Cursor → Cursor
  | 0,     c => c
  | n + 1, c => forward n c.step

-- The run of characters of a class, and the place behind it.
def run (p : Char → Bool) (c : Cursor) : List Char × Cursor :=
  let text := c.rest.takeWhile p
  (text, c.forward text.length)

def skip (p : Char → Bool) (c : Cursor) : Cursor :=
  (c.run p).2

def skipSpaces (c : Cursor) : Cursor :=
  c.skip (· = ' ')

-- A line break, in its plain form; nothing if none is here.
def lineBreak (c : Cursor) : List Char × Cursor :=
  let d := c.head
  if d = '\r' && c.peek 1 = '\n' then (['\n'], c.forward 2)
  else if d = '\r' || d = '\n' || d = '\u0085' then (['\n'], c.step)
  else if isBreak d then ([d], c.step)
  else ([], c)

-- Whether a line that separates documents begins here.
def atSeparator (c : Cursor) : Bool :=
  (c.rest.take 3 = "---".toList || c.rest.take 3 = "...".toList) && isBlankOrEnd (c.peek 3)

def skipComment (c : Cursor) : Cursor :=
  if c.head = '#' then c.skip (!isBreakOrEnd ·) else c

-- The rest of a line on which nothing but a comment may stand.
def ignoredLine (c : Cursor) : Except Fault Cursor :=
  let c := c.skipSpaces.skipComment
  if isBreakOrEnd c.head then .ok c.lineBreak.2 else .error .malformed

end Cursor

def natOfDigits (digits : List Char) : Nat :=
  digits.foldl (fun n c => n * 10 + (c.toNat - '0'.toNat)) 0

def scanDigits (c : Cursor) : Except Fault (Nat × Cursor) :=
  let (digits, c) := c.run Char.isDigit
  if digits.isEmpty then .error .malformed
  else if Numeral.digitLimit < digits.length then .error (.numeral (.tooLong digits.length))
  else .ok (natOfDigits digits, c)

def hexValue? (c : Char) : Option Nat :=
  if '0' ≤ c && c ≤ '9' then some (c.toNat - '0'.toNat)
  else if 'a' ≤ c && c ≤ 'f' then some (c.toNat - 'a'.toNat + 10)
  else if 'A' ≤ c && c ≤ 'F' then some (c.toNat - 'A'.toNat + 10)
  else none

-- Exactly `n` hexadecimal digits.
def scanHex (n : Nat) (c : Cursor) : Except Fault (Nat × Cursor) := do
  let some digits := (c.rest.take n).mapM hexValue? | .error .malformed
  if digits.length < n then .error .malformed
  return (digits.foldl (fun m d => m * 16 + d) 0, c.forward n)

def isUriChar (c : Char) : Bool :=
  c.isAlphanum || "-;/?:@&=+$,_.!~*'()[]".toList.contains c

-- Consecutive percent escapes are the bytes of a text. `fuel` bounds their number.
def scanEscapedBytes : Nat → Cursor → Except Fault (Bytes × Cursor)
  | 0,        c => .ok ([], c)
  | fuel + 1, c => do
    if c.head ≠ '%' then return ([], c)
    let (n, c) ← scanHex 2 c.step
    let (bytes, c) ← scanEscapedBytes fuel c
    return (n.toUInt8 :: bytes, c)

def scanUriPieces : Nat → Cursor → Except Fault (List Char × Cursor)
  | 0,        c => .ok ([], c)
  | fuel + 1, c => do
    if c.head = '%' then
      let (bytes, c) ← scanEscapedBytes (c.rest.length + 1) c
      let .ok text := Text.Utf8.decode bytes | .error .malformed
      let (rest, c) ← scanUriPieces fuel c
      return (text ++ rest, c)
    else if isUriChar c.head then
      let (text, c) := c.run isUriChar
      let (rest, c) ← scanUriPieces fuel c
      return (text ++ rest, c)
    else return ([], c)

def scanUri (c : Cursor) : Except Fault (List Char × Cursor) := do
  if c.head ≠ '%' && !isUriChar c.head then .error .malformed
  scanUriPieces (c.rest.length + 1) c

-- The handle of a tag: one exclamation mark, or two with a name between that may be empty.
def scanHandle (c : Cursor) : Except Fault (List Char × Cursor) := do
  if c.head ≠ '!' then .error .malformed
  if c.peek 1 = ' ' then return (['!'], c.step)
  let (name, d) := c.step.run isNameChar
  if d.head ≠ '!' then .error .malformed
  return ('!' :: name ++ ['!'], d.step)

def scanDirective (c : Cursor) : Except Fault (Token × Cursor) := do
  let (name, c) := c.step.run isNameChar
  if name.isEmpty || !isSpaceOrEnd c.head then .error .malformed
  if name = "YAML".toList then
    let (major, c) ← scanDigits c.skipSpaces
    if c.head ≠ '.' then .error .malformed
    let (_, c) ← scanDigits c.step
    if !isSpaceOrEnd c.head then .error .malformed
    return (.versionDirective major, ← c.ignoredLine)
  else if name = "TAG".toList then
    let (handle, c) ← scanHandle c.skipSpaces
    if c.head ≠ ' ' then .error .malformed
    let (pre, c) ← scanUri c.skipSpaces
    if !isSpaceOrEnd c.head then .error .malformed
    return (.tagDirective handle pre, ← c.ignoredLine)
  else return (.otherDirective, ← (c.skip (!isBreakOrEnd ·)).ignoredLine)

-- The name of an anchor or an alias, behind its mark.
def scanAnchor (c : Cursor) : Except Fault (List Char × Cursor) :=
  let (name, c) := c.step.run isNameChar
  if name.isEmpty then .error .malformed
  else if isBlankOrEnd c.head || "?:,]\x7d%@`".toList.contains c.head then .ok (name, c)
  else .error .malformed

def scanTag (c : Cursor) : Except Fault (Token × Cursor) := do
  if c.peek 1 = '<' then
    let (suffix, c) ← scanUri (c.forward 2)
    if c.head ≠ '>' then .error .malformed
    finish none suffix c.step
  else if isBlankOrEnd (c.peek 1) then finish none ['!'] c.step
  else if (c.step.rest.takeWhile (!isSpaceOrEnd ·)).contains '!' then
    let (handle, c) ← scanHandle c
    let (suffix, c) ← scanUri c
    finish (some handle) suffix c
  else
    let (suffix, c) ← scanUri c.step
    finish (some ['!']) suffix c
where
  finish (handle : Option (List Char)) (suffix : List Char) (c : Cursor) :
      Except Fault (Token × Cursor) :=
    if isSpaceOrEnd c.head then .ok (.tag handle suffix, c) else .error .malformed

-- Line breaks, with the spaces before them when a line is indented less than `indent`.
def scanBlockBreaks (indent : Nat) : Nat → Cursor → List Char × Cursor
  | 0,        c => ([], c)
  | fuel + 1, c =>
    let c := c.forward (min (indent - c.column) (c.rest.takeWhile (· = ' ')).length)
    if isBreak c.head then
      let (b, c) := c.lineBreak
      let (rest, c) := scanBlockBreaks indent fuel c
      (b ++ rest, c)
    else ([], c)

-- Blank lines before the first line of a block, the widest indentation among them, and the place
-- behind the indentation of the first line.
def scanBlockIndentation (widest : Nat) : Nat → Cursor → List Char × Nat × Cursor
  | 0,        c => ([], widest, c)
  | fuel + 1, c =>
    let c := c.skipSpaces
    let widest := max widest c.column
    if isBreak c.head then
      let (b, c) := c.lineBreak
      let (rest, widest, c) := scanBlockIndentation widest fuel c
      (b ++ rest, widest, c)
    else ([], widest, c)

-- How the line breaks at the end of a block are kept: none, one or all.
inductive Chomping
  | strip
  | clip
  | keep
deriving DecidableEq

-- The lines of a block. `breaks` are the line breaks of blank lines passed so far.
def scanBlockLines (folded : Bool) (chomping : Chomping) (indent : Nat) :
    Nat → List Char → Cursor → List Char × Cursor
  | 0,        _,      c => ([], c)
  | fuel + 1, breaks, c =>
    let isText := !(c.head = ' ' || c.head = '\t')
    let (line, c) := c.run (!isBreakOrEnd ·)
    let (lineBreak, c) := c.lineBreak
    let (next, c) := scanBlockBreaks indent (c.rest.length + 1) c
    if c.column = indent && c.head ≠ endMark then
      let joint :=
        if folded && lineBreak = ['\n'] && isText && !(c.head = ' ' || c.head = '\t') then
          (if next.isEmpty then [' '] else [])
        else lineBreak
      let (rest, c) := scanBlockLines folded chomping indent fuel next c
      (breaks ++ line ++ joint ++ rest, c)
    else
      let tail := match chomping with
        | .strip => []
        | .clip  => lineBreak
        | .keep  => lineBreak ++ next
      (breaks ++ line ++ tail, c)

def chomping? (c : Char) : Option Chomping :=
  if c = '+' then some .keep else if c = '-' then some .strip else none

-- A digit that sets the indentation of a block; it is never zero.
def scanIncrement (c : Cursor) : Except Fault (Option Nat × Cursor) :=
  if c.head = '0' then .error .malformed
  else if c.head.isDigit then .ok (some (c.head.toNat - '0'.toNat), c.step)
  else .ok (none, c)

-- The marks behind the indicator of a block, in either order.
def scanBlockHeader (c : Cursor) : Except Fault (Chomping × Option Nat × Cursor) := do
  let (chomping, increment, c) ← match chomping? c.head with
    | some chomping => do
      let (increment, c) ← scanIncrement c.step
      pure (chomping, increment, c)
    | none => do
      let (increment, c) ← scanIncrement c
      match increment, chomping? c.head with
      | some n, some chomping => pure (chomping, some n, c.step)
      | n, _                  => pure (Chomping.clip, n, c)
  if isSpaceOrEnd c.head then return (chomping, increment, c) else .error .malformed

-- A literal or folded block under a parent that is indented by `indent`.
def scanBlockScalar (folded : Bool) (indent : Int) (c : Cursor) : Except Fault (List Char × Cursor) := do
  let (chomping, increment, c) ← scanBlockHeader c.step
  let c ← c.ignoredLine
  let least := (max (indent + 1) 1).toNat
  let fuel := c.rest.length + 1
  let (breaks, indent, c) := match increment with
    | some n =>
      let indent := least + n - 1
      let (breaks, c) := scanBlockBreaks indent fuel c
      (breaks, indent, c)
    | none   =>
      let (breaks, widest, c) := scanBlockIndentation 0 fuel c
      (breaks, max least widest, c)
  if c.column = indent && c.head ≠ endMark then
    return scanBlockLines folded chomping indent fuel breaks c
  else return (if chomping = .keep then breaks else [], c)

def escapes : List (Char × Char) :=
  [('0', '\x00'), ('a', '\x07'), ('b', '\x08'), ('t', '\t'), ('\t', '\t'), ('n', '\n'), ('v', '\x0b'),
   ('f', '\x0c'), ('r', '\r'), ('e', '\x1b'), (' ', ' '), ('"', '"'), ('\\', '\\'), ('/', '/'),
   ('N', '\u0085'), ('_', '\u00A0'), ('L', '\u2028'), ('P', '\u2029')]

def escapeWidths : List (Char × Nat) :=
  [('x', 2), ('u', 4), ('U', 8)]

-- Blank lines inside quotes, up to the text of the next line.
def scanQuotedBreaks : Nat → Cursor → Except Fault (List Char × Cursor)
  | 0,        c => .ok ([], c)
  | fuel + 1, c => do
    if c.atSeparator then .error .malformed
    let c := c.skip fun d => d = ' ' || d = '\t'
    if isBreak c.head then
      let (b, c) := c.lineBreak
      let (rest, c) ← scanQuotedBreaks fuel c
      return (b ++ rest, c)
    else return ([], c)

-- White space inside quotes. A single line break is a space, and further ones are kept.
def scanQuotedSpaces (c : Cursor) : Except Fault (List Char × Cursor) := do
  let (blanks, c) := c.run fun d => d = ' ' || d = '\t'
  if c.head = endMark then .error .malformed
  if isBreak c.head then
    let (b, c) := c.lineBreak
    let (breaks, c) ← scanQuotedBreaks (c.rest.length + 1) c
    if b ≠ ['\n'] then return (b ++ breaks, c)
    else if breaks.isEmpty then return ([' '], c)
    else return (breaks, c)
  else return (blanks, c)

-- What a backslash in double quotes and what follows it stand for.
def scanEscape (c : Cursor) : Except Fault (Text.Points × Cursor) := do
  let d := c.head
  match escapes.lookup d, escapeWidths.lookup d with
  | some e, _     => return ([.char e], c.step)
  | _, some width =>
    let (code, c) ← scanHex width c.step
    if 0x110000 ≤ code then .error (.codePoint code)
    return ([.ofNat code], c)
  | none, none    =>
    if isBreak d then do
      let (breaks, c) ← scanQuotedBreaks (c.rest.length + 1) c.lineBreak.2
      return (Text.Points.ofChars breaks, c)
    else .error .malformed

-- Text in quotes, from behind the opening quote on. `fuel` bounds the number of its pieces.
def scanQuoted (quote : Char) : Nat → Cursor → Except Fault (Text.Points × Cursor)
  | 0,        _ => .error .malformed
  | fuel + 1, c => do
    let d := c.head
    let (text, c) ←
      if d = quote then
        if quote = '\'' && c.peek 1 = '\'' then pure ([.char '\''], c.forward 2) else return ([], c.step)
      else if d = '\\' && quote = '"' then scanEscape c.step
      else if isBlankOrEnd d then do
        let (spaces, c) ← scanQuotedSpaces c
        pure (Text.Points.ofChars spaces, c)
      else pure ([.char d], c.step)
    let (rest, c) ← scanQuoted quote fuel c
    return (text ++ rest, c)

-- What ends a stretch of plain text: white space, a colon before it, and in flow the flow marks.
def endsPlain (inFlow : Bool) (c next : Char) : Bool :=
  isBlankOrEnd c ||
  (c = ':' && (isBlankOrEnd next || (inFlow && ",[]\x7b\x7d".toList.contains next))) ||
  (inFlow && ",?[]\x7b\x7d".toList.contains c)

def takePlain (inFlow : Bool) : List Char → List Char
  | []     => []
  | c :: t => if endsPlain inFlow c (t.headD endMark) then [] else c :: takePlain inFlow t

-- Blank lines behind plain text; nothing if documents are separated here.
def scanPlainBreaks : Nat → Cursor → Option (List Char) × Cursor
  | 0,        c => (some [], c)
  | fuel + 1, c =>
    if c.atSeparator then (none, c)
    else
      let c := c.skipSpaces
      if isBreak c.head then
        let (b, c) := c.lineBreak
        let (rest, c) := scanPlainBreaks fuel c
        (rest.map (b ++ ·), c)
      else (some [], c)

-- The white space behind plain text as it counts if more text follows, and whether it holds a
-- line break.
def scanPlainSpaces (c : Cursor) : Option (List Char) × Bool × Cursor :=
  let (spaces, c) := c.run (· = ' ')
  if isBreak c.head then
    let (b, c) := c.lineBreak
    let (breaks, c) := scanPlainBreaks (c.rest.length + 1) c
    let joint := breaks.map fun breaks =>
      if b ≠ ['\n'] then b ++ breaks else if breaks.isEmpty then [' '] else breaks
    (joint, true, c)
  else (if spaces.isEmpty then none else some spaces, false, c)

-- Plain text over several lines, the white space inside of it as it counts, and whether a key may
-- begin behind it. `before` is the white space since the last stretch.
def scanPlain (inFlow : Bool) (indent : Int) :
    Nat → List Char → Bool → Cursor → List Char × Bool × Cursor
  | 0,        _,      mayKey, c => ([], mayKey, c)
  | fuel + 1, before, mayKey, c =>
    let text := if c.head = '#' then [] else takePlain inFlow c.rest
    if text.isEmpty then ([], mayKey, c)
    else
      let (spaces, broke, c) := scanPlainSpaces (c.forward text.length)
      match spaces with
      | none        => (before ++ text, broke, c)
      | some spaces =>
        if c.head = '#' || (!inFlow && (c.column : Int) < indent) then (before ++ text, broke, c)
        else
          let (rest, mayKey, c) := scanPlain inFlow indent fuel spaces broke c
          (before ++ text ++ rest, mayKey, c)

-- A place where a key may have begun: the number of tokens before it.
structure KeyStart where
  level    : Int
  number   : Nat
  required : Bool
  index    : Nat
  line     : Nat
  column   : Nat

structure Scanner where
  cursor  : Cursor
  tokens  : Array Token    := #[]
  -- The number of open flow collections.
  level   : Int            := 0
  indent  : Int            := -1
  indents : List Int       := []
  mayKey  : Bool           := true
  keys    : List KeyStart  := []

namespace Scanner

def inFlow (s : Scanner) : Bool :=
  s.level ≠ 0

def push (s : Scanner) (t : Token) : Scanner :=
  { s with tokens := s.tokens.push t }

def insertAt (s : Scanner) (n : Nat) (t : Token) : Scanner :=
  { s with tokens := s.tokens.extract 0 n ++ #[t] ++ s.tokens.extract n s.tokens.size }

def forward (s : Scanner) (n : Nat) : Scanner :=
  { s with cursor := s.cursor.forward n }

-- A key does not go on for more than a line, nor for very long.
def dropStale (s : Scanner) : Except Fault Scanner :=
  let isStale : KeyStart → Bool := fun k =>
    k.line ≠ s.cursor.line || 1024 < s.cursor.index - k.index
  if s.keys.any fun k => isStale k && k.required then .error .malformed
  else .ok { s with keys := s.keys.filter (!isStale ·) }

def dropKey (s : Scanner) : Except Fault Scanner :=
  if s.keys.any fun k => k.level = s.level && k.required then .error .malformed
  else .ok { s with keys := s.keys.filter (·.level ≠ s.level) }

def saveKey (s : Scanner) : Except Fault Scanner := do
  if !s.mayKey then return s
  let required := !s.inFlow && s.indent = s.cursor.column
  let s ← s.dropKey
  let k : KeyStart :=
    ⟨s.level, s.tokens.size, required, s.cursor.index, s.cursor.line, s.cursor.column⟩
  return { s with keys := k :: s.keys }

-- Closes the blocks that are indented by more than `column`.
def unwind (s : Scanner) (column : Int) : Scanner :=
  if s.inFlow then s else go s.indents s
where
  go : List Int → Scanner → Scanner
    | [],     s => s
    | i :: t, s =>
      if s.indent > column then
        go t { s with indent := i, indents := t, tokens := s.tokens.push .blockEnd }
      else s

-- Opens a block at a column unless one is open there; tells whether it did.
def addIndent (s : Scanner) (column : Nat) : Bool × Scanner :=
  if s.indent < column then
    (true, { s with indent := column, indents := s.indent :: s.indents })
  else (false, s)

-- Passes over spaces, comments and line breaks.
def skipToToken (s : Scanner) : Scanner :=
  let c := if s.cursor.index = 0 && s.cursor.head = '\uFEFF' then s.cursor.step else s.cursor
  go (c.rest.length + 1) { s with cursor := c }
where
  go : Nat → Scanner → Scanner
    | 0,        s => s
    | fuel + 1, s =>
      let c := s.cursor.skipSpaces.skipComment
      if isBreak c.head then
        go fuel { s with cursor := c.lineBreak.2, mayKey := s.mayKey || !s.inFlow }
      else { s with cursor := c }

def documentMark (s : Scanner) (t : Token) : Except Fault Scanner := do
  let s ← (s.unwind (-1)).dropKey
  return ({ s with mayKey := false }.forward 3).push t

def flowStart (s : Scanner) (t : Token) : Except Fault Scanner := do
  let s ← s.saveKey
  return ({ s with level := s.level + 1, mayKey := true }.forward 1).push t

def flowEnd (s : Scanner) (t : Token) : Except Fault Scanner := do
  let s ← s.dropKey
  return ({ s with level := s.level - 1, mayKey := false }.forward 1).push t

-- Opens a block at the place if that is due, where a mark may stand only if a key may.
def openBlock (s : Scanner) (t : Token) : Except Fault Scanner :=
  if s.inFlow then .ok s
  else if !s.mayKey then .error .malformed
  else
    let (isNew, s) := s.addIndent s.cursor.column
    .ok (if isNew then s.push t else s)

def entryMark (s : Scanner) : Except Fault Scanner := do
  let s ← s.openBlock .blockSequenceStart
  let s ← { s with mayKey := true }.dropKey
  return (s.forward 1).push .blockEntry

def keyMark (s : Scanner) : Except Fault Scanner := do
  let s ← s.openBlock .blockMappingStart
  let s ← { s with mayKey := !s.inFlow }.dropKey
  return (s.forward 1).push .key

def valueMark (s : Scanner) : Except Fault Scanner := do
  match s.keys.find? (·.level = s.level) with
  | some k =>
    let s := { s with keys := s.keys.filter (·.level ≠ s.level) }.insertAt k.number .key
    let s := if s.inFlow then s else
      let (isNew, s) := s.addIndent k.column
      if isNew then s.insertAt k.number .blockMappingStart else s
    return ({ s with mayKey := false }.forward 1).push .value
  | none   =>
    let s ← s.openBlock .blockMappingStart
    let s ← { s with mayKey := !s.inFlow }.dropKey
    return (s.forward 1).push .value

-- A token that a key may begin with.
def keyToken (s : Scanner) (scan : Cursor → Except Fault (Token × Cursor)) : Except Fault Scanner := do
  let s ← s.saveKey
  let (t, c) ← scan s.cursor
  return { s with mayKey := false, cursor := c }.push t

def blockScalar (s : Scanner) (folded : Bool) : Except Fault Scanner := do
  let s ← s.dropKey
  let (text, c) ← scanBlockScalar folded s.indent s.cursor
  return { s with mayKey := true, cursor := c }.push (.scalar (Text.Points.ofChars text) false)

def quotedScalar (quote : Char) (c : Cursor) : Except Fault (Token × Cursor) := do
  let (text, c) ← scanQuoted quote (c.rest.length + 1) c.step
  return (.scalar text false, c)

def plainScalar (s : Scanner) : Except Fault Scanner := do
  let s ← s.saveKey
  let (text, mayKey, c) :=
    scanPlain s.inFlow (s.indent + 1) (s.cursor.rest.length + 1) [] false s.cursor
  return { s with mayKey := mayKey, cursor := c }.push (.scalar (Text.Points.ofChars text) true)

def beginsPlain (s : Scanner) : Bool :=
  let c := s.cursor.head
  !(isBlankOrEnd c || "-?:,[]\x7b\x7d#&*!|>'\"%@`".toList.contains c) ||
  (!isBlankOrEnd (s.cursor.peek 1) && (c = '-' || (!s.inFlow && (c = '?' || c = ':'))))

-- Reads one token, and those that come with it; tells whether the stream has ended.
def next (s : Scanner) : Except Fault (Bool × Scanner) := do
  let s ← s.skipToToken.dropStale
  let s := s.unwind s.cursor.column
  let c := s.cursor.head
  let isMark := s.inFlow || isBlankOrEnd (s.cursor.peek 1)
  let atStart := s.cursor.column = 0
  if c = endMark then
    let s ← (s.unwind (-1)).dropKey
    return (true, s.push .streamEnd)
  let s ←
    if c = '%' && atStart then do
      let s ← (s.unwind (-1)).dropKey
      let (t, c) ← scanDirective s.cursor
      pure ({ s with mayKey := false, cursor := c }.push t)
    else if atStart && s.cursor.atSeparator then
      s.documentMark (if c = '-' then .documentStart else .documentEnd)
    else if c = '[' then s.flowStart .flowSequenceStart
    else if c = '{' then s.flowStart .flowMappingStart
    else if c = ']' then s.flowEnd .flowSequenceEnd
    else if c = '}' then s.flowEnd .flowMappingEnd
    else if c = ',' then do
      let s ← { s with mayKey := true }.dropKey
      pure ((s.forward 1).push .flowEntry)
    else if c = '-' && isBlankOrEnd (s.cursor.peek 1) then s.entryMark
    else if c = '?' && isMark then s.keyMark
    else if c = ':' && isMark then s.valueMark
    else if c = '*' then s.keyToken fun c => (scanAnchor c).map fun (n, c) => (.alias n, c)
    else if c = '&' then s.keyToken fun c => (scanAnchor c).map fun (n, c) => (.anchor n, c)
    else if c = '!' then s.keyToken scanTag
    else if c = '|' && !s.inFlow then s.blockScalar false
    else if c = '>' && !s.inFlow then s.blockScalar true
    else if c = '\'' || c = '"' then s.keyToken (quotedScalar c)
    else if s.beginsPlain then s.plainScalar
    else .error .malformed
  return (false, s)

-- The tokens that are settled: in front of one that a key may begin with, another may yet be put in.
def settled (s : Scanner) : Array Token :=
  match s.dropStale with
  | .ok s    => s.tokens.extract 0 (s.keys.foldl (fun n k => min n k.number) s.tokens.size)
  | .error _ => s.tokens

-- All tokens up to the end of the stream, or those settled before a fault.
def run : Nat → Scanner → Array Token × Option Fault
  | 0,        s => (s.tokens, some .malformed)
  | fuel + 1, s =>
    match s.next with
    | .error f       => (s.settled, some f)
    | .ok (true, s)  => (s.tokens, none)
    | .ok (false, s) => run fuel s

end Scanner

-- The characters that a stream may hold.
def isPrintable (c : Char) : Bool :=
  let n := c.toNat
  n = 9 || n = 10 || n = 13 || (0x20 ≤ n && n ≤ 0x7E) || n = 0x85 || (0xA0 ≤ n && n ≤ 0xFFFD) ||
  0x10000 ≤ n

-- The tokens of a text, and the fault that ends them if there is one.
def tokens (text : List Char) : List Token × Option Fault :=
  if text.all isPrintable then
    let (ts, fault) := Scanner.run (text.length + 2) { cursor := { rest := text } }
    (ts.toList, fault)
  else ([], some .malformed)

end TypedResources.Yaml
