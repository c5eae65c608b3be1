import TypedResources.Pattern.Basic
import TypedResources.Text.Class

-- Finding a pattern in a text: the occurrences from left to right, none overlapping the one before.
-- Cutting a text at them loses nothing (`flatMap_text_cut`).

namespace TypedResources

namespace Pattern

variable {ι : Type}

def char (c : Char) : Pattern ι :=
  one (· = c)

def word (s : String) : Pattern ι :=
  s.toList.foldr (fun c p => seq (char c) p) empty

def many1 (a : Pattern ι) : Pattern ι :=
  seq a (many a)

def opt (a : Pattern ι) : Pattern ι :=
  alt a empty

def all (ps : List (Pattern ι)) : Pattern ι :=
  ps.foldr seq empty

def blanks : Pattern ι :=
  many (one Text.isBlank)

def wordChars : Pattern ι :=
  many1 (one Text.isWord)

end Pattern

-- A stretch of a text that fits a pattern, with the parts kept.
structure Occurrence (ι : Type) where
  start : Nat
  text  : List Char
  kept  : List (ι × List Char)

def Occurrence.stop {ι : Type} (o : Occurrence ι) : Nat :=
  o.start + o.text.length

def Occurrence.get? {ι : Type} [DecidableEq ι] (o : Occurrence ι) (i : ι) : Option (List Char) :=
  o.kept.lookup i

inductive Piece (ι : Type)
  | plain (c : Char)
  | found (o : Occurrence ι)

def Piece.text {ι : Type} : Piece ι → List Char
  | plain c => [c]
  | found o => o.text

namespace Pattern

variable {ι : Type}

-- The occurrence that begins at a place; one without text does not count.
def occurrenceAt? (p : Pattern ι) (before : Option Char) (rest : List Char) (index : Nat) :
    Option (Occurrence ι) :=
  let s : Place ι := ⟨before, rest, index, []⟩
  match p.run s some with
  | some t => if s.upTo t = [] then none else some ⟨index, s.upTo t, t.kept⟩
  | none   => none

-- A text cut into the occurrences of a pattern and the characters between them.
def cut (p : Pattern ι) (text : List Char) : List (Piece ι) :=
  go none 0 0 text
where
  -- The first `skip` characters belong to the occurrence found last.
  go (before : Option Char) (index skip : Nat) : List Char → List (Piece ι)
    | []     => []
    | c :: t =>
      match skip with
      | skip + 1 => go (some c) (index + 1) skip t
      | 0        =>
        match p.occurrenceAt? before (c :: t) index with
        | some o => .found o :: go (some c) (index + 1) (o.text.length - 1) t
        | none   => .plain c :: go (some c) (index + 1) 0 t

def occurrences (p : Pattern ι) (text : List Char) : List (Occurrence ι) :=
  (p.cut text).filterMap fun
    | .found o => some o
    | .plain _ => none

def search? (p : Pattern ι) (text : List Char) : Option (Occurrence ι) :=
  (p.occurrences text).head?

theorem text_of_occurrenceAt? {p : Pattern ι} {before : Option Char} {rest : List Char} {i : Nat}
    {o : Occurrence ι} (h : p.occurrenceAt? before rest i = some o) :
    o.text ≠ [] ∧ o.text = rest.take o.text.length := by
  unfold occurrenceAt? at h
  grind [Place.upTo]

theorem flatMap_text_cut (p : Pattern ι) (text : List Char) :
    (p.cut text).flatMap Piece.text = text := by
  have go (before i skip) : (cut.go p before i skip text).flatMap Piece.text = text.drop skip := by
    induction text generalizing before i skip with
    | nil => simp [cut.go]
    | cons c t ih =>
      cases skip with
      | succ skip => simp [cut.go, ih]
      | zero =>
        simp only [cut.go]
        split
        case h_1 o ho =>
          obtain ⟨hne, ht⟩ := text_of_occurrenceAt? ho
          obtain ⟨n, hn⟩ : ∃ n, o.text.length = n + 1 :=
            ⟨o.text.length - 1, by have := List.length_pos_iff.2 hne; omega⟩
          have ht' : o.text = c :: t.take n := ht.trans (by simp [hn])
          rw [List.flatMap_cons, ih, Piece.text, hn, ht']
          simp
        case h_2 => simp [ih, Piece.text]
  exact go none 0 0

end Pattern

end TypedResources
