import Mathlib.Data.List.Forall2
import TypedResources.BuildFile.Comment

-- What is left of a build file without its comments. A build file is a list of tokens, each of which
-- fills a part of a line or of several lines. The scanner, which knows nothing of tokens, keeps of
-- every line what the tokens of code and the literals put there (`stripComments_rows`).

namespace TypedResources.BuildFile

section

variable {α β : Type} {l m : List α} {r s : List (List α)}

-- The last line of one text runs on into the first line of another.
def glue : List (List α) → List (List α) → List (List α)
  | [],          s      => s
  | [l],         []     => [l]
  | [l],         m :: s => (l ++ m) :: s
  | l :: k :: r, s      => l :: glue (k :: r) s

theorem glue_ne_nil (hr : r ≠ []) : glue r s ≠ [] := by
  fun_cases glue r s
  case case1 => contradiction
  all_goals exact List.cons_ne_nil _ _

theorem glue_glue (hr : r ≠ []) : glue (glue r [l]) (m :: s) = glue r ((l ++ m) :: s) := by
  induction r
  case nil         => contradiction
  case cons k r ih =>
    cases r
    case nil      => simp [glue]
    case cons n r =>
      obtain ⟨x, y, hx⟩ := List.exists_cons_of_ne_nil (glue_ne_nil (s := [l]) (List.cons_ne_nil n r))
      have ih := ih (List.cons_ne_nil n r)
      rw [hx] at ih
      rw [glue, hx, glue, glue, ih]

theorem map_glue {f : List α → List β} (hf : ∀ l m, f (l ++ m) = f l ++ f m) :
    (glue r s).map f = glue (r.map f) (s.map f) := by
  fun_induction glue r s
  case case1           => rfl
  case case2           => rfl
  case case3           => simp [glue, hf]
  case case4 l k r ih => simp only [List.map_cons, glue] at ih ⊢; rw [ih]

end

-- A character of a line, and whether it is one of a comment.
structure Mark where
  char      : Char
  isComment : Bool

abbrev Row := List Mark

namespace Row

def text (row : Row) : List Char :=
  row.map Mark.char

def code (row : Row) : List Char :=
  (row.filter (!·.isComment)).map Mark.char

def ofCode (s : List Char) : Row :=
  s.map fun c => ⟨c, false⟩

def ofComment (s : List Char) : Row :=
  s.map fun c => ⟨c, true⟩

variable {r s : Row} {t : List Char}

theorem text_append : text (r ++ s) = text r ++ text s :=
  List.map_append

theorem code_append : code (r ++ s) = code r ++ code s := by
  simp [code]

theorem text_ofCode : text (ofCode t) = t := by
  simp [text, ofCode, Function.comp_def]

theorem code_ofCode : code (ofCode t) = t := by
  simp [code, ofCode, List.filter_map, Function.comp_def]

theorem text_ofComment : text (ofComment t) = t := by
  simp [text, ofComment, Function.comp_def]

theorem code_ofComment : code (ofComment t) = [] := by
  simp [code, ofComment]

end Row

-- A character of a literal, or a backslash with the character behind it.
inductive Letter
  | plain (c : Char)
  | escaped (c : Char)
deriving DecidableEq

def Letter.text : Letter → List Char
  | plain c   => [c]
  | escaped c => ['\\', c]

inductive Token
  | code (c : Char)
  | literal (quote : Char) (letters : List Letter)
  | lineComment (body : List Char)
  -- The lines of the body, of which there is one at least.
  | blockComment (first : List Char) (more : List (List Char))
  | lineBreak
deriving DecidableEq

-- What a token puts into the line where it begins, and into the lines below.
def Token.rows : Token → List Row
  | code c                  => [Row.ofCode [c]]
  | literal quote letters   => [Row.ofCode (quote :: letters.flatMap Letter.text ++ [quote])]
  | lineComment body        => [Row.ofComment ('/' :: '/' :: body)]
  | blockComment first more => (glue (('/' :: '*' :: first) :: more) [['*', '/']]).map Row.ofComment
  | lineBreak               => [[], []]

-- The lines of a build file.
def rows (tokens : List Token) : List Row :=
  (tokens.map Token.rows).foldr glue [[]]

def isQuote (c : Char) : Bool :=
  c = '"' || c = '\''

def Letter.Fits (quote : Char) : Letter → Prop
  | plain c   => c ≠ quote ∧ c ≠ '\\'
  | escaped _ => True

def Token.Valid : Token → Prop
  | code c                  => isQuote c = false
  | literal quote letters   => isQuote quote ∧ ∀ l ∈ letters, l.Fits quote
  | lineComment _           => True
  | blockComment first more => ∀ l ∈ first :: more, ¬['*', '/'] <:+: l
  | lineBreak               => True

-- The character behind a slash begins a comment with it.
def opens (s : List Char) : Bool :=
  s.head? = some '/' || s.head? = some '*'

-- A slash of code does not begin a comment with what stands behind it, and a comment that runs to
-- the end of its line is the last token of it.
def Token.Precedes : Token → List Token → Prop
  | code c,        f => c = '/' → opens ((BuildFile.rows f).headD []).text = false
  | lineComment _, f => f = [] ∨ f.head? = some lineBreak
  | _,             _ => True

def WellFormed : List Token → Prop
  | []     => True
  | t :: f => t.Valid ∧ t.Precedes f ∧ WellFormed f

instance (quote : Char) : (l : Letter) → Decidable (l.Fits quote)
  | .plain c   => inferInstanceAs (Decidable (c ≠ quote ∧ c ≠ '\\'))
  | .escaped _ => .isTrue trivial

instance : (t : Token) → Decidable t.Valid
  | .code c                  => inferInstanceAs (Decidable (isQuote c = false))
  | .literal quote letters   => inferInstanceAs (Decidable (isQuote quote ∧ ∀ l ∈ letters, l.Fits quote))
  | .lineComment _           => .isTrue trivial
  | .blockComment first more => inferInstanceAs (Decidable (∀ l ∈ first :: more, ¬['*', '/'] <:+: l))
  | .lineBreak               => .isTrue trivial

instance (f : List Token) : (t : Token) → Decidable (t.Precedes f)
  | .code c          => inferInstanceAs (Decidable (c = '/' → opens ((rows f).headD []).text = false))
  | .lineComment _   => inferInstanceAs (Decidable (f = [] ∨ f.head? = some .lineBreak))
  | .literal ..      => .isTrue trivial
  | .blockComment .. => .isTrue trivial
  | .lineBreak       => .isTrue trivial

instance decidableWellFormed : (f : List Token) → Decidable (WellFormed f)
  | []     => .isTrue trivial
  | t :: f =>
    have := decidableWellFormed f
    inferInstanceAs (Decidable (t.Valid ∧ t.Precedes f ∧ WellFormed f))

variable {t : Token} {f g : List Token} {c q : Char} {s : List Char} {l : List Char} {letters : List Letter}

theorem rows_ne_nil : rows f ≠ [] := by
  cases f
  case nil      => exact List.cons_ne_nil _ _
  case cons t f =>
    refine glue_ne_nil ?_
    cases t
    case blockComment => exact mt List.map_eq_nil_iff.mp (glue_ne_nil (List.cons_ne_nil _ _))
    all_goals exact List.cons_ne_nil _ _

attribute [local simp] stripLine

theorem stripLine_code (hc : isQuote c = false) (hs : c = '/' → opens s = false) :
    stripLine .code (c :: s) = (c :: (stripLine .code s).1, (stripLine .code s).2) := by
  have hq : ¬(c = '"' || c = '\'') = true := by simpa [isQuote] using hc
  rw [stripLine, if_neg hq]
  all_goals rintro t rfl rfl; cases hs rfl

theorem stripLine_quote (hq : isQuote q) :
    stripLine .code (q :: s) = (q :: (stripLine (.quoted q) s).1, (stripLine (.quoted q) s).2) := by
  unfold isQuote at hq
  rw [stripLine, if_pos hq]
  all_goals rintro t rfl; cases hq

-- The letters of a literal are kept.
theorem stripLine_letters (hl : ∀ l ∈ letters, l.Fits q) :
    stripLine (.quoted q) (letters.flatMap Letter.text ++ s) =
      (letters.flatMap Letter.text ++ (stripLine (.quoted q) s).1, (stripLine (.quoted q) s).2) := by
  induction letters
  case nil               => rfl
  case cons l letters ih =>
    obtain ⟨hf, hl⟩ := List.forall_mem_cons.mp hl
    specialize ih hl
    cases l
    case escaped c =>
      show stripLine _ ('\\' :: c :: (letters.flatMap Letter.text ++ s)) = _
      rw [stripLine, ih]
      rfl
    case plain c =>
      show stripLine _ (c :: (letters.flatMap Letter.text ++ s)) = _
      rw [stripLine, if_neg hf.left, ih]
      · rfl
      · rintro d t rfl; exact absurd rfl hf.right

theorem stripLine_literal (hl : ∀ l ∈ letters, l.Fits q) (hq : isQuote q) :
    stripLine .code (q :: letters.flatMap Letter.text ++ [q] ++ s) =
      (q :: letters.flatMap Letter.text ++ [q] ++ (stripLine .code s).1, (stripLine .code s).2) := by
  have hclose : stripLine (.quoted q) (q :: s) = (q :: (stripLine .code s).1, (stripLine .code s).2) := by
    rw [stripLine, if_pos rfl]
    rintro d t rfl; cases hq
  simp only [List.cons_append, List.append_assoc, List.nil_append]
  rw [stripLine_quote hq, stripLine_letters hl, hclose]

-- A comment goes on as long as nothing closes it.
theorem stripLine_open (hl : ¬['*', '/'] <:+: l) : stripLine .block l = ([], true) := by
  induction l
  case nil         => simp
  case cons c l ih =>
    rw [stripLine]
    · exact ih fun h => hl (h.trans (List.infix_cons (List.infix_refl l)))
    · rintro t rfl rfl; exact hl ⟨[], t, rfl⟩

theorem stripLine_close (hl : ¬['*', '/'] <:+: l) :
    stripLine .block (l ++ '*' :: '/' :: s) = stripLine .code s := by
  induction l
  case nil         => simp
  case cons c l ih =>
    rw [List.cons_append, stripLine]
    · exact ih fun h => hl (h.trans (List.infix_cons (List.infix_refl l)))
    · rintro t rfl ht
      cases l
      case nil       => cases ht
      case cons d l => cases ht; exact hl ⟨[], l, rfl⟩

-- A comment leaves its lines empty, and the code behind it is scanned as if it began there.
theorem stripLines_block {b : List (List Char)} {r : List (List Char)} (hb : b ≠ [])
    (h : ∀ l ∈ b, ¬['*', '/'] <:+: l) :
    stripLines true (glue b (('*' :: '/' :: s) :: r)) = glue (b.map fun _ => []) (stripLines false (s :: r)) := by
  induction b
  case nil         => contradiction
  case cons l b ih =>
    obtain ⟨hl, hb⟩ := List.forall_mem_cons.mp h
    cases b
    case nil =>
      rw [glue, stripLines, if_pos rfl, stripLine_close hl, stripLines, if_neg Bool.false_ne_true]
      rfl
    case cons k b =>
      rw [glue, stripLines, if_pos rfl, stripLine_open hl, ih (List.cons_ne_nil _ _) hb]
      rfl

theorem stripLines_slash {b r : List (List Char)} :
    stripLines false (glue (('/' :: '*' :: l) :: b) (s :: r)) = stripLines true (glue (l :: b) (s :: r)) := by
  cases b <;> rfl

-- What is scanned at the beginning of a line and leaves the scanner in the code behind it.
theorem stripLines_glue {u v : List Char} {r : List (List Char)}
    (h : stripLine .code (u ++ s) = (v ++ (stripLine .code s).1, (stripLine .code s).2)) :
    stripLines false (glue [u] (s :: r)) = glue [v] (stripLines false (s :: r)) := by
  rw [glue, stripLines, stripLines, if_neg Bool.false_ne_true, h]
  rfl

-- The codes of the lines of a build file follow from those of the lines behind its first token.
theorem stripLines_cons (hv : t.Valid) (hp : t.Precedes f)
    (h : stripLines false ((rows f).map Row.text) = (rows f).map Row.code) :
    stripLines false ((rows (t :: f)).map Row.text) = (rows (t :: f)).map Row.code := by
  show stripLines false ((glue t.rows (rows f)).map Row.text) = (glue t.rows (rows f)).map Row.code
  rw [map_glue fun _ _ => Row.text_append, map_glue fun _ _ => Row.code_append, ← h]
  obtain ⟨row, r, hf⟩ := List.exists_cons_of_ne_nil (rows_ne_nil (f := f))
  cases t
  case lineBreak => rw [hf]; rfl
  case code c =>
    have hs : c = '/' → opens row.text = false := fun hc => by simpa [hf] using hp hc
    simp only [Token.rows, List.map_cons, List.map_nil, Row.text_ofCode, Row.code_ofCode, hf]
    exact stripLines_glue (stripLine_code hv hs)
  case literal q letters =>
    simp only [Token.rows, List.map_cons, List.map_nil, Row.text_ofCode, Row.code_ofCode, hf]
    exact stripLines_glue (stripLine_literal hv.right hv.left)
  case lineComment body =>
    have hrow : row = [] := by
      cases f
      case nil      => exact (List.cons.inj hf).left.symm
      case cons t f =>
        obtain rfl : t = .lineBreak := Option.some.inj (hp.resolve_left (List.cons_ne_nil t f))
        exact (List.cons.inj hf).left.symm
    simp only [Token.rows, List.map_cons, List.map_nil, Row.text_ofComment, Row.code_ofComment, hf, hrow]
    exact stripLines_glue rfl
  case blockComment first more =>
    have hb : first :: more ≠ [] := List.cons_ne_nil first more
    have hc : ('/' :: '*' :: first) :: more ≠ [] := List.cons_ne_nil _ more
    have htext : Row.text ∘ Row.ofComment = id := funext fun _ => Row.text_ofComment
    have hcode : Row.code ∘ Row.ofComment = fun _ => [] := funext fun _ => Row.code_ofComment
    simp only [Token.rows, List.map_map, htext, hcode, List.map_id, hf, List.map_cons]
    rw [glue_glue hc, map_glue fun _ _ => rfl, stripLines_slash, List.cons_append, List.cons_append,
      List.nil_append, stripLines_block hb hv, stripLines]
    exact (glue_glue (l := []) (List.cons_ne_nil _ _)).symm

theorem stripLines_rows (h : WellFormed f) : stripLines false ((rows f).map Row.text) = (rows f).map Row.code := by
  induction f
  case nil         => rfl
  case cons t f ih =>
    obtain ⟨hv, hp, hf⟩ := h
    exact stripLines_cons hv hp (ih hf)

-- Two tokens are the same, or they are comments over as many lines.
inductive Recommented : Token → Token → Prop
  | refl (t : Token) : Recommented t t
  | line (body body' : List Char) : Recommented (.lineComment body) (.lineComment body')
  | block {first first' : List Char} {more more' : List (List Char)} (h : more.length = more'.length) :
    Recommented (.blockComment first more) (.blockComment first' more')

theorem Recommented.map_code {t u : Token} (h : Recommented t u) : t.rows.map Row.code = u.rows.map Row.code := by
  cases h with
  | refl    => rfl
  | line    => simp only [Token.rows, List.map_cons, Row.code_ofComment]
  | block h =>
    have hcode : Row.code ∘ Row.ofComment = fun _ => [] := funext fun _ => Row.code_ofComment
    simp only [Token.rows, List.map_map, hcode]
    rw [map_glue fun _ _ => rfl, map_glue fun _ _ => rfl]
    simp only [List.map_cons, List.map_const', h]

theorem map_code_rows (h : List.Forall₂ Recommented f g) : (rows f).map Row.code = (rows g).map Row.code := by
  induction h
  case nil                 => rfl
  case cons t u f g ht _ ih =>
    show (glue t.rows (rows f)).map Row.code = (glue u.rows (rows g)).map Row.code
    rw [map_glue fun _ _ => Row.code_append, map_glue fun _ _ => Row.code_append, ht.map_code, ih]

-- Every line of a build file comes with its number and without its comments, and what the comments
-- say makes no difference.
theorem stripComments_rows (h : WellFormed f) :
    stripComments ((rows f).map Row.text) = ((rows f).zipIdx 1).map (fun (row, n) => (n, row.code)) ∧
    ∀ g, WellFormed g → List.Forall₂ Recommented f g →
      stripComments ((rows g).map Row.text) = stripComments ((rows f).map Row.text) := by
  refine ⟨?_, fun g hg hfg => ?_⟩
  · rw [stripComments, stripLines_rows h, List.zipIdx_map, List.map_map]
    rfl
  · rw [stripComments, stripComments, stripLines_rows h, stripLines_rows hg, map_code_rows hfg]

-- A literal with the mark of a comment in it, and a comment over two lines with the quote of a literal.
def remarked (remark : String) : List Token :=
  [.code 'u', .literal '"' [.plain '/', .plain '/', .escaped '"'], .lineComment remark.toList, .lineBreak,
    .blockComment "it's".toList [remark.toList], .code '/', .code 'v']

theorem remarked_stripped :
    WellFormed (remarked "old") ∧ WellFormed (remarked "/*'") ∧
    (rows (remarked "old")).map Row.text = ["u\"//\\\"\"//old".toList, "/*it's".toList, "old*//v".toList] ∧
    stripComments ((rows (remarked "old")).map Row.text) = [(1, "u\"//\\\"\"".toList), (2, []), (3, "/v".toList)] ∧
    stripComments ((rows (remarked "/*'")).map Row.text) = stripComments ((rows (remarked "old")).map Row.text) := by
  have hf : WellFormed (remarked "old") := by decide
  have hg : WellFormed (remarked "/*'") := by decide
  obtain ⟨hstrip, hsame⟩ := stripComments_rows hf
  refine ⟨hf, hg, by decide, hstrip.trans (by decide), hsame _ hg ?_⟩
  exact .cons (.refl _) (.cons (.refl _) (.cons (.line _ _) (.cons (.refl _) (.cons (.block rfl)
    (.cons (.refl _) (.cons (.refl _) .nil))))))

end TypedResources.BuildFile
