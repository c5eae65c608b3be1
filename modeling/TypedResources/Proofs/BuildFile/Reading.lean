import TypedResources.Proofs.BuildFile.Comment

-- How the lines of a build file are read. Whatever they are, they fall into code, literals and comments
-- in one way, also where a literal is not closed in its line or a comment not in the file. Without its
-- comments a line falls into the segments that are left, so that there is nothing more to remove from it
-- (`stripComments_stripComments`).

namespace TypedResources.BuildFile

-- A stretch of a line. Behind the letters of a literal stands the quote that closes it, or what is left
-- of a line that ends before.
inductive Segment
  | code (c : Char)
  | literal (quote : Char) (letters : List Letter) (ending : List Char)
  | comment (text : List Char)

namespace Segment

def text : Segment → List Char
  | code c                       => [c]
  | literal quote letters ending => quote :: letters.flatMap Letter.text ++ ending
  | comment text                 => text

def isComment : Segment → Bool
  | comment _ => true
  | _         => false

end Segment

abbrev Reading := List Segment

namespace Reading

def text (r : Reading) : List Char :=
  r.flatMap Segment.text

def uncommented (r : Reading) : Reading :=
  r.filter (!·.isComment)

-- The segments of a line, by whether a block comment is open where it begins and where it ends. The mark
-- that opens a block comment is a segment of its own, and so is the rest of it in each line.
inductive Valid : Bool → Reading → Bool → Prop
  | nil : Valid false [] false
  | code {c r e} (hc : isQuote c = false) (hs : c = '/' → opens (text r) = false) (h : Valid false r e) :
    Valid false (.code c :: r) e
  | closed {q ls r e} (hq : isQuote q) (hl : ∀ l ∈ ls, l.Fits q) (h : Valid false r e) :
    Valid false (.literal q ls [q] :: r) e
  | unclosed {q ls u} (hq : isQuote q) (hl : ∀ l ∈ ls, l.Fits q) (hu : u = [] ∨ u = ['\\']) :
    Valid false [.literal q ls u] false
  | line (u) : Valid false [.comment ('/' :: '/' :: u)] false
  | opening {r e} (h : Valid true r e) : Valid false (.comment ['/', '*'] :: r) e
  | inside {u} (hu : ¬['*', '/'] <:+: u) : Valid true [.comment u] true
  | closing {u r e} (hu : ¬['*', '/'] <:+: u) (h : Valid false r e) :
    Valid true (.comment (u ++ ['*', '/']) :: r) e

variable {b e e' : Bool} {r r' : Reading} {s : Segment} {c q : Char} {t u v : List Char} {l k : Letter}
  {ls ks : List Letter}

theorem text_nil : text [] = [] :=
  rfl

theorem text_cons : text (s :: r) = s.text ++ text r :=
  rfl

theorem text_literal : text (.literal q ls u :: r) = q :: (ls.flatMap Letter.text ++ (u ++ text r)) := by
  simp [text, Segment.text]

theorem uncommented_uncommented : uncommented (uncommented r) = uncommented r := by
  simp [uncommented]

-- What stands first and does not open a comment is no comment, and stands first without them as well.
theorem Valid.opens_uncommented (h : Valid false r e) (ho : opens (text r) = false) :
    opens (text r.uncommented) = false := by
  cases h
  case line    => cases ho
  case opening => cases ho
  all_goals exact ho

theorem Valid.uncommented (h : Valid b r e) : Valid false r.uncommented false := by
  induction h
  case nil               => exact .nil
  case line              => exact .nil
  case inside            => exact .nil
  case opening ih        => exact ih
  case closing ih        => exact ih
  case code hc hs h ih   => exact .code hc (fun he => h.opens_uncommented (hs he)) ih
  case closed hq hl _ ih => exact .closed hq hl ih
  case unclosed hq hl hu => exact .unclosed hq hl hu

theorem stripLine_ending (hu : u = [] ∨ u = ['\\']) (hq : isQuote q) : stripLine (.quoted q) u = (u, false) := by
  rcases hu with rfl | rfl
  case inl => rfl
  case inr =>
    have hne : '\\' ≠ q := by rintro rfl; cases hq
    rw [stripLine, if_neg hne]
    · rfl
    · rintro d t - ht; cases ht

-- The scanner keeps the segments of a line that are no comments.
theorem Valid.stripLine_text (h : Valid b r e) :
    stripLine (if b then .block else .code) (text r) = (text r.uncommented, e) := by
  induction h
  case nil              => rfl
  case line             => rfl
  case opening r e h ih => exact ih
  case inside u hu      =>
    show stripLine .block (u ++ []) = _
    rw [List.append_nil, stripLine_open hu]
    rfl
  case closing u r e hu h ih =>
    show stripLine .block (u ++ ['*', '/'] ++ text r) = _
    rw [List.append_assoc]
    exact (stripLine_close hu).trans ih
  case code c r e hc hs h ih =>
    show stripLine .code (c :: text r) = _
    rw [stripLine_code hc hs, show stripLine .code (text r) = (text r.uncommented, e) from ih]
    rfl
  case closed q ls r e hq hl h ih =>
    show stripLine .code (q :: ls.flatMap Letter.text ++ [q] ++ text r) = _
    rw [stripLine_literal hl hq, show stripLine .code (text r) = (text r.uncommented, e) from ih]
    rfl
  case unclosed q ls u hq hl hu =>
    show stripLine .code (q :: ls.flatMap Letter.text ++ u ++ []) = (q :: ls.flatMap Letter.text ++ u ++ [], false)
    rw [List.append_nil, List.cons_append, stripLine_quote hq, stripLine_letters hl, stripLine_ending hu hq]

def HasReading (b : Bool) (t : List Char) : Prop :=
  ∃ r e, Valid b r e ∧ text r = t

theorem not_close_cons (hu : ¬['*', '/'] <:+: u) (hc : c = '*' → u.head? ≠ some '/') :
    ¬['*', '/'] <:+: c :: u := by
  intro h
  rcases List.infix_cons_iff.mp h with h | h
  case inl =>
    obtain ⟨rfl, v, rfl⟩ := List.cons_prefix_cons.mp h
    exact hc rfl rfl
  case inr => exact hu h

-- A comment with one character more in front.
theorem HasReading.cons (h : HasReading true t) (hc : c = '*' → t.head? ≠ some '/') :
    HasReading true (c :: t) := by
  obtain ⟨r, e, h, rfl⟩ := h
  cases h
  case inside u hu =>
    rw [text_cons, text_nil, List.append_nil] at hc
    exact ⟨_, _, .inside (not_close_cons hu hc), rfl⟩
  case closing u r hu h =>
    have hcu : c = '*' → u.head? ≠ some '/' := fun he hs => hc he (by simp [text_cons, Segment.text, hs])
    exact ⟨_, _, .closing (not_close_cons hu hcu) h, rfl⟩

theorem Valid.eq_literal (h : Valid false r e) (ht : text r = q :: t) (hq : isQuote q) :
    ∃ ls u r', r = .literal q ls u :: r' := by
  cases h
  case nil         => cases ht
  case line        => obtain ⟨rfl, -⟩ := List.cons.inj ht; cases hq
  case opening     => obtain ⟨rfl, -⟩ := List.cons.inj ht; cases hq
  case code hc _ _ => obtain ⟨rfl, -⟩ := List.cons.inj ht; rw [hc] at hq; cases hq
  case closed      => obtain ⟨rfl, -⟩ := List.cons.inj ht; exact ⟨_, _, _, rfl⟩
  case unclosed    => obtain ⟨rfl, -⟩ := List.cons.inj ht; exact ⟨_, _, _, rfl⟩

-- A literal with one letter more behind its quote.
theorem HasReading.letter (h : HasReading false (q :: t)) (hq : isQuote q) (hl : l.Fits q) :
    HasReading false (q :: (l.text ++ t)) := by
  obtain ⟨r, e, h, ht⟩ := h
  obtain ⟨ls, u, r', rfl⟩ := h.eq_literal ht hq
  refine ⟨.literal q (l :: ls) u :: r', e, ?valid, ?text⟩
  case valid =>
    cases h
    case closed hls h    => exact .closed hq (List.forall_mem_cons.mpr ⟨hl, hls⟩) h
    case unclosed hls hu => exact .unclosed hq (List.forall_mem_cons.mpr ⟨hl, hls⟩) hu
  case text =>
    rw [text_literal] at ht ⊢
    rw [← (List.cons.inj ht).right, List.flatMap_cons, List.append_assoc]

theorem HasReading.code (h : HasReading false t) (hc : isQuote c = false) (hs : c = '/' → opens t = false) :
    HasReading false (c :: t) := by
  obtain ⟨r, e, h, rfl⟩ := h
  exact ⟨_, _, .code hc hs h, rfl⟩

-- What there is to read from where the scanner stands. A literal is read from its quote.
def Readable : Scan → List Char → Prop
  | .code,     t => HasReading false t
  | .block,    t => HasReading true t
  | .quoted q, t => isQuote q → HasReading false (q :: t)

theorem opens_eq_false (hs : ∀ u, t = '/' :: u → False) (hb : ∀ u, t = '*' :: u → False) :
    opens t = false := by
  cases t
  case nil      => rfl
  case cons c u =>
    have hcs : c ≠ '/' := fun h => hs u (by rw [h])
    have hcb : c ≠ '*' := fun h => hb u (by rw [h])
    simp [opens, hcs, hcb]

-- The cases are those of the scanner.
theorem readable (s : Scan) (t : List Char) : Readable s t := by
  induction s, t using stripLine.induct
  case case1 t ih =>
    obtain ⟨r, e, h, rfl⟩ := ih
    exact ⟨_, _, .closing (u := []) (by decide) h, rfl⟩
  case case2 c t hc ih =>
    refine HasReading.cons ih fun he ht => ?_
    obtain ⟨u, rfl⟩ := List.head?_eq_some_iff.mp ht
    exact hc u he rfl
  case case3      => exact ⟨_, _, .inside (u := []) (by decide), rfl⟩
  case case4 t    => exact ⟨_, _, .line t, List.append_nil _⟩
  case case5 t ih =>
    obtain ⟨r, e, h, rfl⟩ := ih
    exact ⟨_, _, .opening h, rfl⟩
  case case6 c t hs hb ih =>
    replace ih : Readable (if isQuote c then .quoted c else .code) t := ih
    cases hc : isQuote c
    case true  =>
      rw [if_pos hc] at ih
      exact ih hc
    case false =>
      rw [hc, if_neg Bool.false_ne_true] at ih
      exact HasReading.code ih hc fun he => opens_eq_false (fun u => hs u he) (fun u => hb u he)
  case case7 q d t ih => exact fun hq => (ih hq).letter (l := .escaped d) hq trivial
  case case8 q c t hc ih =>
    intro hq
    by_cases he : c = q
    case pos =>
      rw [if_pos he] at ih
      obtain ⟨r, e, h, rfl⟩ := ih
      exact ⟨.literal q [] [q] :: r, e, .closed hq (List.forall_mem_nil _) h, by rw [he]; rfl⟩
    case neg =>
      rw [if_neg he] at ih
      by_cases hb : c = '\\'
      case neg => exact (ih hq).letter (l := .plain c) hq ⟨he, hb⟩
      case pos =>
        -- A backslash with a character behind it is a letter.
        cases t
        case nil  =>
          exact ⟨[.literal q [] ['\\']], _, .unclosed hq (List.forall_mem_nil _) (.inr rfl), by rw [hb]; rfl⟩
        case cons => exact (hc _ _ hb rfl).elim
  case case9    => exact ⟨_, _, .nil, rfl⟩
  case case10 q => exact fun hq => ⟨[.literal q [] []], _, .unclosed hq (List.forall_mem_nil _) (.inl rfl), rfl⟩

theorem hasReading (b : Bool) (t : List Char) : HasReading b t := by
  cases b
  case false => exact readable .code t
  case true  => exact readable .block t

theorem eq_of_close {w x : List Char} (hu : ¬['*', '/'] <:+: u) (hw : ¬['*', '/'] <:+: w)
    (h : u ++ '*' :: '/' :: v = w ++ '*' :: '/' :: x) : u = w ∧ v = x := by
  rcases List.append_eq_append_iff.mp h with ⟨_ | ⟨c, _ | ⟨d, y⟩⟩, rfl, he⟩ | ⟨_ | ⟨c, _ | ⟨d, y⟩⟩, rfl, he⟩
  case inl.nil       => cases he; exact ⟨(List.append_nil u).symm, rfl⟩
  case inr.nil       => cases he; exact ⟨List.append_nil w, rfl⟩
  case inl.cons.nil  => cases he
  case inr.cons.nil  => cases he
  case inl.cons.cons => cases he; exact absurd ⟨u, y, by simp⟩ hw
  case inr.cons.cons => cases he; exact absurd ⟨w, y, by simp⟩ hu

theorem eq_of_letter (hl : l.Fits q) (hk : k.Fits q) (h : l.text ++ u = k.text ++ v) : l = k ∧ u = v := by
  cases l <;> cases k
  case plain.plain     => cases h; exact ⟨rfl, rfl⟩
  case escaped.escaped => cases h; exact ⟨rfl, rfl⟩
  case plain.escaped   => exact absurd (List.cons.inj h).left hl.right
  case escaped.plain   => exact absurd (List.cons.inj h).left.symm hk.right

-- Behind the letters of a literal, where no further letter stands.
def Ends (q : Char) (t : List Char) : Prop :=
  ∀ (l : Letter) u, l.Fits q → t ≠ l.text ++ u

theorem ends_quote (hq : isQuote q) : Ends q (q :: t) := by
  rintro (c | c) u hl h
  case plain   => exact hl.left (List.cons.inj h).left.symm
  case escaped => cases h; cases hq

theorem ends_unclosed (ht : t = [] ∨ t = ['\\']) : Ends q t := by
  rintro (c | c) u hl rfl
  case plain   =>
    rcases ht with ht | ht
    case inl => cases ht
    case inr => exact hl.right (List.cons.inj ht).left
  case escaped => rcases ht with ht | ht <;> cases ht

theorem ne_unclosed (hu : u = [] ∨ u = ['\\']) (hq : isQuote q) : q :: t ≠ u := by
  rintro rfl
  rcases hu with hu | hu
  case inl => cases hu
  case inr => rw [(List.cons.inj hu).left] at hq; cases hq

theorem eq_of_letters (hls : ∀ l ∈ ls, l.Fits q) (hks : ∀ k ∈ ks, k.Fits q) (hu : Ends q u) (hv : Ends q v)
    (h : ls.flatMap Letter.text ++ u = ks.flatMap Letter.text ++ v) : ls = ks ∧ u = v := by
  induction ls generalizing ks <;> cases ks
  case nil.nil          => exact ⟨rfl, h⟩
  case nil.cons k ks    =>
    rw [List.flatMap_cons, List.append_assoc] at h
    exact absurd h (hu k _ (hks k List.mem_cons_self))
  case cons.nil l ls ih =>
    rw [List.flatMap_cons, List.append_assoc] at h
    exact absurd h.symm (hv l _ (hls l List.mem_cons_self))
  case cons.cons l ls ih k ks =>
    rw [List.forall_mem_cons] at hls hks
    rw [List.flatMap_cons, List.flatMap_cons, List.append_assoc, List.append_assoc] at h
    obtain ⟨rfl, hrest⟩ := eq_of_letter hls.left hks.left h
    obtain ⟨rfl, huv⟩ := ih hls.right hks.right hrest
    exact ⟨rfl, huv⟩

theorem Valid.eq_nil (h : Valid false r e) (ht : text r = []) : r = [] := by
  cases h
  case nil => rfl
  all_goals cases ht

theorem Valid.eq_code (h : Valid false r e) (ht : text r = c :: t) (hc : isQuote c = false)
    (hs : c = '/' → opens t = false) : ∃ r', r = .code c :: r' ∧ Valid false r' e ∧ text r' = t := by
  cases h
  case nil             => cases ht
  case line            => obtain ⟨rfl, rfl⟩ := List.cons.inj ht; cases hs rfl
  case opening         => obtain ⟨rfl, rfl⟩ := List.cons.inj ht; cases hs rfl
  case closed hq _ _   => obtain ⟨rfl, -⟩ := List.cons.inj ht; rw [hc] at hq; cases hq
  case unclosed hq _ _ => obtain ⟨rfl, -⟩ := List.cons.inj ht; rw [hc] at hq; cases hq
  case code h          => obtain ⟨rfl, rfl⟩ := List.cons.inj ht; exact ⟨_, rfl, h, rfl⟩

theorem Valid.eq_closed (h : Valid false r e) (hq : isQuote q) (hl : ∀ l ∈ ls, l.Fits q)
    (ht : text r = q :: (ls.flatMap Letter.text ++ q :: t)) :
    ∃ r', r = .literal q ls [q] :: r' ∧ Valid false r' e ∧ text r' = t := by
  obtain ⟨ks, v, r', rfl⟩ := h.eq_literal ht hq
  rw [text_literal] at ht
  replace ht := (List.cons.inj ht).right
  cases h
  case closed hk h    =>
    obtain ⟨rfl, hr⟩ := eq_of_letters hk hl (ends_quote hq) (ends_quote hq) ht
    exact ⟨r', rfl, h, (List.cons.inj hr).right⟩
  case unclosed hk hv =>
    rw [text_nil, List.append_nil] at ht
    exact absurd (eq_of_letters hk hl (ends_unclosed hv) (ends_quote hq) ht).right.symm (ne_unclosed hv hq)

theorem Valid.eq_unclosed (h : Valid false r e) (hq : isQuote q) (hl : ∀ l ∈ ls, l.Fits q)
    (hu : u = [] ∨ u = ['\\']) (ht : text r = q :: (ls.flatMap Letter.text ++ u)) : r = [.literal q ls u] := by
  obtain ⟨ks, v, r', rfl⟩ := h.eq_literal ht hq
  rw [text_literal] at ht
  replace ht := (List.cons.inj ht).right
  cases h
  case closed hk h    =>
    exact absurd (eq_of_letters hk hl (ends_quote hq) (ends_unclosed hu) ht).right (ne_unclosed hu hq)
  case unclosed hk hv =>
    rw [text_nil, List.append_nil] at ht
    obtain ⟨rfl, rfl⟩ := eq_of_letters hk hl (ends_unclosed hv) (ends_unclosed hu) ht
    rfl

theorem Valid.eq_comment (h : Valid false r e) (ht : text r = '/' :: t) (ho : opens t) :
    ∃ u r', r = .comment u :: r' := by
  cases h
  case nil             => cases ht
  case line            => exact ⟨_, _, rfl⟩
  case opening         => exact ⟨_, _, rfl⟩
  case closed hq _ _   => obtain ⟨rfl, -⟩ := List.cons.inj ht; cases hq
  case unclosed hq _ _ => obtain ⟨rfl, -⟩ := List.cons.inj ht; cases hq
  case code hs _       =>
    obtain ⟨rfl, rfl⟩ := List.cons.inj ht
    exact absurd ((hs rfl).symm.trans ho) Bool.false_ne_true

theorem Valid.eq_line (h : Valid false r e) (ht : text r = '/' :: '/' :: u) :
    r = [.comment ('/' :: '/' :: u)] := by
  obtain ⟨v, r', rfl⟩ := h.eq_comment ht rfl
  cases h
  case opening => cases ht
  case line v  =>
    have hv : '/' :: '/' :: v ++ [] = '/' :: '/' :: u := ht
    rw [← hv, List.append_nil]

theorem Valid.eq_opening (h : Valid false r e) (ht : text r = '/' :: '*' :: t) :
    ∃ r', r = .comment ['/', '*'] :: r' ∧ Valid true r' e ∧ text r' = t := by
  obtain ⟨v, r', rfl⟩ := h.eq_comment ht rfl
  cases h
  case line      => cases ht
  case opening h => exact ⟨r', rfl, h, List.append_cancel_left ht⟩

theorem Valid.eq_inside (h : Valid true r e) (hu : ¬['*', '/'] <:+: text r) : r = [.comment (text r)] := by
  cases h
  case inside           => rw [text_cons, text_nil, List.append_nil]; rfl
  case closing v r' _ _ => exact absurd ⟨v, text r', rfl⟩ hu

theorem Valid.eq_closing (h : Valid true r e) (hu : ¬['*', '/'] <:+: u) (ht : text r = u ++ '*' :: '/' :: t) :
    ∃ r', r = .comment (u ++ ['*', '/']) :: r' ∧ Valid false r' e ∧ text r' = t := by
  cases h
  case inside v hv        =>
    rw [text_cons, text_nil, List.append_nil] at ht
    exact absurd ⟨u, t, by simp [← ht, Segment.text]⟩ hv
  case closing v r' hv h  =>
    obtain ⟨rfl, hr⟩ := eq_of_close hv hu (by simpa [text_cons, Segment.text] using ht)
    exact ⟨r', rfl, h, hr⟩

theorem Valid.unique (h : Valid b r e) (h' : Valid b r' e') (ht : text r' = text r) : r' = r := by
  induction h generalizing r' e'
  case nil => exact h'.eq_nil ht
  case code hc hs h ih =>
    obtain ⟨r', rfl, h', ht⟩ := h'.eq_code ht hc hs
    rw [ih h' ht]
  case closed hq hl h ih =>
    obtain ⟨r', rfl, h', ht⟩ := h'.eq_closed hq hl (ht.trans text_literal)
    rw [ih h' ht]
  case unclosed hq hl hu =>
    rw [text_literal, text_nil, List.append_nil] at ht
    exact h'.eq_unclosed hq hl hu ht
  case line u => exact h'.eq_line (ht.trans (List.append_nil _))
  case opening h ih =>
    obtain ⟨r', rfl, h', ht⟩ := h'.eq_opening ht
    rw [ih h' ht]
  case inside u hu =>
    rw [text_cons, text_nil, List.append_nil] at ht
    rw [h'.eq_inside (by rwa [ht]), ht]
    rfl
  case closing hu h ih =>
    obtain ⟨r', rfl, h', ht⟩ := h'.eq_closing hu (ht.trans (List.append_assoc ..))
    rw [ih h' ht]

end Reading

open Reading (Valid)

-- A line begins within a block comment if the one before it ends there.
inductive Follow : Bool → List Reading → Prop
  | nil {b} : Follow b []
  | cons {b r e rs} (h : Valid b r e) (hs : Follow e rs) : Follow b (r :: rs)

structure IsReading (lines : List (List Char)) (rs : List Reading) : Prop where
  follow : Follow false rs
  text   : rs.map Reading.text = lines

variable {b : Bool} {lines : List (List Char)} {rs ts : List Reading}

theorem exists_follow (b : Bool) (lines : List (List Char)) :
    ∃ rs, Follow b rs ∧ rs.map Reading.text = lines := by
  induction lines generalizing b
  case nil                => exact ⟨[], .nil, rfl⟩
  case cons line lines ih =>
    obtain ⟨r, e, h, rfl⟩ := Reading.hasReading b line
    obtain ⟨rs, hs, rfl⟩ := ih e
    exact ⟨r :: rs, .cons h hs, rfl⟩

theorem Follow.uncommented (h : Follow b rs) : Follow false (rs.map Reading.uncommented) := by
  induction h
  case nil           => exact .nil
  case cons h _ ih   => exact .cons h.uncommented ih

theorem Follow.stripLines_text (h : Follow b rs) :
    stripLines b (rs.map Reading.text) = (rs.map Reading.uncommented).map Reading.text := by
  induction h
  case nil         => rfl
  case cons h _ ih =>
    rw [List.map_cons, stripLines, h.stripLine_text, ih]
    rfl

theorem Follow.unique (h : Follow b rs) (h' : Follow b ts) (ht : ts.map Reading.text = rs.map Reading.text) :
    ts = rs := by
  induction h generalizing ts
  case nil                   => exact List.map_eq_nil_iff.mp ht
  case cons b r e rs h hs ih =>
    cases h'
    case nil                  => cases ht
    case cons r' e' ts hs' h' =>
      obtain ⟨ht, hts⟩ := List.cons.inj ht
      obtain rfl := h.unique h' ht
      obtain rfl : e' = e := congrArg Prod.snd (h'.stripLine_text.symm.trans h.stripLine_text)
      rw [ih hs' hts]

namespace IsReading

theorem unique (h : IsReading lines rs) (h' : IsReading lines ts) : ts = rs :=
  h.follow.unique h'.follow (h'.text.trans h.text.symm)

theorem stripLines_eq (h : IsReading lines rs) :
    stripLines false lines = (rs.map Reading.uncommented).map Reading.text := by
  rw [← h.text, h.follow.stripLines_text]

theorem uncommented (h : IsReading lines rs) : IsReading (stripLines false lines) (rs.map Reading.uncommented) :=
  ⟨h.follow.uncommented, h.stripLines_eq.symm⟩

theorem stripLines_stripLines (h : IsReading lines rs) :
    stripLines false (stripLines false lines) = stripLines false lines := by
  have hid : Reading.uncommented ∘ Reading.uncommented = Reading.uncommented :=
    funext fun _ => Reading.uncommented_uncommented
  rw [h.uncommented.stripLines_eq, h.stripLines_eq, List.map_map (l := rs), hid]

end IsReading

theorem map_snd_stripComments : (stripComments lines).map Prod.snd = stripLines false lines := by
  rw [stripComments, List.map_map]
  exact List.zipIdx_map_fst 1 _

-- The codes have no more comments, and they are read as the lines are, without their comments.
theorem stripComments_stripComments (lines : List (List Char)) :
    stripComments ((stripComments lines).map Prod.snd) = stripComments lines ∧
    ∃ rs, (∀ ts, IsReading lines ts ↔ ts = rs) ∧
      ∀ ts, IsReading ((stripComments lines).map Prod.snd) ts ↔ ts = rs.map Reading.uncommented := by
  obtain ⟨rs, hs, ht⟩ := exists_follow false lines
  have h : IsReading lines rs := ⟨hs, ht⟩
  rw [map_snd_stripComments]
  refine ⟨?strip, rs, fun ts => ⟨h.unique, ?_⟩, fun ts => ⟨h.uncommented.unique, ?_⟩⟩
  case strip => rw [stripComments, h.stripLines_stripLines, stripComments]
  · rintro rfl; exact h
  · rintro rfl; exact h.uncommented

-- A star and a slash from both sides of a comment, and a mark in a literal that its line does not close.
example :
    stripComments ["a*/*b*//c".toList, "'//\\".toList] = [(1, "a*/c".toList), (2, "'//\\".toList)] := by
  decide

end TypedResources.BuildFile
