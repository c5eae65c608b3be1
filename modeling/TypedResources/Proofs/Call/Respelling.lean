import TypedResources.Proofs.Call.Layout

-- A call with another package in front of a reference. Where a reference is spelled in a call, as its own or among
-- its arguments, another spelling of it makes a call as well (`Layout.Spelled.respelled`).

namespace TypedResources.Call

open Text (Balanced Shallow isBlank isWord)

variable {shape : Shape} {k : Layout} {p p' r r' s t u v w field : List Char} {c : Char}

-- Stretches of names that are replaced by others.

theorem not_blanks_run (hr : Run r) (s t : List Char) : ¬Blanks (s ++ (r ++ t)) := by
  simpa using not_blanks hr.exists_not_isBlank s t

theorem dropWhile_run (hr : Run r) : (s ++ (r ++ t)).dropWhile isBlank = s.dropWhile isBlank ++ (r ++ t) := by
  obtain ⟨c, r, rfl, hc⟩ := hr.exists_not_isBlank
  rw [List.dropWhile_append]
  split
  case isFalse  => rfl
  case isTrue h => rw [List.isEmpty_iff.mp h, List.cons_append, List.dropWhile_cons_of_neg (by simp [hc]), List.nil_append]

section

variable (hr : Run r) (hr' : Run r')

include hr hr'

theorem Level.respelled {q : Char → Bool} (hq : ∀ c ∈ r', q c) (h : Level q (s ++ (r ++ t))) : Level q (s ++ (r' ++ t)) where
  shallow := h.shallow.respelled hr.not_isParen hr'.not_isParen
  outer   := fun c hc => (Text.mem_outer_respelled hr.not_isParen hr'.not_isParen hc).elim (h.outer c) (hq c)

theorem LoneGroup.respelled (h : LoneGroup (s ++ (r ++ t))) : LoneGroup (s ++ (r' ++ t)) := by
  have hcount {r : List Char} (hr : Run r) : r.count '(' = 0 := List.count_eq_zero.mpr (hr.notMem (by decide) (by decide))
  intro ho
  cases s
  case nil =>
    obtain ⟨c, u, rfl, hc⟩ := hr'.head
    cases ho
    exact absurd hc (by decide)
  case cons =>
    have hone := h ho
    simpa only [List.count_append, hcount hr, hcount hr'] using hone

theorem Sole.respelled (h : Sole (s ++ (r ++ t))) : Sole (s ++ (r' ++ t)) where
  level      := h.level.respelled hr hr' fun c hc => decide_eq_true fun he => hr'.notMem (by decide) (by decide) (he ▸ hc)
  not_blanks := not_blanks_run hr' s t
  group      := by
    have hg := h.group
    rw [dropWhile_run hr] at hg
    rw [dropWhile_run hr']
    exact hg.respelled hr hr'

end

-- Calls

namespace Layout.Spelled

variable (hs : shape ∈ shapes) (hp : Dotted p) (hp' : Dotted p') (hf : ∀ c ∈ field, isWord c) (h : k.Spelled shape)

include hs hp hf h

-- The reference that stands between blanks is the call's own.
theorem eq_own (hu : Blanks u) (hv : Blanks v) (hleft : ∀ c ∈ s.getLast?, Introduces c)
    (hright : ∀ c ∈ t.head?, isWord c = false ∧ c ≠ '.')
    (he : u ++ (cited shape k.package k.field ++ v) = s ++ (cited shape p field ++ t)) : u = s ∧ k.field = field ∧ v = t := by
  obtain ⟨hus, href, hvt⟩ := eq_of_run hu hv (h.fit.run hs) (run_reference hs hp hf) hleft hright he
  exact ⟨hus, (cited_inj h.field.right hf href).right, hvt⟩

include hp'

-- What stands in the parentheses of a call with the package `p` in front of a reference can have `p'` there.
theorem respelled_inner (hleft : ∀ c ∈ s.getLast?, Introduces c) (hright : ∀ c ∈ t.head?, isWord c = false ∧ c ≠ '.')
    (he : k.inner shape = s ++ (cited shape p field ++ t)) :
    ∃ k' : Layout, k'.receiver = k.receiver ∧ k'.Spelled shape ∧ k'.inner shape = s ++ (cited shape p' field ++ t) := by
  have hr : Run (cited shape p field) := run_reference hs hp hf
  have hr' : Run (cited shape p' field) := run_reference hs hp' hf
  have hcomma := hr.notMem (c := ',') (by decide) (by decide)
  rw [inner_eq] at he
  -- The call's own reference is spelled anew.
  have hown (hh : k.before = s ∧ k.field = field ∧ k.behind = t) : ∃ k' : Layout,
      k'.receiver = k.receiver ∧ k'.Spelled shape ∧ k'.inner shape = s ++ (cited shape p' field ++ t) := by
    obtain ⟨rfl, rfl, rfl⟩ := hh
    exact ⟨{ k with package := p' }, rfl, ⟨h.receiver, hp', h.field, h.arguments⟩, inner_eq⟩
  -- A reference among the arguments behind the comma is.
  have hbehind {gap body : List Char} (hb : Blanks k.before) (hg : Blanks gap) (hk : k.behind = gap ++ ',' :: body)
      (hbody : ∀ s t, body = s ++ (cited shape p field ++ t) →
        shape.arguments.Takes k.before (gap ++ ',' :: (s ++ (cited shape p' field ++ t)))) : ∃ k' : Layout,
      k'.receiver = k.receiver ∧ k'.Spelled shape ∧ k'.inner shape = s ++ (cited shape p' field ++ t) := by
    have he : (k.before ++ (cited shape k.package k.field ++ gap)) ++ ',' :: body = s ++ (cited shape p field ++ t) := by
      simpa [hk] using he
    rcases Text.beside_of_notMem hcomma he with ⟨t', hfront, rfl⟩ | ⟨s', rfl, rfl⟩
    case inl =>
      have hright : ∀ c ∈ t'.head?, isWord c = false ∧ c ≠ '.' := fun c hc => hright c (List.mem_head?_append_of_mem_head? hc)
      obtain ⟨hbs, hfield, rfl⟩ := h.eq_own hs hp hf hb hg hleft hright hfront
      exact hown ⟨hbs, hfield, hk⟩
    case inr =>
      exact ⟨{ k with behind := gap ++ ',' :: (s' ++ (cited shape p' field ++ t)) }, rfl,
        ⟨h.receiver, h.package, h.field, hbody s' t rfl⟩, by simp [inner_eq]⟩
  have ha := h.arguments
  cases hn : shape.arguments <;> rw [hn] at ha
  case none => exact hown (h.eq_own hs hp hf ha.1 ha.2 hleft hright he)
  case rest =>
    obtain ⟨hb, gap, body, hk, hg, hbody, -⟩ := ha
    refine hbehind hb hg hk fun s t he => ?_
    rw [hn]
    exact ⟨hb, gap, _, rfl, hg, (he ▸ hbody).respelled hr.not_isParen hr'.not_isParen, not_blanks_run hr' s t⟩
  case two =>
    obtain ⟨hb, gap, x, y, hk, hg, hx, hy⟩ := ha
    refine hbehind hb hg hk fun s t he => ?_
    rw [hn]
    rcases Text.beside_of_notMem hcomma he with ⟨t, rfl, rfl⟩ | ⟨s, rfl, rfl⟩
    case inl => exact ⟨hb, gap, _, y, by simp, hg, hx.respelled hr hr', hy⟩
    case inr => exact ⟨hb, gap, x, _, by simp, hg, hx, hy.respelled hr hr'⟩
  case context =>
    obtain ⟨⟨x, gap, hk, hx, hg⟩, hd⟩ := ha
    have he : x ++ ',' :: (gap ++ (cited shape k.package k.field ++ k.behind)) = s ++ (cited shape p field ++ t) := by
      simpa [hk] using he
    rcases Text.beside_of_notMem hcomma he with ⟨t, rfl, rfl⟩ | ⟨s', rfl, hrest⟩
    case inl =>
      refine ⟨{ k with before := (s ++ (cited shape p' field ++ t)) ++ ',' :: gap }, rfl,
        ⟨h.receiver, h.package, h.field, ?_⟩, by simp [inner_eq]⟩
      rw [hn]
      exact ⟨⟨_, gap, rfl, hx.respelled hr hr', hg⟩, hd⟩
    case inr =>
      have hleft : ∀ c ∈ s'.getLast?, Introduces c :=
        fun c hc => hleft c (List.mem_getLast?_append_of_mem_getLast? (List.mem_getLast?_cons hc))
      obtain ⟨rfl, hfield, hbt⟩ := h.eq_own hs hp hf hg hd hleft hright hrest
      exact hown ⟨hk, hfield, hbt⟩

-- The same in the whole text of the call, behind a character that a reference can stand behind.
theorem respelled (hc : Introduces c) (hright : ∀ d ∈ t.head?, isWord d = false ∧ d ≠ '.')
    (he : k.text shape = s ++ c :: (cited shape p field ++ t)) :
    ∃ k' : Layout, k'.Spelled shape ∧ k'.text shape = s ++ c :: (cited shape p' field ++ t) := by
  have hr : Run (cited shape p field) := run_reference hs hp hf
  have hr' : Run (cited shape p' field) := run_reference hs hp' hf
  have hparen (d : Char) (hd : isWord d = false ∧ d ≠ '.') : d ∉ cited shape p field := hr.notMem hd.1 hd.2
  have he : (k.receiver ++ shape.method.toList) ++ '(' :: (k.inner shape ++ [')']) =
      (s ++ [c]) ++ (cited shape p field ++ t) := by
    simpa [text] using he
  rcases Text.beside_of_notMem (hparen '(' (by decide)) he with ⟨t', hfront, rfl⟩ | ⟨s', hs', hrest⟩
  case inl =>
    obtain ⟨v, hv, hvt⟩ := h.receiver.respelled (isWord_method hs).right hc hr hr' (by simpa using hfront)
    refine ⟨{ k with receiver := v }, ⟨hv, h.package, h.field, h.arguments⟩, ?_⟩
    show v ++ shape.method.toList ++ '(' :: k.inner shape ++ [')'] = _
    rw [hvt]
    simp
  case inr =>
    rcases Text.beside_of_notMem (hparen ')' (by decide)) hrest with ⟨t', hinner, rfl⟩ | ⟨x, -, hx⟩
    case inr => obtain ⟨d, u, hd, -⟩ := hr.head; simp [hd] at hx
    case inl =>
      have hleft : ∀ d ∈ s'.getLast?, Introduces d := by
        intro d hd
        have hlast : d ∈ (k.receiver ++ shape.method.toList ++ '(' :: s').getLast? :=
          List.mem_getLast?_append_of_mem_getLast? (List.mem_getLast?_cons hd)
        rw [← hs', List.getLast?_concat] at hlast
        cases hlast
        exact hc
      have hright : ∀ d ∈ t'.head?, isWord d = false ∧ d ≠ '.' := fun d hd => hright d (List.mem_head?_append_of_mem_head? hd)
      obtain ⟨k', hrec, hk', hinner'⟩ := h.respelled_inner hs hp hp' hf hleft hright hinner
      refine ⟨k', hk', ?_⟩
      calc k'.text shape
        _ = (k.receiver ++ shape.method.toList ++ '(' :: s') ++ (cited shape p' field ++ (t' ++ [')'])) := by
          rw [text, hinner', hrec]
          simp
        _ = s ++ c :: (cited shape p' field ++ (t' ++ [')'])) := by
          rw [← hs']
          simp

end Layout.Spelled

-- Texts

section

variable {before : Option Char} {i : Nat} {start rest : List Char} (hs : shape ∈ shapes) (hp : Dotted p) (hp' : Dotted p')
  (hf : ∀ c ∈ field, isWord c) (hc : Introduces c) (ht : ∀ d ∈ t.head?, isWord d = false ∧ d ≠ '.')

include hs hp hp' hf hc ht

theorem isSome_respelled (h : (shape.pattern.occurrenceAt? before (s ++ c :: (cited shape p field ++ t)) i).isSome) :
    (shape.pattern.occurrenceAt? before (s ++ c :: (cited shape p' field ++ t)) i).isSome := by
  obtain ⟨hb, k, rest, hk, he⟩ := (isSome_occurrenceAt?_iff hs).mp h
  refine (isSome_occurrenceAt?_iff hs).mpr ⟨hb, ?_⟩
  have hcut : (k.receiver ++ shape.method.toList ++ '(' :: k.inner shape) ++ ')' :: rest =
      (s ++ [c]) ++ (cited shape p field ++ t) := by
    simpa [Layout.text] using he.symm
  have hparen : ')' ∉ cited shape p field := (run_reference hs hp hf).notMem (by decide) (by decide)
  -- The call ends behind the reference, or before it.
  rcases Text.beside_of_notMem hparen hcut with ⟨t', hfront, rfl⟩ | ⟨s', hs', rfl⟩
  case inl =>
    have htext : k.text shape = s ++ c :: (cited shape p field ++ (t' ++ [')'])) := by
      rw [Layout.text, hfront]
      simp
    have hright : ∀ d ∈ (t' ++ [')']).head?, isWord d = false ∧ d ≠ '.' := by
      intro d hd
      cases t'
      case nil  => cases hd; decide
      case cons => exact ht d hd
    obtain ⟨k', hk', htext'⟩ := hk.respelled hs hp hp' hf hc hright htext
    exact ⟨k', rest, hk', by rw [htext']; simp⟩
  case inr =>
    refine ⟨k, s' ++ (cited shape p' field ++ t), hk, ?_⟩
    calc s ++ c :: (cited shape p' field ++ t)
      _ = (s ++ [c]) ++ (cited shape p' field ++ t) := by simp
      _ = k.text shape ++ (s' ++ (cited shape p' field ++ t)) := by rw [hs', Layout.text]; simp

theorem crosses_respelled
    (h : TypedResources.Pattern.Crosses shape.pattern before i start (s ++ c :: (cited shape p field ++ t))) :
    TypedResources.Pattern.Crosses shape.pattern before i start (s ++ c :: (cited shape p' field ++ t)) := by
  generalize htail : s ++ c :: (cited shape p field ++ t) = tail at h
  induction h with
  | nil => exact .nil
  | @plain before i d u tail hnone _ ih =>
    subst htail
    refine .plain (Option.not_isSome_iff_eq_none.mp fun hsome => ?_) (ih rfl)
    have hback := isSome_respelled (s := d :: (u ++ s)) hs hp' hp hf hc ht (by simpa using hsome)
    rw [List.cons_append, List.append_assoc, hnone] at hback
    cases hback
  | @found before i o u tail ho _ ih =>
    subst htail
    have hb := ((isSome_occurrenceAt?_iff hs).mp (Option.isSome_iff_exists.mpr ⟨o, ho⟩)).1
    obtain ⟨k, hk⟩ := exists_layout hs (TypedResources.Pattern.reads_of_occurrenceAt? ho).2.1
    obtain ⟨o', ho', hk'⟩ := exists_occurrenceAt? hs hk.spelled hb (u ++ (s ++ c :: (cited shape p' field ++ t))) i
    have htext : o.text = o'.text := hk.text.trans hk'.text.symm
    rw [htext] at ih ⊢
    exact .found (by rwa [hk'.text]) (ih rfl)

end

-- Calls in a line

-- What stands behind the reference.
def rear (c : Call) : List Char :=
  c.text.drop (c.front.length + c.qualified.length)

-- The same call with a package in front of its reference, or with none.
def spelled (c : Call) (package : Option (List Char)) : Call :=
  let c' := { c with package }
  { c' with text := c.front ++ c'.qualified ++ c.rear }

-- The pattern of its shape finds the call in the line, behind `start` and before `rest`.
def Found (c : Call) (start rest : List Char) : Prop :=
  ∃ o ∈ c.shape.pattern.occurrences (start ++ (c.text ++ rest)), o.start = start.length ∧ ofOccurrence c.shape o = c

instance (c : Call) (start rest : List Char) : Decidable (c.Found start rest) :=
  inferInstanceAs (Decidable (∃ o ∈ _, _))

theorem found_iff {x : Call} {start rest : List Char} : x.Found start rest ↔
    TypedResources.Pattern.Crosses x.shape.pattern none 0 start (x.text ++ rest) ∧
      ∃ o, x.shape.pattern.occurrenceAt? start.getLast? (x.text ++ rest) start.length = some o ∧
        ofOccurrence x.shape o = x := by
  constructor
  case mp =>
    rintro ⟨o, hm, hstart, ho⟩
    have htext : o.text = x.text := congrArg Call.text ho
    obtain ⟨left, right, hcut⟩ := TypedResources.Pattern.exists_cut_of_mem_occurrences hm
    have hall := TypedResources.Pattern.flatMap_text_cut x.shape.pattern (start ++ (x.text ++ rest))
    rw [hcut, List.flatMap_append] at hall
    obtain ⟨hleft, -⟩ := List.append_inj hall ((TypedResources.Pattern.of_cut_eq hcut).left.symm.trans hstart)
    obtain ⟨rest', he, hc, hat⟩ := TypedResources.Pattern.exists_go_iff.mp ⟨left, right, hcut, hleft⟩
    rw [htext] at he hc hat
    obtain rfl := List.append_cancel_left (List.append_cancel_left he)
    exact ⟨hc, o, by simpa using hat, ho⟩
  case mpr =>
    rintro ⟨hc, o, hat, ho⟩
    have htext : o.text = x.text := congrArg Call.text ho
    have hstart := (TypedResources.Pattern.reads_of_occurrenceAt? hat).1
    rw [← htext] at hc hat
    obtain ⟨left, right, hcut, -⟩ := TypedResources.Pattern.exists_go_iff.mpr ⟨rest, rfl, hc, by simpa using hat⟩
    exact ⟨o, htext ▸ TypedResources.Pattern.mem_occurrences_of_cut hcut, hstart, ho⟩

-- What can stand before a reference and behind it.
theorem Layout.Spelled.exists_introduces (h : k.Spelled shape) : ∃ s c, '(' :: k.before = s ++ [c] ∧ Introduces c := by
  have hblanks {u : List Char} {d : Char} (hd : Introduces d) (hu : Blanks u) : ∃ s c, d :: u = s ++ [c] ∧ Introduces c := by
    rcases List.eq_nil_or_concat u with rfl | ⟨u, c, rfl⟩
    case inl => exact ⟨[], d, rfl, hd⟩
    case inr => exact ⟨d :: u, c, by simp, .inr (.inr (hu c (by simp)))⟩
  have ha := h.arguments
  cases hn : shape.arguments <;> rw [hn] at ha
  case none => exact hblanks (.inl rfl) ha.1
  case rest => exact hblanks (.inl rfl) ha.1
  case two  => exact hblanks (.inl rfl) ha.1
  case context =>
    obtain ⟨⟨x, gap, hk, -, hg⟩, -⟩ := ha
    obtain ⟨s, c, hs, hc⟩ := hblanks (d := ',') (.inr (.inl rfl)) hg
    exact ⟨'(' :: x ++ s, c, by rw [hk, hs]; simp, hc⟩

theorem Layout.Spelled.not_names_behind (h : k.Spelled shape) (rest : List Char) :
    ∀ d ∈ (k.behind ++ ')' :: rest).head?, isWord d = false ∧ d ≠ '.' := by
  have hends {u v : List Char} {e : Char} (he : isWord e = false ∧ e ≠ '.') (hu : Blanks u) :
      ∀ d ∈ (u ++ e :: v).head?, isWord d = false ∧ d ≠ '.' := by
    intro d hd
    cases u
    case nil  => cases hd; exact he
    case cons => exact hu.not_names d hd
  have ha := h.arguments
  cases hn : shape.arguments <;> rw [hn] at ha
  case none    => exact hends (by decide) ha.2
  case context => exact hends (by decide) ha.2
  case rest =>
    obtain ⟨-, gap, body, hk, hg, -⟩ := ha
    rw [hk, List.append_assoc]
    exact hends (by decide) hg
  case two =>
    obtain ⟨-, gap, x, y, hk, hg, -⟩ := ha
    rw [hk, List.append_assoc]
    exact hends (by decide) hg

theorem ofOccurrence_eq {o : Occurrence Slot} (h : k.Of shape o.text o.kept) : ofOccurrence shape o =
    ⟨shape, k.text shape, if k.package = [] then none else some k.package.dropLast, k.field, k.given⟩ := by
  have ht : (ofOccurrence shape o).text = k.text shape := h.text
  have hf : (ofOccurrence shape o).field = k.field := congrArg (Option.getD · []) h.field
  have ha : (ofOccurrence shape o).arguments = k.given := h.given
  rw [← ht, ← hf, ← ha, ← package_of_layout h]
  rfl

-- The stretches around the reference of a call that was read.
theorem exists_stretches {o : Occurrence Slot} (hs : shape ∈ shapes) (h : shape.pattern.Reads o.text o.kept) :
    ∃ k : Layout, k.Of shape o.text o.kept ∧
      (ofOccurrence shape o).front = k.receiver ++ shape.method.toList ++ '(' :: k.before ∧
      (ofOccurrence shape o).qualified = cited shape k.package k.field ∧ (ofOccurrence shape o).rear = k.behind ++ [')'] := by
  obtain ⟨p, hp⟩ := exists_parts hs h
  have hfront := front_call hp
  have hqualified := qualified_call hp
  refine ⟨p.layout, hp.layout, hfront, hqualified, ?_⟩
  have ht : (ofOccurrence shape o).text = p.front shape ++ p.reference shape ++ (p.layout.behind ++ [')']) := by
    rw [show (ofOccurrence shape o).text = p.text shape from hp.text]
    simp [Parts.text, Parts.lead, Parts.layout]
  rw [rear, hfront, hqualified, ht, ← List.length_append, List.drop_left]

-- A call that is found is spelled from its parts.
theorem Found.spelled_self {x : Call} {start rest : List Char} (hs : x.shape ∈ shapes) (h : x.Found start rest) :
    x.spelled x.package = x := by
  obtain ⟨-, o, hat, ho⟩ := found_iff.mp h
  obtain ⟨k, hk, hfront, hqualified, hrear⟩ := exists_stretches hs (TypedResources.Pattern.reads_of_occurrenceAt? hat).2.1
  have heq := ofOccurrence_eq hk
  rw [ho] at hfront hqualified hrear heq
  have htext : x.front ++ x.qualified ++ x.rear = x.text := by
    rw [hfront, hqualified, hrear, show x.text = k.text x.shape from congrArg Call.text heq, Layout.text, Layout.inner_eq]
    simp
  show { x with text := x.front ++ x.qualified ++ x.rear } = x
  rw [htext]

-- And in its place the same call is found with any package, or with none.
theorem Found.spelled {x : Call} {package : Option (List Char)} {start rest : List Char} (hs : x.shape ∈ shapes)
    (h : x.Found start rest) (hp : ∀ p ∈ package, Dotted (p ++ ['.'])) : (x.spelled package).Found start rest := by
  obtain ⟨hcross, o, hat, ho⟩ := found_iff.mp h
  obtain ⟨k, hk, hfront, -, hrear⟩ := exists_stretches hs (TypedResources.Pattern.reads_of_occurrenceAt? hat).2.1
  have heq := ofOccurrence_eq hk
  rw [ho] at hfront hrear heq
  have htext : x.text = k.text x.shape := congrArg Call.text heq
  have hfield : x.field = k.field := congrArg Call.field heq
  have hb := ((isSome_occurrenceAt?_iff hs).mp (Option.isSome_iff_exists.mpr ⟨o, hat⟩)).1
  -- The call with the package is spelled as the pattern asks.
  let k' : Layout := { k with package := (package.map (· ++ ['.'])).getD [] }
  have hdotted : Dotted k'.package := by
    cases package
    case none   => exact ⟨[], rfl, nofun⟩
    case some p => exact hp p rfl
  have hk' : k'.Spelled x.shape := ⟨hk.spelled.receiver, hdotted, hk.spelled.field, hk.spelled.arguments⟩
  have htext' : (x.spelled package).text = k'.text x.shape := by
    simp [Call.spelled, qualified, key, hfront, hrear, hfield, k', Layout.text, Layout.inner]
  obtain ⟨o', hat', ho'⟩ := exists_occurrenceAt? hs hk' hb rest start.length
  obtain ⟨s, c, hsc, hc⟩ := hk.spelled.exists_introduces
  have hline (m : Layout) (hm : m.receiver = k.receiver ∧ m.before = k.before ∧ m.behind = k.behind) :
      m.text x.shape ++ rest =
        (k.receiver ++ x.shape.method.toList ++ s) ++
          c :: (cited x.shape m.package m.field ++ (k.behind ++ ')' :: rest)) := by
    obtain ⟨hr, hbefore, hbehind⟩ := hm
    calc m.text x.shape ++ rest
      _ = k.receiver ++ x.shape.method.toList ++ '(' :: k.before ++
          (cited x.shape m.package m.field ++ (k.behind ++ ')' :: rest)) := by
        rw [Layout.text, Layout.inner_eq, hr, hbefore, hbehind]
        simp
      _ = _ := by rw [hsc]; simp
  refine found_iff.mpr ⟨?_, o', ?_, ?_⟩
  case refine_1 =>
    rw [htext, hline k ⟨rfl, rfl, rfl⟩] at hcross
    rw [htext', hline k' ⟨rfl, rfl, rfl⟩]
    exact crosses_respelled hs hk.spelled.package hdotted hk.spelled.field.right hc (hk.spelled.not_names_behind rest) hcross
  case refine_2 => rw [htext']; exact hat'
  case refine_3 =>
    have hpackage : (if k'.package = [] then none else some k'.package.dropLast) = package := by
      cases package <;> simp [k']
    have harguments : x.arguments = k.given := congrArg Call.arguments heq
    rw [show (x.spelled package).shape = x.shape from rfl, ofOccurrence_eq ho', ← htext', hpackage]
    show (⟨x.shape, _, package, k.field, k.given⟩ : Call) = _
    rw [← hfield, ← harguments]
    rfl

end TypedResources.Call
