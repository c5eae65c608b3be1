import TypedResources.Proofs.Call.Parts

-- How a call lies in a line beside a call that is replaced. Unless the front of the replaced call,
-- which its replacement drops, holds the beginning of the other call or, beginning within it, has
-- loose parentheses, the calls are apart, or one is nested in the parentheses of the other
-- (`apart_or_nested`).

namespace TypedResources.Call

open Text (At Balanced between isBlank isWord openAfter)

variable {shape : Shape} {p : Parts} {body : List Char} {c : Char}

-- The characters that can follow a reference in a call.
def Delimits (c : Char) : Prop :=
  isBlank c ∨ c = ',' ∨ c = ')'

theorem Delimits.not_isWord (h : Delimits c) : isWord c = false := by
  rcases h with h | rfl | rfl
  · exact Text.not_isWord_of_isBlank h
  · decide
  · decide

theorem Delimits.ne_open (h : Delimits c) : c ≠ '(' := by
  rintro rfl
  rcases h with h | h | h <;> exact absurd h (by decide)

theorem Delimits.ne_dot (h : Delimits c) : c ≠ '.' := by
  rintro rfl
  rcases h with h | h | h <;> exact absurd h (by decide)

theorem Parts.Fit.reference (hp : p.Fit shape) (hs : shape ∈ shapes) :
    p.reference shape ≠ [] ∧ ∀ c ∈ p.reference shape, isWord c ∨ c = '.' := by
  have ht : ∀ shape ∈ shapes, ("R." ++ shape.tag ++ ".").toList.all fun c => isWord c || c = '.' := by decide
  have hf := hp.field
  rw [Parts.reference, TypedResources.reference, String.toList_append, String.toList_ofList]
  refine ⟨by simp, fun c hc => ?_⟩
  rcases List.mem_append.mp hc with hc | hc
  case inl =>
    rcases hp.package with h | ⟨u, x, h, hx, hu⟩
    case inl => rw [h] at hc; cases hc
    case inr =>
      rw [h] at hc
      simp only [List.mem_append, List.mem_cons, List.not_mem_nil, or_false] at hc
      rcases hc with hc | rfl | rfl
      · exact hu c hc
      · exact .inl hx
      · exact .inr rfl
  case inr =>
    rcases List.mem_append.mp hc with hc | hc
    case inl => simpa using List.all_eq_true.mp (ht shape hs) c hc
    case inr => exact .inl (hf.2 c hc)

-- A call as it stands in a line, whatever its arguments have become. Of the stretches on both sides
-- of the reference one is blank.
structure Standing where
  name      : List Char
  opening   : List Char
  reference : List Char
  closing   : List Char

namespace Standing

def text (m : Standing) : List Char :=
  m.name ++ '(' :: (m.opening ++ m.reference ++ m.closing ++ [')'])

structure Fit (m : Standing) : Prop where
  name      : m.name ≠ [] ∧ ∀ c ∈ m.name, isWord c
  opening   : Balanced m.opening
  reference : m.reference ≠ [] ∧ ∀ c ∈ m.reference, isWord c ∨ c = '.'
  closing   : Balanced m.closing
  delimiter : ∀ c ∈ (m.closing ++ [')']).head?, Delimits c
  blank     : (∀ c ∈ m.opening, isBlank c) ∨ ∀ c ∈ m.closing, isBlank c

theorem Fit.inner {m : Standing} (hm : m.Fit) : Balanced (m.opening ++ m.reference ++ m.closing) :=
  (hm.opening.append (balanced_of_words hm.reference.2)).append hm.closing

-- Where the parts of a standing call lie: `a` is its first place, `P` and `e` are those of its
-- parentheses, and its reference begins at `r` and ends before `q`.
structure Lies (m : Standing) (body : List Char) (a P r q e : Nat) : Prop where
  paren_eq     : P = a + m.name.length
  reference_eq : r = P + 1 + m.opening.length
  delimiter_eq : q = r + m.reference.length
  close_eq     : e = q + m.closing.length
  name         : At body a m.name
  paren        : body[P]? = some '('
  opening      : At body (P + 1) m.opening
  reference    : At body r m.reference
  closing      : At body q (m.closing ++ [')'])

variable {m : Standing} {a P r q e : Nat}

theorem lies (h : At body a m.text) : ∃ P r q e, m.Lies body a P r q e ∧ e + 1 = a + m.text.length := by
  simp only [text, Text.at_append, Text.at_cons, List.append_assoc] at h
  refine ⟨_, _, _, _, ⟨rfl, rfl, rfl, rfl, h.1, h.2.1, h.2.2.1, h.2.2.2.1, ?_⟩, ?_⟩
  · simpa only [Text.at_append, Text.at_cons] using h.2.2.2.2
  · simp [text]
    omega

namespace Lies

variable (h : m.Lies body a P r q e) (hm : m.Fit)

include h

theorem close : body[e]? = some ')' := by
  rw [h.close_eq]
  exact Text.at_singleton.mp (Text.at_append.mp h.closing).2

include hm

theorem inner : Balanced (between body (P + 1) e) := by
  have he : e = P + 1 + (m.opening ++ m.reference ++ m.closing).length := by
    rw [h.close_eq, h.delimiter_eq, h.reference_eq]
    simp
    omega
  have hat : At body (P + 1) (m.opening ++ m.reference ++ m.closing) := by
    rw [Text.at_append, Text.at_append, List.length_append, ← Nat.add_assoc, ← h.reference_eq, ← h.delimiter_eq]
    exact ⟨⟨h.opening, h.reference⟩, (Text.at_append.mp h.closing).1⟩
  rw [he, hat.between]
  exact hm.inner

omit hm in
theorem lt : a ≤ P ∧ P < r ∧ r ≤ q ∧ q ≤ e := by
  have := h.paren_eq
  have := h.reference_eq
  have := h.delimiter_eq
  have := h.close_eq
  omega

-- Neither the name of a call nor the parenthesis behind it can stand behind a reference.
theorem own {k : Nat} (ha : a ≤ k) (hk : k ≤ P) : ∃ c, body[k]? = some c ∧ ¬Delimits c := by
  rcases Nat.lt_or_eq_of_le hk with hk | rfl
  case inr => exact ⟨'(', h.paren, fun hd => hd.ne_open rfl⟩
  case inl =>
    have ⟨c, hc, hb⟩ := h.name.exists_mem ha (h.paren_eq ▸ hk)
    exact ⟨c, hb, fun hd => absurd (hm.name.2 c hc) (by simp [hd.not_isWord])⟩

theorem word_of_reference {k : Nat} (hr : r ≤ k) (hk : k < q) (hc : body[k]? = some c) : isWord c ∨ c = '.' :=
  hm.reference.2 c (h.reference.mem hr (h.delimiter_eq ▸ hk) hc)

theorem delimits : ∃ c, body[q]? = some c ∧ Delimits c := by
  have hd := hm.delimiter
  have hc := h.closing
  cases hs : m.closing ++ [')']
  case nil       => simp at hs
  case cons c cs =>
    rw [hs, Text.at_cons] at hc
    exact ⟨c, hc.1, hd c (by rw [hs]; rfl)⟩

end Lies

end Standing

namespace Parts

-- Where the parts of a call lie: its text begins at `s`, `P` and `e` are the places of its
-- parentheses, its reference begins at `f` and ends before `d`, and its arguments begin at `b` and
-- end before `t`.
structure Lies (p : Parts) (shape : Shape) (body : List Char) (s P f d b t e : Nat) : Prop where
  paren_eq     : P = s + (p.receiver ++ shape.method.toList).length
  front_eq     : f = P + 1 + p.opening.length
  delimiter_eq : d = f + (p.reference shape).length
  lead_eq      : b = d + p.gap.length
  arguments_eq : t = b + p.arguments.length
  close_eq     : e = t + p.trail.length
  front        : At body s (p.front shape)
  reference    : At body f (p.reference shape)
  gap          : At body d p.gap
  arguments    : At body b p.arguments
  trail        : At body t p.trail
  close        : body[e]? = some ')'

variable {s P f d b t e : Nat}

theorem lies (h : At body s (p.text shape)) : ∃ P f d b t e, p.Lies shape body s P f d b t e ∧
    f = s + (p.front shape).length ∧ b = s + (p.lead shape).length ∧ e + 1 = s + (p.text shape).length := by
  simp only [text, lead, Text.at_append, Text.at_singleton, List.length_append, ← Nat.add_assoc] at h
  obtain ⟨⟨⟨⟨⟨hf, hr⟩, hg⟩, ha⟩, ht⟩, hc⟩ := h
  refine ⟨_, _, _, _, _, _, ⟨rfl, ?_, rfl, rfl, rfl, rfl, hf, hr, hg, ha, ht, hc⟩, rfl, ?_, ?_⟩
  · simp [front]
    omega
  · simp [lead]
    omega
  · simp [text, lead]
    omega

-- How the text of a call goes on behind its reference.
theorem Fit.delimiter (hp : p.Fit shape) : ∀ c ∈ (p.gap ++ p.arguments ++ p.trail ++ [')']).head?, Delimits c := by
  intro c hc
  cases hg : p.gap
  case cons x xs =>
    simp only [hg, List.cons_append, List.head?_cons, Option.mem_def, Option.some.injEq] at hc
    subst hc
    rcases hp.gap x (by simp [hg]) with hb | rfl
    case inl => exact .inl hb
    case inr => exact .inr (.inl rfl)
  case nil =>
    have ha : p.arguments = [] := (hp.arguments.resolve_right fun h => h.2.1 hg).2
    cases ht : p.trail
    case nil       => simp [hg, ha, ht] at hc; exact .inr (.inr hc.symm)
    case cons x xs =>
      simp [hg, ha, ht] at hc
      exact .inl (hp.trail c (by simp [ht, hc]))

-- A call without its receiver.
def standing (p : Parts) (shape : Shape) : Standing :=
  ⟨shape.method.toList, p.opening, p.reference shape, p.gap ++ p.arguments ++ p.trail⟩

theorem text_eq_append : p.text shape = p.receiver ++ (p.standing shape).text := by
  simp [text, lead, front, standing, Standing.text]

theorem Fit.standing (hp : p.Fit shape) (hs : shape ∈ shapes) : (p.standing shape).Fit where
  name      := isWord_method hs
  opening   := hp.opening
  reference := hp.reference hs
  closing   := ((balanced_of_comma hp.gap).append hp.balanced_arguments).append (balanced_of_blanks hp.trail)
  delimiter := hp.delimiter
  blank     := by
    rcases hp.arguments with ⟨hg, ha⟩ | ⟨hb, -, -⟩
    case inl => exact .inr (by rw [Parts.standing, hg, ha]; exact hp.trail)
    case inr => exact .inl hb

namespace Lies

variable (h : p.Lies shape body s P f d b t e) (hp : p.Fit shape)

include h

theorem head : At body s (p.receiver ++ shape.method.toList ++ ['(']) := by
  have hf := h.front
  rw [Parts.front, ← List.singleton_append, ← List.append_assoc, Text.at_append] at hf
  exact hf.1

theorem opening : At body (P + 1) p.opening := by
  have hf := h.front
  rw [Parts.front, Text.at_append, ← h.paren_eq, Text.at_cons] at hf
  exact hf.2.2

theorem paren : body[P]? = some '(' := by
  have hf := h.head
  rw [Text.at_append, ← h.paren_eq, Text.at_singleton] at hf
  exact hf.2

theorem between_front : between body s f = p.front shape := by
  have hf : f = s + (p.front shape).length := by
    rw [h.front_eq, h.paren_eq]
    simp [Parts.front]
    omega
  rw [hf, h.front.between]

include hp

theorem isWord_start : ∃ c, body[s]? = some c ∧ isWord c := by
  obtain ⟨u, x, v, hw, hne, hu, -, -⟩ := hp.fronts
  obtain ⟨c, u, rfl⟩ := List.exists_cons_of_ne_nil hne
  have hh := h.head
  rw [hw, List.cons_append, Text.at_cons] at hh
  exact ⟨c, hh.1, hu c rfl⟩

theorem inner (hs : shape ∈ shapes) : Balanced (between body (P + 1) e) := by
  have hat : At body (P + 1) (p.opening ++ p.reference shape ++ p.gap ++ p.arguments ++ p.trail) := by
    simp only [Text.at_append, List.length_append, ← Nat.add_assoc, ← h.front_eq, ← h.delimiter_eq, ← h.lead_eq,
      ← h.arguments_eq]
    exact ⟨⟨⟨⟨h.opening, h.reference⟩, h.gap⟩, h.arguments⟩, h.trail⟩
  have he : e = P + 1 + (p.opening ++ p.reference shape ++ p.gap ++ p.arguments ++ p.trail).length := by
    simp only [List.length_append, ← Nat.add_assoc, ← h.front_eq, ← h.delimiter_eq, ← h.lead_eq, ← h.arguments_eq,
      ← h.close_eq]
  rw [he, hat.between]
  exact (((hp.opening.append (balanced_of_words (hp.reference hs).2)).append (balanced_of_comma hp.gap)).append
    hp.balanced_arguments).append (balanced_of_blanks hp.trail)

omit hp in
theorem lt : s ≤ P ∧ P < f ∧ f ≤ d ∧ d ≤ b ∧ b ≤ t ∧ t ≤ e := by
  have := h.paren_eq
  have := h.front_eq
  have := h.delimiter_eq
  have := h.lead_eq
  have := h.arguments_eq
  have := h.close_eq
  omega

theorem delimits : ∃ c, body[d]? = some c ∧ Delimits c := by
  have hd := hp.delimiter
  have hat : At body d (p.gap ++ p.arguments ++ p.trail ++ [')']) := by
    simp only [Text.at_append, List.length_append, ← Nat.add_assoc, ← h.lead_eq, ← h.arguments_eq, ← h.close_eq,
      Text.at_singleton]
    exact ⟨⟨⟨h.gap, h.arguments⟩, h.trail⟩, h.close⟩
  cases hs : p.gap ++ p.arguments ++ p.trail ++ [')']
  case nil       => simp at hs
  case cons c cs =>
    rw [hs, Text.at_cons] at hat
    exact ⟨c, hat.1, hd c (by rw [hs]; rfl)⟩

theorem delimits_gap {k : Nat} (hd : d ≤ k) (hb : k < b) (hc : body[k]? = some c) : Delimits c :=
  (hp.gap c (h.gap.mem hd (h.lead_eq ▸ hb) hc)).imp_right .inl

theorem delimits_trail {k : Nat} (ht : t ≤ k) (hk : k ≤ e) (hc : body[k]? = some c) : Delimits c := by
  rcases Nat.lt_or_eq_of_le hk with hk | rfl
  case inl => exact .inl (hp.trail c (h.trail.mem ht (h.close_eq ▸ hk) hc))
  case inr => exact .inr (.inr (Option.some.inj (hc.symm.trans h.close)))

theorem arguments_balanced : Balanced (between body b t) := by
  rw [h.arguments_eq, h.arguments.between]
  exact hp.balanced_arguments

end Lies

end Parts

section

variable {m : Standing} {a P r q e s P' f d b t e' : Nat} (h : m.Lies body a P r q e) (hm : m.Fit)
  (h' : p.Lies shape body s P' f d b t e') (hp : p.Fit shape) (hs : shape ∈ shapes)

include h hm h' hp hs

-- A call that begins behind the front of another one, but in it, lies in its arguments.
theorem nested_of_front_le (hf : f ≤ a) (he : a ≤ e') : b ≤ a ∧ e < t := by
  have hlt := h.lt
  have hlt' := h'.lt
  have ⟨c, hc, hnd⟩ := h.own hm (Nat.le_refl a) (by omega)
  have hd : d ≤ a := by
    by_contra hd
    by_cases hP : d ≤ P
    case pos =>
      have ⟨x, hx, hdx⟩ := h'.delimits hp
      have ⟨y, hy, hny⟩ := h.own hm (Nat.le_of_not_le hd) hP
      cases hx.symm.trans hy
      exact hny hdx
    case neg =>
      have hr := (hp.reference hs).2 '(' (h'.reference.mem (by omega) (by rw [← h'.delimiter_eq]; omega) h.paren)
      exact absurd hr (by decide)
  have hb : b ≤ a := by
    by_contra hb
    exact hnd (h'.delimits_gap hp hd (by omega) hc)
  have ht : P < t := by
    by_contra ht
    have ⟨y, hy, hny⟩ := h.own hm (k := max a t) (by omega) (by omega)
    exact hny (h'.delimits_trail hp (by omega) (by omega) hy)
  have hc := Text.close_lt (h'.arguments_balanced hp) (by omega) ht h.paren (h.inner hm)
  exact ⟨hb, hc.resolve_right fun hn => hn h.close⟩

-- A call does not begin with the reference of another one, which is not followed by what a call
-- goes on with.
omit hs in
theorem ne_reference : s ≠ r := by
  rintro rfl
  obtain ⟨u, x, v, hw, -, -, hu, hx⟩ := hp.fronts
  have hh := h'.head
  rw [hw, Text.at_append, Text.at_cons] at hh
  have ⟨hword, hblank, hdot, hcomma, hclose⟩ := of_mem_marks hx
  have ⟨y, hy, hd⟩ := h.delimits hm
  have hlt := h.lt
  by_cases hk : s + u.length < q
  case pos =>
    rcases h.word_of_reference hm (Nat.le_add_right _ _) hk hh.2.1 with hw | hw
    case inl => exact absurd hw (by simp [hword])
    case inr => exact hdot hw
  case neg =>
    rcases Nat.lt_or_eq_of_le (Nat.le_of_not_lt hk) with hq | hq
    case inl =>
      rcases hu y (hh.1.mem hlt.2.2.1 hq hy) with hy | hy
      · exact absurd hy (by simp [hd.not_isWord])
      · exact hd.ne_dot hy
    case inr =>
      rw [← hq, hy] at hh
      cases hh.2.1
      rcases hd with hd | hd | hd
      · exact absurd hd (by simp [hblank])
      · exact hcomma hd
      · exact hclose hd

-- A call that begins in another one and has no loose parentheses in its front lies in the
-- parentheses of that one, on one side of its reference.
theorem nested_of_lt (ha : a < s) (he : s ≤ e) (hbefore : ∀ c, body[s - 1]? = some c → ¬(isWord c ∨ c = '.'))
    (hfront : openAfter 0 (p.front shape) = some 1) : P < s ∧ e' < r ∨ q ≤ s ∧ e' < e := by
  have hlt := h.lt
  have hlt' := h'.lt
  have ⟨c, hc, hw⟩ := h'.isWord_start hp
  -- It can begin neither within a name nor at the closing parenthesis.
  have hP : P < s := by
    by_contra hP
    have ⟨x, hx, hb⟩ := h.name.exists_mem (k := s - 1) (by omega) (by have := h.paren_eq; omega)
    exact hbefore x hb (.inl (hm.name.2 x hx))
  have hse : s < e := by
    refine Nat.lt_of_le_of_ne he fun heq => ?_
    cases (heq ▸ hc).symm.trans h.close
    exact absurd hw (by decide)
  have hfe : f ≤ e := by
    by_contra hfe
    have hn := Text.not_closed_within (h.inner hm) hP he h.close (l := f) (by omega)
    rw [h'.between_front, hfront] at hn
    cases hn
  by_cases hr : s < r
  case pos =>
    -- Its first character is not blank, so that no parenthesis stands behind the reference.
    have hblank : ∀ c ∈ m.closing, isBlank c := hm.blank.resolve_left fun hb =>
      absurd (hb c (h.opening.mem hP (h.reference_eq ▸ hr) hc)) (by simp [Text.not_isBlank_of_isWord hw])
    have hPr : P' < r := by
      by_contra hPr
      by_cases hq : P' < q
      case pos => exact absurd (h.word_of_reference hm (Nat.le_of_not_lt hPr) hq h'.paren) (by decide)
      case neg =>
        have hmem := (Text.at_append.mp h.closing).1.mem (Nat.le_of_not_lt hq) (by rw [← h.close_eq]; omega) h'.paren
        exact absurd (hblank _ hmem) (by decide)
    have hb : Balanced (between body (P + 1) r) := by rw [h.reference_eq, h.opening.between]; exact hm.opening
    have hc := Text.close_lt hb (by omega) hPr h'.paren (h'.inner hp hs)
    exact .inl ⟨hP, hc.resolve_right fun hn => hn h'.close⟩
  case neg =>
    have hq : q ≤ s := by
      by_contra hq
      have hrs : r < s := Nat.lt_of_le_of_ne (Nat.le_of_not_lt hr) fun heq => ne_reference h hm h' hp heq.symm
      have ⟨x, hx, hb⟩ := h.reference.exists_mem (k := s - 1) (by omega) (by rw [← h.delimiter_eq]; omega)
      exact hbefore x hb (hm.reference.2 x hx)
    have hb : Balanced (between body q e) := by
      rw [h.close_eq, (Text.at_append.mp h.closing).1.between]
      exact hm.closing
    have hc := Text.close_lt hb (by omega) (by omega) h'.paren (h'.inner hp hs)
    exact .inr ⟨hq, hc.resolve_right fun hn => hn h'.close⟩

-- A standing call and a replaced one, neither the beginning of the standing call in the front of the
-- other nor a loose parenthesis in a front that begins within the standing call.
theorem apart_or_nested (hbefore : ∀ c, 0 < s → body[s - 1]? = some c → ¬(isWord c ∨ c = '.'))
    (hbegin : ¬(s ≤ a ∧ a < f)) (hfront : a < s → s ≤ e → openAfter 0 (p.front shape) = some 1) :
    e' < a ∨ e < s ∨ P < s ∧ e' < r ∨ q ≤ s ∧ e' < e ∨ b ≤ a ∧ e < t := by
  by_cases hsa : s ≤ a
  case pos =>
    by_cases he : a ≤ e'
    case neg => exact .inl (Nat.lt_of_not_le he)
    case pos =>
      have hfa : f ≤ a := Nat.le_of_not_lt fun hf => hbegin ⟨hsa, hf⟩
      exact .inr (.inr (.inr (.inr (nested_of_front_le h hm h' hp hs hfa he))))
  case neg =>
    have has : a < s := Nat.lt_of_not_le hsa
    by_cases he : s ≤ e
    case neg => exact .inr (.inl (Nat.lt_of_not_le he))
    case pos =>
      have hb (c : Char) : body[s - 1]? = some c → ¬(isWord c ∨ c = '.') := hbefore c (by omega)
      rcases nested_of_lt h hm h' hp hs has he hb (hfront has he) with hn | hn
      case inl => exact .inr (.inr (.inl hn))
      case inr => exact .inr (.inr (.inr (.inl hn)))

end

end TypedResources.Call
