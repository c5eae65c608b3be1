import TypedResources.Proofs.Migration.Qualified
import TypedResources.Proofs.Migration.Swaps

-- What becomes of a call that is skipped. The shapes that come later may swap calls in its parentheses
-- or carry it along in the arguments of a call around it (`moved_of_spares`), so it is still there when
-- all shapes have passed (`moved_of_spared`, `skipped_call_stays`). This takes that no later call is
-- swapped whose front, which is dropped, holds the beginning of the skipped call; one that reads the
-- skipped call's own arguments as its context does.

namespace TypedResources.Migration

open Text (At Balanced isBlank isWord openAfter)
open Call (Standing)

variable {k : Knowledge} {imported : Option String} {shape : Call.Shape} {body : List Char} {c : Call} {t : Target}
  {es l r : List Edit} {m : Standing} {n a e : Nat}

-- No call that the shape swaps has the place `a` in its front, and one that begins between `a` and
-- `e` has one open parenthesis at the end of its front.
def Spares (k : Knowledge) (imported : Option String) (shape : Call.Shape) (body : List Char) (a e : Nat) : Prop :=
  ∀ o ∈ shape.pattern.occurrences body, (resolve k imported (Call.ofOccurrence shape o)).isOk →
    ¬(o.start ≤ a ∧ a < o.start + (Call.ofOccurrence shape o).front.length) ∧
      (a < o.start → o.start ≤ e → openAfter 0 (Call.ofOccurrence shape o).front = some 1)

instance : Decidable (Spares k imported shape body a e) :=
  inferInstanceAs (Decidable (∀ o ∈ shape.pattern.occurrences body, (resolve k imported (Call.ofOccurrence shape o)).isOk →
    ¬(o.start ≤ a ∧ a < o.start + (Call.ofOccurrence shape o).front.length) ∧
      (a < o.start → o.start ≤ e → openAfter 0 (Call.ofOccurrence shape o).front = some 1)))

-- A stretch from `s` of some length lies outside of a call or on one side of its reference.
def Beside (a P r q e s length : Nat) : Prop :=
  s + length ≤ a ∨ e < s ∨ P < s ∧ s + length ≤ r ∨ q ≤ s ∧ s + length ≤ e

-- The call lies in the arguments of a swapped one.
structure Carried (m : Standing) (a : Nat) (l : List Edit) (c : Call) : Prop where
  split : ∃ x y, c.arguments = x ++ m.text ++ y ∧ a = (olds l).length + c.lead.length + x.length
  within : c.lead.length + c.arguments.length ≤ c.text.length

-- Blanks behind a parenthesis can be trimmed without it.
theorem exists_rdropWhile_close (x w y : List Char) :
    ∃ y', (x ++ (w ++ [')']) ++ y).rdropWhile isBlank = x ++ (w ++ [')']) ++ y' := by
  by_cases hy : ∃ c ∈ y, isBlank c = false
  case pos => exact ⟨_, Text.rdropWhile_append_of_exists hy⟩
  case neg =>
    have hy : ∀ c ∈ y, isBlank c := by simpa using hy
    refine ⟨[], ?_⟩
    rw [Text.rdropWhile_append_of_all hy, ← List.append_assoc, List.rdropWhile_concat_neg _ _ _ (by decide), List.append_nil]

theorem Swapped.carried {p : Call.Parts} {o : Occurrence Call.Slot}
    (hw : Swapped k imported shape body (olds l).length c t p o)
    {P f d b t' e' : Nat} (hl : p.Lies shape body (olds l).length P f d b t' e')
    (hb : b = (olds l).length + (p.lead shape).length) (hat : At body a m.text) (he : e + 1 = a + m.text.length)
    (hba : b ≤ a) (het : e < t') : Carried m a l c where
  split := by
    obtain ⟨x, y, hxy, ha⟩ := hl.arguments.exists_append hat hba (by have := hl.arguments_eq; omega)
    have hm : m.text = m.name ++ '(' :: (m.opening ++ m.reference ++ m.closing) ++ [')'] := by simp [Standing.text]
    rw [hm] at hxy
    obtain ⟨y', hy'⟩ := exists_rdropWhile_close x (m.name ++ '(' :: (m.opening ++ m.reference ++ m.closing)) y
    exact ⟨x, y', by rw [hw.arguments, hxy, hy', hm], by rw [hw.lead, ha, hb]⟩
  within := by
    have hle := (List.rdropWhile_prefix isBlank p.arguments).length_le
    rw [hw.lead, hw.arguments, hw.text, Call.Parts.text]
    simp only [List.length_append]
    omega

theorem beside_or_carried {P q' r' : Nat} (hs : shape ∈ Call.shapes) (hm : m.Fit) (hat : At body a m.text)
    (hl : m.Lies body a P r' q' e) (he : e + 1 = a + m.text.length) (hsp : Spares k imported shape body a e)
    (h : edits k imported shape body = l ++ .swap c t :: r) :
    Beside a P r' q' e (olds l).length c.text.length ∧
        (a < (olds l).length → (olds l).length ≤ e → Balanced c.text) ∨ Carried m a l c := by
  obtain ⟨p, o, hw⟩ := exists_swapped_of_edits hs h
  obtain ⟨P', f, d, b, t', e', hl', hf, hb, he'⟩ := Call.Parts.lies hw.at_text
  obtain ⟨hbegin, hfront⟩ := hsp o hw.mem (by rw [← hw.call, hw.resolves]; rfl)
  rw [hw.start, ← hw.call, hw.front, ← hf] at hbegin
  rw [hw.start, ← hw.call] at hfront
  rw [← hw.text] at he'
  have hbalanced (h₁ : a < (olds l).length) (h₂ : (olds l).length ≤ e) : Balanced c.text :=
    hw.balanced hs (hfront h₁ h₂)
  rcases Call.apart_or_nested hl hm hl' hw.parts.fit hs hw.before hbegin (hw.front ▸ hfront) with h | h | h | h | h
  · exact .inl ⟨.inl (by omega), hbalanced⟩
  · exact .inl ⟨.inr (.inl h), hbalanced⟩
  · exact .inl ⟨.inr (.inr (.inl ⟨h.1, by omega⟩)), hbalanced⟩
  · exact .inl ⟨.inr (.inr (.inr ⟨h.1, by omega⟩)), hbalanced⟩
  · exact .inr (hw.carried hl' hb hat he h.1 h.2)

-- Where a call has got to, and what may have changed in it.
structure Moved (k : Knowledge) (imported : Option String) (m : Standing) (body : List Char) (a e : Nat) (m' : Standing) :
    Prop where
  fit       : m'.Fit
  name      : m'.name = m.name
  reference : m'.reference = m.reference
  opening   : Edited k imported m.opening m'.opening
  closing   : Edited k imported m.closing m'.closing
  at_text   : At body a m'.text
  stop      : e + 1 = a + m'.text.length

theorem moved_of_carried (hm : m.Fit) (he : e + 1 = a + m.text.length) (hc : Carried m a l c)
    (h : es = l ++ .swap c t :: r) : Moved k imported m (news es) (place es a) (place es e) m := by
  obtain ⟨x, y, hargs, ha⟩ := hc.split
  have hw := hc.within
  have hlen : c.arguments.length = x.length + m.text.length + y.length := by
    simp only [hargs, List.length_append]
  have hpos : 0 < m.text.length := List.length_pos_iff.mpr (by simp [Standing.text])
  have hplace (i : Nat) (hi : c.lead.length + i < c.text.length) : place es ((olds l).length + (c.lead.length + i)) =
      (news l).length + ((accessorClass ++ "." ++ t.name ++ "(").length + i) := by
    rw [h, place_append, place, Edit.old, if_pos hi, Edit.place, Nat.add_sub_cancel_left]
  have hpa : place es a = (news l ++ (accessorClass ++ "." ++ t.name ++ "(").toList ++ x).length := by
    rw [ha, Nat.add_assoc, hplace _ (by omega)]
    simp only [List.length_append, String.length_toList]
    omega
  have hpe : place es e + 1 = place es a + m.text.length := by
    have hei : e = (olds l).length + (c.lead.length + (x.length + m.text.length - 1)) := by omega
    rw [hei, hplace _ (by omega), hpa]
    simp only [List.length_append, String.length_toList]
    omega
  have hnews : news es =
      (news l ++ (accessorClass ++ "." ++ t.name ++ "(").toList ++ x) ++ m.text ++ (y ++ ')' :: news r) := by
    have hcall : news (.swap c t :: r) = (accessorClass ++ "." ++ t.name ++ "(").toList ++ c.arguments ++ ')' :: news r := by
      simp [news, Edit.new, Target.call]
    rw [h, news_append, hcall, hargs]
    simp
  exact ⟨hm, rfl, rfl, .refl, .refl, hpa ▸ Text.at_of_eq_append hnews, hpe⟩

-- The edits before, in and behind a call that no swapped call reaches over in part.
structure Stretches where
  before    : List Edit
  name      : List Edit
  opening   : List Edit
  reference : List Edit
  closing   : List Edit
  close     : List Edit
  after     : List Edit

namespace Stretches

def edits (st : Stretches) : List Edit :=
  st.before ++ st.name ++ st.opening ++ st.reference ++ st.closing ++ st.close ++ st.after

structure Of (st : Stretches) (m : Standing) (a P r q e : Nat) : Prop where
  name         : olds st.name = m.name ++ ['(']
  opening      : olds st.opening = m.opening
  reference    : olds st.reference = m.reference
  closing      : olds st.closing = m.closing
  close        : olds st.close = [')']
  start_eq     : (olds st.before).length = a
  paren_eq     : (olds (st.before ++ st.name)).length = P + 1
  reference_eq : (olds (st.before ++ st.name ++ st.opening)).length = r
  delimiter_eq : (olds (st.before ++ st.name ++ st.opening ++ st.reference)).length = q
  close_eq     : (olds (st.before ++ st.name ++ st.opening ++ st.reference ++ st.closing)).length = e
  end_eq       : (olds (st.before ++ st.name ++ st.opening ++ st.reference ++ st.closing ++ st.close)).length = e + 1

end Stretches

theorem exists_stretches {P r' q' : Nat} (hat : At (olds es) a m.text) (hl : m.Lies (olds es) a P r' q' e)
    (hr : ∀ i ∈ [a, P + 1, r', q', e, e + 1], Respects es i) :
    ∃ st : Stretches, es = st.edits ∧ st.Of m a P r' q' e := by
  have ⟨before, after, hbody, hbefore⟩ := hat.exists_eq_append (by simp [Standing.text])
  have hbody : olds es = before ++ (m.name ++ ['(']) ++ m.opening ++ m.reference ++ m.closing ++ [')'] ++ after := by
    simpa [Standing.text] using hbody
  have hP : (before ++ (m.name ++ ['('])).length = P + 1 := by
    simp [hl.paren_eq, hbefore]
    omega
  have hopen : (before ++ (m.name ++ ['(']) ++ m.opening).length = r' := by
    rw [List.length_append, hP, hl.reference_eq]
  have href : (before ++ (m.name ++ ['(']) ++ m.opening ++ m.reference).length = q' := by
    rw [List.length_append, hopen, hl.delimiter_eq]
  have hclose : (before ++ (m.name ++ ['(']) ++ m.opening ++ m.reference ++ m.closing).length = e := by
    rw [List.length_append, href, hl.close_eq]
  have hend : (before ++ (m.name ++ ['(']) ++ m.opening ++ m.reference ++ m.closing ++ [')']).length = e + 1 := by
    rw [List.length_append, hclose, List.length_singleton]
  -- Cutting off the last stretch each time leaves the other places where they are.
  obtain ⟨es₆, after', rfl, h₆, -⟩ := exists_append_of_respects hbody (hend ▸ hr _ (by simp))
  have hr₆ (i : Nat) (hi : i ∈ [a, P + 1, r', q', e, e + 1]) : Respects es₆ i := (hr i hi).of_append
  obtain ⟨es₅, close, rfl, h₅, hc⟩ := exists_append_of_respects h₆ (hclose ▸ hr₆ _ (by simp))
  have hr₅ (i : Nat) (hi : i ∈ [a, P + 1, r', q', e, e + 1]) : Respects es₅ i := (hr₆ i hi).of_append
  obtain ⟨es₄, closing, rfl, h₄, hcl⟩ := exists_append_of_respects h₅ (href ▸ hr₅ _ (by simp))
  have hr₄ (i : Nat) (hi : i ∈ [a, P + 1, r', q', e, e + 1]) : Respects es₄ i := (hr₅ i hi).of_append
  obtain ⟨es₃, reference, rfl, h₃, hre⟩ := exists_append_of_respects h₄ (hopen ▸ hr₄ _ (by simp))
  have hr₃ (i : Nat) (hi : i ∈ [a, P + 1, r', q', e, e + 1]) : Respects es₃ i := (hr₄ i hi).of_append
  obtain ⟨es₂, opening, rfl, h₂, ho⟩ := exists_append_of_respects h₃ (hP ▸ hr₃ _ (by simp))
  obtain ⟨es₁, name, rfl, h₁, hn⟩ := exists_append_of_respects h₂ (hbefore ▸ (hr₃ _ (by simp)).of_append)
  exact ⟨⟨es₁, name, opening, reference, closing, close, after'⟩, rfl, hn, ho, hre, hcl, hc, h₁ ▸ hbefore, h₂ ▸ hP,
    h₃ ▸ hopen, h₄ ▸ href, h₅ ▸ hclose, h₆ ▸ hend⟩

section

variable {st : Stretches} {P r' q' : Nat} (hst : st.Of m a P r' q' e) (hlt : a ≤ P ∧ P < r' ∧ r' ≤ q' ∧ q' ≤ e)
  (hs : AllSound k imported st.edits)
  (h : ∀ l c t r, st.edits = l ++ .swap c t :: r → Beside a P r' q' e (olds l).length c.text.length ∧
    (a < (olds l).length → (olds l).length ≤ e → Balanced c.text))

include hst hlt hs h

-- Where a call lies that is swapped in one of the stretches.
omit hst hlt in
theorem beside_of_mem {x y z : List Edit} (hxyz : st.edits = x ++ y ++ z) (hm : .swap c t ∈ y) :
    ∃ s, (olds x).length ≤ s ∧ s + c.text.length ≤ (olds (x ++ y)).length ∧ 0 < c.text.length ∧
      Beside a P r' q' e s c.text.length ∧ (a < s → s ≤ e → Balanced c.text) := by
  obtain ⟨l, r, heq, h₁, h₂⟩ := exists_split_of_mem x z hm
  have ⟨hb, hbalanced⟩ := h l c t r (hxyz.trans heq)
  obtain ⟨u, w, hu, -⟩ := (hs c t (by simp [hxyz, hm])).first
  exact ⟨(olds l).length, h₁, h₂, by simp [hu], hb, hbalanced⟩

-- What makes up the call itself is kept.
theorem not_swap : (∀ c t, .swap c t ∉ st.name) ∧ (∀ c t, .swap c t ∉ st.reference) ∧ ∀ c t, .swap c t ∉ st.close := by
  refine ⟨fun c t hm => ?_, fun c t hm => ?_, fun c t hm => ?_⟩
  case refine_1 =>
    have ⟨s, h₁, h₂, hpos, hb, _⟩ := beside_of_mem hs h
      (show st.edits = st.before ++ st.name ++ (st.opening ++ st.reference ++ st.closing ++ st.close ++ st.after) by
        simp [Stretches.edits]) hm
    rw [hst.start_eq] at h₁
    rw [hst.paren_eq] at h₂
    unfold Beside at hb
    omega
  case refine_2 =>
    have ⟨s, h₁, h₂, hpos, hb, _⟩ := beside_of_mem hs h
      (show st.edits = (st.before ++ st.name ++ st.opening) ++ st.reference ++ (st.closing ++ st.close ++ st.after) by
        simp [Stretches.edits]) hm
    rw [hst.reference_eq] at h₁
    rw [hst.delimiter_eq] at h₂
    unfold Beside at hb
    omega
  case refine_3 =>
    have ⟨s, h₁, h₂, hpos, hb, _⟩ := beside_of_mem hs h
      (show st.edits = (st.before ++ st.name ++ st.opening ++ st.reference ++ st.closing) ++ st.close ++ st.after from rfl) hm
    rw [hst.close_eq] at h₁
    rw [hst.end_eq] at h₂
    unfold Beside at hb
    omega

theorem balanced_swaps : (∀ c t, .swap c t ∈ st.opening → Balanced c.text) ∧
    ∀ c t, .swap c t ∈ st.closing → Balanced c.text := by
  refine ⟨fun c t hm => ?_, fun c t hm => ?_⟩
  case refine_1 =>
    have ⟨s, h₁, h₂, _, _, hb⟩ := beside_of_mem hs h
      (show st.edits = (st.before ++ st.name) ++ st.opening ++ (st.reference ++ st.closing ++ st.close ++ st.after) by
        simp [Stretches.edits]) hm
    rw [hst.paren_eq] at h₁
    rw [hst.reference_eq] at h₂
    exact hb (by omega) (by omega)
  case refine_2 =>
    have ⟨s, h₁, h₂, _, _, hb⟩ := beside_of_mem hs h
      (show st.edits = (st.before ++ st.name ++ st.opening ++ st.reference) ++ st.closing ++ (st.close ++ st.after) by
        simp [Stretches.edits]) hm
    rw [hst.delimiter_eq] at h₁
    rw [hst.close_eq] at h₂
    exact hb (by omega) (by omega)

theorem moved_of_stretches (hm : m.Fit) :
    ∃ m', Moved k imported m (news st.edits) (place st.edits a) (place st.edits e) m' := by
  have ⟨hname, hreference, hclose⟩ := not_swap hst hlt hs h
  have ⟨hopening, hclosing⟩ := balanced_swaps hst hlt hs h
  have hso : AllSound k imported st.opening := fun c t hm => hs c t (by simp [Stretches.edits, hm])
  have hsc : AllSound k imported st.closing := fun c t hm => hs c t (by simp [Stretches.edits, hm])
  have hfit : (⟨m.name, news st.opening, m.reference, news st.closing⟩ : Standing).Fit := by
    refine ⟨hm.name, ?_, hm.reference, ?_, fun x hx => ?_, hm.blank.imp (fun hb => ?_) fun hb => ?_⟩
    case refine_1 => exact (hso.openAfter_news hopening).trans (by rw [hst.opening]; exact hm.opening)
    case refine_2 => exact (hsc.openAfter_news hclosing).trans (by rw [hst.closing]; exact hm.closing)
    case refine_3 =>
      have hd := hm.delimiter
      rw [← hst.closing] at hd
      dsimp only at hx
      rw [hsc.head?_news fun x hx => by simp [(hd x hx).not_isWord]] at hx
      exact hd x hx
    case refine_4 => dsimp only; rwa [hso.news_of_blank (hst.opening ▸ hb), hst.opening]
    case refine_5 => dsimp only; rwa [hsc.news_of_blank (hst.closing ▸ hb), hst.closing]
  have hn : news st.name = m.name ++ ['('] := (news_of_not_swap hname).trans hst.name
  have hr : news st.reference = m.reference := (news_of_not_swap hreference).trans hst.reference
  have hc : news st.close = [')'] := (news_of_not_swap hclose).trans hst.close
  have ha : place st.edits a = (news st.before).length := by
    have hp := place_of_not_swap (l := st.before) (r := st.opening ++ st.reference ++ st.closing ++ st.close ++ st.after)
      hname (by simp [hst.name])
    rw [hst.start_eq] at hp
    rw [← hp, Stretches.edits]
    simp only [List.append_assoc]
  have he : place st.edits e = (news (st.before ++ st.name ++ st.opening ++ st.reference ++ st.closing)).length := by
    rw [← place_of_not_swap (r := st.after) hclose (by simp [hst.close]), hst.close_eq]
    rfl
  refine ⟨_, hfit, rfl, rfl, hst.opening ▸ hso.edited, hst.closing ▸ hsc.edited, ?_, ?_⟩
  · rw [ha]
    refine Text.at_of_eq_append (v := news st.after) ?_
    simp [Stretches.edits, Standing.text, hn, hr, hc]
  · rw [ha, he]
    simp [Standing.text, hn, hr]
    omega

end

-- One pass leaves a call that it spares standing.
theorem moved_of_spares (hk : ∀ x ∈ k.targets, ∃ r : Resource, r.target = x) (hs : shape ∈ Call.shapes) (hm : m.Fit)
    (hat : At body a m.text) (he : e + 1 = a + m.text.length) (hsp : Spares k imported shape body a e) (n : Nat) :
    ∃ m', Moved k imported m (migrateShape k imported n body shape).1 (place (edits k imported shape body) a)
      (place (edits k imported shape body) e) m' := by
  obtain ⟨P, r', q', e', hl, he'⟩ := Standing.lies hat
  obtain rfl : e' = e := by omega
  rw [← news_edits n]
  by_cases hc : ∃ l c t r, edits k imported shape body = l ++ .swap c t :: r ∧ Carried m a l c
  case pos =>
    obtain ⟨l, c, t, r, h, hc⟩ := hc
    exact ⟨m, moved_of_carried hm he hc h⟩
  case neg =>
    have hb (l : List Edit) (c : Call) (t : Target) (r : List Edit) (h : edits k imported shape body = l ++ .swap c t :: r) :
        Beside a P r' q' e' (olds l).length c.text.length ∧
          (a < (olds l).length → (olds l).length ≤ e' → Balanced c.text) :=
      (beside_or_carried hs hm hat hl he hsp h).resolve_right fun hcar => hc ⟨l, c, t, r, h, hcar⟩
    have hsound : AllSound k imported (edits k imported shape body) := fun c t hmem => by
      obtain ⟨l, r, h⟩ := List.append_of_mem hmem
      obtain ⟨p, o, hw⟩ := exists_swapped_of_edits hs h
      exact hw.sound hk hs
    have hlt := hl.lt
    have hr : ∀ i ∈ [a, P + 1, r', q', e', e' + 1], Respects (edits k imported shape body) i := by
      intro i hi l c t r hlr
      have hbeside := (hb l c t r hlr).1
      simp only [List.mem_cons, List.not_mem_nil, or_false] at hi
      unfold Beside at hbeside
      omega
    have hbody : olds (edits k imported shape body) = body := olds_edits
    obtain ⟨st, hst, hof⟩ := exists_stretches (hbody.symm ▸ hat) (hbody.symm ▸ hl) hr
    rw [hst] at hb hsound ⊢
    exact moved_of_stretches hof hlt hsound hb hm

-- No later shape does away with a call that stands from `a` to `e`.
def Spared (k : Knowledge) (imported : Option String) : List Call.Shape → List Char → Nat → Nat → Prop
  | [],              _,    _, _ => True
  | shape :: shapes, body, a, e =>
    Spares k imported shape body a e ∧
      let es := edits k imported shape body
      Spared k imported shapes (news es) (place es a) (place es e)

instance decidableSpared : ∀ shapes body a e, Decidable (Spared k imported shapes body a e)
  | [],              _,    _, _ => inferInstanceAs (Decidable True)
  | shape :: shapes, body, a, e =>
    let es := edits k imported shape body
    @instDecidableAnd _ _ inferInstance (decidableSpared shapes (news es) (place es a) (place es e))

-- Where a character of a body gets to when several shapes have passed.
def placeThrough (k : Knowledge) (imported : Option String) : List Call.Shape → List Char → Nat → Nat
  | [],              _,    i => i
  | shape :: shapes, body, i =>
    let es := edits k imported shape body
    placeThrough k imported shapes (news es) (place es i)

theorem Moved.trans {body' : List Char} {a' e' : Nat} {m' m'' : Standing} (h : Moved k imported m body a e m')
    (h' : Moved k imported m' body' a' e' m'') : Moved k imported m body' a' e' m'' where
  fit       := h'.fit
  name      := h'.name.trans h.name
  reference := h'.reference.trans h.reference
  opening   := h.opening.trans h'.opening
  closing   := h.closing.trans h'.closing
  at_text   := h'.at_text
  stop      := h'.stop

theorem moved_of_spared {shapes : List Call.Shape} {events : List Event}
    (hk : ∀ x ∈ k.targets, ∃ r : Resource, r.target = x) (hs : ∀ shape ∈ shapes, shape ∈ Call.shapes) (hm : m.Fit)
    (hat : At body a m.text) (he : e + 1 = a + m.text.length) (hsp : Spared k imported shapes body a e) :
    ∃ m', Moved k imported m (migrateShapes k imported n shapes body events).1 (placeThrough k imported shapes body a)
      (placeThrough k imported shapes body e) m' := by
  induction shapes generalizing body a e m events
  case nil => exact ⟨m, hm, rfl, rfl, .refl, .refl, hat, he⟩
  case cons shape shapes ih =>
    have ⟨hshape, hshapes⟩ := List.forall_mem_cons.mp hs
    have ⟨m', hm'⟩ := moved_of_spares hk hshape hm hat he hsp.1 n
    have hsp' := hsp.2
    dsimp only at hsp'
    rw [news_edits n] at hsp'
    rw [migrateShapes_cons, placeThrough, placeThrough, news_edits n]
    exact (ih hshapes hm'.fit hm'.at_text hm'.stop hsp').imp fun _ hm'' => hm'.trans hm''

section

variable {d : Disk} {groups : List ResourceGroup} {o : Occurrence Call.Slot} {refusal : Refusal} {line : List Char}
  {done later : List Call.Shape}

-- Occurrences of one shape do not overlap.
theorem spares_of_skipped (ho : o ∈ shape.pattern.occurrences body)
    (hr : resolve k imported (Call.ofOccurrence shape o) = .error refusal) (ha : o.start ≤ a) (hae : a ≤ e)
    (he : e < o.stop) : Spares k imported shape body a e := by
  intro o' ho' hok
  have hne : o ≠ o' := by
    rintro rfl
    simp [hr, Except.isOk, Except.toBool] at hok
  have hle : (Call.ofOccurrence shape o').front.length ≤ o'.text.length := (Call.front_prefix _).length_le
  have hapart := Pattern.apart_of_mem_occurrences ho ho' hne
  simp only [Occurrence.stop] at hapart he
  constructor
  case left  => omega
  case right => intro _ _; omega

-- A call that is skipped is still there in the migrated line if the later shapes spare it: its method,
-- its parentheses and its reference are, and only calls on both sides of the reference are replaced.
theorem skipped_call_stays (n : Nat) (hk : k.Knows d groups) (hs : Call.shapes = done ++ shape :: later)
    (ho : o ∈ shape.pattern.occurrences (migrateShapes k imported n done line []).1)
    (hr : resolve k imported (Call.ofOccurrence shape o) = .error refusal) :
    let body := (migrateShapes k imported n done line []).1
    let call := Call.ofOccurrence shape o
    let es := edits k imported shape body
    let migrated := migrateBody k imported n line
    .skipped n call.key refusal ∈ migrated.2 ∧ ∃ receiver opening closing,
      let start := o.start + receiver.length
      call.front = receiver ++ shape.method.toList ++ '(' :: opening ∧
      o.text = call.front ++ call.qualified ++ closing ++ [')'] ∧
      Balanced (opening ++ call.qualified ++ closing) ∧
      (Spared k imported later (news es) (place es start) (place es (o.stop - 1)) → ∃ before after opening' closing',
        migrated.1 = before ++ shape.method.toList ++ '(' :: (opening' ++ call.qualified ++ closing' ++ ')' :: after) ∧
        before.length = placeThrough k imported (shape :: later) body start ∧
        Edited k imported opening opening' ∧ Edited k imported closing closing') := by
  intro body call es migrated
  have hshape : shape ∈ Call.shapes := by simp [hs]
  have hlater : ∀ shape' ∈ shape :: later, shape' ∈ Call.shapes := fun _ hm => hs ▸ List.mem_append_right done hm
  have hmigrated : migrated =
      migrateShapes k imported n (shape :: later) body (migrateShapes k imported n done line []).2 := by
    simp only [migrated, body, migrateBody_eq, hs, migrateShapes_append]
  obtain ⟨p, hp⟩ := Call.exists_parts hshape (Pattern.reads_of_mem_occurrences ho)
  have hm := hp.fit.standing hshape
  have htext : o.text = p.receiver ++ (p.standing shape).text := hp.text.trans Call.Parts.text_eq_append
  have hq : call.qualified = (p.standing shape).reference := Call.qualified_call hp
  have hf : call.front = p.front shape := Call.front_call hp
  constructor
  case left =>
    refine mem_migrateBody_iff.mpr ⟨_, _, _, o, hs, ho, ?_⟩
    rw [migrateCall, hr]
  case right =>
    refine ⟨p.receiver, (p.standing shape).opening, (p.standing shape).closing, hf, ?_, hq ▸ hm.inner, fun hsp => ?_⟩
    · simp [htext, hf, hq, Standing.text, Call.Parts.standing, Call.Parts.front]
    · have hstop : o.stop = o.start + p.receiver.length + (p.standing shape).text.length := by
        rw [Occurrence.stop, htext, List.length_append, Nat.add_assoc]
      have hpos : 0 < (p.standing shape).text.length := List.length_pos_iff.mpr (by simp [Standing.text])
      obtain ⟨left, right, hc⟩ := Pattern.exists_cut_of_mem_occurrences ho
      have hat : At body o.start (p.receiver ++ (p.standing shape).text) := htext ▸ at_of_cut hc
      have hsp : Spared k imported (shape :: later) body (o.start + p.receiver.length) (o.stop - 1) :=
        ⟨spares_of_skipped ho hr (Nat.le_add_right _ _) (by omega) (by omega), hsp⟩
      have htargets : ∀ x ∈ k.targets, ∃ r : Resource, r.target = x := fun x hx =>
        (hk.mem_targets_iff.mp hx).imp fun _ h => h.2
      obtain ⟨m, h⟩ : ∃ m, Moved k imported (p.standing shape) migrated.1
          (placeThrough k imported (shape :: later) body (o.start + p.receiver.length))
          (placeThrough k imported (shape :: later) body (o.stop - 1)) m :=
        hmigrated ▸ moved_of_spared htargets hlater hm (Text.at_append.mp hat).2 (by omega) hsp
      obtain ⟨before, after, hbody, hbefore⟩ := h.at_text.exists_eq_append (by simp [Standing.text])
      refine ⟨before, after, m.opening, m.closing, ?_, hbefore, h.opening, h.closing⟩
      rw [hbody, hq, ← h.reference]
      simp [Standing.text, h.name, Call.Parts.standing]

-- The call in the arguments of the skipped one is replaced.
theorem skipped_color_stays : ∃ before after opening' closing',
    (migrateBody okKnowledge none 1 "getColor(R.color.c,getString(R.string.ok,x))".toList).1 =
      before ++ "getColor".toList ++ '(' :: (opening' ++ "R.color.c".toList ++ closing' ++ ')' :: after) ∧
    Edited okKnowledge none [] opening' ∧ Edited okKnowledge none ",getString(R.string.ok,x)".toList closing' := by
  let line : List Char := "getColor(R.color.c,getString(R.string.ok,x))".toList
  let shape : Call.Shape := ⟨"getColor", [.values .color], .rest⟩
  let kept : List (Call.Slot × List Char) := [(.arguments, "getString(R.string.ok,x)".toList), (.field, "c".toList)]
  have hs : Call.shapes = Call.shapes.take 9 ++ shape :: Call.shapes.drop 10 := by decide
  have hb : (migrateShapes okKnowledge none 1 (Call.shapes.take 9) line []).1 = line := by decide +kernel
  have ho : (shape.pattern.occurrences line).map (fun o => (o.start, o.text, o.kept)) = [(0, line, kept)] := by
    decide +kernel
  obtain ⟨o, ho, he⟩ := List.mem_map.mp (ho ▸ List.mem_singleton_self (0, line, kept))
  obtain rfl : o = ⟨0, line, kept⟩ := by cases o; simpa using he
  have ho : ⟨0, line, kept⟩ ∈
      shape.pattern.occurrences (migrateShapes okKnowledge none 1 (Call.shapes.take 9) line []).1 := by
    rw [hb]
    exact ho
  have hr : resolve okKnowledge none (Call.ofOccurrence shape ⟨0, line, kept⟩) = .error .unknown := by decide
  have hf : (Call.ofOccurrence shape ⟨0, line, kept⟩).front = "getColor(".toList := by decide
  have hq : (Call.ofOccurrence shape ⟨0, line, kept⟩).qualified = "R.color.c".toList := by decide
  have ⟨_, receiver, opening, closing, hfront, htext, _, h⟩ := skipped_call_stays 1 knows_ok hs ho hr
  rw [hf] at hfront htext
  rw [hq] at htext h
  rw [hb] at h
  obtain ⟨rfl, rfl⟩ : receiver = [] ∧ opening = [] := by
    have hlen := congrArg List.length hfront
    have hm : shape.method.toList.length = 8 := by decide
    simp only [List.length_append, List.length_cons, String.reduceToList, List.length_nil] at hlen
    simp only [← List.length_eq_zero_iff]
    omega
  have hclosing : closing ++ [')'] = ",getString(R.string.ok,x)".toList ++ [')'] := by simpa [line] using htext.symm
  obtain rfl := List.append_cancel_right hclosing
  have hsp : Spared okKnowledge none (Call.shapes.drop 10) (news (edits okKnowledge none shape line))
      (place (edits okKnowledge none shape line) 0) (place (edits okKnowledge none shape line) 43) := by
    decide +kernel
  have ⟨before, after, opening', closing', hmigrated, _, hopening, hclosing⟩ := h hsp
  exact ⟨before, after, opening', closing', hmigrated, hopening, hclosing⟩

-- The last shape reads the reference of the skipped call as the context of the known one.
theorem skipped_call_read_as_context : okKnowledge.Knows okDisk okGroups ∧
    migrateBody okKnowledge none 1 "getString(R.string.missing, R.string.ok)".toList =
      ("ResourceManager.Strings.ok()".toList,
        [.skipped 1 "R.string.missing" .unknown,
          .replaced 1 "getString(R.string.missing, R.string.ok)" "ResourceManager.Strings.ok()"]) :=
  ⟨knows_ok, by decide +kernel⟩

end

end TypedResources.Migration
