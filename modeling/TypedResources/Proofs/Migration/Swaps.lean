import Mathlib.Logic.Relation
import TypedResources.Proofs.Call.Overlap
import TypedResources.Proofs.Migration.Edits
import TypedResources.Proofs.Migration.Resolution

-- What swapped calls do to the stretches of a body. The call of an accessor has no loose parentheses
-- (`balanced_call`), so stretches whose swapped calls have none stay balanced, and what does not begin
-- with a word character goes on to begin with it (`Sound.head?_news`).

namespace TypedResources.Migration

open Text (At Balanced isBlank isWord isParen openAfter)

variable {k : Knowledge} {imported : Option String} {shape : Call.Shape} {body s s' u v : List Char}
  {c : Call} {t : Target} {o : Occurrence Call.Slot} {es l r : List Edit} {n : Nat}
  {left right : List (Piece Call.Slot)}

theorem not_isParen_name (b : Block) : ∀ c ∈ b.name.toList, isParen c = false := by
  have h : b.name.toList.all (!isParen ·) := by
    cases b
    case drawables   => decide
    case values kind => cases kind <;> decide
  simpa using h

-- Whatever resources there are, a field of word characters leads to a function without parentheses.
theorem not_isParen_function (hk : ∀ x ∈ k.targets, ∃ r : Resource, r.target = x) (hs : c.shape ∈ Call.shapes)
    (hf : ∀ x ∈ c.field, isWord x) (hr : resolve k imported c = .ok t) :
    ∀ x ∈ t.function.toList, isParen x = false := by
  obtain ⟨hm, hb⟩ := mem_of_resolve hr
  obtain ⟨r, ht⟩ := hk _ hm
  obtain ⟨hkey, rfl⟩ := Prod.mk.inj ht
  have hfield : r.field = String.ofList c.field := (key_eq_iff hs hb).mp hkey
  refine Naming.not_isParen_functionName fun x hx => Text.not_isParen_of_isWord (hf x ?_)
  rw [← Resource.field, hfield, String.toList_ofList] at hx
  exact hx

theorem balanced_call {a : String} (hf : ∀ x ∈ t.function.toList, isParen x = false) (ha : Balanced a.toList) :
    Balanced (t.call a).toList := by
  have hc : (t.call a).toList = (accessorClass.toList ++ '.' :: (t.block.name.toList ++ '.' :: t.function.toList)) ++
      ('(' :: a.toList ++ [')']) := by
    simp [Target.call, Target.name]
  have hclass : accessorClass.toList.all (!isParen ·) := by decide
  rw [hc]
  refine .append (.of_not_isParen fun x hx => ?_) ha.parenthesized
  simp only [List.mem_append, List.mem_cons] at hx
  rcases hx with hx | rfl | hx | rfl | hx
  · simpa using List.all_eq_true.mp hclass x hx
  · decide
  · exact not_isParen_name _ x hx
  · decide
  · exact hf x hx

theorem balanced_of_append_blanks (h : Balanced (u ++ v)) (hv : ∀ c ∈ v, isBlank c) : Balanced u := by
  rw [Text.Balanced, Text.openAfter_append] at h
  obtain ⟨n, hu, hn⟩ := Option.bind_eq_some_iff.mp h
  cases (Text.openAfter_of_not_isParen fun c hc => Text.not_isParen_of_isBlank (hv c hc)).symm.trans hn
  exact hu

-- The call stands in some body and resolves to the target.
def Resolves (k : Knowledge) (imported : Option String) (c : Call) (t : Target) : Prop :=
  ∃ shape ∈ Call.shapes, ∃ body, ∃ o ∈ shape.pattern.occurrences body,
    c = Call.ofOccurrence shape o ∧ resolve k imported c = .ok t

-- A call that a pass swaps, with its parts and its place in the body.
structure Swapped (k : Knowledge) (imported : Option String) (shape : Call.Shape) (body : List Char) (i : Nat) (c : Call)
    (t : Target) (p : Call.Parts) (o : Occurrence Call.Slot) : Prop where
  mem      : o ∈ shape.pattern.occurrences body
  start    : o.start = i
  call     : c = Call.ofOccurrence shape o
  resolves : resolve k imported c = .ok t
  parts    : p.Of shape o.text o.kept
  at_text  : At body i (p.text shape)
  before   : ∀ x, 0 < i → body[i - 1]? = some x → ¬(isWord x ∨ x = '.')

theorem before_of_cut (h : shape.pattern.cut body = left ++ .found o :: right) :
    ∀ x ∈ (left.flatMap Piece.text).getLast?, ¬(isWord x ∨ x = '.') := by
  have ⟨rest, hr⟩ := Pattern.occurrenceAt?_of_cut_eq h
  have hn : ∀ x ∈ (left.flatMap Piece.text).getLast?, (isWord x || x = '.' || x = '@') = false := by
    unfold Call.Shape.pattern at hr
    dsimp only at hr
    split at hr <;> exact Pattern.not_of_occurrenceAt? hr
  intro x hx hc
  have := hn x hx
  simp_all

theorem at_of_cut (h : shape.pattern.cut body = left ++ .found o :: right) : At body o.start o.text := by
  rw [(Pattern.of_cut_eq h).left]
  refine Text.at_of_eq_append (v := right.flatMap Piece.text) ?_
  conv => lhs; rw [← Pattern.flatMap_text_cut shape.pattern body, h]
  simp [Piece.text]

theorem exists_swapped_of_edits (hs : shape ∈ Call.shapes) (h : edits k imported shape body = l ++ .swap c t :: r) :
    ∃ p o, Swapped k imported shape body (olds l).length c t p o := by
  obtain ⟨left, o, right, hc, rfl, hr, ho⟩ := exists_occurrence_of_edits h
  have ⟨hstart, hreads⟩ := Pattern.of_cut_eq hc
  have ⟨p, hp⟩ := Call.exists_parts hs hreads
  have hm : o ∈ shape.pattern.occurrences body := Pattern.mem_occurrences_of_cut hc
  have hbody : body = left.flatMap Piece.text ++ (o.text ++ right.flatMap Piece.text) := by
    conv => lhs; rw [← Pattern.flatMap_text_cut shape.pattern body, hc]
    simp [Piece.text]
  rw [ho, ← hstart]
  refine ⟨p, o, hm, rfl, rfl, hr, hp, hp.text ▸ at_of_cut hc, fun x hi hx => before_of_cut hc x ?_⟩
  rw [hstart] at hi hx
  rw [hbody, List.getElem?_append_left (by omega)] at hx
  rw [List.getLast?_eq_getElem?]
  exact hx

-- What is known of every swapped call, wherever it stands.
structure Sound (k : Knowledge) (imported : Option String) (c : Call) (t : Target) : Prop where
  resolves : Resolves k imported c t
  first    : ∃ x w, c.text = x :: w ∧ isWord x
  balanced : Balanced (Edit.swap c t).new

namespace Swapped

variable {i : Nat} {p : Call.Parts} (h : Swapped k imported shape body i c t p o)

include h

theorem text : c.text = p.text shape := by
  rw [h.call, ← h.parts.text]
  rfl

theorem front : c.front = p.front shape := by
  rw [h.call, Call.front_call h.parts]

theorem lead : c.lead = p.lead shape := by
  rw [h.call, Call.lead_call h.parts]

theorem arguments : c.arguments = p.arguments.rdropWhile isBlank := by
  rw [h.call, Call.arguments_call h.parts]

theorem sound (hk : ∀ x ∈ k.targets, ∃ r : Resource, r.target = x) (hs : shape ∈ Call.shapes) :
    Sound k imported c t where
  resolves := ⟨shape, hs, body, o, h.mem, h.call, h.resolves⟩
  first    := by
    obtain ⟨u, x, v, hw, hne, hu, -, -⟩ := h.parts.fit.fronts
    obtain ⟨y, u, rfl⟩ := List.exists_cons_of_ne_nil hne
    refine ⟨y, u ++ x :: v ++ p.opening ++ p.reference shape ++ p.gap ++ p.arguments ++ p.trail ++ [')'], ?_, hu y rfl⟩
    have hfront : p.front shape = y :: (u ++ x :: v) ++ p.opening := by
      rw [List.cons_append] at hw
      rw [← hw]
      simp [Call.Parts.front]
    simp [h.text, Call.Parts.text, Call.Parts.lead, hfront]
  balanced := by
    have hf : c.field = p.field := by rw [h.call, Call.field_call h.parts]
    have hshape : c.shape ∈ Call.shapes := by rw [h.call]; exact hs
    have hfun : ∀ x ∈ t.function.toList, isParen x = false :=
      not_isParen_function hk hshape (hf ▸ h.parts.fit.field.2) h.resolves
    have ha : Balanced (p.arguments.rdropWhile isBlank ++ p.arguments.rtakeWhile isBlank) := by
      rw [List.rdropWhile_append_rtakeWhile]
      exact h.parts.fit.balanced_arguments
    refine balanced_call hfun ?_
    rw [String.toList_ofList, h.arguments]
    exact balanced_of_append_blanks ha fun c hc => List.mem_rtakeWhile_imp hc

theorem balanced (hs : shape ∈ Call.shapes) (hfront : openAfter 0 c.front = some 1) : Balanced c.text := by
  have hp := h.parts.fit
  have hb : Balanced (p.reference shape ++ p.gap ++ p.arguments ++ p.trail) :=
    (((Call.balanced_of_words (hp.reference hs).2).append (Call.balanced_of_comma hp.gap)).append
      hp.balanced_arguments).append (Call.balanced_of_blanks hp.trail)
  have ht : c.text = p.front shape ++ ((p.reference shape ++ p.gap ++ p.arguments ++ p.trail) ++ [')']) := by
    simp [h.text, Call.Parts.text, Call.Parts.lead]
  rw [Text.Balanced, ht, Text.openAfter_append, ← h.front, hfront, Option.bind_some, Text.openAfter_append, hb.openAfter]
  rfl

end Swapped

-- One call in a text is replaced by the call of its accessor.
inductive Replaced (k : Knowledge) (imported : Option String) : List Char → List Char → Prop
  | intro {c : Call} {t : Target} (u v : List Char) (h : Resolves k imported c t) :
      Replaced k imported (u ++ c.text ++ v) (u ++ (t.call (String.ofList c.arguments)).toList ++ v)

-- Some calls in a text are replaced, one after the other.
def Edited (k : Knowledge) (imported : Option String) : List Char → List Char → Prop :=
  Relation.ReflTransGen (Replaced k imported)

theorem Replaced.append_left (h : Replaced k imported s s') (w : List Char) : Replaced k imported (w ++ s) (w ++ s') := by
  obtain ⟨u, v, h⟩ := h
  simpa using Replaced.intro (w ++ u) v h

theorem Edited.append_left (h : Edited k imported s s') (w : List Char) : Edited k imported (w ++ s) (w ++ s') := by
  induction h with
  | refl           => exact .refl
  | tail _ hr ih => exact .tail ih (hr.append_left w)

-- A list of edits swaps only such calls.
def AllSound (k : Knowledge) (imported : Option String) (es : List Edit) : Prop :=
  ∀ c t, .swap c t ∈ es → Sound k imported c t

namespace AllSound

variable (h : AllSound k imported es)

theorem tail {e : Edit} (h : AllSound k imported (e :: es)) : AllSound k imported es :=
  fun c t hm => h c t (List.mem_cons_of_mem _ hm)

include h

theorem edited : Edited k imported (olds es) (news es) := by
  induction es
  case nil         => exact .refl
  case cons e es ih =>
    have hes := (ih h.tail).append_left e.new
    cases e
    case keep     => exact hes
    case swap c t =>
      have hr : Replaced k imported (c.text ++ olds es) ((Edit.swap c t).new ++ olds es) :=
        .intro [] (olds es) (h c t List.mem_cons_self).resolves
      exact .trans (.single hr) hes

theorem openAfter_news (hb : ∀ c t, .swap c t ∈ es → Balanced c.text) : openAfter n (news es) = openAfter n (olds es) := by
  induction es generalizing n
  case nil         => rfl
  case cons e es ih =>
    have ih (n : Nat) : openAfter n (news es) = openAfter n (olds es) :=
      ih h.tail fun c t hm => hb c t (List.mem_cons_of_mem _ hm)
    have hn : news (e :: es) = e.new ++ news es := rfl
    have ho : olds (e :: es) = e.old ++ olds es := rfl
    rw [hn, ho, Text.openAfter_append, Text.openAfter_append]
    cases e
    case keep     => exact congrArg _ (funext ih)
    case swap c t =>
      rw [(h c t List.mem_cons_self).balanced.openAfter, Edit.old, (hb c t List.mem_cons_self).openAfter]
      exact ih n

-- A swapped call begins with a word character, so that a stretch without any has no swapped call.
theorem news_of_blank (hb : ∀ x ∈ olds es, isBlank x) : news es = olds es := by
  induction es
  case nil         => rfl
  case cons e es ih =>
    have ⟨he, hes⟩ := List.forall_mem_append.mp hb
    cases e
    case keep x   => exact congrArg (x :: ·) (ih h.tail hes)
    case swap c t =>
      obtain ⟨x, w, hx, hw⟩ := (h c t List.mem_cons_self).first
      have hb := he x (by rw [Edit.old, hx]; exact List.mem_cons_self)
      exact absurd hw (by simp [Text.not_isWord_of_isBlank hb])

theorem head?_news {w : List Char} (hw : ∀ x ∈ (olds es ++ w).head?, ¬isWord x) :
    (news es ++ w).head? = (olds es ++ w).head? := by
  cases es
  case nil       => rfl
  case cons e es =>
    cases e
    case keep     => rfl
    case swap c t =>
      obtain ⟨x, v, hx, hword⟩ := (h c t List.mem_cons_self).first
      have ho : olds (.swap c t :: es) = x :: v ++ olds es := by rw [← hx]; rfl
      exact absurd hword (hw x (by rw [ho]; rfl))

end AllSound

end TypedResources.Migration
