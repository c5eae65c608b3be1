import Mathlib.Data.List.Basic
import TypedResources.Text.Markup

-- Markup as a reader sees it. A tag goes from an angle bracket that opens it to the next one that closes
-- it, and all else is text. Escaped text has none of the characters that tags are made of
-- (`plain_escapeMarkup`), and it is read back as it was (`readMarkup_escapeMarkup`).

namespace TypedResources.Text

variable {s s' t t' u v : List Char} {c : Char} {inTag : Bool}

-- There is one place at which a character stands for the first time.
theorem eq_of_first (hs : c ∉ s) (ht : c ∉ t) (h : s ++ c :: u = t ++ c :: v) : s = t ∧ u = v := by
  rcases List.append_eq_append_iff.mp h with ⟨_ | ⟨x, y⟩, rfl, he⟩ | ⟨_ | ⟨x, y⟩, rfl, he⟩
  case inl.nil  => exact ⟨(List.append_nil s).symm, (List.cons.inj he).right⟩
  case inr.nil  => exact ⟨List.append_nil t, (List.cons.inj he).right.symm⟩
  case inl.cons => cases he; exact absurd (List.mem_append_right s List.mem_cons_self) ht
  case inr.cons => cases he; exact absurd (List.mem_append_right t List.mem_cons_self) hs

def isMarkup (c : Char) : Bool :=
  c = '<' || c = '>' || c = '"' || c = '\''

-- Whether a tag is open behind a character, given whether one is open in front of it.
def tagAfter (inTag : Bool) (c : Char) : Bool :=
  if inTag then c ≠ '>' else c = '<'

def endsInTag (s : List Char) : Bool :=
  s.foldl tagAfter false

-- Each character with whether it belongs to a tag.
def marked (inTag : Bool) : List Char → List (Char × Bool)
  | []     => []
  | c :: s => (c, inTag || c = '<') :: marked (tagAfter inTag c) s

-- The tags of a page, one after another.
def tagsOf (s : List Char) : List Char :=
  ((marked false s).filter (·.2)).map Prod.fst

-- The text between the tags of a page.
def textOf (s : List Char) : List Char :=
  ((marked false s).filter (!·.2)).map Prod.fst

theorem marked_append : marked inTag (s ++ t) = marked inTag s ++ marked (s.foldl tagAfter inTag) t := by
  induction s generalizing inTag
  case nil         => rfl
  case cons c s ih => rw [List.cons_append, marked, ih, marked, List.foldl_cons, List.cons_append]

theorem endsInTag_append (h : endsInTag s = false) : endsInTag (s ++ t) = endsInTag t := by
  rw [endsInTag, List.foldl_append, ← endsInTag, h]
  rfl

theorem tagsOf_append (h : endsInTag s = false) : tagsOf (s ++ t) = tagsOf s ++ tagsOf t := by
  rw [tagsOf, marked_append, ← endsInTag, h, List.filter_append, List.map_append]
  rfl

theorem textOf_append (h : endsInTag s = false) : textOf (s ++ t) = textOf s ++ textOf t := by
  rw [textOf, marked_append, ← endsInTag, h, List.filter_append, List.map_append]
  rfl

def Plain (s : List Char) : Prop :=
  ∀ c ∈ s, isMarkup c = false

theorem Plain.not_mem (h : Plain s) : '<' ∉ s :=
  fun hc => Bool.noConfusion (h _ hc)

theorem marked_of_plain (h : Plain s) : marked false s = s.map (·, false) ∧ endsInTag s = false := by
  induction s
  case nil         => exact ⟨rfl, rfl⟩
  case cons c s ih =>
    have ⟨hc, hs⟩ := List.forall_mem_cons.mp h
    have hne : c ≠ '<' := by
      rintro rfl
      cases hc
    have ha : tagAfter false c = false := by simp [tagAfter, hne]
    have ⟨hm, he⟩ := ih hs
    constructor
    case left  => rw [marked, ha, hm]; simp [hne]
    case right => rwa [endsInTag, List.foldl_cons, ha]

theorem tagsOf_of_plain (h : Plain s) : tagsOf s = [] := by
  rw [tagsOf, (marked_of_plain h).left]
  simp

theorem textOf_of_plain (h : Plain s) : textOf s = s := by
  rw [textOf, (marked_of_plain h).left]
  simp [List.filter_map, Function.comp_def]

-- Two fragments of pages with the same tags, and with plain text between them.
structure SameTags (s t : List Char) : Prop where
  closed : endsInTag s = false ∧ endsInTag t = false
  tags   : tagsOf s = tagsOf t
  plain  : Plain (textOf s) ∧ Plain (textOf t)

namespace SameTags

theorem of_plain (hs : Plain s) (ht : Plain t) : SameTags s t where
  closed := ⟨(marked_of_plain hs).right, (marked_of_plain ht).right⟩
  tags   := by rw [tagsOf_of_plain hs, tagsOf_of_plain ht]
  plain  := by rw [textOf_of_plain hs, textOf_of_plain ht]; exact ⟨hs, ht⟩

-- The characters of a literal are at hand, while those of its string would have to be decoded.
theorem literal {w : String} (hw : w = String.ofList s)
    (h : endsInTag s = false ∧ (textOf s).all (!isMarkup ·)) : SameTags w.toList w.toList := by
  have hp : Plain (textOf s) := fun c hc => by simpa using List.all_eq_true.mp h.right c hc
  rw [hw, String.toList_ofList]
  exact ⟨⟨h.left, h.left⟩, rfl, hp, hp⟩

theorem append (h : SameTags s t) (h' : SameTags s' t') : SameTags (s ++ s') (t ++ t') where
  closed := by
    rw [endsInTag_append h.closed.left, endsInTag_append h.closed.right]
    exact h'.closed
  tags   := by rw [tagsOf_append h.closed.left, tagsOf_append h.closed.right, h.tags, h'.tags]
  plain  := by
    rw [textOf_append h.closed.left, textOf_append h.closed.right]
    exact ⟨List.forall_mem_append.mpr ⟨h.plain.left, h'.plain.left⟩,
      List.forall_mem_append.mpr ⟨h.plain.right, h'.plain.right⟩⟩

end SameTags

-- The text that escaped text stands for.
def readMarkup : List Char → List Char
  | '&' :: 'a' :: 'm' :: 'p' :: ';' :: s => '&' :: readMarkup s
  | '&' :: 'l' :: 't' :: ';' :: s        => '<' :: readMarkup s
  | '&' :: 'g' :: 't' :: ';' :: s        => '>' :: readMarkup s
  | '&' :: '#' :: '3' :: '9' :: ';' :: s => '\'' :: readMarkup s
  | '&' :: '#' :: '3' :: '4' :: ';' :: s => '"' :: readMarkup s
  | c :: s                               => c :: readMarkup s
  | []                                   => []

theorem plain_markupEntity (c : Char) : Plain (markupEntity c) := by
  unfold markupEntity
  split
  case h_6 hl hg hs hd =>
    have hc : isMarkup c = false := by
      simp only [isMarkup, Bool.or_eq_false_iff, decide_eq_false_iff_not]
      exact ⟨⟨⟨hl, hg⟩, hd⟩, hs⟩
    exact List.forall_mem_singleton.mpr hc
  all_goals simp [Plain, isMarkup]

theorem plain_escapeMarkup (s : List Char) : Plain (escapeMarkup s) := by
  intro c hc
  have ⟨x, _, hc⟩ := List.mem_flatMap.mp hc
  exact plain_markupEntity x c hc

theorem readMarkup_entity : readMarkup (markupEntity c ++ s) = c :: readMarkup s := by
  unfold markupEntity
  split
  case h_6 ha _ _ _ _ =>
    -- No entity begins with another character than an ampersand.
    rw [List.singleton_append, readMarkup]
    all_goals exact fun _ hc => absurd hc ha
  all_goals rfl

theorem readMarkup_escapeMarkup (s : List Char) : readMarkup (escapeMarkup s) = s := by
  induction s
  case nil         => rfl
  case cons c s ih => rw [escapeMarkup, List.flatMap_cons, readMarkup_entity, ← escapeMarkup, ih]

theorem escapeMarkup_injective : Function.Injective escapeMarkup :=
  Function.LeftInverse.injective readMarkup_escapeMarkup

end TypedResources.Text
