import Mathlib.Data.List.Basic
import TypedResources.Proofs.Call.Parts
import TypedResources.Proofs.Migration.Calls

-- A pass of one shape over a body as a list of edits, which keep characters or swap calls. Characters
-- can be followed through a pass (`place`). A list of edits splits where no swapped call is cut
-- (`exists_append_of_respects`), and the calls it swaps are occurrences of the shape
-- (`exists_occurrence_of_edits`).

namespace TypedResources.Migration

variable {k : Knowledge} {imported : Option String} {n : Nat} {shape : Call.Shape} {body u v : List Char}
  {c : Call} {t : Target} {o : Occurrence Call.Slot} {i : Nat}

inductive Edit
  | keep (c : Char)
  | swap (c : Call) (t : Target)

namespace Edit

def old : Edit → List Char
  | keep c   => [c]
  | swap c _ => c.text

def new : Edit → List Char
  | keep c   => [c]
  | swap c t => (t.call (String.ofList c.arguments)).toList

-- Where a character of the old text gets to. Only the arguments of a call are still there when it
-- has been swapped.
def place : Edit → Nat → Nat
  | keep _,   i => i
  | swap c t, i => (accessorClass ++ "." ++ t.name ++ "(").length + (i - c.lead.length)

end Edit

def olds (es : List Edit) : List Char :=
  es.flatMap Edit.old

def news (es : List Edit) : List Char :=
  es.flatMap Edit.new

def place : List Edit → Nat → Nat
  | [],      _ => 0
  | e :: es, i => if i < e.old.length then e.place i else e.new.length + place es (i - e.old.length)

-- What a shape makes of a piece of a body.
def editsOf (k : Knowledge) (imported : Option String) (shape : Call.Shape) : Piece Call.Slot → List Edit
  | .plain c => [.keep c]
  | .found o =>
    match resolve k imported (Call.ofOccurrence shape o) with
    | .ok t    => [.swap (Call.ofOccurrence shape o) t]
    | .error _ => o.text.map .keep

def edits (k : Knowledge) (imported : Option String) (shape : Call.Shape) (body : List Char) : List Edit :=
  (shape.pattern.cut body).flatMap (editsOf k imported shape)

variable {l r es : List Edit}

@[simp]
theorem olds_append : olds (l ++ r) = olds l ++ olds r :=
  List.flatMap_append

@[simp]
theorem news_append : news (l ++ r) = news l ++ news r :=
  List.flatMap_append

theorem news_of_not_swap (h : ∀ c t, .swap c t ∉ es) : news es = olds es := by
  induction es
  case nil         => rfl
  case cons e es ih =>
    have hes := ih fun c t hm => h c t (List.mem_cons_of_mem _ hm)
    cases e
    case keep x   => exact congrArg (x :: ·) hes
    case swap c t => exact absurd List.mem_cons_self (h c t)

theorem olds_keep (s : List Char) : olds (s.map .keep) = s := by
  simp [olds, List.flatMap_map, Edit.old]

theorem news_keep (s : List Char) : news (s.map .keep) = s := by
  simp [news, List.flatMap_map, Edit.new]

theorem olds_editsOf (piece : Piece Call.Slot) : olds (editsOf k imported shape piece) = piece.text := by
  cases piece
  case plain => rfl
  case found o =>
    rw [editsOf]
    split
    case h_1 => exact List.append_nil _
    case h_2 => exact olds_keep _

theorem news_editsOf (n : Nat) (piece : Piece Call.Slot) :
    news (editsOf k imported shape piece) = (migratePiece k imported n shape piece).1 := by
  cases piece
  case plain => rfl
  case found o =>
    rw [editsOf, migratePiece, migrateCall]
    cases resolve k imported (Call.ofOccurrence shape o)
    case ok    => exact List.append_nil _
    case error => exact news_keep _

theorem olds_flatMap_editsOf (pieces : List (Piece Call.Slot)) :
    olds (pieces.flatMap (editsOf k imported shape)) = pieces.flatMap Piece.text := by
  rw [olds, List.flatMap_assoc]
  exact List.flatMap_congr fun piece _ => olds_editsOf piece

theorem olds_edits : olds (edits k imported shape body) = body := by
  rw [edits, olds_flatMap_editsOf, Pattern.flatMap_text_cut]

theorem news_edits (n : Nat) : news (edits k imported shape body) = (migrateShape k imported n body shape).1 := by
  rw [edits, news, List.flatMap_assoc, migrateShape, List.flatMap_map]
  exact List.flatMap_congr fun piece _ => news_editsOf n piece

theorem place_append : place (l ++ r) ((olds l).length + i) = (news l).length + place r i := by
  induction l
  case nil         => simp [olds, news]
  case cons e l ih =>
    have ho : (olds (e :: l)).length = e.old.length + (olds l).length := by simp [olds]
    have hn : (news (e :: l)).length = e.new.length + (news l).length := by simp [news]
    rw [List.cons_append, place, if_neg (by omega), ho, hn, Nat.add_assoc, Nat.add_assoc, Nat.add_sub_cancel_left, ih]

-- Where a stretch without swapped calls begins.
theorem place_of_not_swap (h : ∀ c t, .swap c t ∉ es) (hne : olds es ≠ []) :
    place (l ++ es ++ r) (olds l).length = (news l).length := by
  have hz : place (es ++ r) 0 = 0 := by
    cases es
    case nil       => exact absurd rfl hne
    case cons e es =>
      cases e
      case keep     => rfl
      case swap c t => exact absurd List.mem_cons_self (h c t)
  rw [List.append_assoc, ← Nat.add_zero (olds l).length, place_append, hz, Nat.add_zero]

-- No swapped call reaches over the place.
def Respects (es : List Edit) (i : Nat) : Prop :=
  ∀ l c t r, es = l ++ .swap c t :: r → i ≤ (olds l).length ∨ (olds l).length + c.text.length ≤ i

theorem Respects.of_append (h : Respects (l ++ r) i) : Respects l i :=
  fun l' c t r' he => h l' c t (r' ++ r) (by rw [he]; simp)

theorem Respects.tail {e : Edit} (h : Respects (e :: es) (e.old.length + i)) : Respects es i := by
  intro l c t r he
  have hs := h (e :: l) c t r (by rw [he]; rfl)
  have ho : (olds (e :: l)).length = e.old.length + (olds l).length := by simp [olds]
  omega

theorem exists_append_of_respects (h : olds es = u ++ v) (hr : Respects es u.length) :
    ∃ l r, es = l ++ r ∧ olds l = u ∧ olds r = v := by
  induction es generalizing u
  case nil         =>
    obtain ⟨rfl, rfl⟩ := List.append_eq_nil_iff.mp h.symm
    exact ⟨[], [], rfl, rfl, rfl⟩
  case cons e es ih =>
    by_cases hu : u = []
    case pos => subst hu; exact ⟨[], e :: es, rfl, rfl, h⟩
    case neg =>
      have hpos := List.length_pos_iff.mpr hu
      have hle : e.old.length ≤ u.length := by
        cases e
        case keep     => exact hpos
        case swap c t =>
          rcases hr [] c t es rfl with h | h
          case inl => exact absurd h (by simpa [olds] using hu)
          case inr => simpa [olds, Edit.old] using h
      have hcons : e.old ++ olds es = u ++ v := h
      have ⟨u', hu'⟩ := List.prefix_of_prefix_length_le ⟨_, hcons⟩ (List.prefix_append u v) hle
      subst hu'
      rw [List.append_assoc] at hcons
      rw [List.length_append] at hr
      obtain ⟨l, r, rfl, hl, hv⟩ := ih (List.append_cancel_left hcons) hr.tail
      exact ⟨e :: l, r, rfl, by rw [← hl]; rfl, hv⟩

theorem exists_split_of_mem (l r : List Edit) (h : .swap c t ∈ es) : ∃ l' r', l ++ es ++ r = l' ++ .swap c t :: r' ∧
    (olds l).length ≤ (olds l').length ∧ (olds l').length + c.text.length ≤ (olds (l ++ es)).length := by
  obtain ⟨u, v, rfl⟩ := List.append_of_mem h
  refine ⟨l ++ u, v ++ r, by simp, by simp, ?_⟩
  simp [olds, Edit.old]
  omega

theorem swap_mem_editsOf {piece : Piece Call.Slot} (h : .swap c t ∈ editsOf k imported shape piece) :
    ∃ o, piece = .found o ∧ c = Call.ofOccurrence shape o ∧ resolve k imported c = .ok t ∧
      editsOf k imported shape piece = [.swap c t] := by
  cases piece
  case plain => simp [editsOf] at h
  case found o =>
    rw [editsOf] at h
    split at h
    case h_2    => simp at h
    case h_1 hr =>
      cases List.mem_singleton.mp h
      exact ⟨o, rfl, rfl, hr, by rw [editsOf, hr]⟩

theorem exists_occurrence_of_flatMap {pieces : List (Piece Call.Slot)}
    (h : pieces.flatMap (editsOf k imported shape) = l ++ .swap c t :: r) : ∃ left o right,
      pieces = left ++ .found o :: right ∧ c = Call.ofOccurrence shape o ∧ resolve k imported c = .ok t ∧
        olds l = left.flatMap Piece.text := by
  induction pieces generalizing l
  case nil               => simp at h
  case cons piece pieces ih =>
    have behind (l' : List Edit) (hl : l = editsOf k imported shape piece ++ l')
        (hp : pieces.flatMap (editsOf k imported shape) = l' ++ .swap c t :: r) : ∃ left o right,
          piece :: pieces = left ++ .found o :: right ∧ c = Call.ofOccurrence shape o ∧ resolve k imported c = .ok t ∧
            olds l = left.flatMap Piece.text := by
      obtain ⟨left, o, right, rfl, hc, hr, ho⟩ := ih hp
      exact ⟨piece :: left, o, right, rfl, hc, hr, by rw [hl, olds_append, olds_editsOf, ho, List.flatMap_cons]⟩
    rw [List.flatMap_cons] at h
    rcases List.append_eq_append_iff.mp h with ⟨l', hl, hp⟩ | ⟨l', hl, hp⟩
    case inl => exact behind l' hl hp
    case inr =>
      cases l'
      case nil       => exact behind [] (by simpa using hl.symm) hp.symm
      case cons e l' =>
        obtain ⟨rfl, -⟩ := List.cons.inj hp
        have hm : .swap c t ∈ editsOf k imported shape piece := by rw [hl]; simp
        obtain ⟨o, rfl, hc, hr, he⟩ := swap_mem_editsOf hm
        rw [he] at hl
        have hnil : l = [] := by
          cases l
          case nil       => rfl
          case cons x l  => simp at hl
        exact ⟨[], o, pieces, rfl, hc, hr, by rw [hnil]; rfl⟩

theorem exists_occurrence_of_edits (h : edits k imported shape body = l ++ .swap c t :: r) : ∃ left o right,
    shape.pattern.cut body = left ++ .found o :: right ∧ c = Call.ofOccurrence shape o ∧
      resolve k imported c = .ok t ∧ olds l = left.flatMap Piece.text :=
  exists_occurrence_of_flatMap h

end TypedResources.Migration
