-- Sorting by structural recursion, so that whatever is sorted on the way to a result can be computed
-- by unfolding. The sort is stable: elements of which each may stand before the other keep their
-- order (`filter_sortBy`).

namespace TypedResources

variable {α β : Type} {le : α → α → Bool} {p : α → Bool} {a b : α} {l : List α}

def insertSorted (le : α → α → Bool) (a : α) : List α → List α
  | []     => [a]
  | b :: l => if le a b then a :: b :: l else b :: insertSorted le a l

def sortBy (le : α → α → Bool) : List α → List α
  | []     => []
  | a :: l => insertSorted le a (sortBy le l)

theorem insertSorted_perm : (insertSorted le a l).Perm (a :: l) := by
  induction l with
  | nil         => exact .refl _
  | cons b l ih =>
    unfold insertSorted
    split
    case isTrue  => exact .refl _
    case isFalse => exact (ih.cons b).trans (.swap a b l)

theorem sortBy_perm (le : α → α → Bool) (l : List α) : (sortBy le l).Perm l := by
  induction l with
  | nil         => exact .refl _
  | cons a l ih => exact insertSorted_perm.trans (ih.cons a)

@[simp]
theorem mem_sortBy : a ∈ sortBy le l ↔ a ∈ l :=
  (sortBy_perm le l).mem_iff

theorem map_sortBy {le' : β → β → Bool} {f : α → β} (h : ∀ a b, le' (f a) (f b) = le a b) :
    (sortBy le l).map f = sortBy le' (l.map f) := by
  have hi (a : α) (l : List α) : (insertSorted le a l).map f = insertSorted le' (f a) (l.map f) := by
    induction l with
    | nil         => rfl
    | cons b l ih =>
      simp only [insertSorted, List.map_cons, h]
      split
      case isTrue  => rfl
      case isFalse => rw [List.map_cons, ih]
  induction l with
  | nil         => rfl
  | cons a l ih => rw [sortBy, hi, ih, List.map_cons, sortBy]

theorem pairwise_insertSorted (ht : ∀ a b c, le a b → le b c → le a c) (hl : ∀ a b, le a b || le b a)
    (h : l.Pairwise (le · ·)) : (insertSorted le a l).Pairwise (le · ·) := by
  induction l with
  | nil         => exact List.pairwise_singleton _ _
  | cons b l ih =>
    have ⟨hb, hp⟩ := List.pairwise_cons.mp h
    unfold insertSorted
    split
    case isTrue hab =>
      refine List.pairwise_cons.mpr ⟨fun c hc => ?_, h⟩
      rcases List.mem_cons.mp hc with rfl | hc
      · exact hab
      · exact ht a b c hab (hb c hc)
    case isFalse hab =>
      have hba : le b a := by simpa [hab] using hl a b
      refine List.pairwise_cons.mpr ⟨fun c hc => ?_, ih hp⟩
      rcases List.mem_cons.mp (insertSorted_perm.mem_iff.mp hc) with rfl | hc
      · exact hba
      · exact hb c hc

theorem pairwise_sortBy (ht : ∀ a b c, le a b → le b c → le a c) (hl : ∀ a b, le a b || le b a)
    (l : List α) : (sortBy le l).Pairwise (le · ·) := by
  induction l with
  | nil         => exact .nil
  | cons a l ih => exact pairwise_insertSorted ht hl ih

theorem filter_sortBy (h : ∀ a b, p a → p b → le a b) : (sortBy le l).filter p = l.filter p := by
  have hi (a : α) (l : List α) : (insertSorted le a l).filter p = (a :: l).filter p := by
    induction l with
    | nil         => rfl
    | cons b l ih =>
      unfold insertSorted
      split
      case isTrue      => rfl
      case isFalse hab =>
        by_cases ha : p a <;> by_cases hb : p b
        · exact absurd (h a b ha hb) hab
        all_goals simp [ih, ha, hb]
  induction l with
  | nil         => rfl
  | cons a l ih => rw [sortBy, hi, List.filter_cons, List.filter_cons, ih]

theorem insertSorted_of_le (h : ∀ b ∈ l, le a b) : insertSorted le a l = a :: l := by
  cases l
  case nil      => rfl
  case cons b l => exact if_pos (h b List.mem_cons_self)

theorem sortBy_of_pairwise (h : l.Pairwise (le · ·)) : sortBy le l = l := by
  induction l
  case nil         => rfl
  case cons a l ih =>
    have ⟨ha, hp⟩ := List.pairwise_cons.mp h
    rw [sortBy, ih hp, insertSorted_of_le ha]

-- Elements can be left out before or after sorting.
theorem sortBy_filter (ht : ∀ a b c, le a b → le b c → le a c) (hl : ∀ a b, le a b || le b a) (q : α → Bool)
    (l : List α) : sortBy le (l.filter q) = (sortBy le l).filter q := by
  have hi (a : α) (l : List α) (h : l.Pairwise (le · ·)) (ha : q a) :
      insertSorted le a (l.filter q) = (insertSorted le a l).filter q := by
    induction l with
    | nil         => simp [insertSorted, ha]
    | cons b l ih =>
      have ⟨hb, hp⟩ := List.pairwise_cons.mp h
      by_cases hab : le a b
      case pos =>
        have hle : ∀ c ∈ (b :: l).filter q, le a c := fun c hc => by
          rcases List.mem_cons.mp (List.mem_filter.mp hc).left with rfl | hc
          · exact hab
          · exact ht a b c hab (hb c hc)
        rw [insertSorted_of_le hle, insertSorted, if_pos hab, List.filter_cons_of_pos ha]
      case neg =>
        by_cases hq : q b <;> simp [insertSorted, hab, hq, ih hp]
  induction l with
  | nil         => rfl
  | cons a l ih =>
    by_cases ha : q a
    case pos => rw [List.filter_cons_of_pos ha, sortBy, ih, hi a _ (pairwise_sortBy ht hl l) ha, sortBy]
    case neg =>
      have hd : ∀ l, (insertSorted le a l).filter q = l.filter q := by
        intro l
        induction l with
        | nil         => simp [insertSorted, ha]
        | cons b l ih => unfold insertSorted; split <;> simp [List.filter_cons, ha, ih]
      rw [List.filter_cons_of_neg ha, ih, sortBy, hd]

-- An element at the end of a sorted list is moved to its place, and no other one is.
theorem exists_sortBy_concat (h : l.Pairwise (le · ·)) :
    ∃ u v, l = u ++ v ∧ sortBy le (l ++ [a]) = u ++ a :: v := by
  induction l
  case nil         => exact ⟨[], [], rfl, rfl⟩
  case cons b l ih =>
    have ⟨hb, hp⟩ := List.pairwise_cons.mp h
    obtain ⟨u, v, rfl, hs⟩ := ih hp
    rw [List.cons_append, sortBy, hs]
    cases u
    case cons c u => exact ⟨b :: c :: u, v, rfl, if_pos (hb c (by simp))⟩
    case nil      =>
      by_cases hba : le b a
      case pos => exact ⟨[b], v, rfl, if_pos hba⟩
      case neg =>
        have hb : ∀ c ∈ v, le b c := hb
        refine ⟨[], b :: v, rfl, ?_⟩
        rw [List.nil_append, insertSorted, if_neg hba, insertSorted_of_le hb, List.nil_append]

end TypedResources
