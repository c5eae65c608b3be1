import Mathlib.Data.List.Basic
import TypedResources.ClassFile.Accessor

-- Which element gets a key that several share. Of a list the first one with the key does
-- (`mem_firsts_iff`); in a list sorted by name that is the one of the least name and, of equal
-- names, the one that is listed first (`find?_sortByName_eq_some_iff`).

namespace TypedResources

variable {α : Type} {key : α → String} {seen : List String} {l l' u v : List α} {a b : α}

theorem true_mem_markFirst_iff :
    (a, true) ∈ markFirst key seen l ↔ key a ∉ seen ∧ l.find? (key · = key a) = some a := by
  induction l generalizing seen
  case nil         => simp [markFirst]
  case cons b l ih =>
    by_cases hb : key b = key a
    case neg =>
      have hne : a ≠ b := fun h => hb (h ▸ rfl)
      by_cases hs : key b ∈ seen <;> simp [markFirst, hs, ih, hb, hne, Ne.symm hb]
    case pos =>
      -- A later element with the key of `b` is never marked.
      have hm : (a, true) ∉ markFirst key (key a :: seen) l := by simp [ih]
      by_cases hs : key a ∈ seen
      case pos => simp [markFirst, hs, ih, hb]
      case neg => simp [markFirst, hs, hb, hm, eq_comm]

theorem mem_firsts_iff : a ∈ firsts key l ↔ l.find? (key · = key a) = some a := by
  have h : (a, true) ∈ markFirst key [] l ↔ _ := true_mem_markFirst_iff
  simp only [List.not_mem_nil, not_false_eq_true, true_and] at h
  rw [← h, firsts]
  simp

theorem eq_of_mem_firsts (ha : a ∈ firsts key l) (hb : b ∈ firsts key l) (h : key a = key b) :
    a = b := by
  rw [mem_firsts_iff] at ha hb
  rw [h, hb] at ha
  exact Option.some_inj.mp ha.symm

-- Leaving later elements out loses no key.
theorem exists_mem_firsts (key : α → String) (ha : a ∈ l) : ∃ b ∈ firsts key l, key b = key a := by
  have ⟨b, hb⟩ := Option.isSome_iff_exists.mp <|
    (List.find?_isSome (p := fun b => key b = key a)).mpr ⟨a, ha, by simp⟩
  have hk : key b = key a := by simpa using List.find?_some hb
  exact ⟨b, mem_firsts_iff.mpr (hk ▸ hb), hk⟩

theorem exists_mem_firsts_iff {f : String} :
    (∃ a ∈ firsts key l, key a = f) ↔ ∃ a ∈ l, key a = f := by
  constructor
  case mp =>
    intro ⟨a, ha, hf⟩
    exact ⟨a, List.mem_of_find?_eq_some (mem_firsts_iff.mp ha), hf⟩
  case mpr =>
    intro ⟨a, ha, hf⟩
    have ⟨b, hb, hk⟩ := exists_mem_firsts key ha
    exact ⟨b, hb, hk.trans hf⟩

theorem firsts_eq_nil_iff : firsts key l = [] ↔ l = [] := by
  constructor
  case mpr => rintro rfl; rfl
  case mp  =>
    intro h
    cases l
    case nil      => rfl
    case cons a l =>
      have ⟨b, hb, _⟩ := exists_mem_firsts key (List.mem_cons_self (a := a) (l := l))
      rw [h] at hb
      cases hb

-- No two of the first elements share a key, so that a key finds its own.
theorem find?_firsts_eq_some_iff {f : String} :
    (firsts key l).find? (key · = f) = some a ↔ a ∈ firsts key l ∧ key a = f := by
  constructor
  case mp  => exact fun h => ⟨List.mem_of_find?_eq_some h, by simpa using List.find?_some h⟩
  case mpr =>
    intro ⟨ha, hf⟩
    have ⟨b, hb⟩ := Option.isSome_iff_exists.mp <|
      (List.find?_isSome (p := fun b => key b = f)).mpr ⟨a, ha, by simp [hf]⟩
    have hk : key b = f := by simpa using List.find?_some hb
    rw [hb, eq_of_mem_firsts (List.mem_of_find?_eq_some hb) ha (hk.trans hf.symm)]

theorem map_firsts {β : Type} {key' : β → String} {g : α → β} (h : ∀ a, key' (g a) = key a) :
    (firsts key l).map g = firsts key' (l.map g) := by
  have go (seen : List String) (l : List α) :
      markFirst key' seen (l.map g) = (markFirst key seen l).map (Prod.map g id) := by
    induction l generalizing seen
    case nil         => rfl
    case cons a l ih =>
      simp only [List.map_cons, markFirst, h]
      split <;> simp [ih]
  simp [firsts, go, List.filter_map, Function.comp_def]

-- A repetition is never a first element, and has no part in which ones are.
theorem markFirst_append_cons (h : key a ∈ seen ∨ a ∈ u) :
    (markFirst key seen (u ++ a :: v)).filter Prod.snd = (markFirst key seen (u ++ v)).filter Prod.snd := by
  induction u generalizing seen
  case nil         =>
    have hs : seen.contains (key a) := by simpa using h
    rw [List.nil_append, List.nil_append, markFirst, if_pos hs, List.filter_cons_of_neg Bool.false_ne_true]
  case cons b u ih =>
    rw [List.cons_append, List.cons_append, markFirst, markFirst]
    split
    case isTrue hb =>
      have ha : key a ∈ seen ∨ a ∈ u := by
        rcases h with h | h
        case inl => exact .inl h
        case inr =>
          rcases List.mem_cons.mp h with rfl | h
          case inl => exact .inl (List.contains_iff_mem.mp hb)
          case inr => exact .inr h
      rw [List.filter_cons_of_neg Bool.false_ne_true, List.filter_cons_of_neg Bool.false_ne_true, ih ha]
    case isFalse =>
      have ha : key a ∈ key b :: seen ∨ a ∈ u := by
        rcases h with h | h
        case inl => exact .inl (List.mem_cons_of_mem _ h)
        case inr =>
          rcases List.mem_cons.mp h with rfl | h
          case inl => exact .inl List.mem_cons_self
          case inr => exact .inr h
      rw [List.filter_cons_of_pos rfl, List.filter_cons_of_pos rfl, ih ha]

section Order

variable {name : α → String} {p : α → Bool}

abbrev byName (name : α → String) : α → α → Bool :=
  fun a b => name a ≤ name b

theorem byName_trans (name : α → String) (a b c : α) : byName name a b → byName name b c → byName name a c := by
  simpa [byName] using String.le_trans

theorem byName_total (name : α → String) (a b : α) : byName name a b || byName name b a := by
  simpa [byName] using String.le_total _ _

def sortByName (name : α → String) (l : List α) : List α :=
  sortBy (byName name) l

-- Sorting is stable: the elements of one name keep their order.
theorem filter_sortByName (n : String) :
    (sortByName name l).filter (name · = n) = l.filter (name · = n) := by
  refine filter_sortBy fun a b ha hb => ?_
  simp_all [byName]

-- A list that is sorted by name is determined by its elements of each name.
theorem eq_of_filter_eq (h : l.Pairwise (name · ≤ name ·)) (h' : l'.Pairwise (name · ≤ name ·))
    (hf : ∀ n, l.filter (name · = n) = l'.filter (name · = n)) : l = l' := by
  induction l generalizing l'
  case nil         =>
    cases l'
    case nil       => rfl
    case cons b l' => simpa using hf (name b)
  case cons a l ih =>
    cases l'
    case nil       => simpa using hf (name a)
    case cons b l' =>
      obtain ⟨ha, hl⟩ := List.pairwise_cons.mp h
      obtain ⟨hb, hl'⟩ := List.pairwise_cons.mp h'
      have hmem {c : α} {l l' : List α} (hf : ∀ n, l.filter (name · = n) = l'.filter (name · = n)) (hc : c ∈ l) : c ∈ l' :=
        List.mem_of_mem_filter (hf (name c) ▸ List.mem_filter.mpr ⟨hc, by simp⟩)
      have hab : name a ≤ name b := by
        rcases List.mem_cons.mp (hmem (fun n => (hf n).symm) List.mem_cons_self) with rfl | hc
        case inl => exact String.le_refl _
        case inr => exact ha b hc
      have hba : name b ≤ name a := by
        rcases List.mem_cons.mp (hmem hf List.mem_cons_self) with rfl | hc
        case inl => exact String.le_refl _
        case inr => exact hb a hc
      have hn : name a = name b := String.le_antisymm hab hba
      have he : a = b := by
        have he := hf (name b)
        rw [List.filter_cons_of_pos (by simpa using hn), List.filter_cons_of_pos (by simp)] at he
        exact (List.cons.inj he).left
      subst he
      refine congrArg _ (ih hl hl' fun n => ?_)
      have he := hf n
      by_cases ha : name a = n <;> simpa [List.filter_cons, ha] using he

variable [DecidableEq α]

-- The order in which elements are met in a list once that is sorted by name.
def Precedes (name : α → String) (l : List α) (a b : α) : Prop :=
  name a < name b ∨ (name a = name b ∧ l.idxOf a < l.idxOf b)

theorem find?_eq_some_iff_idxOf :
    l.find? p = some a ↔ a ∈ l ∧ p a ∧ ∀ b ∈ l, p b → b ≠ a → l.idxOf a < l.idxOf b := by
  induction l
  case nil         => simp
  case cons c l ih =>
    by_cases ha : c = a
    case pos =>
      subst ha
      by_cases hc : p c
      case neg => simpa [hc] using mt List.find?_some hc
      case pos =>
        have hlt : ∀ b ∈ c :: l, p b → b ≠ c → (c :: l).idxOf c < (c :: l).idxOf b := by
          intro b _ _ hb
          simp [List.idxOf_cons_ne _ hb.symm]
        simp only [List.find?_cons, hc, List.mem_cons_self, true_and]
        exact iff_of_true trivial hlt
    case neg =>
      by_cases hc : p c
      case pos =>
        simp only [List.find?_cons, hc, Option.some.injEq, ha, false_iff]
        intro ⟨_, _, h⟩
        have := h c List.mem_cons_self hc ha
        simp at this
      case neg =>
        simp only [List.find?_cons, hc, ih, List.mem_cons, Ne.symm ha, false_or]
        refine and_congr_right fun _ => and_congr_right fun _ => ⟨fun h b hb hp hn => ?_, fun h b hb hp hn => ?_⟩
        all_goals have hb' : b ≠ c := fun h => hc (h ▸ hp)
        case refine_1 =>
          have := h b (hb.resolve_left hb') hp hn
          simpa [List.idxOf_cons_ne _ ha, List.idxOf_cons_ne _ hb'.symm] using this
        case refine_2 =>
          simpa [List.idxOf_cons_ne _ ha, List.idxOf_cons_ne _ hb'.symm] using h b (.inr hb) hp hn

theorem idxOf_filter_lt_iff (ha : p a) (hb : p b) :
    (l.filter p).idxOf a < (l.filter p).idxOf b ↔ l.idxOf a < l.idxOf b := by
  induction l
  case nil         => simp
  case cons c l ih =>
    by_cases hc : p c
    case neg =>
      have hca : c ≠ a := fun h => hc (h ▸ ha)
      have hcb : c ≠ b := fun h => hc (h ▸ hb)
      simp [hc, ih, List.idxOf_cons_ne _ hca, List.idxOf_cons_ne _ hcb]
    case pos =>
      rw [List.filter_cons_of_pos hc]
      by_cases hca : c = a
      case pos =>
        by_cases hcb : c = b
        case pos => simp [← hca, ← hcb]
        case neg => simp [← hca, List.idxOf_cons_ne _ hcb]
      case neg =>
        by_cases hcb : c = b
        case pos => simp [← hcb]
        case neg => simpa [List.idxOf_cons_ne _ hca, List.idxOf_cons_ne _ hcb] using ih

theorem Precedes.asymm (h : Precedes name l a b) : ¬Precedes name l b a := by
  intro h'
  rcases h with h | ⟨h, hi⟩ <;> rcases h' with h' | ⟨h', hi'⟩
  · exact String.lt_asymm h h'
  · exact String.lt_irrefl _ (h' ▸ h)
  · exact String.lt_irrefl _ (h ▸ h')
  · omega

theorem Precedes.total (ha : a ∈ l) (hne : a ≠ b) : Precedes name l a b ∨ Precedes name l b a := by
  have hi : l.idxOf a ≠ l.idxOf b := mt (List.idxOf_inj ha).mp hne
  by_cases hab : name a < name b
  case pos => exact .inl <| .inl hab
  case neg =>
    by_cases hba : name b < name a
    case pos => exact .inr <| .inl hba
    case neg =>
      have hn : name a = name b := String.le_antisymm (String.not_lt.mp hba) (String.not_lt.mp hab)
      rcases Nat.lt_or_gt_of_ne hi with h | h
      · exact .inl <| .inr ⟨hn, h⟩
      · exact .inr <| .inr ⟨hn.symm, h⟩

theorem idxOf_sortByName_lt (ha : a ∈ l) (hb : b ∈ l) (h : Precedes name l a b) :
    (sortByName name l).idxOf a < (sortByName name l).idxOf b := by
  rcases h with h | ⟨hn, hi⟩
  case inl =>
    have hs := List.pairwise_iff_getElem.mp <|
      pairwise_sortBy (byName_trans name) (byName_total name) l
    replace ha : a ∈ sortByName name l := mem_sortBy.mpr ha
    replace hb : b ∈ sortByName name l := mem_sortBy.mpr hb
    have hne := mt (List.idxOf_inj hb).mp fun h' => String.ne_of_lt h (h' ▸ rfl)
    by_contra hle
    have hba := hs _ _ (List.idxOf_lt_length_of_mem hb) (List.idxOf_lt_length_of_mem ha)
      (by unfold sortByName at *; omega)
    rw [List.getElem_idxOf, List.getElem_idxOf] at hba
    exact of_decide_eq_true hba h
  case inr =>
    rw [← idxOf_filter_lt_iff (p := (name · = name b)) (by simp [hn]) (by simp)] at hi ⊢
    rwa [filter_sortByName]

-- Of the elements with a property, the first one in the sorted list is the one that precedes all
-- others.
theorem find?_sortByName_eq_some_iff : (sortByName name l).find? p = some a ↔
    a ∈ l ∧ p a ∧ ∀ b ∈ l, p b → b ≠ a → Precedes name l a b := by
  rw [find?_eq_some_iff_idxOf]
  simp only [sortByName, mem_sortBy]
  refine and_congr_right fun ha => and_congr_right fun _ => forall₂_congr fun b hb => ?_
  refine imp_congr_right fun _ => imp_congr_right fun hne => ⟨fun h => ?_, idxOf_sortByName_lt ha hb⟩
  refine (Precedes.total ha hne.symm).resolve_right fun h' => ?_
  have := idxOf_sortByName_lt hb ha h'
  unfold sortByName at this
  omega

end Order

end TypedResources
