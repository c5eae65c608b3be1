import Mathlib.Data.List.Flatten
import Mathlib.Data.List.Induction
import Mathlib.Data.List.Nodup
import TypedResources.Proofs.ClassFile.Foremost
import TypedResources.Proofs.Query

-- Repetitions in lists. Two lists are alike if they have the same elements in the same order once each
-- element counts only where it stands first (`Alike`). An alike list is reached by leaving out one
-- repetition after the other (`Alike.congr`), so that what does not depend on one repetition depends
-- on none.

namespace TypedResources

variable {α β γ : Type} [BEq α] [LawfulBEq α] [BEq β] [LawfulBEq β] {key : α → String} {l l' u v w : List α} {a : α}

-- One more element is kept if it has not stood before.
theorem eraseDups_concat (l : List α) (a : α) :
    (l ++ [a]).eraseDups = if a ∈ l then l.eraseDups else l.eraseDups ++ [a] := by
  rw [List.eraseDups_append]
  split
  case isTrue ha  => simp [List.removeAll, ha]
  case isFalse ha => simp [List.removeAll, ha, List.eraseDups_cons]

theorem eraseDups_sublist (l : List α) : l.eraseDups.Sublist l := by
  induction l using List.reverseRecOn
  case nil                     => exact .slnil
  case append_singleton l a ih =>
    rw [eraseDups_concat]
    split
    case isTrue  => exact ih.trans (List.sublist_append_left l [a])
    case isFalse => exact ih.append_right [a]

theorem nodup_eraseDups (l : List α) : l.eraseDups.Nodup := by
  induction l using List.reverseRecOn
  case nil                     => exact List.nodup_nil
  case append_singleton l a ih =>
    rw [eraseDups_concat]
    split
    case isTrue     => exact ih
    case isFalse ha => exact List.concat_eq_append ▸ ih.concat (List.mem_eraseDups.not.mpr ha)

theorem eraseDups_of_nodup (h : l.Nodup) : l.eraseDups = l := by
  induction l using List.reverseRecOn
  case nil                     => rfl
  case append_singleton l a ih =>
    have ⟨hl, _, hd⟩ := List.nodup_append.mp h
    have ha : a ∉ l := fun ha => hd a ha a (List.mem_singleton_self a) rfl
    rw [eraseDups_concat, if_neg ha, ih hl]

-- The lists have the same elements, in the same order of their first places.
def Alike (l l' : List α) : Prop :=
  l.eraseDups = l'.eraseDups

-- What has stood before can be left out.
theorem alike_of_subset (h : w ⊆ u) : Alike (u ++ (w ++ v)) (u ++ v) := by
  have hw : w.removeAll u = [] := List.filter_eq_nil_iff.mpr fun a ha => by simp [h ha]
  have hr : (w ++ v).removeAll u = v.removeAll u := by
    rw [List.removeAll, List.filter_append]
    exact congrArg (· ++ _) hw
  rw [Alike, List.eraseDups_append, List.eraseDups_append, hr]

theorem alike_eraseDups (l : List α) : Alike l l.eraseDups :=
  (eraseDups_of_nodup (nodup_eraseDups l)).symm

-- What does not depend on one repetition depends on none.
theorem congr_eraseDups {F : List α → γ} (hF : ∀ u a v, a ∈ u → F (u ++ a :: v) = F (u ++ v)) (l : List α) :
    F l = F l.eraseDups := by
  suffices h : ∀ v, F (l ++ v) = F (l.eraseDups ++ v) by simpa using h []
  induction l using List.reverseRecOn
  case nil                     => exact fun _ => rfl
  case append_singleton l a ih =>
    intro v
    rw [eraseDups_concat, ← List.append_cons, ih]
    split
    case isTrue ha => exact hF _ a v (List.mem_eraseDups.mpr ha)
    case isFalse   => rw [← List.append_cons]

namespace Alike

theorem congr {F : List α → γ} (hF : ∀ u a v, a ∈ u → F (u ++ a :: v) = F (u ++ v)) (h : Alike l l') : F l = F l' := by
  rw [congr_eraseDups hF, h, ← congr_eraseDups hF]

theorem mem_iff (h : Alike l l') : a ∈ l ↔ a ∈ l' := by
  rw [← List.mem_eraseDups, h, List.mem_eraseDups]

omit [BEq β] [LawfulBEq β] in
theorem findSome?_eq {f : α → Option β} (h : Alike l l') : l.findSome? f = l'.findSome? f := by
  refine h.congr fun u a v ha => ?_
  rw [List.findSome?_append, List.findSome?_append]
  cases hu : u.findSome? f
  case some => rfl
  case none => rw [List.findSome?_cons, List.findSome?_eq_none_iff.mp hu a ha]

theorem append_left (h : Alike l l') (u : List α) : Alike (u ++ l) (u ++ l') := by
  refine h.congr (F := fun l => (u ++ l).eraseDups) fun v a w ha => ?_
  rw [← List.append_assoc, ← List.append_assoc]
  exact alike_of_subset (w := [a]) (by simpa using .inr ha)

theorem filter (h : Alike l l') (p : α → Bool) : Alike (l.filter p) (l'.filter p) := by
  refine h.congr (F := fun l => (l.filter p).eraseDups) fun u a v ha => ?_
  rw [List.filter_append, List.filter_append, List.filter_cons]
  split
  case isFalse   => rfl
  case isTrue hp => exact alike_of_subset (w := [a]) (by simpa using ⟨ha, hp⟩)

theorem flatMap (h : Alike l l') (f : α → List β) : Alike (l.flatMap f) (l'.flatMap f) := by
  refine h.congr (F := fun l => (l.flatMap f).eraseDups) fun u a v ha => ?_
  rw [List.flatMap_append, List.flatMap_append, List.flatMap_cons]
  exact alike_of_subset fun b hb => List.mem_flatMap_of_mem ha hb

theorem filterMap (h : Alike l l') (f : α → Option β) : Alike (l.filterMap f) (l'.filterMap f) := by
  rw [List.filterMap_eq_flatMap_toList, List.filterMap_eq_flatMap_toList]
  exact h.flatMap _

theorem flatten {l l' : List (List α)} (h : Alike l l') : Alike l.flatten l'.flatten := by
  rw [List.flatten_eq_flatMap, List.flatten_eq_flatMap]
  exact h.flatMap id

theorem firsts_eq (h : Alike l l') : firsts key l = firsts key l' :=
  h.congr fun _ _ _ ha => congrArg (List.map Prod.fst) (markFirst_append_cons (.inr ha))

end Alike

theorem eraseDups_filter (p : α → Bool) (l : List α) : (l.filter p).eraseDups = l.eraseDups.filter p := by
  have h : Alike (l.filter p) (l.eraseDups.filter p) := (alike_eraseDups l).filter p
  exact h.trans (eraseDups_of_nodup ((nodup_eraseDups l).filter p))

-- Sorting is stable, so that a repetition stays behind what it repeats.
theorem Alike.sortByName (name : α → String) (h : Alike l l') : Alike (sortByName name l) (sortByName name l') := by
  have hs (l : List α) : (TypedResources.sortByName name l).eraseDups.Pairwise (name · ≤ name ·) :=
    ((pairwise_sortBy (byName_trans name) (byName_total name) l).imp of_decide_eq_true).sublist (eraseDups_sublist _)
  refine eq_of_filter_eq (hs l) (hs l') fun n => ?_
  rw [← eraseDups_filter, ← eraseDups_filter, filter_sortByName, filter_sortByName]
  exact h.filter _

section Results

variable {ε : Type}

-- The results are alike lists or the same failure.
inductive AlikeResults : Except ε (List α) → Except ε (List α) → Prop
  | ok {l l' : List α} (h : Alike l l') : AlikeResults (.ok l) (.ok l')
  | error (e : ε)                       : AlikeResults (.error e) (.error e)

namespace AlikeResults

variable {r r' : Except ε (List α)}

omit [LawfulBEq α] in
theorem congr {F : Except ε (List α) → γ} (hF : ∀ l l', Alike l l' → F (.ok l) = F (.ok l')) (h : AlikeResults r r') :
    F r = F r' := by
  cases h
  case ok h  => exact hF _ _ h
  case error => rfl

omit [LawfulBEq α] [LawfulBEq β] in
theorem bind {f : List α → Except ε (List β)} (h : AlikeResults r r')
    (hf : ∀ l l', Alike l l' → AlikeResults (f l) (f l')) : AlikeResults (r >>= f) (r' >>= f) := by
  cases h
  case ok h    => exact hf _ _ h
  case error e => exact .error e

end AlikeResults

theorem Alike.mapM (h : Alike l l') (f : α → Except ε β) : AlikeResults (l.mapM f) (l'.mapM f) := by
  rw [mapM_eq, mapM_eq, h.findSome?_eq]
  cases l'.findSome? _
  case some e => exact .error e
  case none   => exact .ok (h.filterMap _)

end Results

end TypedResources
