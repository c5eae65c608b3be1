import TypedResources.Proofs.Text.Brackets

-- How deep the parentheses of a text are nested, and what stands outside of them. Both are read off
-- from the left and add up when a balanced text is followed by another one (`deepest_append`,
-- `outer_append`).

namespace TypedResources.Text

variable {c : Char} {s t : List Char} {m n : Nat}

-- The greatest number of parentheses that are open anywhere in a text if `n` are open before it.
def deepest (n : Nat) : List Char → Nat
  | []     => n
  | c :: s => max n (deepest ((nest n c).getD n) s)

-- The characters of a text that stand outside all parentheses if `n` are open before it.
def outer (n : Nat) : List Char → List Char
  | []     => []
  | c :: s => (if n = 0 && !isParen c then [c] else []) ++ outer ((nest n c).getD n) s

-- Every parenthesis has its partner, and no pair stands in another one.
structure Shallow (s : List Char) : Prop where
  balanced : Balanced s
  depth    : deepest 0 s ≤ 1

instance (s : List Char) : Decidable (Shallow s) :=
  decidable_of_iff (Balanced s ∧ deepest 0 s ≤ 1) ⟨fun h => ⟨h.1, h.2⟩, fun h => ⟨h.1, h.2⟩⟩

theorem nest_of_not_isParen (h : isParen c = false) : nest n c = some n := by
  have ⟨ho, hc⟩ : c ≠ '(' ∧ c ≠ ')' := by simpa [isParen] using h
  rw [nest, if_neg ho, if_neg hc]

theorem le_deepest (n : Nat) (s : List Char) : n ≤ deepest n s := by
  cases s
  case nil  => exact Nat.le_refl n
  case cons => exact Nat.le_max_left ..

theorem deepest_append (h : openAfter n s = some m) : deepest n (s ++ t) = max (deepest n s) (deepest m t) := by
  induction s generalizing n
  case nil         => cases h; exact (Nat.max_eq_right (le_deepest _ t)).symm
  case cons c s ih =>
    have ⟨k, hk, hm⟩ := Option.bind_eq_some_iff.mp h
    rw [List.cons_append, deepest, deepest, hk, Option.getD_some, ih hm, Nat.max_assoc]

theorem deepest_of_not_isParen (h : ∀ c ∈ s, isParen c = false) : deepest n s = n := by
  induction s
  case nil         => rfl
  case cons c s ih =>
    have ⟨hc, hs⟩ := List.forall_mem_cons.mp h
    rw [deepest, nest_of_not_isParen hc, Option.getD_some, ih hs, Nat.max_self]

theorem outer_append (h : openAfter n s = some m) : outer n (s ++ t) = outer n s ++ outer m t := by
  induction s generalizing n
  case nil         => cases h; rfl
  case cons c s ih =>
    have ⟨k, hk, hm⟩ := Option.bind_eq_some_iff.mp h
    rw [List.cons_append, outer, outer, hk, Option.getD_some, ih hm, List.append_assoc]

theorem not_isParen_of_mem_outer (h : c ∈ outer n s) : isParen c = false := by
  induction s generalizing n
  case nil         => cases h
  case cons d s ih =>
    rcases List.mem_append.mp h with h | h
    case inr => exact ih h
    case inl =>
      split at h
      case isFalse    => cases h
      case isTrue hd  =>
        obtain rfl := List.mem_singleton.mp h
        simpa using (Bool.and_eq_true_iff.mp hd).2

theorem outer_of_not_isParen (h : ∀ c ∈ s, isParen c = false) : outer 0 s = s := by
  induction s
  case nil         => rfl
  case cons c s ih =>
    have ⟨hc, hs⟩ := List.forall_mem_cons.mp h
    rw [outer, nest_of_not_isParen hc, Option.getD_some, ih hs, hc]
    rfl

theorem outer_of_open (h : ∀ c ∈ s, isParen c = false) : outer (n + 1) s = [] := by
  induction s
  case nil         => rfl
  case cons c s ih =>
    have ⟨hc, hs⟩ := List.forall_mem_cons.mp h
    rw [outer, nest_of_not_isParen hc, Option.getD_some, ih hs, List.append_nil]
    rfl

theorem outer_parenthesized (h : ∀ c ∈ s, isParen c = false) : outer 0 ('(' :: s ++ [')']) = [] := by
  show outer 1 (s ++ [')']) = []
  rw [outer_append (openAfter_of_not_isParen h), outer_of_open h]
  rfl

namespace Shallow

theorem nil : Shallow [] :=
  ⟨.nil, Nat.zero_le 1⟩

theorem append (hs : Shallow s) (ht : Shallow t) : Shallow (s ++ t) where
  balanced := hs.balanced.append ht.balanced
  depth    := by
    rw [deepest_append hs.balanced]
    exact Nat.max_le.mpr ⟨hs.depth, ht.depth⟩

theorem of_not_isParen (h : ∀ c ∈ s, isParen c = false) : Shallow s where
  balanced := .of_not_isParen h
  depth    := by rw [deepest_of_not_isParen h]; exact Nat.zero_le 1

theorem parenthesized (h : ∀ c ∈ s, isParen c = false) : Shallow ('(' :: s ++ [')']) where
  balanced := .parenthesized (.of_not_isParen h)
  depth    := by
    show max 0 (deepest 1 (s ++ [')'])) ≤ 1
    rw [deepest_append (openAfter_of_not_isParen h), deepest_of_not_isParen h]
    decide

-- What stands behind a text without parentheses is as shallow as the whole.
theorem of_append (hs : ∀ c ∈ s, isParen c = false) (h : Shallow (s ++ t)) : Shallow t where
  balanced := by
    have hb := h.balanced
    rwa [Balanced, openAfter_append, openAfter_of_not_isParen hs] at hb
  depth    := by
    have hd := h.depth
    rw [deepest_append (openAfter_of_not_isParen hs)] at hd
    exact (Nat.max_le.mp hd).2

theorem not_close : ¬Shallow (')' :: s) := by
  intro h
  cases h.balanced

end Shallow

-- Where a stretch without parentheses is taken for another one, the depth stays the same.

section

variable {r r' : List Char} (hr : ∀ c ∈ r, isParen c = false) (hr' : ∀ c ∈ r', isParen c = false)

include hr hr'

theorem openAfter_respelled : openAfter n (s ++ (r ++ t)) = openAfter n (s ++ (r' ++ t)) := by
  have h {w : List Char} (hw : ∀ c ∈ w, isParen c = false) (m : Nat) : openAfter m (w ++ t) = openAfter m t := by
    rw [openAfter_append, openAfter_of_not_isParen hw, Option.bind_some]
  rw [openAfter_append, openAfter_append]
  exact congrArg _ (funext fun m => (h hr m).trans (h hr' m).symm)

theorem deepest_respelled : deepest n (s ++ (r ++ t)) = deepest n (s ++ (r' ++ t)) := by
  have h {w : List Char} (hw : ∀ c ∈ w, isParen c = false) (n : Nat) : deepest n (w ++ t) = deepest n t := by
    rw [deepest_append (openAfter_of_not_isParen hw), deepest_of_not_isParen hw, Nat.max_eq_right (le_deepest n t)]
  induction s generalizing n
  case nil         => exact (h hr n).trans (h hr' n).symm
  case cons d s ih => rw [List.cons_append, List.cons_append, deepest, deepest, ih]

theorem mem_outer_respelled (h : c ∈ outer n (s ++ (r' ++ t))) : c ∈ outer n (s ++ (r ++ t)) ∨ c ∈ r' := by
  induction s generalizing n
  case nil =>
    rw [List.nil_append, outer_append (openAfter_of_not_isParen hr')] at h
    rw [List.nil_append, outer_append (openAfter_of_not_isParen hr)]
    rcases List.mem_append.mp h with h | h
    case inr => exact .inl (List.mem_append_right _ h)
    case inl =>
      cases n
      case zero   => rw [outer_of_not_isParen hr'] at h; exact .inr h
      case succ n => rw [outer_of_open hr'] at h; cases h
  case cons d s ih =>
    rcases List.mem_append.mp h with h | h
    case inl => exact .inl (List.mem_append_left _ h)
    case inr => exact (ih h).imp_left (List.mem_append_right _)

theorem Shallow.respelled (h : Shallow (s ++ (r ++ t))) : Shallow (s ++ (r' ++ t)) where
  balanced := (openAfter_respelled hr hr').symm.trans h.balanced
  depth    := deepest_respelled hr hr' ▸ h.depth

end

-- One pair of parentheses is closed before another one opens.
theorem exists_close (ho : openAfter 1 s = some 0) (hd : deepest 1 s ≤ 1) :
    ∃ u t, s = u ++ ')' :: t ∧ (∀ c ∈ u, isParen c = false) ∧ Shallow t := by
  induction s
  case nil         => cases ho
  case cons c s ih =>
    have hle := (Nat.max_le.mp hd).2
    by_cases hopen : c = '('
    case pos =>
      subst hopen
      exact absurd (Nat.le_trans (le_deepest 2 s) hle) (by decide)
    case neg =>
      by_cases hclose : c = ')'
      case pos => subst hclose; exact ⟨[], s, rfl, nofun, ho, hle⟩
      case neg =>
        have hc : isParen c = false := by simp [isParen, hopen, hclose]
        rw [openAfter_cons, nest_of_not_isParen hc] at ho
        rw [nest_of_not_isParen hc] at hle
        obtain ⟨u, t, rfl, hu, ht⟩ := ih ho hle
        exact ⟨c :: u, t, rfl, List.forall_mem_cons.mpr ⟨hc, hu⟩, ht⟩

theorem Shallow.exists_close (h : Shallow ('(' :: s)) :
    ∃ u t, s = u ++ ')' :: t ∧ (∀ c ∈ u, isParen c = false) ∧ Shallow t :=
  Text.exists_close h.balanced (Nat.max_le.mp h.depth).2

-- A shallow text is put together from characters and from groups in parentheses.
@[elab_as_elim]
theorem Shallow.induction {motive : (s : List Char) → Shallow s → Prop} (nil : motive [] .nil)
    (plain : ∀ c s (hc : isParen c = false) (hs : Shallow s), motive s hs →
      motive (c :: s) (Shallow.append (.of_not_isParen (List.forall_mem_singleton.mpr hc)) hs))
    (group : ∀ u s (hu : ∀ c ∈ u, isParen c = false) (hs : Shallow s), motive s hs →
      motive ('(' :: u ++ [')'] ++ s) ((Shallow.parenthesized hu).append hs))
    (h : Shallow s) : motive s h := by
  induction hn : s.length using Nat.strongRecOn generalizing s with | _ n ih
  subst hn
  cases s
  case nil      => exact nil
  case cons c s =>
    by_cases hopen : c = '('
    case pos =>
      subst hopen
      obtain ⟨u, t, rfl, hu, ht⟩ := h.exists_close
      have hm := group u t hu ht (ih t.length (by simp; omega) ht rfl)
      simpa only [List.append_assoc, List.cons_append, List.nil_append] using hm
    case neg =>
      have hclose : c ≠ ')' := fun hc => Shallow.not_close (hc ▸ h)
      have hc : isParen c = false := by simp [isParen, hopen, hclose]
      have hs : Shallow s := .of_append (s := [c]) (List.forall_mem_singleton.mpr hc) h
      exact plain c s hc hs (ih s.length (Nat.lt_succ_self _) hs rfl)

theorem not_balanced_of_close (hs : Balanced s) : ¬Balanced (s ++ ')' :: t) := by
  intro h
  rw [Balanced, openAfter_append, hs] at h
  cases h

-- There is one place at which the parenthesis that is open before a balanced text is closed.
theorem eq_of_closed {u v : List Char} (hu : Balanced u) (hv : Balanced v) (h : u ++ ')' :: s = v ++ ')' :: t) :
    u = v ∧ s = t := by
  rcases List.append_eq_append_iff.mp h with ⟨_ | ⟨c, x⟩, rfl, hs⟩ | ⟨_ | ⟨c, x⟩, rfl, hs⟩
  case inl.nil  => exact ⟨(List.append_nil u).symm, (List.cons.inj hs).right⟩
  case inr.nil  => exact ⟨List.append_nil v, (List.cons.inj hs).right.symm⟩
  case inl.cons => cases hs; exact absurd hv (not_balanced_of_close hu)
  case inr.cons => cases hs; exact absurd hu (not_balanced_of_close hv)

end TypedResources.Text
