import Mathlib.Data.List.Basic
import TypedResources.Proofs.Naming

-- Parentheses in a text. A text is balanced if every parenthesis in it has its partner in it. A
-- parenthesis that opens in a balanced stretch of a text is closed there as well (`close_lt`), and one
-- that is open before a stretch begins cannot be closed in it unnoticed (`not_closed_within`).

namespace TypedResources.Text

variable {s t : List Char} {c : Char} {i j k l m n : Nat}

-- How many parentheses are open behind a character if `n` are open before it. There is no answer if
-- it closes one and none is open.
def nest (n : Nat) (c : Char) : Option Nat :=
  if c = '(' then some (n + 1)
  else if c = ')' then if n = 0 then none else some (n - 1)
  else some n

def openAfter (n : Nat) (s : List Char) : Option Nat :=
  s.foldlM nest n

def Balanced (s : List Char) : Prop :=
  openAfter 0 s = some 0

instance (s : List Char) : Decidable (Balanced s) :=
  inferInstanceAs (Decidable (openAfter 0 s = some 0))

@[simp]
theorem openAfter_nil : openAfter n [] = some n :=
  rfl

theorem openAfter_cons : openAfter n (c :: s) = (nest n c).bind (openAfter · s) :=
  rfl

@[simp]
theorem openAfter_open : openAfter n ('(' :: s) = openAfter (n + 1) s :=
  rfl

@[simp]
theorem openAfter_close : openAfter (n + 1) (')' :: s) = openAfter n s :=
  rfl

theorem openAfter_append : openAfter n (s ++ t) = (openAfter n s).bind (openAfter · t) :=
  List.foldlM_append

theorem nest_add (h : nest n c = some m) : nest (n + k) c = some (m + k) := by
  by_cases ho : c = '('
  case pos =>
    rw [nest, if_pos ho] at h ⊢
    cases h
    exact congrArg some (Nat.add_right_comm n k 1)
  case neg =>
    rw [nest, if_neg ho] at h ⊢
    split at h
    case isFalse hc => cases h; exact if_neg hc
    case isTrue hc  =>
      rw [if_pos hc]
      split at h
      case isTrue     => cases h
      case isFalse hn =>
        cases h
        rw [if_neg (by omega)]
        exact congrArg some (by omega)

theorem openAfter_add (h : openAfter n s = some m) : openAfter (n + k) s = some (m + k) := by
  induction s generalizing n
  case nil         => cases h; rfl
  case cons c s ih =>
    rw [openAfter_cons] at h ⊢
    have ⟨x, hx, hm⟩ := Option.bind_eq_some_iff.mp h
    rw [nest_add hx]
    exact ih hm

theorem openAfter_of_not_isParen (h : ∀ c ∈ s, isParen c = false) : openAfter n s = some n := by
  induction s
  case nil         => rfl
  case cons c s ih =>
    have ⟨hc, hs⟩ := List.forall_mem_cons.mp h
    have ⟨ho, hc⟩ : c ≠ '(' ∧ c ≠ ')' := by simpa [isParen] using hc
    rw [openAfter_cons, nest, if_neg ho, if_neg hc]
    exact ih hs

namespace Balanced

theorem nil : Balanced [] :=
  rfl

theorem openAfter (h : Balanced s) (n : Nat) : openAfter n s = some n := by
  simpa using openAfter_add (k := n) h

theorem append (hs : Balanced s) (ht : Balanced t) : Balanced (s ++ t) := by
  rw [Balanced, openAfter_append, hs.openAfter]
  exact ht

theorem of_not_isParen (h : ∀ c ∈ s, isParen c = false) : Balanced s :=
  openAfter_of_not_isParen h

theorem parenthesized (h : Balanced s) : Balanced ('(' :: s ++ [')']) := by
  rw [Balanced, List.cons_append, openAfter_open, openAfter_append, h.openAfter]
  rfl

end Balanced

-- The characters from one place up to another.
def between (s : List Char) (i j : Nat) : List Char :=
  (s.drop i).take (j - i)

theorem between_append (hij : i ≤ j) (hjk : j ≤ k) : between s i k = between s i j ++ between s j k := by
  have hk : k - i = (j - i) + (k - j) := by omega
  rw [between, between, between, hk, List.take_add, List.drop_drop, Nat.add_sub_of_le hij]

theorem between_cons (hij : i < j) (h : s[i]? = some c) : between s i j = c :: between s (i + 1) j := by
  have ⟨hi, hc⟩ := List.getElem?_eq_some_iff.mp h
  have hj : j - i = (j - (i + 1)) + 1 := by omega
  rw [between, between, List.drop_eq_getElem_cons hi, hc, hj, List.take_succ_cons]

-- There is one place at which a stretch of characters of a class ends.
theorem eq_of_class {p : Char → Bool} {u v : List Char} (hu : ∀ x ∈ u, p x) (hv : ∀ x ∈ v, p x)
    (hs : ∀ c ∈ s.head?, p c = false) (ht : ∀ c ∈ t.head?, p c = false) (h : u ++ s = v ++ t) : u = v ∧ s = t := by
  rcases List.append_eq_append_iff.mp h with ⟨_ | ⟨x, y⟩, rfl, rfl⟩ | ⟨_ | ⟨x, y⟩, rfl, rfl⟩
  case inl.nil  => exact ⟨(List.append_nil u).symm, rfl⟩
  case inr.nil  => exact ⟨List.append_nil v, rfl⟩
  case inl.cons => exact absurd (hv x (by simp)) (by simp [hs x rfl])
  case inr.cons => exact absurd (hu x (by simp)) (by simp [ht x rfl])

theorem eq_of_stretch {p : Char → Bool} {u v : List Char} {d : Char} (hu : ∀ x ∈ u, p x) (hv : ∀ x ∈ v, p x)
    (hc : p c = false) (hd : p d = false) (h : u ++ c :: s = v ++ d :: t) : u = v ∧ c = d ∧ s = t := by
  obtain ⟨huv, hst⟩ := eq_of_class hu hv (by simpa using hc) (by simpa using hd) h
  exact ⟨huv, List.cons.inj hst⟩

-- A character that is not in a stretch stands before it or behind it.
theorem beside_of_notMem {r u v : List Char} (hc : c ∉ r) (h : u ++ c :: v = s ++ (r ++ t)) :
    (∃ t', u = s ++ (r ++ t') ∧ t = t' ++ c :: v) ∨ ∃ s', s = u ++ c :: s' ∧ v = s' ++ (r ++ t) := by
  rcases List.append_eq_append_iff.mp h with ⟨_ | ⟨d, s'⟩, rfl, hv⟩ | ⟨x, rfl, hx⟩
  case inl.nil =>
    refine .inl ?_
    rcases r with _ | ⟨d, r⟩
    case nil  => exact ⟨[], by simp, by simpa using hv.symm⟩
    case cons => cases hv; exact absurd List.mem_cons_self hc
  case inl.cons => cases hv; exact .inr ⟨s', rfl, rfl⟩
  case inr =>
    rcases List.append_eq_append_iff.mp hx with ⟨t', rfl, ht⟩ | ⟨_ | ⟨d, y⟩, hr, hy⟩
    case inl      => exact .inl ⟨t', rfl, ht⟩
    case inr.nil  => exact .inl ⟨[], by simpa using hr.symm, by simpa using hy.symm⟩
    case inr.cons => cases hy; exact absurd (hr ▸ by simp) hc

-- One that is not in the first part of a text stands behind it.
theorem exists_behind {u v : List Char} (hc : c ∉ u) (h : u ++ v = s ++ c :: t) : ∃ s', s = u ++ s' ∧ v = s' ++ c :: t := by
  rcases beside_of_notMem (s := []) hc h.symm with h | ⟨s', hs, -⟩
  case inl => exact h
  case inr => simp at hs

-- A text stands at a place of another one.
def At (s : List Char) (i : Nat) (w : List Char) : Prop :=
  w <+: s.drop i

variable {u v w : List Char}

theorem at_of_eq_append (h : s = u ++ w ++ v) : At s u.length w := by
  rw [At, h, List.append_assoc, List.drop_left]
  exact List.prefix_append w v

theorem at_append : At s i (u ++ v) ↔ At s i u ∧ At s (i + u.length) v := by
  unfold At
  rw [← List.drop_drop]
  constructor
  case mp =>
    rintro ⟨t, ht⟩
    rw [← ht, List.append_assoc, List.drop_left]
    exact ⟨List.prefix_append _ _, List.prefix_append _ _⟩
  case mpr =>
    rintro ⟨⟨t, ht⟩, h⟩
    rw [← ht, List.drop_left] at h
    rw [← ht]
    exact (List.prefix_append_right_inj u).mpr h

theorem at_cons : At s i (c :: w) ↔ s[i]? = some c ∧ At s (i + 1) w := by
  rw [← List.singleton_append, at_append]
  refine and_congr_left fun _ => ?_
  rw [At, List.prefix_iff_eq_take, List.length_singleton, List.take_one, List.head?_drop]
  cases s[i]? <;> simp [eq_comm]

theorem at_singleton : At s i [c] ↔ s[i]? = some c :=
  at_cons.trans (and_iff_left List.nil_prefix)

namespace At

variable (h : At s i w)

include h

theorem between : between s i (i + w.length) = w := by
  rw [Text.between, Nat.add_sub_cancel_left]
  exact (List.prefix_iff_eq_take.mp h).symm

theorem exists_mem (hk : i ≤ k) (hl : k < i + w.length) : ∃ c ∈ w, s[k]? = some c := by
  have ⟨n, hn⟩ := Nat.exists_eq_add_of_le hk
  have hw : n < w.length := by omega
  refine ⟨w[n], List.getElem_mem hw, ?_⟩
  rw [hn, ← List.getElem?_drop, List.prefix_iff_getElem?.mp h n hw]

theorem mem (hk : i ≤ k) (hl : k < i + w.length) (hc : s[k]? = some c) : c ∈ w := by
  have ⟨d, hd, hs⟩ := h.exists_mem hk hl
  cases hc.symm.trans hs
  exact hd

theorem exists_eq_append (hw : w ≠ []) : ∃ u v, s = u ++ w ++ v ∧ u.length = i := by
  have ⟨v, hv⟩ := h
  refine ⟨s.take i, v, by rw [List.append_assoc, hv, List.take_append_drop], List.length_take_of_le ?_⟩
  by_contra hi
  rw [List.drop_eq_nil_of_le (by omega)] at hv
  exact hw (List.append_eq_nil_iff.mp hv).1

-- Of two texts at places of a third one, the second lies in the first.
theorem exists_append (h' : At s j v) (hij : i ≤ j) (hle : j + v.length ≤ i + w.length) :
    ∃ x y, w = x ++ v ++ y ∧ j = i + x.length := by
  have ⟨z, hz⟩ := h
  have hd : w.drop (j - i) <+: s.drop j :=
    ⟨z.drop (j - i - w.length), by rw [← List.drop_append, hz, List.drop_drop, Nat.add_sub_of_le hij]⟩
  have ⟨y, hy⟩ := List.prefix_of_prefix_length_le h' hd (by rw [List.length_drop]; omega)
  refine ⟨w.take (j - i), y, ?_, ?_⟩
  · rw [List.append_assoc, hy, List.take_append_drop]
  · rw [List.length_take]
    omega

end At

-- What opens in a balanced stretch is closed in it.
theorem close_lt (hb : Balanced (between s i j)) (hij : i ≤ k) (hkj : k < j) (hk : s[k]? = some '(')
    (hi : Balanced (between s (k + 1) l)) : l < j ∨ s[l]? ≠ some ')' := by
  by_contra hc
  have ⟨hjl, hl⟩ : j ≤ l ∧ s[l]? = some ')' := by simpa [not_or] using hc
  rw [Balanced, between_append hij (Nat.le_of_lt hkj), between_cons hkj hk, openAfter_append] at hb
  have ⟨m, _, hm⟩ := Option.bind_eq_some_iff.mp hb
  rw [openAfter_open] at hm
  -- Up to `j` the parenthesis at `k` is closed, but there is none in between that could close it.
  rw [Balanced, between_append (Nat.succ_le_of_lt hkj) hjl, openAfter_append] at hi
  have ⟨n, hn, _⟩ := Option.bind_eq_some_iff.mp hi
  have hadd := openAfter_add (k := m + 1) hn
  rw [Nat.zero_add, hm] at hadd
  cases hadd

-- What closes a balanced stretch that began earlier leaves nothing to count from a later place.
theorem not_closed_within (hb : Balanced (between s i k)) (hij : i ≤ j) (hjk : j ≤ k)
    (hk : s[k]? = some ')') (hkl : k < l) : openAfter 0 (between s j l) = none := by
  rw [Balanced, between_append hij hjk, openAfter_append] at hb
  have ⟨m, _, hm⟩ := Option.bind_eq_some_iff.mp hb
  rw [between_append hjk (Nat.le_of_lt hkl), between_cons hkl hk, openAfter_append]
  cases hn : openAfter 0 (between s j k)
  case none   => rfl
  case some n =>
    have hadd := openAfter_add (k := m) hn
    rw [Nat.zero_add, hm] at hadd
    have hz : n = 0 := by have := Option.some_inj.mp hadd; omega
    subst hz
    rfl

end TypedResources.Text
