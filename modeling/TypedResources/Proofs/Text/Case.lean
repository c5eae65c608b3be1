import Mathlib.Data.List.Basic
import TypedResources.Text.Case
import TypedResources.Text.Class

-- What a change of case brings into a text. Hardly any character changes its case between ASCII and the
-- rest, so that a property of ASCII characters which the tables of case keep is kept by every change of
-- case (`of_cased`).

namespace TypedResources.Text

variable {c x : Char} {s : List Char} {p q : Char → Bool} {runs : List CaseRun}

-- What may stand in the place of a character after a change of case. Only how a capital sigma is
-- lowered depends on what is around the character.
inductive Cased (c : Char) : Char → Prop
  | same : Cased c c
  | lower {x : Char} (h : x ∈ lowerChar c) : Cased c x
  | upper {x : Char} (h : x ∈ upperChar c) : Cased c x
  | sigma (h : c = '\u03A3') : Cased c '\u03C2'

theorem exists_of_mem_lower : ∀ x ∈ lower s, ∃ c ∈ s, Cased c x := by
  have go (before : List Char) : ∀ x ∈ lower.go before s, ∃ c ∈ s, Cased c x := by
    induction s generalizing before
    case nil         => exact nofun
    case cons c s ih =>
      intro x hx
      rw [lower.go] at hx
      rcases List.mem_append.mp hx with hi | ht
      case inr =>
        have ⟨d, hd, hx⟩ := ih _ x ht
        exact ⟨d, List.mem_cons_of_mem c hd, hx⟩
      case inl =>
        refine ⟨c, List.mem_cons_self, ?_⟩
        split at hi
        case isFalse  => exact .lower hi
        case isTrue h =>
          split at hi <;> cases List.mem_singleton.mp hi
          case isTrue  => exact .sigma h
          case isFalse => exact .lower (h ▸ by decide +kernel)
  exact go []

def isAscii (c : Char) : Bool :=
  c.toNat < 128

theorem of_isAscii {p : Char → Prop} (h : ∀ n < 128, p (Char.ofNat n)) (hc : isAscii c) : p c := by
  have h := h c.toNat (of_decide_eq_true hc)
  rwa [Char.ofNat_toNat] at h

theorem not_isAscii_ofNat {n : Nat} (h : 128 ≤ n) (hv : n.isValidChar) : ¬isAscii (Char.ofNat n) := by
  have hn : (Char.ofNat n).toNat = n := by rw [Char.ofNat, dif_pos hv]; rfl
  simpa [isAscii, hn] using h

-- All that a run leads to are characters beyond ASCII.
def CaseRun.leavesAscii (r : CaseRun) : Bool :=
  128 ≤ r.first + r.offset &&
    (r.last + r.offset < 0xD800 || 0xDFFF < r.first + r.offset && r.last + r.offset < 0x110000)

-- All that a run leads to has the property, or is beyond ASCII.
def CaseRun.keeps (q : Char → Bool) (r : CaseRun) : Bool :=
  r.leavesAscii || (List.range (r.last + 1 - r.first)).all fun i => q (r.map (r.first + i))

-- Whatever comes from the tables of case has the property, or is beyond ASCII.
def keepsCase (q : Char → Bool) : Bool :=
  q 'i' && lowerRuns.all (·.keeps q) && upperRuns.all (·.keeps q) &&
    upperExpansions.all fun e => e.2.all fun n => !isAscii (Char.ofNat n) || q (Char.ofNat n)

theorem of_mapThrough (hr : runs.all (·.keeps q)) (hc : isAscii c → q c) (ha : isAscii (mapThrough runs c)) :
    q (mapThrough runs c) := by
  unfold mapThrough at ha ⊢
  split at ha
  case h_2     => exact hc ha
  case h_1 r h =>
    have hf := List.find?_some h
    simp only [CaseRun.contains, Bool.and_eq_true, decide_eq_true_eq] at hf
    rcases Bool.or_eq_true_iff.mp (List.all_eq_true.mp hr r (List.mem_of_find?_eq_some h)) with hr | hr
    case inl =>
      simp only [CaseRun.leavesAscii, Bool.and_eq_true, Bool.or_eq_true, decide_eq_true_eq] at hr
      have hv : (c.toNat + r.offset).toNat.isValidChar := by unfold Nat.isValidChar; omega
      exact absurd ha (not_isAscii_ofNat (by omega) hv)
    case inr =>
      have hi := List.all_eq_true.mp hr (c.toNat - r.first) (List.mem_range.mpr (by omega))
      rwa [Nat.add_sub_of_le hf.left.left] at hi

theorem of_cased (hq : keepsCase q) (hc : isAscii c → q c) (hx : Cased c x) (ha : isAscii x) : q x := by
  simp only [keepsCase, Bool.and_eq_true] at hq
  obtain ⟨⟨⟨hi, hl⟩, hu⟩, he⟩ := hq
  cases hx
  case same    => exact hc ha
  case sigma   => contradiction
  case lower h =>
    unfold lowerChar at h
    split at h
    case isTrue  =>
      rcases List.mem_pair.mp h with rfl | rfl
      case inl => exact hi
      case inr => contradiction
    case isFalse =>
      cases List.mem_singleton.mp h
      exact of_mapThrough hl hc ha
  case upper h =>
    unfold upperChar at h
    split at h
    case h_2          =>
      cases List.mem_singleton.mp h
      exact of_mapThrough hu hc ha
    case h_1 codes hf =>
      obtain ⟨n, hn, rfl⟩ := List.mem_map.mp h
      have hm := List.all_eq_true.mp (List.all_eq_true.mp he _ (List.mem_of_find?_eq_some hf)) n hn
      exact (Bool.or_eq_true_iff.mp hm).resolve_left (by simp [ha])

-- No change of case makes a character of an ASCII class that the tables keep out of.
theorem not_of_cased (hp : ∀ c, p c → isAscii c) (hq : keepsCase fun c => !p c) (hc : p c = false)
    (hx : Cased c x) : p x = false := by
  by_contra h
  have h : p x = true := by simpa using h
  simpa [h] using of_cased hq (fun _ => by simp [hc]) hx (hp x h)

end TypedResources.Text
