import Mathlib.Data.List.TakeWhile
import TypedResources.Text.Lines

-- Trimming: what is left of a text has no blank at its ends (`trimmed_trim`), and nothing is left of
-- blanks alone (`trim_eq_nil_iff`).

namespace TypedResources.Text

variable {c : Char} {s t : List Char}

-- A text with no blank at its ends.
structure Trimmed (s : List Char) : Prop where
  head : ∀ c ∈ s.head?, isBlank c = false
  last : ∀ c ∈ s.getLast?, isBlank c = false

theorem trimStart_append (h : ∀ c ∈ t.head?, isBlank c = false) : trimStart (s ++ t) = trimStart s ++ t := by
  unfold trimStart
  rw [List.dropWhile_append]
  split
  case isFalse => rfl
  case isTrue hs =>
    rw [List.isEmpty_iff.mp hs]
    cases t
    case nil      => rfl
    case cons c t => rw [List.dropWhile_cons_of_neg (by simp [h c rfl])]; rfl

theorem trimStart_of_blanks (h : ∀ c ∈ s, isBlank c) : trimStart s = [] :=
  List.dropWhile_eq_nil_iff.mpr h

theorem mem_trim (hc : c ∈ s) (hb : isBlank c = false) : c ∈ trim s := by
  have mem_dropWhile {s : List Char} (hc : c ∈ s) : c ∈ s.dropWhile isBlank := by
    rw [← List.takeWhile_append_dropWhile (p := isBlank) (l := s)] at hc
    refine (List.mem_append.mp hc).resolve_left fun h => ?_
    have hcb := List.mem_takeWhile_imp h
    rw [hb] at hcb
    contradiction
  exact List.mem_reverse.mpr (mem_dropWhile (List.mem_reverse.mpr (mem_dropWhile hc)))

theorem trim_eq_nil_iff : trim s = [] ↔ ∀ c ∈ s, isBlank c := by
  constructor
  case mp =>
    intro h c hc
    by_contra hb
    have hm := mem_trim hc (Bool.eq_false_iff.mpr hb)
    rw [h] at hm
    contradiction
  case mpr =>
    intro h
    rw [trim, trimStart_of_blanks h]
    rfl

theorem trimEnd_prefix : trimEnd s <+: s := by
  have h := List.reverse_prefix.mpr (List.dropWhile_suffix isBlank (l := s.reverse))
  rwa [List.reverse_reverse] at h

theorem head?_dropWhile_isBlank : ∀ c ∈ (s.dropWhile isBlank).head?, isBlank c = false := by
  intro c hc
  have h := List.head?_dropWhile_not isBlank s
  rwa [Option.mem_def.mp hc] at h

theorem trimmed_trim : Trimmed (trim s) where
  head := by
    intro c hc
    obtain ⟨rest, hr⟩ := trimEnd_prefix (s := trimStart s)
    refine head?_dropWhile_isBlank (s := s) c ?_
    rw [← trimStart, ← hr, List.head?_append, ← trim, Option.mem_def.mp hc]
    rfl
  last := by
    intro c hc
    rw [trim, trimEnd, List.getLast?_reverse] at hc
    exact head?_dropWhile_isBlank c hc

end TypedResources.Text
