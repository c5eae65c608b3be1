import Mathlib.Data.List.Nodup
import TypedResources.Plural
import TypedResources.Proofs.Repetition

-- The checks of plurals are right for all integers. From a hundred on a rule reads no more than the
-- last two digits of a number, so that every number has a sample below two hundred that no rule tells
-- from it (`category_sample`). What is reachable, and with it what is missing and what is unused, is
-- therefore found by looking at these samples alone (`plural_checks_exact`).

namespace TypedResources.Plural

variable {k n : Nat} {c : Category} {q language : String} {items : List String}

def sample (n : Nat) : Nat :=
  if n < 100 then n else 100 + n % 100

theorem sample_lt (n : Nat) : sample n < 200 := by
  unfold sample
  split <;> omega

theorem sample_mod_hundred (n : Nat) : sample n % 100 = n % 100 := by
  unfold sample
  split <;> omega

theorem sample_mod_ten (n : Nat) : sample n % 10 = n % 10 := by
  unfold sample
  split <;> omega

theorem sample_eq_iff (h : k < 100) : sample n = k ↔ n = k := by
  unfold sample
  split <;> omega

theorem sample_le_iff (h : k < 100) : sample n ≤ k ↔ n ≤ k := by
  unfold sample
  split <;> omega

theorem le_sample_iff (h : k < 100) : k ≤ sample n ↔ k ≤ n := by
  unfold sample
  split <;> omega

-- A rule compares a number with numbers below a hundred, or reads its last digits.
theorem category_sample (r : Rule) (n : Nat) : r.category (sample n) = r.category n := by
  cases r <;>
    simp [Rule.category, endsInFew, sample_mod_hundred, sample_mod_ten, sample_eq_iff, sample_le_iff, le_sample_iff]

theorem mem_reachable_iff : c ∈ reachable language ↔ ∃ n : Int, category language n = c := by
  simp only [reachable, List.mem_filter, Category.mem_all, true_and, List.contains_iff_mem, List.mem_map, List.mem_range]
  constructor
  case mp  => exact fun ⟨n, _, hc⟩ => ⟨n, hc⟩
  case mpr => exact fun ⟨n, hc⟩ => ⟨sample n.natAbs, sample_lt _, (category_sample _ _).trans hc⟩

namespace Category

theorem keyword_injective : Function.Injective keyword := by
  intro c c' h
  cases c <;> cases c' <;> first | rfl | simp [keyword] at h

theorem nodup_all : all.Nodup := by
  decide

theorem keyword_eq_other_iff : c.keyword = "other" ↔ c = other :=
  keyword_injective.eq_iff (b := other)

end Category

def keywords : List String :=
  Category.all.map Category.keyword

def reachableKeywords (language : String) : List String :=
  (reachable language).map Category.keyword

theorem nodup_keywords : keywords.Nodup :=
  Category.nodup_all.map Category.keyword_injective

theorem nodup_reachableKeywords : (reachableKeywords language).Nodup :=
  (Category.nodup_all.filter _).map Category.keyword_injective

theorem mem_reachableKeywords_iff : q ∈ reachableKeywords language ↔ ∃ n : Int, (category language n).keyword = q := by
  simp only [reachableKeywords, List.mem_map, mem_reachable_iff]
  constructor
  case mp  => rintro ⟨_, ⟨n, rfl⟩, rfl⟩; exact ⟨n, rfl⟩
  case mpr => rintro ⟨n, rfl⟩; exact ⟨_, ⟨n, rfl⟩, rfl⟩

theorem missing_eq : missing language items =
    (reachableKeywords language).filter fun q => q ≠ "other" && !items.contains q := by
  rw [missing, reachableKeywords, List.filter_map]
  congr 2
  funext c
  exact congrArg₂ (· && ·) (decide_eq_decide.mpr Category.keyword_eq_other_iff.not.symm) rfl

theorem mem_missing_iff : q ∈ missing language items ↔
    q ≠ "other" ∧ q ∉ items ∧ ∃ n : Int, (category language n).keyword = q := by
  rw [← mem_reachableKeywords_iff, missing_eq]
  simp [and_comm, and_assoc]

theorem nodup_missing : (missing language items).Nodup := by
  rw [missing_eq]
  exact nodup_reachableKeywords.filter _

-- If nothing is missing, whatever an integer selects has an item of its own or falls back to one.
theorem keyword_mem_of_missing_eq_nil (hm : missing language items = []) (hf : lacksFallback items = false) (n : Int) :
    (category language n).keyword ∈ items := by
  by_contra hn
  have ho : (category language n).keyword ≠ "other" := by
    intro ho
    rw [ho] at hn
    simp [lacksFallback, Category.keyword, hn] at hf
  have hq : (category language n).keyword ∈ missing language items := mem_missing_iff.mpr ⟨ho, hn, n, rfl⟩
  rw [hm] at hq
  cases hq

-- The items that no integer selects, as they come.
def idle (language : String) (items : List String) : List String :=
  items.filter fun q => q ≠ "other" && !(reachableKeywords language).contains q

theorem unused_eq : unused language items = keywords.filter ((idle language items).contains ·) ++
    sortBy (fun a b => a ≤ b) ((idle language items).filter (!keywords.contains ·)).eraseDups :=
  rfl

theorem mem_idle_iff : q ∈ idle language items ↔
    q ∈ items ∧ q ≠ "other" ∧ ¬∃ n : Int, (category language n).keyword = q := by
  rw [← mem_reachableKeywords_iff]
  simp [idle]

theorem mem_unused_iff : q ∈ unused language items ↔ q ∈ idle language items := by
  simp only [unused_eq, List.mem_append, mem_sortBy, List.mem_eraseDups, List.mem_filter, List.contains_iff_mem,
    Bool.not_eq_true', Bool.eq_false_iff, ne_eq]
  by_cases hk : q ∈ keywords <;> simp [hk]

theorem nodup_unused : (unused language items).Nodup := by
  rw [unused_eq, List.nodup_append]
  refine ⟨nodup_keywords.filter _, (sortBy_perm _ _).nodup_iff.mpr (nodup_eraseDups _), fun q hq q' hq' he => ?_⟩
  have hk : q ∈ keywords := List.mem_of_mem_filter hq
  simp [← he, hk] at hq'

theorem plural_checks_exact (language : String) (items : List String) :
    (∀ q, q ∈ missing language items ↔ q ≠ "other" ∧ q ∉ items ∧ ∃ n : Int, (category language n).keyword = q) ∧
    (∀ q, q ∈ unused language items ↔ q ∈ items ∧ q ≠ "other" ∧ ¬∃ n : Int, (category language n).keyword = q) ∧
    (missing language items).Nodup ∧ (unused language items).Nodup ∧
    (missing language items = [] → lacksFallback items = false →
      ∀ n : Int, (category language n).keyword ∈ items) :=
  ⟨fun _ => mem_missing_iff, fun _ => mem_unused_iff.trans mem_idle_iff, nodup_missing, nodup_unused,
    keyword_mem_of_missing_eq_nil⟩

-- Items for all numbers of a language with a regional tag, and two that no number selects.
def polishItems : List String :=
  ["several", "one", "two", "few", "many", "other", "two"]

theorem polish_plural_covered : missing "PL_pl" polishItems = [] ∧ unused "PL_pl" polishItems = ["two", "several"] ∧
    ∀ n : Int, (category "PL_pl" n).keyword ∈ polishItems := by
  have hm : missing "PL_pl" polishItems = [] := by decide +kernel
  have hf : lacksFallback polishItems = false := by decide +kernel
  obtain ⟨-, -, -, -, h⟩ := plural_checks_exact "PL_pl" polishItems
  exact ⟨hm, by decide +kernel, h hm hf⟩

end TypedResources.Plural
