import TypedResources.Proofs.Definition
import TypedResources.Proofs.Pattern.Found

-- Which strings take arguments. Two percent signs stand for one in a text, so that a placeholder begins
-- behind an odd number of them. The search for a placeholder, the runs of percent signs and the reading
-- of a text from left to right agree on where that is (`string_parameterized_iff`).

namespace TypedResources.Definition

open Pattern

variable {c : Char} {w t rest text : List Char} {element : Xml.Node} {kept : List (Unit × List Char)}

def isConversion (c : Char) : Bool :=
  "sdfxoce".toList.contains c

-- What makes a percent sign before it a placeholder: a position, which may be left out, and a conversion.
inductive Converts : List Char → Prop
  | plain {c : Char} {rest : List Char} (hc : isConversion c) : Converts (c :: rest)
  | position {c : Char} {digits rest : List Char} (hne : digits ≠ []) (hd : ∀ d ∈ digits, Text.isDecimal d)
      (hc : isConversion c) : Converts (digits ++ '$' :: c :: rest)

-- A run of percent signs that neither begins earlier nor ends later, odd in number, before a conversion.
structure OddRun (before : List Char) (n : Nat) (after : List Char) : Prop where
  first    : before.getLast? ≠ some '%'
  last     : after.head? ≠ some '%'
  odd      : n % 2 = 1
  converts : Converts after

def HasOddRun (text : List Char) : Prop :=
  ∃ before n after, text = before ++ List.replicate n '%' ++ after ∧ OddRun before n after

-- What is met when a text is read from left to right, where two percent signs are a literal one.
def MeetsPlaceholder : List Char → Prop
  | '%' :: '%' :: rest => MeetsPlaceholder rest
  | '%' :: rest        => Converts rest ∨ MeetsPlaceholder rest
  | _ :: rest          => MeetsPlaceholder rest
  | []                 => False

theorem Converts.head?_ne (h : Converts rest) : rest.head? ≠ some '%' := by
  cases h
  case plain hc =>
    rintro ⟨⟩
    contradiction
  case position digits c rest hne hd hc =>
    obtain ⟨d, digits, rfl⟩ := List.exists_cons_of_ne_nil hne
    rintro ⟨⟩
    exact absurd (hd '%' List.mem_cons_self) (by decide)

theorem hasOddRun_pair : HasOddRun ('%' :: '%' :: t) ↔ HasOddRun t := by
  constructor
  case mp  =>
    rintro ⟨u, n, v, ht, h⟩
    -- The two signs are the beginning of the run, or the run comes behind them and a text in between.
    rcases u with - | ⟨a, - | ⟨b, u⟩⟩
    case nil =>
      rcases n with - | - | n
      case zero          => exact absurd h.odd (by decide)
      case succ.zero     =>
        obtain rfl : '%' :: t = v := by simpa using ht
        exact absurd rfl h.last
      case succ.succ     =>
        refine ⟨[], n, v, by simpa [List.replicate_succ] using ht, by simp, h.last, ?_, h.converts⟩
        have := h.odd
        omega
    case cons.nil  =>
      obtain ⟨rfl, -⟩ : '%' = a ∧ _ := by simpa using ht
      exact absurd rfl h.first
    case cons.cons =>
      obtain ⟨rfl, rfl, rfl⟩ : '%' = a ∧ '%' = b ∧ t = u ++ List.replicate n '%' ++ v := by simpa using ht
      refine ⟨u, n, v, rfl, fun hu => h.first ?_, h.last, h.odd, h.converts⟩
      rw [List.getLast?_cons, List.getLast?_cons, hu]
      rfl
  case mpr =>
    rintro ⟨u, n, v, rfl, h⟩
    cases u
    case nil      =>
      refine ⟨[], n + 2, v, by simp [List.replicate_succ], by simp, h.last, ?_, h.converts⟩
      have := h.odd
      omega
    case cons a u => exact ⟨'%' :: '%' :: a :: u, n, v, rfl, by simpa using h.first, h.last, h.odd, h.converts⟩

theorem hasOddRun_lone (ht : t.head? ≠ some '%') : HasOddRun ('%' :: t) ↔ Converts t ∨ HasOddRun t := by
  constructor
  case mp  =>
    rintro ⟨u, n, v, he, h⟩
    cases u
    case nil =>
      rcases n with - | - | n
      case zero      => exact absurd h.odd (by decide)
      case succ.zero => exact .inl ((List.cons.inj he).right ▸ h.converts)
      case succ.succ => exact absurd (by rw [(List.cons.inj he).right]; rfl) ht
    case cons a u =>
      obtain ⟨rfl, rfl⟩ := List.cons.inj he
      refine .inr ⟨u, n, v, rfl, fun hu => h.first ?_, h.last, h.odd, h.converts⟩
      rw [List.getLast?_cons, hu]
      rfl
  case mpr =>
    rintro (h | ⟨u, n, v, rfl, h⟩)
    case inl => exact ⟨[], 1, t, rfl, by simp, ht, rfl, h⟩
    case inr =>
      cases u
      case nil =>
        have hn := h.odd
        obtain ⟨n, rfl⟩ : ∃ m, n = m + 1 := ⟨n - 1, by omega⟩
        exact absurd rfl ht
      case cons a u => exact ⟨'%' :: a :: u, n, v, rfl, by simpa using h.first, h.last, h.odd, h.converts⟩

theorem hasOddRun_cons (hc : c ≠ '%') : HasOddRun (c :: t) ↔ HasOddRun t := by
  constructor
  case mp  =>
    rintro ⟨u, n, v, he, h⟩
    cases u
    case nil =>
      have hn := h.odd
      obtain ⟨n, rfl⟩ : ∃ m, n = m + 1 := ⟨n - 1, by omega⟩
      exact absurd (List.cons.inj he).left hc
    case cons a u =>
      obtain ⟨rfl, rfl⟩ := List.cons.inj he
      refine ⟨u, n, v, rfl, fun hu => h.first ?_, h.last, h.odd, h.converts⟩
      rw [List.getLast?_cons, hu]
      rfl
  case mpr =>
    rintro ⟨u, n, v, rfl, h⟩
    refine ⟨c :: u, n, v, rfl, fun hu => ?_, h.last, h.odd, h.converts⟩
    cases u
    case nil      => exact hc (Option.some.inj hu)
    case cons a u => exact h.first (by simpa using hu)

theorem not_hasOddRun_nil : ¬HasOddRun [] := by
  rintro ⟨u, n, v, h, hr⟩
  obtain ⟨-, hn, -⟩ : u = [] ∧ n = 0 ∧ v = [] := by simpa using h
  exact absurd hr.odd (by rw [hn]; decide)

theorem meetsPlaceholder_iff : MeetsPlaceholder text ↔ HasOddRun text := by
  induction text using MeetsPlaceholder.induct
  case case1 rest ih         => rw [MeetsPlaceholder, ih, hasOddRun_pair]
  case case2 rest hr ih      =>
    have hne : rest.head? ≠ some '%' := fun h => by
      obtain ⟨t, rfl⟩ := List.head?_eq_some_iff.mp h
      exact hr t rfl
    rw [MeetsPlaceholder.eq_2 rest hr, ih, hasOddRun_lone hne]
  case case3 c rest hcr hc ih => rw [MeetsPlaceholder.eq_3 c rest hcr hc, ih, hasOddRun_cons hc]
  case case4                 => exact iff_of_false id not_hasOddRun_nil

theorem reads_pairs_iff : (many (word "%%") : Pattern Unit).Reads w kept ↔
    (∃ k, w = List.replicate (2 * k) '%') ∧ kept = [] := by
  constructor
  case mp  =>
    intro h
    induction h with
    | nil => exact ⟨⟨0, rfl⟩, rfl⟩
    | cons hu _ ih =>
      obtain ⟨rfl, rfl⟩ := reads_word_iff.mp hu
      obtain ⟨⟨k, rfl⟩, rfl⟩ := ih
      exact ⟨⟨k + 1, rfl⟩, rfl⟩
  case mpr =>
    rintro ⟨⟨k, rfl⟩, rfl⟩
    induction k
    case zero      => exact .nil
    case succ k ih =>
      have hpair : (word "%%" : Pattern Unit).Reads "%%".toList [] := reads_word_iff.mpr ⟨rfl, rfl⟩
      exact .cons hpair ih

theorem reads_position_iff : (opt (seq (many1 (one Text.isDecimal)) (char '$')) : Pattern Unit).Reads w kept ↔
    (w = [] ∨ ∃ digits, digits ≠ [] ∧ (∀ d ∈ digits, Text.isDecimal d) ∧ w = digits ++ ['$']) ∧ kept = [] := by
  simp only [reads_opt_iff, reads_seq_iff, reads_many1_one_iff, reads_char_iff]
  constructor
  case mp  =>
    rintro (⟨digits, _, _, _, ⟨⟨hne, hd⟩, rfl⟩, ⟨rfl, rfl⟩, rfl, rfl⟩ | ⟨rfl, rfl⟩)
    case inl => exact ⟨.inr ⟨digits, hne, hd, rfl⟩, rfl⟩
    case inr => exact ⟨.inl rfl, rfl⟩
  case mpr =>
    rintro ⟨rfl | ⟨digits, hne, hd, rfl⟩, rfl⟩
    case inl => exact .inr ⟨rfl, rfl⟩
    case inr => exact .inl ⟨digits, ['$'], [], [], ⟨⟨hne, hd⟩, rfl⟩, ⟨rfl, rfl⟩, rfl, rfl⟩

-- What a placeholder has behind its percent signs.
def conversion : List (Pattern Unit) :=
  [opt (seq (many1 (one Text.isDecimal)) (char '$')), one isConversion]

theorem begins_conversion_iff : (all conversion).Begins text ↔ Converts text := by
  simp only [conversion, begins_all_cons_iff, begins_all_nil, reads_position_iff, reads_one_iff]
  constructor
  case mp  =>
    rintro ⟨u, v, rfl, ⟨_, hu, _⟩, _, t, rfl, ⟨_, ⟨c, hc, rfl⟩, _⟩, _⟩
    rcases hu with rfl | ⟨digits, hne, hd, rfl⟩
    case inl => exact .plain hc
    case inr =>
      rw [List.append_assoc]
      exact .position hne hd hc
  case mpr =>
    intro h
    cases h
    case plain c t hc =>
      exact ⟨[], c :: t, rfl, ⟨[], .inl rfl, rfl⟩, [c], t, rfl, ⟨[], ⟨c, hc, rfl⟩, rfl⟩, trivial⟩
    case position c digits t hne hd hc =>
      exact ⟨digits ++ ['$'], c :: t, by simp, ⟨[], .inr ⟨digits, hne, hd, rfl⟩, rfl⟩, [c], t, rfl,
        ⟨[], ⟨c, hc, rfl⟩, rfl⟩, trivial⟩

theorem begins_signs_iff : (all (many (word "%%") :: char '%' :: conversion)).Begins text ↔
    ∃ n after, text = List.replicate n '%' ++ after ∧ n % 2 = 1 ∧ Converts after := by
  simp only [begins_all_cons_iff, begins_conversion_iff, reads_pairs_iff, reads_char_iff]
  constructor
  case mp  =>
    rintro ⟨u, v, rfl, ⟨_, ⟨k, rfl⟩, _⟩, _, after, rfl, ⟨_, rfl, _⟩, h⟩
    exact ⟨2 * k + 1, after, by rw [List.replicate_succ', List.append_assoc], by omega, h⟩
  case mpr =>
    rintro ⟨n, after, rfl, hn, h⟩
    obtain ⟨k, rfl⟩ : ∃ k, n = 2 * k + 1 := ⟨n / 2, by omega⟩
    exact ⟨List.replicate (2 * k) '%', ['%'] ++ after, by rw [List.replicate_succ', List.append_assoc],
      ⟨[], ⟨k, rfl⟩, rfl⟩, ['%'], after, rfl, ⟨[], rfl, rfl⟩, h⟩

theorem placeholder_eq : placeholder = all (notAfter (· = '%') :: many (word "%%") :: char '%' :: conversion) :=
  rfl

theorem solid_placeholder : placeholder.Solid := by
  rintro w kept ⟨u₀, v₀, _, _, -, ⟨u₁, v₁, _, _, -, ⟨u₂, v₂, _, _, hc, -, rfl, -⟩, rfl, -⟩, rfl, -⟩
  obtain ⟨rfl, -⟩ := reads_char_iff.mp hc
  simp

theorem isFree_signs : (all (many (word "%%") :: char '%' :: conversion)).isFree := by
  rw [isFree_all]
  rfl

theorem isSome_occurrenceAt?_placeholder_iff {before : Option Char} {i : Nat} :
    (placeholder.occurrenceAt? before text i).isSome ↔ before ≠ some '%' ∧
      ∃ n after, text = List.replicate n '%' ++ after ∧ n % 2 = 1 ∧ Converts after := by
  have hs : (all (notAfter (· = '%') :: many (word "%%") :: char '%' :: conversion)).Solid := solid_placeholder
  rw [placeholder_eq, isSome_occurrenceAt?_notAfter_iff hs isFree_signs, begins_signs_iff]
  cases before <;> simp

theorem hasPlaceholder_iff : hasPlaceholder text ↔ HasOddRun text := by
  simp only [hasPlaceholder, isSome_search?_iff, isSome_occurrenceAt?_placeholder_iff]
  constructor
  case mp  =>
    rintro ⟨u, _, rfl, hu, n, v, rfl, hn, hv⟩
    exact ⟨u, n, v, (List.append_assoc _ _ _).symm, hu, hv.head?_ne, hn, hv⟩
  case mpr =>
    rintro ⟨u, n, v, rfl, h⟩
    exact ⟨u, List.replicate n '%' ++ v, List.append_assoc _ _ _, h.first, n, v, rfl, h.odd, h.converts⟩

-- A string takes arguments if its text has an odd run of percent signs before a conversion, which is
-- what reading the text from left to right meets.
theorem string_parameterized_iff (ht : element.localName? = some "string".toList)
    (hn : Text.trim (element.get "name".toList) ≠ []) : ∃ v, resource? element = some v ∧
      v.kind = .string ∧
      (v.parameterized ↔ HasOddRun element.allText) ∧
      (v.parameterized ↔ MeetsPlaceholder element.allText) := by
  have hp : (recordOf .string element).parameterized ↔ HasOddRun element.allText := hasPlaceholder_iff
  refine ⟨recordOf .string element, ?_, rfl, hp, hp.trans meetsPlaceholder_iff.symm⟩
  rw [resource?_of_tag (k := .string) ht, if_neg hn]

-- The element <string name="a">text</string>.
def stringElement (text : List Char) : Xml.Node :=
  .element ⟨none, "string".toList⟩ [(⟨none, "name".toList⟩, ['a'])] [.text text]

-- The first placeholder is cut short, and the second has a literal percent sign before it.
theorem escaped_percent_parameterized :
    ∃ v, resource? (stringElement "%1%% %%%2$s".toList) = some v ∧ v.parameterized := by
  have ht : (stringElement "%1%% %%%2$s".toList).localName? = some "string".toList := rfl
  obtain ⟨v, hv, -, -, hm⟩ := string_parameterized_iff ht (by decide)
  have hd : ∀ d ∈ ['2'], Text.isDecimal d := List.forall_mem_singleton.mpr (by decide)
  have hc : Converts (['2'] ++ ['$', 's']) := .position (by decide) hd (by decide)
  exact ⟨v, hv, hm.mpr (.inr (.inl hc))⟩

end TypedResources.Definition
