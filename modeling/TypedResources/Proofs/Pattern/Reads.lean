import Mathlib.Data.List.Basic
import TypedResources.Pattern.Search

-- The texts that a pattern reads, whatever stands around them. Every end that the search finds is
-- reached over such a text (`reads_of_mem_ends`), and so is every occurrence
-- (`reads_of_mem_occurrences`), which stands in the searched text where it says.

namespace TypedResources

namespace Pattern

variable {ι : Type} {a p : Pattern ι} {s t : Place ι} {w text : List Char} {kept : List (ι × List Char)}
  {c : Char → Bool} {o o' : Occurrence ι}

-- One text of a relation after another, with the parts that they keep, the latest first.
inductive Repeats (R : List Char → List (ι × List Char) → Prop) : List Char → List (ι × List Char) → Prop
  | nil : Repeats R [] []
  | cons {u v ku kv} (hu : R u ku) (hv : Repeats R v kv) : Repeats R (u ++ v) (kv ++ ku)

-- The texts that fit a pattern somewhere. The conditions on what stands around are left out.
def Reads : Pattern ι → List Char → List (ι × List Char) → Prop
  | empty,      w, kept => w = [] ∧ kept = []
  | one p,      w, kept => (∃ c, p c ∧ w = [c]) ∧ kept = []
  | seq a b,    w, kept => ∃ u v ku kv, a.Reads u ku ∧ b.Reads v kv ∧ w = u ++ v ∧ kept = kv ++ ku
  | alt a b,    w, kept => a.Reads w kept ∨ b.Reads w kept
  | many a,     w, kept => Repeats a.Reads w kept
  | manyLazy a, w, kept => Repeats a.Reads w kept
  | keep i a,   w, kept => ∃ ku, a.Reads w ku ∧ kept = (i, w) :: ku
  | notAfter _, w, kept => w = [] ∧ kept = []
  | border _,   w, kept => w = [] ∧ kept = []
  | atEnd,      w, kept => w = [] ∧ kept = []

-- The second place is reached from the first over a text, keeping parts of it.
structure Leads (s : Place ι) (w : List Char) (kept : List (ι × List Char)) (t : Place ι) : Prop where
  rest  : s.rest = w ++ t.rest
  index : t.index = s.index + w.length
  kept  : t.kept = kept ++ s.kept

namespace Leads

theorem refl (s : Place ι) : Leads s [] [] s :=
  ⟨rfl, rfl, rfl⟩

theorem trans {m : Place ι} {u v : List Char} {ku kv : List (ι × List Char)} (h₁ : Leads s u ku m)
    (h₂ : Leads m v kv t) : Leads s (u ++ v) (kv ++ ku) t where
  rest  := by rw [h₁.rest, h₂.rest, List.append_assoc]
  index := by rw [h₂.index, h₁.index, List.length_append, Nat.add_assoc]
  kept  := by rw [h₂.kept, h₁.kept, List.append_assoc]

theorem upTo (h : Leads s w kept t) : s.upTo t = w := by
  rw [Place.upTo, h.rest, h.index, Nat.add_sub_cancel_left, List.take_left]

end Leads

theorem repeats_of_mem_iterate {R : List Char → List (ι × List Char) → Prop} {greedy : Bool}
    {step : Place ι → List (Place ι)} (hstep : ∀ s, ∀ t ∈ step s, ∃ w kept, R w kept ∧ Leads s w kept t)
    {ahead : List Char} (h : t ∈ iterate greedy step ahead s) : ∃ w kept, Repeats R w kept ∧ Leads s w kept t := by
  induction ahead generalizing s
  case nil =>
    cases List.mem_singleton.mp h
    exact ⟨[], [], .nil, .refl _⟩
  case cons _ ahead ih =>
    have hm : t = s ∨ t ∈ ((step s).filter fun t => s.index < t.index).flatMap (iterate greedy step ahead) := by
      simp only [iterate] at h
      split at h
      case isTrue  => simpa [or_comm] using h
      case isFalse => simpa using h
    rcases hm with rfl | hm
    case inl => exact ⟨[], [], .nil, .refl _⟩
    case inr =>
      obtain ⟨m, hm, ht⟩ := List.mem_flatMap.mp hm
      obtain ⟨u, ku, hu, hl⟩ := hstep s m (List.mem_filter.mp hm).left
      obtain ⟨v, kv, hv, hl'⟩ := ih ht
      exact ⟨u ++ v, kv ++ ku, .cons hu hv, hl.trans hl'⟩

theorem reads_of_mem_ends (h : t ∈ p.ends s) : ∃ w kept, p.Reads w kept ∧ Leads s w kept t := by
  induction p generalizing s t
  case empty =>
    cases List.mem_singleton.mp h
    exact ⟨[], [], ⟨rfl, rfl⟩, .refl _⟩
  case one c =>
    simp only [ends, Option.mem_toList, advance] at h
    split at h
    case h_2 => cases h
    case h_1 d rest hr =>
      split at h
      case isFalse => cases h
      case isTrue hd =>
        cases h
        exact ⟨[d], [], ⟨⟨d, hd, rfl⟩, rfl⟩, hr, rfl, rfl⟩
  case seq a b iha ihb =>
    obtain ⟨m, hm, ht⟩ := List.mem_flatMap.mp h
    obtain ⟨u, ku, hu, hl⟩ := iha hm
    obtain ⟨v, kv, hv, hl'⟩ := ihb ht
    exact ⟨_, _, ⟨u, v, ku, kv, hu, hv, rfl, rfl⟩, hl.trans hl'⟩
  case alt a b iha ihb =>
    rcases List.mem_append.mp h with h | h
    case inl => obtain ⟨w, kept, hw, hl⟩ := iha h; exact ⟨w, kept, .inl hw, hl⟩
    case inr => obtain ⟨w, kept, hw, hl⟩ := ihb h; exact ⟨w, kept, .inr hw, hl⟩
  case many a ih     => exact repeats_of_mem_iterate (fun _ _ => ih) h
  case manyLazy a ih => exact repeats_of_mem_iterate (fun _ _ => ih) h
  case keep i a ih =>
    obtain ⟨m, hm, rfl⟩ := List.mem_map.mp h
    obtain ⟨w, kept, hw, hl⟩ := ih hm
    refine ⟨w, (i, w) :: kept, ⟨kept, hw, rfl⟩, hl.rest, hl.index, ?_⟩
    rw [keeping, hl.upTo, hl.kept, List.cons_append]
  case notAfter c =>
    simp only [ends] at h
    split at h
    case isTrue  => cases h
    case isFalse => cases List.mem_singleton.mp h; exact ⟨[], [], ⟨rfl, rfl⟩, .refl _⟩
  case border c =>
    simp only [ends] at h
    split at h
    case isTrue  => cases List.mem_singleton.mp h; exact ⟨[], [], ⟨rfl, rfl⟩, .refl _⟩
    case isFalse => cases h
  case atEnd =>
    simp only [ends] at h
    split at h
    case isTrue  => cases List.mem_singleton.mp h; exact ⟨[], [], ⟨rfl, rfl⟩, .refl _⟩
    case isFalse => cases h

theorem reads_of_occurrenceAt? {before : Option Char} {rest : List Char} {i : Nat}
    (h : p.occurrenceAt? before rest i = some o) : o.start = i ∧ p.Reads o.text o.kept ∧ o.text <+: rest := by
  unfold occurrenceAt? at h
  dsimp only at h
  split at h
  case h_2 => cases h
  case h_1 t ht =>
    split at h
    case isTrue  => cases h
    case isFalse =>
      cases h
      rw [run_eq_findSome?] at ht
      have ⟨t', hm, he⟩ := List.exists_of_findSome?_eq_some ht
      cases he
      have ⟨w, kept, hw, hl⟩ := reads_of_mem_ends hm
      have hk : t.kept = kept := hl.kept.trans (List.append_nil _)
      rw [hl.upTo, hk]
      exact ⟨rfl, hw, t.rest, hl.rest.symm⟩

theorem of_cut_go_eq {before : Option Char} {i skip : Nat} {l r : List (Piece ι)}
    (h : cut.go p before i skip text = l ++ .found o :: r) :
    o.start = i + min skip text.length + (l.flatMap Piece.text).length ∧ p.Reads o.text o.kept := by
  induction text generalizing before i skip l
  case nil           => rw [cut.go] at h; simp at h
  case cons d rest ih =>
    cases skip
    case succ skip =>
      obtain ⟨hs, hr⟩ := ih h
      refine ⟨?_, hr⟩
      rw [hs, List.length_cons]
      omega
    case zero =>
      rw [cut.go] at h
      split at h
      case h_2 =>
        cases l
        case nil      => cases h
        case cons x l =>
          obtain ⟨rfl, hl⟩ := List.cons.inj h
          obtain ⟨hs, hr⟩ := ih hl
          refine ⟨?_, hr⟩
          rw [hs, List.flatMap_cons, List.length_append, Piece.text, List.length_singleton]
          omega
      case h_1 o' ho =>
        obtain ⟨hi, hr, hpre⟩ := reads_of_occurrenceAt? ho
        cases l
        case nil      => cases h; exact ⟨by simp [hi], hr⟩
        case cons x l =>
          obtain ⟨rfl, hl⟩ := List.cons.inj h
          obtain ⟨hs, hr⟩ := ih hl
          have hlen := hpre.length_le
          have hpos := List.length_pos_iff.mpr (text_of_occurrenceAt? ho).left
          refine ⟨?_, hr⟩
          rw [List.length_cons] at hlen
          rw [hs, List.flatMap_cons, List.length_append, Piece.text]
          omega

-- Where an occurrence stands in a text: behind the pieces that come before it.
theorem of_cut_eq {l r : List (Piece ι)} (h : p.cut text = l ++ .found o :: r) :
    o.start = (l.flatMap Piece.text).length ∧ p.Reads o.text o.kept := by
  simpa using of_cut_go_eq h

theorem mem_occurrences_of_cut {l r : List (Piece ι)} (h : p.cut text = l ++ .found o :: r) : o ∈ p.occurrences text :=
  List.mem_filterMap.mpr ⟨.found o, by simp [h], rfl⟩

theorem exists_cut_of_mem_occurrences (h : o ∈ p.occurrences text) :
    ∃ l r, p.cut text = l ++ .found o :: r := by
  have ⟨x, hx, he⟩ := List.mem_filterMap.mp h
  cases x
  case plain => cases he
  case found => cases he; exact List.append_of_mem hx

theorem reads_of_mem_occurrences (h : o ∈ p.occurrences text) : p.Reads o.text o.kept :=
  have ⟨_, _, hc⟩ := exists_cut_of_mem_occurrences h
  (of_cut_eq hc).right

theorem stop_le_start {l m r : List (Piece ι)} (h : p.cut text = l ++ .found o :: (m ++ .found o' :: r)) :
    o.stop ≤ o'.start := by
  have h' : p.cut text = (l ++ .found o :: m) ++ .found o' :: r := by simp [h]
  rw [Occurrence.stop, (of_cut_eq h).left, (of_cut_eq h').left]
  simp [Piece.text]

-- Occurrences do not overlap.
theorem apart_of_mem_occurrences (ho : o ∈ p.occurrences text) (ho' : o' ∈ p.occurrences text) (hne : o ≠ o') :
    o.stop ≤ o'.start ∨ o'.stop ≤ o.start := by
  obtain ⟨l, r, hc⟩ := exists_cut_of_mem_occurrences ho
  obtain ⟨l', r', hc'⟩ := exists_cut_of_mem_occurrences ho'
  have hm : .found o' ∈ l ++ .found o :: r := by simp [← hc, hc']
  rcases List.mem_append.mp hm with hl | hr
  case inl =>
    obtain ⟨x, y, rfl⟩ := List.append_of_mem hl
    rw [List.append_assoc, List.cons_append] at hc
    exact .inr (stop_le_start hc)
  case inr =>
    rcases List.mem_cons.mp hr with he | hr
    case inl => exact absurd (Piece.found.inj he).symm hne
    case inr =>
      obtain ⟨x, y, rfl⟩ := List.append_of_mem hr
      exact .inl (stop_le_start hc)

theorem getLast?_cons_or (d : Char) (w : List Char) (before : Option Char) :
    (d :: w).getLast?.or before = w.getLast?.or (some d) := by
  rw [List.getLast?_cons]
  cases w.getLast? <;> rfl

theorem occurrenceAt?_of_cut_go_eq {before : Option Char} {i skip : Nat} {l r : List (Piece ι)}
    (h : cut.go p before i skip text = l ++ .found o :: r) : ∃ rest,
      p.occurrenceAt? ((text.take skip ++ l.flatMap Piece.text).getLast?.or before) rest o.start = some o := by
  induction text generalizing before i skip l
  case nil           => rw [cut.go] at h; simp at h
  case cons d rest ih =>
    cases skip
    case succ skip =>
      rw [List.take_succ_cons, List.cons_append, getLast?_cons_or]
      exact ih h
    case zero =>
      rw [cut.go] at h
      split at h
      case h_2 =>
        cases l
        case nil      => cases h
        case cons x l =>
          obtain ⟨rfl, hl⟩ := List.cons.inj h
          rw [List.take_zero, List.nil_append, List.flatMap_cons, Piece.text, List.singleton_append, getLast?_cons_or]
          simpa using ih hl
      case h_1 o' ho =>
        cases l
        case nil =>
          cases h
          exact ⟨d :: rest, by rwa [(reads_of_occurrenceAt? ho).left]⟩
        case cons x l =>
          obtain ⟨rfl, hl⟩ := List.cons.inj h
          obtain ⟨hne, ht⟩ := text_of_occurrenceAt? ho
          obtain ⟨n, hn⟩ := Nat.exists_eq_succ_of_ne_zero (mt List.length_eq_zero_iff.mp hne)
          rw [hn, List.take_succ_cons] at ht
          obtain ⟨t, hr⟩ := ih hl
          refine ⟨t, ?_⟩
          rw [hn, Nat.succ_sub_one] at hr
          rwa [List.take_zero, List.nil_append, List.flatMap_cons, Piece.text, ht, List.cons_append, getLast?_cons_or]

-- An occurrence is found right behind the pieces that come before it.
theorem occurrenceAt?_of_cut_eq {l r : List (Piece ι)} (h : p.cut text = l ++ .found o :: r) :
    ∃ rest, p.occurrenceAt? (l.flatMap Piece.text).getLast? rest o.start = some o := by
  simpa using occurrenceAt?_of_cut_go_eq h

-- A pattern that begins with a condition on the character before it is found only where that holds.
theorem not_of_occurrenceAt? {q : Char → Bool} {ps qs : List (Pattern ι)} {before : Option Char} {rest : List Char} {i : Nat}
    (h : (all (all (notAfter q :: ps) :: qs)).occurrenceAt? before rest i = some o) : ∀ c ∈ before, q c = false := by
  unfold occurrenceAt? at h
  dsimp only at h
  split at h
  case h_2 => cases h
  case h_1 t ht =>
    rw [run_eq_findSome?] at ht
    have ⟨t', hm, _⟩ := List.exists_of_findSome?_eq_some ht
    have ⟨m, hm, _⟩ := List.mem_flatMap.mp hm
    have ⟨m', hm, _⟩ := List.mem_flatMap.mp hm
    intro c hc
    by_contra hq
    have ha : isAfter q (⟨before, rest, i, []⟩ : Place ι) = true := by simp_all [isAfter]
    rw [ends, if_pos ha] at hm
    cases hm

theorem isBorder_of_occurrenceAt? {q : Char → Bool} {ps : List (Pattern ι)} {before : Option Char}
    {rest : List Char} {i : Nat}
    (h : (all (border q :: ps)).occurrenceAt? before rest i = some o) : isBorder q (⟨before, rest, i, []⟩ : Place ι) := by
  unfold occurrenceAt? at h
  dsimp only at h
  split at h
  case h_2 => cases h
  case h_1 t ht =>
    rw [run_eq_findSome?] at ht
    have ⟨t', hm, _⟩ := List.exists_of_findSome?_eq_some ht
    have ⟨m, hm, _⟩ := List.mem_flatMap.mp hm
    by_contra hb
    rw [ends, if_neg hb] at hm
    cases hm

theorem reads_one_iff : (one c : Pattern ι).Reads w kept ↔ (∃ d, c d ∧ w = [d]) ∧ kept = [] :=
  .rfl

@[simp]
theorem reads_char_iff {d : Char} : (char d : Pattern ι).Reads w kept ↔ w = [d] ∧ kept = [] := by
  simp [char, Reads]

@[simp]
theorem reads_word_iff {s : String} : (word s : Pattern ι).Reads w kept ↔ w = s.toList ∧ kept = [] := by
  rw [word]
  induction s.toList generalizing w kept
  case nil         => exact .rfl
  case cons d l ih =>
    simp only [List.foldr_cons, Reads, reads_char_iff, ih]
    constructor
    case mp  => rintro ⟨_, _, _, _, ⟨rfl, rfl⟩, ⟨rfl, rfl⟩, rfl, rfl⟩; exact ⟨rfl, rfl⟩
    case mpr => rintro ⟨rfl, rfl⟩; exact ⟨_, _, _, _, ⟨rfl, rfl⟩, ⟨rfl, rfl⟩, rfl, rfl⟩

@[simp]
theorem reads_many_one_iff : (many (one c) : Pattern ι).Reads w kept ↔ (∀ d ∈ w, c d) ∧ kept = [] := by
  constructor
  case mp =>
    intro h
    induction h with
    | nil            => exact ⟨nofun, rfl⟩
    | cons hu hv ih =>
      obtain ⟨⟨d, hd, rfl⟩, rfl⟩ := hu
      exact ⟨List.forall_mem_cons.mpr ⟨hd, ih.left⟩, by rw [ih.right]; rfl⟩
  case mpr =>
    rintro ⟨h, rfl⟩
    induction w
    case nil         => exact .nil
    case cons d w ih =>
      have ⟨hd, hw⟩ := List.forall_mem_cons.mp h
      have hone : (one c : Pattern ι).Reads [d] [] := ⟨⟨d, hd, rfl⟩, rfl⟩
      exact .cons hone (ih hw)

@[simp]
theorem reads_blanks_iff : (blanks : Pattern ι).Reads w kept ↔ (∀ d ∈ w, Text.isBlank d) ∧ kept = [] :=
  reads_many_one_iff

theorem reads_seq_iff {b : Pattern ι} : (seq a b).Reads w kept ↔
    ∃ u v ku kv, a.Reads u ku ∧ b.Reads v kv ∧ w = u ++ v ∧ kept = kv ++ ku :=
  .rfl

theorem reads_many1_one_iff : (many1 (one c) : Pattern ι).Reads w kept ↔ (w ≠ [] ∧ ∀ d ∈ w, c d) ∧ kept = [] := by
  rw [many1, reads_seq_iff]
  simp only [reads_one_iff, reads_many_one_iff]
  constructor
  case mp =>
    rintro ⟨_, _, _, _, ⟨⟨d, hd, rfl⟩, rfl⟩, ⟨hw, rfl⟩, rfl, rfl⟩
    exact ⟨⟨List.cons_ne_nil _ _, List.forall_mem_cons.mpr ⟨hd, hw⟩⟩, rfl⟩
  case mpr =>
    rintro ⟨⟨hne, hw⟩, rfl⟩
    obtain ⟨d, w, rfl⟩ := List.exists_cons_of_ne_nil hne
    have ⟨hd, hw⟩ := List.forall_mem_cons.mp hw
    exact ⟨[d], w, [], [], ⟨⟨d, hd, rfl⟩, rfl⟩, ⟨hw, rfl⟩, rfl, rfl⟩

@[simp]
theorem reads_wordChars_iff : (wordChars : Pattern ι).Reads w kept ↔
    (w ≠ [] ∧ ∀ d ∈ w, Text.isWord d) ∧ kept = [] :=
  reads_many1_one_iff

theorem reads_opt_iff : (opt a).Reads w kept ↔ a.Reads w kept ∨ w = [] ∧ kept = [] :=
  .rfl

@[simp]
theorem reads_all_nil : (all [] : Pattern ι).Reads w kept ↔ w = [] ∧ kept = [] :=
  .rfl

theorem reads_all_cons {ps : List (Pattern ι)} : (all (p :: ps)).Reads w kept ↔
    ∃ u v ku kv, p.Reads u ku ∧ (all ps).Reads v kv ∧ w = u ++ v ∧ kept = kv ++ ku :=
  .rfl

theorem reads_cons {ps : List (Pattern ι)} {u v : List Char} {ku kv : List (ι × List Char)} (hu : p.Reads u ku)
    (hv : (all ps).Reads v kv) : (all (p :: ps)).Reads (u ++ v) (kv ++ ku) :=
  ⟨u, v, ku, kv, hu, hv, rfl, rfl⟩

end Pattern

end TypedResources
