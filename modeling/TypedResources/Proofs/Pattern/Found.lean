import TypedResources.Proofs.Pattern.Alternatives

-- What a pattern reads is found. A pattern without conditions on what stands around it has an end
-- behind every text that it reads (`exists_mem_ends`), and a pattern that reads no empty text occurs at a
-- place as soon as it has any end there (`isSome_occurrenceAt?_iff`). A search finds something exactly if
-- the pattern occurs at some place of the text (`isSome_search?_iff`), and what occurs at a place is found
-- there unless an occurrence that begins before reaches into it (`exists_go_iff`).

namespace TypedResources.Pattern

variable {ι : Type} {a b p : Pattern ι} {ps qs : List (Pattern ι)} {s : Place ι} {u v w text : List Char}
  {kept : List (ι × List Char)} {q : Char → Bool} {before : Option Char} {i : Nat}

-- No condition is set on what stands around.
def isFree : Pattern ι → Bool
  | empty | one _                   => true
  | seq a b | alt a b               => a.isFree && b.isFree
  | many a | manyLazy a | keep _ a  => a.isFree
  | notAfter _ | border _ | atEnd   => false

-- The text that is ahead of a place is passed, whatever parts are kept on the way.
def Passes (s : Place ι) (w : List Char) (ts : List (Place ι)) : Prop :=
  ∃ t ∈ ts, ∃ kept, Leads s w kept t

theorem mem_iterate_self {greedy : Bool} {step : Place ι → List (Place ι)} (ahead : List Char) (s : Place ι) :
    s ∈ iterate greedy step ahead s := by
  cases ahead
  case nil  => exact List.mem_singleton_self s
  case cons => unfold iterate; dsimp only; split <;> simp

theorem passes_iterate {R : List Char → List (ι × List Char) → Prop} {greedy : Bool}
    {step : Place ι → List (Place ι)} (hstep : ∀ s u ku, R u ku → u <+: s.rest → Passes s u (step s))
    (h : Repeats R w kept) {ahead : List Char} (hw : w <+: s.rest) (hlen : w.length ≤ ahead.length) :
    Passes s w (iterate greedy step ahead s) := by
  induction h generalizing s ahead with
  | nil => exact ⟨s, mem_iterate_self ahead s, [], .refl s⟩
  | @cons u v ku kv hu _ ih =>
    -- A repetition that reads nothing is left out, and any other one uses up some of the text ahead.
    by_cases hne : u = []
    case pos => subst hne; exact ih hw hlen
    case neg =>
      have hpos := List.length_pos_iff.mpr hne
      obtain ⟨m, hm, k, hl⟩ := hstep s u ku hu ((List.prefix_append u v).trans hw)
      have hv : v <+: m.rest := (List.prefix_append_right_inj u).mp (hl.rest ▸ hw)
      obtain ⟨c, ahead, rfl⟩ := List.exists_cons_of_length_pos (l := ahead) (by rw [List.length_append] at hlen; omega)
      have hle : v.length ≤ ahead.length := by
        rw [List.length_append, List.length_cons] at hlen
        omega
      obtain ⟨t, ht, k', hl'⟩ := ih hv hle
      have hmore : t ∈ ((step s).filter fun t => s.index < t.index).flatMap (iterate greedy step ahead) :=
        List.mem_flatMap.mpr ⟨m, List.mem_filter.mpr ⟨hm, by simp [hl.index, hpos]⟩, ht⟩
      refine ⟨t, ?_, _, hl.trans hl'⟩
      unfold iterate
      dsimp only
      split
      case isTrue  => exact List.mem_append_left _ hmore
      case isFalse => exact List.mem_cons_of_mem _ hmore

theorem exists_mem_ends (hp : p.isFree) (h : p.Reads w kept) (hw : w <+: s.rest) : Passes s w (p.ends s) := by
  induction p generalizing s w kept
  case empty =>
    obtain ⟨rfl, -⟩ := h
    exact ⟨s, List.mem_singleton_self s, [], .refl s⟩
  case one q =>
    obtain ⟨⟨c, hc, rfl⟩, -⟩ := h
    obtain ⟨rest, hr⟩ := hw
    refine ⟨⟨some c, rest, s.index + 1, s.kept⟩, ?_, [], hr.symm, rfl, rfl⟩
    rw [ends, advance, ← hr]
    simp [hc]
  case seq a b iha ihb =>
    obtain ⟨ha, hb⟩ := Bool.and_eq_true_iff.mp hp
    obtain ⟨u, v, ku, kv, hu, hv, rfl, -⟩ := h
    obtain ⟨m, hm, k, hl⟩ := iha ha hu ((List.prefix_append u v).trans hw)
    obtain ⟨t, ht, k', hl'⟩ := ihb hb hv ((List.prefix_append_right_inj u).mp (hl.rest ▸ hw))
    exact ⟨t, List.mem_flatMap.mpr ⟨m, hm, ht⟩, _, hl.trans hl'⟩
  case alt a b iha ihb =>
    obtain ⟨ha, hb⟩ := Bool.and_eq_true_iff.mp hp
    rcases h with h | h
    case inl => obtain ⟨t, ht, hl⟩ := iha ha h hw; exact ⟨t, List.mem_append_left _ ht, hl⟩
    case inr => obtain ⟨t, ht, hl⟩ := ihb hb h hw; exact ⟨t, List.mem_append_right _ ht, hl⟩
  case many a ih     => exact passes_iterate (fun _ _ _ => ih hp) h hw hw.length_le
  case manyLazy a ih => exact passes_iterate (fun _ _ _ => ih hp) h hw hw.length_le
  case keep i a ih =>
    obtain ⟨ku, hu, -⟩ := h
    obtain ⟨t, ht, k, hl⟩ := ih hp hu hw
    exact ⟨_, List.mem_map.mpr ⟨t, ht, rfl⟩, (i, s.upTo t) :: k, hl.rest, hl.index, by rw [keeping, hl.kept]; rfl⟩
  case notAfter => cases hp
  case border   => cases hp
  case atEnd    => cases hp

@[simp]
theorem isFree_seq : (seq a b).isFree = (a.isFree && b.isFree) :=
  rfl

@[simp]
theorem isFree_word (s : String) : (word s : Pattern ι).isFree := by
  rw [word]
  induction s.toList
  case nil         => rfl
  case cons c l ih => exact ih

@[simp]
theorem isFree_all : (all ps).isFree = ps.all isFree := by
  induction ps
  case nil         => rfl
  case cons p ps ih => exact congrArg (p.isFree && ·) ih

-- What is found at the beginning of a text is found first.
theorem head?_occurrences {o : Occurrence ι} (h : p.occurrenceAt? none text 0 = some o) :
    (p.occurrences text).head? = some o := by
  cases text
  case nil =>
    obtain ⟨hne, he⟩ := text_of_occurrenceAt? h
    exact absurd (he.trans List.take_nil) hne
  case cons c t =>
    rw [occurrences, cut, cut.go, h]
    rfl

theorem foundIn_go_ne_nil_iff : foundIn (cut.go p before i 0 text) ≠ [] ↔
    ∃ u v, text = u ++ v ∧ (p.occurrenceAt? (u.getLast?.or before) v (i + u.length)).isSome := by
  induction text generalizing before i
  case nil =>
    refine iff_of_false (fun h => h rfl) ?_
    rintro ⟨u, v, ht, ho⟩
    obtain ⟨o, ho⟩ := Option.isSome_iff_exists.mp ho
    obtain ⟨hne, he⟩ := text_of_occurrenceAt? ho
    rw [(List.append_eq_nil_iff.mp ht.symm).right, List.take_nil] at he
    exact hne he
  case cons c t ih =>
    rw [cut.go]
    cases ho : p.occurrenceAt? before (c :: t) i
    case some o => exact iff_of_true (List.cons_ne_nil _ _) ⟨[], c :: t, rfl, by simp [ho]⟩
    case none   =>
      refine ih.trans ?_
      constructor
      case mp  =>
        rintro ⟨u, v, rfl, hv⟩
        refine ⟨c :: u, v, rfl, ?_⟩
        rwa [getLast?_cons_or, List.length_cons, Nat.add_comm u.length, ← Nat.add_assoc]
      case mpr =>
        rintro ⟨u, v, ht, hv⟩
        cases u
        case nil      => simp [← show c :: t = v from ht, ho] at hv
        case cons d u =>
          obtain ⟨rfl, rfl⟩ := List.cons.inj ht
          refine ⟨u, v, rfl, ?_⟩
          rwa [getLast?_cons_or, List.length_cons, Nat.add_comm u.length, ← Nat.add_assoc] at hv

theorem isSome_search?_iff : (p.search? text).isSome ↔
    ∃ u v, text = u ++ v ∧ (p.occurrenceAt? u.getLast? v u.length).isSome := by
  have h : foundIn (cut.go p none 0 0 text) ≠ [] ↔ _ := foundIn_go_ne_nil_iff
  simp only [Option.or_none, Nat.zero_add] at h
  rw [← h, search?, List.isSome_head?]
  exact .rfl

theorem isSome_occurrenceAt?_iff (hp : p.Solid) :
    (p.occurrenceAt? before text i).isSome ↔ p.ends ⟨before, text, i, []⟩ ≠ [] := by
  rw [occurrenceAt?_of_solid hp, Option.isSome_map, run_eq_findSome?]
  cases p.ends ⟨before, text, i, []⟩ <;> simp

-- A text that begins with one that the pattern reads.
def Begins (p : Pattern ι) (text : List Char) : Prop :=
  ∃ w kept, p.Reads w kept ∧ w <+: text

theorem begins_all_nil : (all [] : Pattern ι).Begins text :=
  ⟨[], [], ⟨rfl, rfl⟩, List.nil_prefix⟩

theorem begins_all_cons_iff : (all (p :: ps)).Begins text ↔
    ∃ u v, text = u ++ v ∧ (∃ kept, p.Reads u kept) ∧ (all ps).Begins v := by
  constructor
  case mp  =>
    rintro ⟨w, kept, hw, v, rfl⟩
    obtain ⟨u, u', ku, kv, hu, hu', rfl, -⟩ := reads_all_cons.mp hw
    exact ⟨u, u' ++ v, List.append_assoc u u' v, ⟨ku, hu⟩, u', kv, hu', v, rfl⟩
  case mpr =>
    rintro ⟨u, v, rfl, ⟨ku, hu⟩, w, kv, hw, hv⟩
    exact ⟨u ++ w, kv ++ ku, reads_cons hu hw, (List.prefix_append_right_inj u).mpr hv⟩

-- Where a condition is set on the character before it alone, a pattern occurs as it is read.
theorem isSome_occurrenceAt?_iff_of_ends {q : Char → Bool} (hs : a.Solid) (hp : p.isFree)
    (he : ∀ s, a.ends s = if isAfter q s then [] else p.ends s) :
    (a.occurrenceAt? before text i).isSome ↔ (∀ c ∈ before, q c = false) ∧ p.Begins text := by
  have ha : isAfter q (⟨before, text, i, []⟩ : Place ι) = false ↔ ∀ c ∈ before, q c = false := by
    cases before <;> simp [isAfter]
  rw [isSome_occurrenceAt?_iff hs, he]
  split
  case isTrue h  => exact iff_of_false (fun hn => hn rfl) fun hc => by simp [ha.mpr hc.left] at h
  case isFalse h =>
    refine Iff.trans ?_ (and_iff_right (ha.mp (by simpa using h))).symm
    constructor
    case mp  =>
      intro hne
      obtain ⟨t, ht⟩ := List.exists_mem_of_ne_nil _ hne
      obtain ⟨w, kept, hw, hl⟩ := reads_of_mem_ends ht
      exact ⟨w, kept, hw, t.rest, hl.rest.symm⟩
    case mpr =>
      rintro ⟨w, kept, hw, ht⟩
      obtain ⟨t, hm, -⟩ := exists_mem_ends (s := ⟨before, text, i, []⟩) hp hw ht
      exact List.ne_nil_of_mem hm

theorem isSome_occurrenceAt?_notAfter_iff (hs : (all (notAfter q :: ps)).Solid) (hp : (all ps).isFree) :
    ((all (notAfter q :: ps)).occurrenceAt? before text i).isSome ↔
      (∀ c ∈ before, q c = false) ∧ (all ps).Begins text := by
  refine isSome_occurrenceAt?_iff_of_ends hs hp fun s => ?_
  show ((notAfter q).ends s).flatMap (all ps).ends = _
  rw [ends]
  split
  case isTrue  => rfl
  case isFalse => rw [List.flatMap_singleton]

-- The same with the condition in the first part of the pattern.
theorem isSome_occurrenceAt?_head_iff (hs : (all (all (notAfter q :: ps) :: qs)).Solid) (hp : (all (all ps :: qs)).isFree) :
    ((all (all (notAfter q :: ps) :: qs)).occurrenceAt? before text i).isSome ↔
      (∀ c ∈ before, q c = false) ∧ (all (all (notAfter q :: ps) :: qs)).Begins text := by
  have hall {u : List Char} {ku : List (ι × List Char)} : (all (notAfter q :: ps)).Reads u ku ↔ (all ps).Reads u ku := by
    rw [reads_all_cons]
    constructor
    case mp  => rintro ⟨_, v, _, kv, ⟨rfl, rfl⟩, hv, rfl, rfl⟩; simpa using hv
    case mpr => exact fun h => ⟨[], u, [], ku, ⟨rfl, rfl⟩, h, rfl, by simp⟩
  have hb : (all (all (notAfter q :: ps) :: qs)).Begins text ↔ (all (all ps :: qs)).Begins text := by
    simp only [begins_all_cons_iff, hall]
  rw [hb]
  refine isSome_occurrenceAt?_iff_of_ends hs hp fun s => ?_
  show (((notAfter q).ends s).flatMap (all ps).ends).flatMap (all qs).ends = _
  rw [ends]
  split
  case isTrue  => rfl
  case isFalse => rw [List.flatMap_singleton]; rfl

-- The search crosses a stretch at a place of a text, taking what it finds there as a whole.
inductive Crosses (p : Pattern ι) : Option Char → Nat → List Char → List Char → Prop
  | nil {before : Option Char} {i : Nat} {rest : List Char} : Crosses p before i [] rest
  | plain {before : Option Char} {i : Nat} {c : Char} {u rest : List Char}
      (h : p.occurrenceAt? before (c :: (u ++ rest)) i = none) (hu : Crosses p (some c) (i + 1) u rest) :
      Crosses p before i (c :: u) rest
  | found {before : Option Char} {i : Nat} {o : Occurrence ι} {u rest : List Char}
      (h : p.occurrenceAt? before (o.text ++ (u ++ rest)) i = some o)
      (hu : Crosses p (o.text.getLast?.or before) (i + o.text.length) u rest) : Crosses p before i (o.text ++ u) rest

theorem go_length (w : List Char) : cut.go p before i w.length (w ++ text) =
    cut.go p (w.getLast?.or before) (i + w.length) 0 text := by
  induction w generalizing before i
  case nil         => rfl
  case cons c w ih =>
    rw [List.length_cons, List.cons_append, cut.go, ih, getLast?_cons_or, Nat.add_right_comm, Nat.add_assoc]

theorem go_of_occurrenceAt? {o : Occurrence ι} (h : p.occurrenceAt? before (o.text ++ text) i = some o) :
    cut.go p before i 0 (o.text ++ text) = .found o :: cut.go p (o.text.getLast?.or before) (i + o.text.length) 0 text := by
  obtain ⟨c, w, hw⟩ := List.exists_cons_of_ne_nil (text_of_occurrenceAt? h).1
  rw [hw, List.cons_append] at h
  rw [hw, List.cons_append, cut.go, h, getLast?_cons_or, List.length_cons, Nat.add_comm w.length, ← Nat.add_assoc,
    ← go_length]
  simp only [hw, List.length_cons, Nat.add_sub_cancel]

-- The first piece of a text is what the pattern finds at its beginning, or a character.
theorem go_eq_cons {x : Piece ι} {l : List (Piece ι)} (h : cut.go p before i 0 text = x :: l) :
    (∃ c t, text = c :: t ∧ p.occurrenceAt? before (c :: t) i = none ∧ x = .plain c ∧ l = cut.go p (some c) (i + 1) 0 t) ∨
      ∃ o t, text = o.text ++ t ∧ p.occurrenceAt? before (o.text ++ t) i = some o ∧ x = .found o ∧
        l = cut.go p (o.text.getLast?.or before) (i + o.text.length) 0 t := by
  cases text
  case nil      => cases h
  case cons c t =>
    cases ho : p.occurrenceAt? before (c :: t) i
    case none =>
      rw [cut.go, ho] at h
      obtain ⟨rfl, rfl⟩ := List.cons.inj h
      exact .inl ⟨c, t, rfl, ho, rfl, rfl⟩
    case some o =>
      obtain ⟨-, -, u, hu⟩ := reads_of_occurrenceAt? ho
      rw [← hu] at h ho ⊢
      rw [go_of_occurrenceAt? ho] at h
      obtain ⟨rfl, rfl⟩ := List.cons.inj h
      exact .inr ⟨o, u, rfl, ho, rfl, rfl⟩

-- What is found behind a stretch is found where the search has crossed that.
theorem exists_go_iff {o : Occurrence ι} {start : List Char} :
    (∃ left right, cut.go p before i 0 text = left ++ .found o :: right ∧
      left.flatMap Piece.text = start) ↔
    ∃ rest, text = start ++ (o.text ++ rest) ∧ Crosses p before i start (o.text ++ rest) ∧
      p.occurrenceAt? (start.getLast?.or before) (o.text ++ rest) (i + start.length) = some o := by
  constructor
  case mp =>
    rintro ⟨left, right, h, rfl⟩
    induction left generalizing before i text
    case nil =>
      rcases go_eq_cons h with ⟨c, t, -, -, hx, -⟩ | ⟨o', t, rfl, ho, hx, -⟩ <;> cases hx
      exact ⟨t, rfl, .nil, ho⟩
    case cons x left ih =>
      rcases go_eq_cons h with ⟨c, t, rfl, ho, rfl, hl⟩ | ⟨o', t, rfl, ho, rfl, hl⟩
      case inl =>
        obtain ⟨rest, rfl, hc, hat⟩ := ih hl.symm
        refine ⟨rest, rfl, .plain ho hc, ?_⟩
        rw [List.flatMap_cons, Piece.text, List.singleton_append, getLast?_cons_or, List.length_cons, Nat.add_comm _ 1,
          ← Nat.add_assoc]
        exact hat
      case inr =>
        obtain ⟨rest, rfl, hc, hat⟩ := ih hl.symm
        refine ⟨rest, by simp [Piece.text], .found ho hc, ?_⟩
        rw [List.flatMap_cons, Piece.text, List.getLast?_append, Option.or_assoc, List.length_append, ← Nat.add_assoc]
        exact hat
  case mpr =>
    rintro ⟨rest, rfl, hc, hat⟩
    generalize htail : o.text ++ rest = tail at hc hat ⊢
    induction hc with
    | nil =>
      subst htail
      exact ⟨[], _, go_of_occurrenceAt? hat, rfl⟩
    | @plain before i c u tail h _ ih =>
      rw [getLast?_cons_or, List.length_cons, Nat.add_comm u.length, ← Nat.add_assoc] at hat
      obtain ⟨left, right, hgo, rfl⟩ := ih htail hat
      exact ⟨.plain c :: left, right, by rw [List.cons_append, cut.go, h, hgo]; rfl, rfl⟩
    | @found before i o' u tail h _ ih =>
      rw [List.getLast?_append, Option.or_assoc, List.length_append, ← Nat.add_assoc] at hat
      obtain ⟨left, right, hgo, rfl⟩ := ih htail hat
      exact ⟨.found o' :: left, right, by rw [List.append_assoc, go_of_occurrenceAt? h, hgo]; rfl, rfl⟩

end TypedResources.Pattern
