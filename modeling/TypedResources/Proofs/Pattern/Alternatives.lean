import Mathlib.Data.List.Perm.Basic
import TypedResources.Proofs.Pattern.Reads

-- Several patterns searched for at once. Where their occurrences never overlap, a search for any of
-- them finds, from left to right, what searches for each of them find (`occurrences_anyOf_perm`).

namespace TypedResources.Pattern

variable {ι : Type} {a b p : Pattern ι} {ps : List (Pattern ι)} {before : Option Char} {text rest : List Char} {i n : Nat}
  {o : Occurrence ι}

def anyOf : List (Pattern ι) → Pattern ι
  | []      => one fun _ => false
  | p :: ps => alt p (anyOf ps)

-- No text without characters fits.
def Solid (p : Pattern ι) : Prop :=
  ∀ w kept, p.Reads w kept → w ≠ []

-- Where the first pattern is found, the second one is not found up to the end of what was found.
def Excludes (a b : Pattern ι) : Prop :=
  ∀ before rest i o, a.occurrenceAt? before rest i = some o → ∀ k < o.text.length,
    b.occurrenceAt? ((rest.take k).getLast?.or before) (rest.drop k) (i + k) = none

def Apart (a b : Pattern ι) : Prop :=
  Excludes a b ∧ Excludes b a

theorem occurrenceAt?_of_solid (hp : p.Solid) : p.occurrenceAt? before rest i =
    (p.run ⟨before, rest, i, []⟩ some).map fun t => ⟨i, Place.upTo ⟨before, rest, i, []⟩ t, t.kept⟩ := by
  unfold occurrenceAt?
  dsimp only
  cases hr : p.run ⟨before, rest, i, []⟩ some
  case none   => rfl
  case some t =>
    rw [run_eq_findSome?] at hr
    have ⟨t', hm, he⟩ := List.exists_of_findSome?_eq_some hr
    cases he
    have ⟨w, kept, hw, hl⟩ := reads_of_mem_ends hm
    exact if_neg (hl.upTo.symm ▸ hp w kept hw)

theorem solid_alt (ha : a.Solid) (hb : b.Solid) : (alt a b).Solid := by
  rintro w kept (h | h)
  case inl => exact ha w kept h
  case inr => exact hb w kept h

theorem solid_anyOf (h : ∀ p ∈ ps, Solid p) : (anyOf ps).Solid := by
  induction ps
  case nil          => rintro w kept ⟨⟨c, hc, -⟩, -⟩; cases hc
  case cons p ps ih =>
    have ⟨hp, hps⟩ := List.forall_mem_cons.mp h
    exact solid_alt hp (ih hps)

theorem occurrenceAt?_alt (ha : a.Solid) (hb : b.Solid) : (alt a b).occurrenceAt? before rest i =
    (a.occurrenceAt? before rest i).or (b.occurrenceAt? before rest i) := by
  rw [occurrenceAt?_of_solid ha, occurrenceAt?_of_solid hb, occurrenceAt?_of_solid (solid_alt ha hb), run]
  cases a.run ⟨before, rest, i, []⟩ some <;> rfl

theorem occurrenceAt?_anyOf (h : ∀ p ∈ ps, Solid p) :
    (anyOf ps).occurrenceAt? before rest i = ps.findSome? (·.occurrenceAt? before rest i) := by
  induction ps
  case nil =>
    unfold occurrenceAt? anyOf run advance
    cases rest <;> rfl
  case cons p ps ih =>
    obtain ⟨hp, hps⟩ := List.forall_mem_cons.mp h
    rw [anyOf, occurrenceAt?_alt hp (solid_anyOf hps), ih hps, List.findSome?_cons]
    cases p.occurrenceAt? before rest i <;> rfl

theorem apart_anyOf (h : ∀ p ∈ ps, Solid p) (hp : ∀ q ∈ ps, Apart p q) : Apart p (anyOf ps) := by
  constructor
  case left =>
    intro before rest i o ho k hk
    rw [occurrenceAt?_anyOf h]
    exact List.findSome?_eq_none_iff.mpr fun q hq => (hp q hq).1 before rest i o ho k hk
  case right =>
    intro before rest i o ho k hk
    rw [occurrenceAt?_anyOf h] at ho
    obtain ⟨q, hq, ho⟩ := List.exists_of_findSome?_eq_some ho
    exact (hp q hq).2 before rest i o ho k hk

def foundIn (pieces : List (Piece ι)) : List (Occurrence ι) :=
  pieces.filterMap fun
    | .found o => some o
    | .plain _ => none

-- A search that finds nothing on a stretch can leave it out.
theorem foundIn_go_skip (h : ∀ k < n, p.occurrenceAt? ((text.take k).getLast?.or before) (text.drop k) (i + k) = none) :
    foundIn (cut.go p before i 0 text) = foundIn (cut.go p before i n text) := by
  induction n generalizing before i text
  case zero      => rfl
  case succ n ih =>
    cases text
    case nil      => rfl
    case cons c t =>
      have hnone : p.occurrenceAt? before (c :: t) i = none := h 0 n.succ_pos
      rw [cut.go, cut.go, hnone]
      refine ih fun k hk => ?_
      have := h (k + 1) (Nat.succ_lt_succ hk)
      rwa [List.take_succ_cons, getLast?_cons_or, List.drop_succ_cons, Nat.add_comm k 1, ← Nat.add_assoc] at this

theorem foundIn_go_alt_perm (ha : a.Solid) (hb : b.Solid) (h : Apart a b) (skip : Nat) :
    (foundIn (cut.go (alt a b) before i skip text)).Perm
      (foundIn (cut.go a before i skip text) ++ foundIn (cut.go b before i skip text)) := by
  induction text generalizing before i skip
  case nil         => exact .nil
  case cons c t ih =>
    cases skip
    case succ skip => exact ih skip
    case zero =>
      have hskip {p : Pattern ι} {o : Occurrence ι} (hne : o.text ≠ []) (hp : ∀ k < o.text.length,
          p.occurrenceAt? (((c :: t).take k).getLast?.or before) ((c :: t).drop k) (i + k) = none) :
          foundIn (cut.go p before i 0 (c :: t)) = foundIn (cut.go p (some c) (i + 1) (o.text.length - 1) t) := by
        obtain ⟨n, hn⟩ := Nat.exists_eq_succ_of_ne_zero (mt List.length_eq_zero_iff.mp hne)
        rw [foundIn_go_skip hp, hn]
        rfl
      cases hoa : a.occurrenceAt? before (c :: t) i
      case some o =>
        have hob := hskip (text_of_occurrenceAt? hoa).1 (h.1 before (c :: t) i o hoa)
        rw [hob, cut.go, cut.go, occurrenceAt?_alt ha hb, hoa]
        exact (ih _).cons o
      case none =>
        cases hob : b.occurrenceAt? before (c :: t) i
        case none =>
          rw [cut.go, cut.go, cut.go, occurrenceAt?_alt ha hb, hoa, hob]
          exact ih 0
        case some o =>
          have hoa' := hskip (text_of_occurrenceAt? hob).1 (h.2 before (c :: t) i o hob)
          rw [hoa', cut.go, cut.go, occurrenceAt?_alt ha hb, hoa, hob]
          exact ((ih _).cons o).trans List.perm_middle.symm

theorem occurrences_anyOf_perm (h : ∀ p ∈ ps, Solid p) (hp : ps.Pairwise Apart) :
    ((anyOf ps).occurrences text).Perm (ps.flatMap (·.occurrences text)) := by
  induction ps
  case nil =>
    have hnil : (anyOf ([] : List (Pattern ι))).occurrences text = [] := by
      refine List.eq_nil_iff_forall_not_mem.mpr fun o ho => ?_
      obtain ⟨⟨c, hc, -⟩, -⟩ := reads_of_mem_occurrences ho
      cases hc
    rw [hnil]
    exact .nil
  case cons p ps ih =>
    have ⟨hs, hps⟩ := List.forall_mem_cons.mp h
    have ⟨hap, hpw⟩ := List.pairwise_cons.mp hp
    rw [List.flatMap_cons]
    exact (foundIn_go_alt_perm hs (solid_anyOf hps) (apart_anyOf hps hap) 0).trans ((ih hps hpw).append_left _)

end TypedResources.Pattern
