import TypedResources.Disk.Path
import TypedResources.Proofs.Naming

-- Components of paths. A text without slashes is told from the component that it becomes
-- (`pointsOf_component`), and no component is the text of an anchor (`IsWritten.anchor_not_mem`).

namespace TypedResources.Path

open Text (Point Points)

variable {p : Path} {text : Points} {a : Anchor}

theorem toNat_mark (n : Fin 0x800) : (Char.ofNat (0xE000 + n.val)).toNat = 0xE000 + n.val := by
  have h : (0xE000 + n.val).isValidChar := .inr ⟨by omega, by omega⟩
  rw [Char.ofNat, dif_pos h]
  rfl

theorem go_flatMap_mark (h : .char '/' ∉ text) : pointsOf.go (text.flatMap mark) = text := by
  induction text
  case nil             => rfl
  case cons point text ih =>
    obtain ⟨hp, ht⟩ := not_or.mp (mt List.mem_cons.mpr h)
    cases point
    case half n =>
      have hn : 0xE000 ≤ 0xE000 + n.val ∧ 0xE000 + n.val < 0xE800 := by omega
      have hf : Point.halfAt (0xE000 + n.val - 0xE000) = .half n := by
        rw [Nat.add_sub_cancel_left, Point.halfAt]
        exact congrArg Point.half (Fin.ext (Nat.mod_eq_of_lt n.isLt))
      rw [List.flatMap_cons, mark, List.cons_append, List.singleton_append, pointsOf.go, toNat_mark,
        if_pos (by simpa using hn), hf, ih ht]
    case char c =>
      have hc : c ≠ '/' := fun he => hp (he ▸ rfl)
      rw [List.flatMap_cons, mark, List.singleton_append, pointsOf.go.eq_def]
      split
      case h_1 he => cases he
      case h_2 he => exact absurd (List.cons.inj he).left hc
      case h_3 he => rw [← (List.cons.inj he).left, ← (List.cons.inj he).right, ih ht]

theorem pointsOf_component (h : .char '/' ∉ text) : pointsOf (component text) = text := by
  rw [pointsOf, component, String.toList_ofList, go_flatMap_mark h]

-- The path is what some text is read as.
def IsWritten (p : Path) : Prop :=
  ∃ text, ofPoints text = p

theorem IsWritten.exists_component (h : p.IsWritten) {part : String} (hp : part ∈ p.parts) :
    ∃ text, .char '/' ∉ text ∧ component text = part := by
  obtain ⟨text, rfl⟩ := h
  obtain ⟨piece, hm, rfl⟩ := List.mem_map.mp (List.mem_of_mem_filter hp)
  exact ⟨piece, fun hs => by simpa using Text.not_mem_of_mem_splitAll hm _ hs, rfl⟩

theorem IsWritten.anchor_not_mem (h : p.IsWritten) (ha : a ≠ .relative) : a.text ∉ p.parts := by
  intro hm
  obtain ⟨text, hs, he⟩ := h.exists_component hm
  have hp := congrArg pointsOf he
  rw [pointsOf_component hs] at hp
  refine hs (hp ▸ ?_)
  cases a
  case relative => contradiction
  all_goals decide

end TypedResources.Path
