import Mathlib.Data.List.Induction
import TypedResources.Proofs.Action

-- Changes that spare a place. What stands at a key and below it stays, apart from directories that are
-- made where nothing was (`Spares`). Writing a file does so for every place that the file is outside of.

namespace TypedResources

namespace Disk

variable {d d' d₁ d₂ d₃ : Disk} {k k' : Key} {p : Path} {content : Bytes} {time : Int} {name : String}

theorem keyOf_congr (h : d'.workingDir.key = d.workingDir.key) : d'.keyOf p = d.keyOf p := by
  have ho : (d'.origin p).key = (d.origin p).key := by
    unfold origin
    split
    case isTrue  => rfl
    case isFalse => exact h
  rw [keyOf, ho]
  rfl

structure Spares (k : Key) (d d' : Disk) : Prop where
  workingKey : d'.workingDir.key = d.workingDir.key
  node       : ∀ k', k <+: k' → d'.node? k' = d.node? k' ∨ d.node? k' = none ∧ d'.node? k' = some .dir

namespace Spares

theorem refl (k : Key) (d : Disk) : Spares k d d where
  workingKey := rfl
  node       := fun _ _ => .inl rfl

theorem trans (h₁ : Spares k d₁ d₂) (h₂ : Spares k d₂ d₃) : Spares k d₁ d₃ where
  workingKey := h₂.workingKey.trans h₁.workingKey
  node       := fun k' hk => by
    rcases h₁.node k' hk with h₁ | ⟨h₁, h₁'⟩ <;> rcases h₂.node k' hk with h₂ | ⟨h₂, h₂'⟩
    · exact .inl (h₂.trans h₁)
    · exact .inr ⟨h₁ ▸ h₂, h₂'⟩
    · exact .inr ⟨h₁, h₂.trans h₁'⟩
    · exact .inr ⟨h₁, h₂'⟩

theorem keyOf (h : Spares k d d') : d'.keyOf p = d.keyOf p :=
  keyOf_congr h.workingKey

-- The files of the place are the same as before.
theorem file_iff (h : Spares k d d') (hk : k <+: k') :
    d'.node? k' = some (.file content time) ↔ d.node? k' = some (.file content time) := by
  rcases h.node k' hk with h | ⟨h, h'⟩
  case inl => rw [h]
  case inr => simp [h, h']

end Spares

theorem Adds.spares (h : Adds d d') : Spares k d d' where
  workingKey := congrArg WorkingDir.key h.workingDir
  node       := fun k' _ => h.node k'

theorem writeBytes_spares (h : d.writeBytes p content time = .ok d') (hk : ¬k <+: d.keyOf p) : Spares k d d' := by
  obtain ⟨key, hl, _, rfl⟩ := writeBytes_eq_ok_iff.mp h
  refine ⟨rfl, fun k' hk' => .inl (node?_set_of_ne fun he => hk ?_)⟩
  rw [← locate_eq_ok hl, ← he]
  exact hk'

theorem follow_append {parts parts' : List String} (h : d.follow k parts = .ok k') :
    d.follow k (parts ++ parts') = d.follow k' parts' := by
  induction parts generalizing k
  case nil              => cases h; rfl
  case cons part rest ih =>
    rw [follow] at h
    split at h
    case h_1    => contradiction
    case h_2    => contradiction
    case h_3 hn =>
      rw [List.cons_append, follow, hn]
      exact ih h

theorem climb_append {lost : Nat} {parts parts' : List String} (h : d.climb lost k parts = .ok k') :
    d.climb lost k (parts ++ parts') = d.follow k' parts' := by
  induction lost generalizing k parts
  case zero         => exact follow_append h
  case succ lost ih =>
    cases parts
    case nil  => cases h
    case cons =>
      rw [climb] at h
      split at h
      case isFalse   => cases h
      case isTrue hp => rw [List.cons_append, climb, if_pos hp, ih h]

theorem isDir_iff_keyOf : d.isDir p ↔ d.locate p = .ok (d.keyOf p) ∧ d.node? (d.keyOf p) = some .dir := by
  rw [isDir_iff]
  constructor
  case mp  =>
    intro ⟨k, hl, hn⟩
    cases locate_eq_ok hl
    exact ⟨hl, hn⟩
  case mpr => exact fun ⟨hl, hn⟩ => ⟨_, hl, hn⟩

theorem has_of_isDir (h : d.isDir p) : d.has p := by
  have ⟨hl, hn⟩ := isDir_iff_keyOf.mp h
  rw [has, stat_eq_ok_iff.mpr ⟨_, hl, hn⟩]

theorem isFile_of_has (h : d.has p) (hd : ¬d.isDir p) : d.isFile p := by
  unfold has at h
  unfold isDir at hd
  unfold isFile
  rcases hs : d.stat p with f | _ | _
  case error   => simp [hs] at h
  case ok.file => rfl
  case ok.dir  => simp [hs] at hd

theorem locate_child (h : d.isDir p) (hn : name ≠ "..") (hz : ¬isRefused name) :
    d.locate (p.child name) = .ok (d.keyOf p ++ [name]) := by
  have ⟨hl, hd⟩ := isDir_iff_keyOf.mp h
  unfold locate at hl ⊢
  split at hl
  case isTrue     => contradiction
  case isFalse hp =>
    have hc : ¬refuses (p.child name) := by
      simpa [refuses, Path.child] using ⟨by simpa [refuses] using hp, by simpa using hz⟩
    rw [if_neg hc]
    refine (climb_append hl).trans ?_
    rw [follow, hd]
    simp [hn, follow]

theorem keyOf_of_plain (h : ".." ∉ p.parts) :
    d.keyOf p = (d.origin p).key ++ p.parts := by
  have go (parts : List String) (k : Key) (h : ".." ∉ parts) : parts.foldl step k = k ++ parts := by
    induction parts generalizing k
    case nil              => exact (List.append_nil k).symm
    case cons part rest ih =>
      have ⟨hp, hr⟩ := not_or.mp (mt List.mem_cons.mpr h)
      rw [List.foldl_cons, ih _ hr, step, if_neg (Ne.symm hp), List.append_assoc, List.singleton_append]
  exact go p.parts _ h

theorem node?_eraseBelow (h : k <+: k') (hn : k' ≠ []) : (d.eraseBelow k).node? k' = none := by
  rw [node?, if_neg hn, eraseBelow, List.find?_filter, Option.map_eq_none_iff, List.find?_eq_none]
  intro e _ he
  obtain ⟨hp, hk⟩ := of_decide_eq_true he
  rw [of_decide_eq_true hk] at hp
  rw [List.isPrefixOf_iff_prefix.mpr h] at hp
  cases hp

theorem removeTree_of_isDir (h : d.isDir p) : d.removeTree p = .ok (d.eraseBelow (d.keyOf p)) := by
  have ⟨hl, hn⟩ := isDir_iff_keyOf.mp h
  rw [removeTree, stat_eq_ok_iff.mpr ⟨_, hl, hn⟩, hl]
  rfl

theorem removeTree_of_not_isDir (h : ¬d.isDir p) : ∃ f, d.removeTree p = .error f := by
  unfold isDir at h
  unfold removeTree
  rcases hs : d.stat p with f | _ | _
  case error   => exact ⟨f, rfl⟩
  case ok.file => exact ⟨.notDirectory, rfl⟩
  case ok.dir  => simp [hs] at h

end Disk

namespace Action

variable {s s' : Session} {p : Path} {text : List Char} {k : Key} {r : Except Failure Unit}

-- Whether it succeeds or not.
theorem writeBelow_spares (h : (writeBelow p text).outcome s = (r, s')) (hk : ¬k <+: s.disk.keyOf p) :
    Disk.Spares k s.disk s'.disk ∧ s.disk.Grows s'.disk := by
  rw [writeBelow, outcome_bind, outcome_makeDirs] at h
  cases hm : s.disk.makeDirs p.parent <;> rw [hm] at h
  case error => cases h; exact ⟨.refl _ _, .refl _⟩
  case ok d  =>
    have ha := Disk.makeDirs_adds hm
    dsimp only at h
    rw [outcome_writeText] at h
    cases hw : d.writeBytes p (Text.Utf8.encode text) s.time <;> rw [hw] at h <;> cases h
    case error => exact ⟨ha.spares, ha.grows⟩
    case ok    =>
      have hk : ¬k <+: d.keyOf p := by rwa [ha.grows.keyOf]
      exact ⟨ha.spares.trans (Disk.writeBytes_spares hw hk), ha.grows.trans (Disk.writeBytes_writes hw).left.toGrows⟩

end Action

end TypedResources
