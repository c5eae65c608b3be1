import TypedResources.Disk.Basic

-- How a disk grows. Writing files and making directories keeps what is a directory and what is a file
-- (`Grows`), so that a path which once led somewhere still leads there. Making directories keeps the
-- content of all files as well (`Adds`).

namespace TypedResources

theorem Path.parent_child (p : Path) (name : String) : (p.child name).parent = p := by
  simp [Path.child, Path.parent]

@[simp]
theorem WorkingDir.key_without (w : WorkingDir) (k : Key) : (w.without k).key = w.key := by
  unfold WorkingDir.without
  split <;> rfl

theorem WorkingDir.without_of_not_prefix {w : WorkingDir} {k : Key} (h : ¬k <+: w.key) : w.without k = w := by
  unfold WorkingDir.without
  exact if_neg (mt List.isPrefixOf_iff_prefix.mp h)

namespace Disk

variable {d d' d₁ d₂ d₃ : Disk} {k k' : Key} {n : Node} {p : Path} {content : Bytes}
  {time : Int} {parts : List String}

@[simp]
theorem node?_nil : d.node? [] = some .dir :=
  rfl

theorem node?_set_self (h : k ≠ []) : (d.set k n).node? k = some n := by
  simp [node?, set, h]

theorem node?_set_of_ne (h : k' ≠ k) : (d.set k n).node? k' = d.node? k' := by
  have hf : (d.entries.filter (·.1 ≠ k)).find? (·.1 = k') = d.entries.find? (·.1 = k') := by
    rw [List.find?_filter]
    congr 1
    funext e
    by_cases he : e.1 = k' <;> simp [he, h]
  simp only [node?, set, List.find?_cons, Ne.symm h, decide_false, hf]

theorem ne_nil_of_node? (h : d.node? k ≠ some .dir) : k ≠ [] := by
  rintro rfl
  exact h rfl

theorem ne_nil_of_node?_eq_none (h : d.node? k = none) : k ≠ [] := by
  rintro rfl
  contradiction

-- A walk passes through directories only.
theorem follow_of_dirs (h : ∀ k, d.node? k = some .dir → d'.node? k = some .dir) (hf : d.follow k parts = .ok k') :
    d'.follow k parts = .ok k' := by
  induction parts generalizing k
  case nil              => exact hf
  case cons part rest ih =>
    rw [follow] at hf
    cases hn : d.node? k
    case none   => simp [hn] at hf
    case some n =>
      cases n
      case file => simp [hn] at hf
      case dir  =>
        rw [hn] at hf
        rw [follow, h k hn]
        exact ih hf

theorem climb_of_dirs {lost : Nat} (h : ∀ k, d.node? k = some .dir → d'.node? k = some .dir)
    (hc : d.climb lost k parts = .ok k') : d'.climb lost k parts = .ok k' := by
  induction lost generalizing k parts
  case zero         => exact follow_of_dirs h hc
  case succ lost ih =>
    cases parts
    case nil       => cases hc
    case cons part rest =>
      rw [climb] at hc ⊢
      split at hc
      case isFalse   => cases hc
      case isTrue hp =>
        have hp' : part = ".." ∧ (lost = 0 → d'.node? k.dropLast = some .dir) := by
          simp only [Bool.and_eq_true, Bool.or_eq_true, decide_eq_true_eq] at hp
          exact ⟨hp.left, fun hz => h _ (hp.right.resolve_left fun hne => hne hz)⟩
        rw [if_pos (by simpa [Decidable.imp_iff_not_or] using hp')]
        exact ih hc

theorem locate_of_dirs (hw : d'.workingDir = d.workingDir) (h : ∀ k, d.node? k = some .dir → d'.node? k = some .dir)
    (hl : d.locate p = .ok k) : d'.locate p = .ok k := by
  unfold locate origin at hl ⊢
  split at hl
  case isTrue     => contradiction
  case isFalse hz =>
    rw [if_neg hz, hw]
    exact climb_of_dirs h hl

structure Grows (d d' : Disk) : Prop where
  workingDir : d'.workingDir = d.workingDir
  dir        : ∀ k, d.node? k = some .dir → d'.node? k = some .dir
  file       : ∀ k content time, d.node? k = some (.file content time) →
    ∃ content time, d'.node? k = some (.file content time)

namespace Grows

theorem refl (d : Disk) : Grows d d where
  workingDir := rfl
  dir        := fun _ h => h
  file       := fun _ _ _ h => ⟨_, _, h⟩

theorem trans (h₁ : Grows d₁ d₂) (h₂ : Grows d₂ d₃) : Grows d₁ d₃ where
  workingDir := h₂.workingDir.trans h₁.workingDir
  dir        := fun k h => h₂.dir k (h₁.dir k h)
  file       := fun k content time h =>
    have ⟨_, _, h⟩ := h₁.file k content time h
    h₂.file k _ _ h

theorem set_file (h : d.node? k ≠ some .dir) : Grows d (d.set k (.file content time)) where
  workingDir := rfl
  dir        := fun k' hk => by
    have hne : k' ≠ k := fun he => h (he ▸ hk)
    rwa [node?_set_of_ne hne]
  file       := fun k' content' time' hk => by
    by_cases he : k' = k
    case pos =>
      subst he
      exact ⟨content, time, node?_set_self (ne_nil_of_node? h)⟩
    case neg => exact ⟨content', time', by rwa [node?_set_of_ne he]⟩

theorem locate (h : Grows d d') (hl : d.locate p = .ok k) : d'.locate p = .ok k :=
  locate_of_dirs h.workingDir h.dir hl

end Grows

theorem stat_eq_ok_iff : d.stat p = .ok n ↔ ∃ k, d.locate p = .ok k ∧ d.node? k = some n := by
  unfold stat
  cases d.locate p
  case error => simp [bind, Except.bind]
  case ok k  => cases hn : d.node? k <;> simp [bind, Except.bind, hn, pure, Except.pure]

theorem isDir_iff : d.isDir p ↔ ∃ k, d.locate p = .ok k ∧ d.node? k = some .dir := by
  rw [← stat_eq_ok_iff]
  unfold isDir
  cases d.stat p
  case error => simp
  case ok n  => cases n <;> simp

theorem Grows.isDir (h : Grows d d') (hd : d.isDir p) : d'.isDir p := by
  have ⟨k, hl, hn⟩ := isDir_iff.mp hd
  exact isDir_iff.mpr ⟨k, h.locate hl, h.dir k hn⟩

theorem writeBytes_eq_ok_iff : d.writeBytes p content time = .ok d' ↔
    ∃ k, d.locate p = .ok k ∧ d.node? k ≠ some .dir ∧ d' = d.set k (.file content time) := by
  unfold writeBytes
  cases d.locate p
  case error => simp [bind, Except.bind]
  case ok k  =>
    cases hn : d.node? k
    case none   => simp [bind, Except.bind, pure, Except.pure, hn, eq_comm]
    case some n => cases n <;> simp [bind, Except.bind, pure, Except.pure, hn, eq_comm]

theorem makeDir_eq_ok_iff : d.makeDir p = .ok d' ↔
    ∃ k, d.locate p = .ok k ∧ d.node? k = none ∧ d' = d.set k .dir := by
  unfold makeDir
  cases d.locate p
  case error => simp [bind, Except.bind]
  case ok k  => cases hn : d.node? k <;> simp [bind, Except.bind, pure, Except.pure, hn, eq_comm]

-- Overwriting a file moves no path, and only those that lead to the file find anything new.
theorem follow_set_file {content' : Bytes} {time' : Int} (h : d.node? k = some (.file content time)) :
    (d.set k (.file content' time')).follow k' parts = d.follow k' parts := by
  have hk : k ≠ [] := ne_nil_of_node? (d := d) (by simp [h])
  induction parts generalizing k'
  case nil              => rfl
  case cons part rest ih =>
    rw [follow, follow]
    by_cases he : k' = k
    case neg => rw [node?_set_of_ne he]; simp only [ih]
    case pos => rw [he, node?_set_self hk, h]

theorem climb_set_file {content' : Bytes} {time' : Int} {lost : Nat} (h : d.node? k = some (.file content time)) :
    (d.set k (.file content' time')).climb lost k' parts = d.climb lost k' parts := by
  have hk : k ≠ [] := ne_nil_of_node? (d := d) (by simp [h])
  induction lost generalizing k' parts
  case zero         => exact follow_set_file h
  case succ lost ih =>
    cases parts
    case nil            => rfl
    case cons part rest =>
      rw [climb, climb, ih]
      by_cases he : k'.dropLast = k
      case neg => rw [node?_set_of_ne he]
      case pos => rw [he, node?_set_self hk, h]; simp

theorem locate_set_file {content' : Bytes} {time' : Int} (h : d.node? k = some (.file content time)) :
    (d.set k (.file content' time')).locate p = d.locate p := by
  unfold locate
  split
  case isTrue  => rfl
  case isFalse => exact climb_set_file h

theorem readBytes_set_file {content' : Bytes} {time' : Int} (h : d.node? k = some (.file content time))
    (hp : d.locate p ≠ .ok k) : (d.set k (.file content' time')).readBytes p = d.readBytes p := by
  unfold readBytes stat
  rw [locate_set_file h]
  cases hl : d.locate p
  case error => rfl
  case ok k' =>
    have hne : k' ≠ k := fun he => hp (he ▸ hl)
    simp only [bind, Except.bind, node?_set_of_ne hne]

structure Adds (d d' : Disk) : Prop where
  workingDir : d'.workingDir = d.workingDir
  node       : ∀ k, d'.node? k = d.node? k ∨ d.node? k = none ∧ d'.node? k = some .dir

namespace Adds

theorem refl (d : Disk) : Adds d d where
  workingDir := rfl
  node       := fun _ => .inl rfl

theorem trans (h₁ : Adds d₁ d₂) (h₂ : Adds d₂ d₃) : Adds d₁ d₃ where
  workingDir := h₂.workingDir.trans h₁.workingDir
  node       := fun k => by
    rcases h₁.node k with h₁ | ⟨h₁, h₁'⟩ <;> rcases h₂.node k with h₂ | ⟨h₂, h₂'⟩
    · exact .inl (h₂.trans h₁)
    · exact .inr ⟨h₁ ▸ h₂, h₂'⟩
    · exact .inr ⟨h₁, h₂.trans h₁'⟩
    · exact .inr ⟨h₁, h₂'⟩

theorem node_of_some (h : Adds d d') (hk : d.node? k = some n) : d'.node? k = some n := by
  rcases h.node k with h | ⟨h, -⟩
  case inl => exact h.trans hk
  case inr => exact absurd (hk.symm.trans h) (by simp)

theorem grows (h : Adds d d') : Grows d d' where
  workingDir := h.workingDir
  dir        := fun _ => h.node_of_some
  file       := fun _ content time hk => ⟨content, time, h.node_of_some hk⟩

theorem set_dir (h : d.node? k = none) : Adds d (d.set k .dir) where
  workingDir := rfl
  node       := fun k' => by
    by_cases he : k' = k
    case neg => exact .inl (node?_set_of_ne he)
    case pos =>
      subst he
      exact .inr ⟨h, node?_set_self (ne_nil_of_node?_eq_none h)⟩

end Adds

theorem ensure_adds (h : makeDirs.ensure d p = .ok d') : Adds d d' ∧ d'.isDir p := by
  unfold makeDirs.ensure at h
  cases hm : d.makeDir p
  case ok d₁ =>
    rw [hm] at h
    cases h
    obtain ⟨k, hl, hn, rfl⟩ := makeDir_eq_ok_iff.mp hm
    have ha := Adds.set_dir hn
    refine ⟨ha, isDir_iff.mpr ⟨k, ha.grows.locate hl, ?_⟩⟩
    exact node?_set_self (ne_nil_of_node?_eq_none hn)
  case error =>
    rw [hm] at h
    dsimp only at h
    split at h
    case isFalse   => contradiction
    case isTrue hd => cases h; exact ⟨.refl d, hd⟩

-- Nothing is found of a directory that was removed.
theorem makeDirs_go_adds (reversed : List String) (h : makeDirs.go d p reversed = .ok d') :
    Adds d d' ∧ ((d.origin p).lost = 0 ∨ reversed ≠ [] → d'.isDir ⟨p.anchor, reversed.reverse⟩) := by
  induction reversed generalizing d'
  case nil                =>
    rw [makeDirs.go] at h
    split at h
    case isTrue     => exact (ensure_adds h).imp_right fun hd _ => hd
    case isFalse hl => cases h; exact ⟨.refl d, fun h => absurd rfl (h.resolve_left hl)⟩
  case cons part above ih =>
    rw [makeDirs.go] at h
    split at h
    case h_2 => exact (ensure_adds h).imp_right fun hd _ => hd
    case h_1 =>
      cases hg : makeDirs.go d p above
      case error => rw [hg] at h; contradiction
      case ok d₁ =>
        rw [hg] at h
        have ⟨ha, hd⟩ := ensure_adds h
        exact ⟨(ih hg).left.trans ha, fun _ => hd⟩

theorem makeDirs_adds (h : d.makeDirs p = .ok d') : Adds d d' :=
  (makeDirs_go_adds p.parts.reverse h).left

theorem isDir_of_makeDirs (h : d.makeDirs p = .ok d') (hp : (d.origin p).lost = 0 ∨ p.parts ≠ []) : d'.isDir p := by
  have hd := (makeDirs_go_adds p.parts.reverse h).right (hp.imp_right (mt List.reverse_eq_nil_iff.mp))
  rwa [List.reverse_reverse] at hd

-- A file is found below a directory that stands.
theorem isDir_parent {d₁ : Disk} (h : d.makeDirs p.parent = .ok d₁) (hw : d₁.writeBytes p content time = .ok d') :
    d₁.isDir p.parent := by
  refine isDir_of_makeDirs h (Decidable.or_iff_not_imp_left.mpr fun hl hp => ?_)
  obtain ⟨k, hk, hn, -⟩ := writeBytes_eq_ok_iff.mp hw
  have ho : d₁.origin p = d.origin p.parent := by
    unfold origin
    rw [(makeDirs_adds h).workingDir]
    rfl
  unfold locate at hk
  split at hk
  case isTrue  => cases hk
  case isFalse =>
    rw [ho] at hk
    obtain ⟨lost, hl⟩ := Nat.exists_eq_succ_of_ne_zero hl
    rw [hl] at hk
    -- The parent is no component, so the path has at most one.
    rcases hparts : p.parts with _ | ⟨part, _ | ⟨part', rest⟩⟩
    case nil           => rw [hparts] at hk; cases hk
    case cons.nil      =>
      rw [hparts, climb] at hk
      split at hk
      case isFalse   => cases hk
      case isTrue hc =>
        cases lost
        case succ => cases hk
        case zero => cases hk; exact hn (by simpa using (by simpa using hc : _ ∧ _).right)
    case cons.cons     => simp [Path.parent, hparts] at hp

-- Nothing is made where all directories stand.
theorem ensure_of_isDir (h : d.isDir p) : makeDirs.ensure d p = .ok d := by
  have ⟨k, hl, hn⟩ := isDir_iff.mp h
  cases hm : d.makeDir p
  case error => simp [makeDirs.ensure, hm, h]
  case ok d' =>
    obtain ⟨k', hl', hn', -⟩ := makeDir_eq_ok_iff.mp hm
    rw [hl] at hl'
    cases hl'
    rw [hn] at hn'
    contradiction

theorem makeDirs_of_isDir (h : d.isDir p) : d.makeDirs p = .ok d := by
  have hp : (⟨p.anchor, p.parts.reverse.reverse⟩ : Path) = p := by rw [List.reverse_reverse]
  have ⟨k, hl, hn⟩ := isDir_iff.mp h
  unfold makeDirs
  cases hr : p.parts.reverse
  case nil =>
    have hp : (⟨p.anchor, []⟩ : Path) = p := by rwa [hr] at hp
    rw [makeDirs.go, hp]
    split
    case isTrue  => exact ensure_of_isDir h
    case isFalse => rfl
  case cons part above =>
    rw [hr] at hp
    have hm : d.makeDir p = .error .alreadyExists := by
      unfold makeDir
      rw [hl]
      simp [bind, Except.bind, hn]
    rw [makeDirs.go, hp, hm]
    exact ensure_of_isDir h

end Disk

end TypedResources
