import Mathlib.Data.List.Sort
import TypedResources.Proofs.Disk.Walk

-- Two disks with the same directories, whose files differ at some keys at most (`Refiled`). Paths lead to
-- the same keys on both, and what is found elsewhere is the same.

namespace TypedResources.Disk

variable {d d' : Disk} {s : Key → Prop} {k : Key} {n : Node} {p root : Path} {q : Path → Bool}
  {name : String} {content : Bytes} {time : Int}

structure Refiled (s : Key → Prop) (d d' : Disk) : Prop where
  workingDir : d'.workingDir = d.workingDir
  node       : ∀ k, d'.node? k = d.node? k ∨ s k ∧ d.node? k ≠ some .dir ∧ d'.node? k ≠ some .dir

theorem refiled_set_file (hk : s k) (hn : d.node? k ≠ some .dir) : Refiled s d (d.set k (.file content time)) where
  workingDir := rfl
  node       := fun k' => by
    by_cases he : k' = k
    case neg => exact .inl (node?_set_of_ne he)
    case pos =>
      subst he
      exact .inr ⟨hk, hn, by rw [node?_set_self (ne_nil_of_node? hn)]; simp⟩

namespace Refiled

theorem symm (h : Refiled s d d') : Refiled s d' d where
  workingDir := h.workingDir.symm
  node       := fun k => by
    rcases h.node k with h | ⟨hs, hd, hd'⟩
    case inl => exact .inl h.symm
    case inr => exact .inr ⟨hs, hd', hd⟩

theorem dir (h : Refiled s d d') (hn : d.node? k = some .dir) : d'.node? k = some .dir := by
  rcases h.node k with h | ⟨-, hd, -⟩
  case inl => exact h.trans hn
  case inr => contradiction

theorem node_eq (h : Refiled s d d') (hk : ¬s k) : d'.node? k = d.node? k :=
  (h.node k).resolve_right fun hs => hk hs.left

theorem keyOf (h : Refiled s d d') : d'.keyOf p = d.keyOf p :=
  keyOf_congr (congrArg WorkingDir.key h.workingDir)

theorem locate (h : Refiled s d d') (hl : d.locate p = .ok k) : d'.locate p = .ok k :=
  locate_of_dirs h.workingDir (fun _ => h.dir) hl

theorem isDir (h : Refiled s d d') (hd : d.isDir p) : d'.isDir p := by
  have ⟨k, hl, hn⟩ := isDir_iff.mp hd
  exact isDir_iff.mpr ⟨k, h.locate hl, h.dir hn⟩

theorem isDir_eq (h : Refiled s d d') : d'.isDir p = d.isDir p :=
  Bool.eq_iff_iff.mpr ⟨h.symm.isDir, h.isDir⟩

theorem stat (h : Refiled s d d') (hk : ¬s (d.keyOf p)) (hs : d.stat p = .ok n) : d'.stat p = .ok n := by
  have ⟨k, hl, hn⟩ := stat_eq_ok_iff.mp hs
  exact stat_eq_ok_iff.mpr ⟨k, h.locate hl, (h.node_eq (locate_eq_ok hl ▸ hk)).trans hn⟩

theorem stat_eq_ok_iff (h : Refiled s d d') (hk : ¬s (d.keyOf p)) : d'.stat p = .ok n ↔ d.stat p = .ok n :=
  ⟨h.symm.stat (h.keyOf ▸ hk), h.stat hk⟩

theorem has_eq (h : Refiled s d d') (hk : ¬s (d.keyOf p)) : d'.has p = d.has p := by
  refine Bool.eq_iff_iff.mpr ⟨fun hh => ?_, fun hh => ?_⟩
  · obtain ⟨n, hs⟩ := exists_stat_of_has hh
    exact has_of_stat ((h.stat_eq_ok_iff hk).mp hs)
  · obtain ⟨n, hs⟩ := exists_stat_of_has hh
    exact has_of_stat (h.stat hk hs)

-- Where nothing stands, reading may fail in another way.
theorem readBytes_eq (h : Refiled s d d') (hk : ¬s (d.keyOf p)) (hh : d.has p) : d'.readBytes p = d.readBytes p := by
  obtain ⟨n, hs⟩ := exists_stat_of_has hh
  exact readBytes_congr hs (h.stat hk hs)

theorem isFile_child (h : Refiled s d d') (hd : d.isDir root) (hn : IsName name)
    (hs : s (d.keyOf root ++ [name]) →
      (d'.node? (d.keyOf root ++ [name])).isSome = (d.node? (d.keyOf root ++ [name])).isSome)
    (hf : d.isFile (root.child name)) : d'.isFile (root.child name) := by
  rw [isFile_child_iff hd hn] at hf
  rw [isFile_child_iff (h.isDir hd) hn, h.keyOf]
  rcases h.node (d.keyOf root ++ [name]) with he | ⟨hk, -, hd'⟩
  case inl => rwa [he]
  case inr =>
    obtain ⟨content, time, hf⟩ := hf
    have hsome := hs hk
    rw [hf] at hsome
    rcases Option.isSome_iff_exists.mp hsome with ⟨_ | _, hn'⟩
    case file content time => exact ⟨content, time, hn'⟩
    case dir               => contradiction

-- What is asked for is found alike, if no such file is there on one disk alone.
theorem filesIn_eq (h : Refiled s d d') (hd : d.Sound) (hd' : d'.Sound)
    (hs : ∀ name, q (root.child name) → s (d.keyOf root ++ [name]) →
      (d'.node? (d.keyOf root ++ [name])).isSome = (d.node? (d.keyOf root ++ [name])).isSome) :
    d'.filesIn q root = d.filesIn q root := by
  by_cases hr : d.isDir root
  case neg => rw [filesIn, filesIn, h.isDir_eq, if_neg hr, if_neg hr]
  case pos =>
    obtain ⟨found, hf, hp, hm⟩ := hd.exists_filesIn q root
    obtain ⟨found', hf', hp', hm'⟩ := hd'.exists_filesIn q root
    have he : found' = found := by
      refine List.Pairwise.eq_of_mem_iff hp' hp fun name => ?_
      rw [hm, hm', listed_singleton_iff, listed_singleton_iff]
      refine and_congr_right fun hn => and_congr_left fun hq => ?_
      have hc := hs name hq.right
      exact ⟨h.symm.isFile_child (h.isDir hr) hn (h.keyOf ▸ fun hk => (hc hk).symm), h.isFile_child hr hn hc⟩
    rw [hf, hf', he]

end Refiled

end TypedResources.Disk
