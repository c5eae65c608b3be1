import TypedResources.Proofs.Disk.Edits
import TypedResources.Proofs.Disk.Spares

-- Changes from outside: files are written, given another time and deleted, and so are whole directories.
-- As long as they are made outside of a place, they spare it and leave the directories that it lies in
-- (`change_aside`), so that a path without double dots to it still leads there (`Aside.isDir`).

namespace TypedResources.Disk

variable {d d' d₁ d₂ d₃ : Disk} {k k' : Key} {p : Path} {time : Int} {e : Edit}

inductive Change
  | write  (e : Edit)
  | touch  (p : Path) (time : Int)
  | delete (p : Path)
deriving DecidableEq

-- Gives a file another time. A directory has none.
def touch (d : Disk) (p : Path) (time : Int) : Except Fault Disk := do
  let k ← d.locate p
  match d.node? k with
  | some (.file content _) => return d.set k (.file content time)
  | some .dir              => return d
  | none                   => .error .notFound

-- Deletes a file, or a directory with all that is in it.
def delete (d : Disk) (p : Path) : Except Fault Disk := do
  let k ← d.locate p
  match d.node? k with
  | some _ => return d.eraseBelow k
  | none   => .error .notFound

def change (d : Disk) : Change → Except Fault Disk
  | .write e      => d.edit e
  | .touch p time => d.touch p time
  | .delete p     => d.delete p

-- What is changed does not lie at the key or below it, nor is the key deleted along with it.
def Change.IsOutside (d : Disk) (k : Key) : Change → Prop
  | .write e   => ¬k <+: d.keyOf e.path
  | .touch p _ => ¬k <+: d.keyOf p
  | .delete p  => ¬k <+: d.keyOf p ∧ ¬d.keyOf p <+: k

instance (d : Disk) (k : Key) : (x : Change) → Decidable (x.IsOutside d k)
  | .write e   => inferInstanceAs (Decidable (¬k <+: d.keyOf e.path))
  | .touch p _ => inferInstanceAs (Decidable (¬k <+: d.keyOf p))
  | .delete p  => inferInstanceAs (Decidable (¬k <+: d.keyOf p ∧ ¬d.keyOf p <+: k))

-- The disk after a change, or as it was if nothing could be changed.
def changed (d : Disk) (x : Change) : Disk :=
  (d.change x).toOption.getD d

theorem change_eq_ok {x : Change} (h : (d.change x).toOption.isSome) : d.change x = .ok (d.changed x) := by
  unfold changed
  cases hc : d.change x
  case error => simp [hc, Except.toOption] at h
  case ok    => rfl

-- A place is spared, and the directories that it lies in are left.
structure Aside (k : Key) (d d' : Disk) : Prop extends Spares k d d' where
  workingDir : d.workingDir.key <+: k → d'.workingDir = d.workingDir
  above : ∀ k', k' <+: k → d.node? k' = some .dir → d'.node? k' = some .dir

namespace Aside

theorem refl (k : Key) (d : Disk) : Aside k d d where
  toSpares   := .refl k d
  workingDir := fun _ => rfl
  above      := fun _ _ h => h

theorem trans (h₁ : Aside k d₁ d₂) (h₂ : Aside k d₂ d₃) : Aside k d₁ d₃ where
  toSpares   := h₁.toSpares.trans h₂.toSpares
  workingDir := fun hk => (h₂.workingDir (h₁.workingKey ▸ hk)).trans (h₁.workingDir hk)
  above      := fun k' hk h => h₂.above k' hk (h₁.above k' hk h)

theorem follow {parts : List String} (h : Aside (k ++ parts) d d') (hp : ".." ∉ parts)
    (hf : d.follow k parts = .ok k') : d'.follow k parts = .ok k' := by
  induction parts generalizing k
  case nil              => exact hf
  case cons part rest ih =>
    have ⟨hpart, hrest⟩ := not_or.mp (mt List.mem_cons.mpr hp)
    rw [Disk.follow] at hf
    split at hf
    case h_1    => contradiction
    case h_2    => contradiction
    case h_3 hn =>
      rw [Disk.follow, h.above k (List.prefix_append ..) hn]
      rw [if_neg (Ne.symm hpart)] at hf ⊢
      exact ih (by rwa [List.append_assoc, List.singleton_append]) hrest hf

theorem climb {parts : List String} {lost : Nat} (h : Aside (k ++ parts) d d') (hp : ".." ∉ parts)
    (hc : d.climb lost k parts = .ok k') : d'.climb lost k parts = .ok k' := by
  cases lost
  case zero => exact h.follow hp hc
  case succ =>
    cases parts
    case nil       => cases hc
    case cons part rest =>
      have hpart : part ≠ ".." := fun he => hp (he ▸ List.mem_cons_self)
      rw [Disk.climb, if_neg (by simp [hpart])] at hc
      cases hc

-- Double dots may lead through a directory beside the place, which may go.
theorem isDir (h : Aside (d.keyOf p) d d') (hp : ".." ∉ p.parts) (hd : d.isDir p) : d'.isDir p := by
  have ⟨hl, hn⟩ := isDir_iff_keyOf.mp hd
  refine isDir_iff_keyOf.mpr ⟨?_, h.keyOf ▸ h.above _ (List.prefix_refl _) hn⟩
  rw [h.keyOf]
  unfold locate at hl ⊢
  split at hl
  case isTrue     => contradiction
  case isFalse hz =>
    have hk : (d.origin p).key <+: d.keyOf p := by
      rw [keyOf_of_plain hp]
      exact List.prefix_append ..
    have ho : d'.origin p = d.origin p := by
      unfold origin at hk ⊢
      split
      case isTrue     => rfl
      case isFalse ha => exact h.workingDir (by rwa [if_neg ha] at hk)
    rw [if_neg hz, ho]
    exact (keyOf_of_plain hp ▸ h).climb hp hl

end Aside

theorem Adds.aside (h : Adds d d') : Aside k d d' where
  toSpares   := h.spares
  workingDir := fun _ => h.workingDir
  above      := fun _ _ => h.node_of_some

theorem node?_eraseBelow_of_not_below (h : ¬k <+: k') : (d.eraseBelow k).node? k' = d.node? k' := by
  have hk : k.isPrefixOf k' = false := Bool.eq_false_iff.mpr (mt List.isPrefixOf_iff_prefix.mp h)
  have hf : (d.entries.filter fun e => !k.isPrefixOf e.1).find? (·.1 = k') = d.entries.find? (·.1 = k') := by
    rw [List.find?_filter]
    congr 1
    funext e
    by_cases he : e.1 = k' <;> simp [he, hk]
  rw [node?, node?, eraseBelow, hf]

theorem Aside.set_file {content : Bytes} (hn : d.node? k' ≠ some .dir) (hk : ¬k <+: k') :
    Aside k d (d.set k' (.file content time)) where
  workingKey := rfl
  workingDir := fun _ => rfl
  node       := fun _ hp => .inl (node?_set_of_ne fun he => hk (he ▸ hp))
  above      := fun _ _ => (Grows.set_file hn).dir _

theorem edit_aside (h : d.edit e = .ok d') (hk : ¬k <+: d.keyOf e.path) : Aside k d d' := by
  unfold edit at h
  split at h
  case h_2       => contradiction
  case h_1 d₁ hm =>
    have ha := makeDirs_adds hm
    obtain ⟨key, hl, hn, rfl⟩ := writeBytes_eq_ok_iff.mp h
    refine ha.aside.trans (.set_file hn ?_)
    rwa [locate_eq_ok hl, ha.grows.keyOf]

theorem touch_aside (h : d.touch p time = .ok d') (hk : ¬k <+: d.keyOf p) : Aside k d d' := by
  unfold touch at h
  cases hl : d.locate p <;> rw [hl] at h
  case error   => cases h
  case ok key  =>
    rw [ok_bind] at h
    split at h <;> cases h
    case h_1 hn => exact .set_file (by simp [hn]) (locate_eq_ok hl ▸ hk)
    case h_2    => exact .refl k d

theorem delete_aside (h : d.delete p = .ok d') (hb : ¬k <+: d.keyOf p) (ha : ¬d.keyOf p <+: k) : Aside k d d' := by
  unfold delete at h
  cases hl : d.locate p <;> rw [hl] at h
  case error  => cases h
  case ok key =>
    cases locate_eq_ok hl
    rw [ok_bind] at h
    split at h <;> cases h
    refine ⟨⟨WorkingDir.key_without .., fun k' hk => .inl (node?_eraseBelow_of_not_below fun hp => ?_)⟩,
      fun hw => WorkingDir.without_of_not_prefix fun hp => ha (hp.trans hw), fun k' hk hn => ?_⟩
    -- Of two keys that lead to a third one, one leads to the other.
    case refine_1 => exact (List.prefix_or_prefix_of_prefix hk hp).elim hb ha
    case refine_2 => rwa [node?_eraseBelow_of_not_below fun hp => ha (hp.trans hk)]

theorem change_aside {x : Change} (h : d.change x = .ok d') (ho : x.IsOutside d k) : Aside k d d' := by
  cases x
  case write e      => exact edit_aside h ho
  case touch p time => exact touch_aside h ho
  case delete p     => exact delete_aside h ho.left ho.right

end TypedResources.Disk
