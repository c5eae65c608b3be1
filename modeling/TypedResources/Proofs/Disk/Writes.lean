import TypedResources.Disk.Text
import TypedResources.Proofs.Disk.Growth
import TypedResources.Proofs.Query
import TypedResources.Proofs.Text.Utf8

-- What writing leaves alone. A path has one key on a disk and on all disks that grow out of it
-- (`keyOf`), and writing files changes no node but those of their keys (`Writes`).

namespace TypedResources.Disk

variable {d d' d₁ d₂ d₃ : Disk} {k k' : Key} {keys keys' : List Key} {n : Node} {p q : Path}
  {parts : List String} {content content' : Bytes} {time : Int} {name : String}

def step (k : Key) (part : String) : Key :=
  if part = ".." then k.dropLast else k ++ [part]

-- The key that a path leads to, if it leads to one at all.
def keyOf (d : Disk) (p : Path) : Key :=
  p.parts.foldl step (d.origin p).key

theorem follow_eq_ok (h : d.follow k parts = .ok k') : k' = parts.foldl step k := by
  induction parts generalizing k
  case nil              => cases h; rfl
  case cons part rest ih =>
    rw [follow] at h
    split at h
    case h_1 => contradiction
    case h_2 => contradiction
    case h_3 => exact ih h

theorem climb_eq_ok {lost : Nat} (h : d.climb lost k parts = .ok k') : k' = parts.foldl step k := by
  induction lost generalizing k parts
  case zero         => exact follow_eq_ok h
  case succ lost ih =>
    cases parts
    case nil            => cases h
    case cons part rest =>
      rw [climb] at h
      split at h
      case isFalse   => cases h
      case isTrue hp =>
        have hp : part = ".." := of_decide_eq_true (Bool.and_eq_true_iff.mp hp).left
        rw [List.foldl_cons, step, if_pos hp]
        exact ih h

theorem locate_eq_ok (h : d.locate p = .ok k) : k = d.keyOf p := by
  unfold locate at h
  split at h
  case isTrue  => contradiction
  case isFalse => exact climb_eq_ok h

theorem keyOf_child (h : name ≠ "..") : d.keyOf (p.child name) = d.keyOf p ++ [name] := by
  simp only [keyOf, Path.child, List.foldl_append, List.foldl_cons, List.foldl_nil, step, if_neg h]
  rfl

theorem Grows.keyOf (h : Grows d d') : d'.keyOf p = d.keyOf p := by
  rw [Disk.keyOf, origin, h.workingDir]
  rfl

-- Whether two paths lead to one key.
def sameFile (d : Disk) (p q : Path) : Bool :=
  match d.locate p, d.locate q with
  | .ok k, .ok k' => k = k'
  | _, _          => false

theorem sameFile_iff (h : d.locate q = .ok k) : d.sameFile p q ↔ d.locate p = .ok k := by
  rw [sameFile, h]
  cases d.locate p
  case error => simp
  case ok    => simp

-- Of the nodes that were there, none has changed but those of `keys`.
structure Writes (keys : List Key) (d d' : Disk) : Prop extends Grows d d' where
  node : ∀ k n, k ∉ keys → d.node? k = some n → d'.node? k = some n

namespace Writes

theorem refl (d : Disk) : Writes [] d d where
  toGrows := .refl d
  node    := fun _ _ _ h => h

theorem trans (h₁ : Writes keys d₁ d₂) (h₂ : Writes keys' d₂ d₃) : Writes (keys ++ keys') d₁ d₃ where
  toGrows := h₁.toGrows.trans h₂.toGrows
  node    := fun k n hk hn => by
    have ⟨hk₁, hk₂⟩ := not_or.mp (mt List.mem_append.mpr hk)
    exact h₂.node k n hk₂ (h₁.node k n hk₁ hn)

end Writes

theorem Adds.writes (h : Adds d d') : Writes [] d d' where
  toGrows := h.grows
  node    := fun _ _ _ => h.node_of_some

theorem writeBytes_writes (h : d.writeBytes p content time = .ok d') :
    Writes [d.keyOf p] d d' ∧ ∃ k, d'.locate p = .ok k ∧ d'.node? k = some (.file content time) := by
  obtain ⟨k, hl, hk, rfl⟩ := writeBytes_eq_ok_iff.mp h
  have hg : Grows d (d.set k (.file content time)) := .set_file hk
  refine ⟨⟨hg, fun k' n hk' hn => ?_⟩, k, hg.locate hl, node?_set_self (ne_nil_of_node? hk)⟩
  have hne : k' ≠ k := fun he => hk' (by simp [he, locate_eq_ok hl])
  rwa [node?_set_of_ne hne]

theorem readBytes_eq_ok_iff : d.readBytes p = .ok content ↔
    ∃ k time, d.locate p = .ok k ∧ d.node? k = some (.file content time) := by
  unfold readBytes stat
  cases d.locate p
  case error => simp
  case ok k  =>
    cases hn : d.node? k
    case none   => simp [hn]
    case some n => cases n <;> simp [hn, pure, Except.pure]

theorem isSystem_of_follow {f : Fault} (h : d.follow k parts = .error f) : f.isSystem := by
  induction parts generalizing k
  case nil              => cases h
  case cons part rest ih =>
    rw [follow] at h
    split at h
    case h_1 => cases h; rfl
    case h_2 => cases h; rfl
    case h_3 => exact ih h

theorem isSystem_of_climb {lost : Nat} {f : Fault} (h : d.climb lost k parts = .error f) : f.isSystem := by
  induction lost generalizing k parts
  case zero         => exact isSystem_of_follow h
  case succ lost ih =>
    cases parts
    case nil  => cases h; rfl
    case cons =>
      rw [climb] at h
      split at h
      case isTrue  => exact ih h
      case isFalse => cases h; rfl

-- All that can go wrong with a path is found on the disk, unless it is no path at all.
theorem isSystem_of_readBytes {f : Fault} (hz : ¬refuses p) (h : d.readBytes p = .error f) : f.isSystem := by
  unfold readBytes stat at h
  cases hl : d.locate p <;> rw [hl] at h
  case error =>
    cases h
    rw [locate, if_neg hz] at hl
    exact isSystem_of_climb hl
  case ok k =>
    rw [ok_bind] at h
    rcases hn : d.node? k with - | (⟨content, time⟩ | -) <;> rw [hn] at h <;> cases h <;> rfl

theorem isFile_iff : d.isFile p ↔
    ∃ k content time, d.locate p = .ok k ∧ d.node? k = some (.file content time) := by
  have h : d.isFile p ↔ ∃ content time, d.stat p = .ok (.file content time) := by
    unfold isFile
    cases d.stat p
    case error => simp
    case ok n  => cases n <;> simp
  simp only [h, stat_eq_ok_iff]
  grind

theorem isFile_of_readBytes (h : d.readBytes p = .ok content) : d.isFile p := by
  rw [readBytes_eq_ok_iff] at h
  obtain ⟨k, time, hl, hn⟩ := h
  rw [isFile_iff]
  exact ⟨k, content, time, hl, hn⟩

theorem exists_readBytes (h : d.isFile p) : ∃ content, d.readBytes p = .ok content := by
  rw [isFile_iff] at h
  obtain ⟨k, content, time, hl, hn⟩ := h
  refine ⟨content, ?_⟩
  rw [readBytes_eq_ok_iff]
  exact ⟨k, time, hl, hn⟩

theorem sameFile_of_isFile (hp : d.isFile p) (hq : d.isFile q) (h : d.keyOf p = d.keyOf q) : d.sameFile p q := by
  rw [isFile_iff] at hp hq
  obtain ⟨k, _, _, hk, _⟩ := hp
  obtain ⟨k', _, _, hk', _⟩ := hq
  rw [sameFile_iff hk', hk, locate_eq_ok hk, locate_eq_ok hk', h]

theorem readBytes_of_sameFile (h : d.sameFile p q) (hq : d.readBytes q = .ok content) :
    d.readBytes p = .ok content := by
  rw [readBytes_eq_ok_iff] at hq ⊢
  obtain ⟨k, time, hl, hn⟩ := hq
  exact ⟨k, time, (sameFile_iff hl).mp h, hn⟩

theorem has_of_isFile (h : d.isFile p) : d.has p := by
  rw [isFile_iff] at h
  obtain ⟨k, content, time, hl, hn⟩ := h
  rw [has, stat_eq_ok_iff.mpr ⟨k, hl, hn⟩]

theorem Grows.isFile (h : Grows d d') (hf : d.isFile p) : d'.isFile p := by
  rw [isFile_iff] at hf ⊢
  obtain ⟨k, content, time, hl, hn⟩ := hf
  obtain ⟨content', time', hn'⟩ := h.file k content time hn
  exact ⟨k, content', time', h.locate hl, hn'⟩

theorem Writes.readBytes (h : Writes keys d d') (hp : d.keyOf p ∉ keys) (hr : d.readBytes p = .ok content) :
    d'.readBytes p = .ok content := by
  rw [readBytes_eq_ok_iff] at hr ⊢
  obtain ⟨k, time, hl, hn⟩ := hr
  exact ⟨k, time, h.locate hl, h.node k _ (locate_eq_ok hl ▸ hp) hn⟩

theorem readBytes_of_writeBytes (h : d.writeBytes p content time = .ok d') : d'.readBytes p = .ok content := by
  obtain ⟨_, k, hl, hn⟩ := writeBytes_writes h
  rw [readBytes_eq_ok_iff]
  exact ⟨k, time, hl, hn⟩

-- A file can always be overwritten.
theorem writeBytes_of_isFile (content : Bytes) (time : Int) (h : d.isFile p) :
    ∃ d', d.writeBytes p content time = .ok d' := by
  rw [isFile_iff] at h
  obtain ⟨k, content', time', hl, hn⟩ := h
  exact ⟨_, writeBytes_eq_ok_iff.mpr ⟨k, hl, by simp [hn], rfl⟩⟩

theorem unifyNewlines_append {s t : List Char} (h : '\r' ∉ s) :
    Text.unifyNewlines (s ++ t) = s ++ Text.unifyNewlines t := by
  induction s
  case nil         => rfl
  case cons c s ih =>
    have hc : c ≠ '\r' := fun hc => h (hc ▸ List.mem_cons_self)
    have hs : '\r' ∉ s := fun hs => h (List.mem_cons_of_mem c hs)
    rw [List.cons_append, Text.unifyNewlines, ih hs, List.cons_append]
    · exact fun _ hr _ => hc hr
    · exact hc

theorem unifyNewlines_of_not_mem {s : List Char} (h : '\r' ∉ s) : Text.unifyNewlines s = s := by
  have h := unifyNewlines_append (t := []) h
  rwa [Text.unifyNewlines, List.append_nil] at h

theorem not_mem_unifyNewlines (s : List Char) : '\r' ∉ Text.unifyNewlines s := by
  fun_induction Text.unifyNewlines s
  case case1            => exact List.not_mem_nil
  case case2 ih         => simpa using ih
  case case3 ih         => simpa using ih
  case case4 c s _ h ih =>
    have hc : '\r' ≠ c := fun hc => h hc.symm
    exact List.not_mem_cons_of_ne_of_not_mem hc ih

-- Only a text without carriage returns is read as it was written.
theorem unifyNewlines_eq_self_iff {s : List Char} : Text.unifyNewlines s = s ↔ '\r' ∉ s :=
  ⟨fun h => h ▸ not_mem_unifyNewlines s, unifyNewlines_of_not_mem⟩

theorem readText_eq_ok_iff {s : List Char} : d.readText p = .ok s ↔
    ∃ bytes raw, d.readBytes p = .ok bytes ∧ Text.Utf8.decode bytes = .ok raw ∧ s = Text.unifyNewlines raw := by
  unfold readText readRaw
  cases d.readBytes p
  case error    => simp [diskFailure, Except.map]
  case ok bytes =>
    simp only [diskFailure, ok_bind, Except.ok.injEq]
    cases hd : Text.Utf8.decode bytes
    case error => simp [hd, Except.map, throw, throwThe, MonadExceptOf.throw]
    case ok    => simp [hd, Except.map, eq_comm, pure, Except.pure]

theorem isFile_of_readRaw {s : List Char} (h : d.readRaw p = .ok s) : d.isFile p := by
  unfold readRaw at h
  cases hb : d.readBytes p
  case error => rw [hb] at h; cases h
  case ok    => exact isFile_of_readBytes hb

theorem readRaw_of_readBytes {s : List Char} (h : d.readBytes p = .ok (Text.Utf8.encode s)) : d.readRaw p = .ok s := by
  rw [readRaw, h, diskFailure, ok_bind, Text.Utf8.decode_encode]
  rfl

theorem readText_of_readBytes {s : List Char} (h : d.readBytes p = .ok (Text.Utf8.encode s)) :
    d.readText p = .ok (Text.unifyNewlines s) := by
  rw [readText, readRaw_of_readBytes h]
  rfl

end TypedResources.Disk
