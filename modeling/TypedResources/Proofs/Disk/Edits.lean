import TypedResources.Proofs.Disk.Writes

-- Edits from outside: files are created or overwritten, each with a modification time of its own.
-- What a sequence of edits leaves behind is decided by the last edit of each file (`edits_node`).

namespace TypedResources.Disk

structure Edit where
  path    : Path
  content : Bytes
  time    : Int
deriving DecidableEq

-- Writes one file, and makes the directories above it that are missing.
def edit (d : Disk) (e : Edit) : Except Fault Disk :=
  match d.makeDirs e.path.parent with
  | .ok d         => d.writeBytes e.path e.content e.time
  | .error (f, _) => .error f

def edits (d : Disk) (es : List Edit) : Except Fault Disk :=
  es.foldlM edit d

variable {d d' : Disk} {e : Edit} {es : List Edit}

theorem edits_cons_eq_ok_iff : d.edits (e :: es) = .ok d' ↔ ∃ d₁, d.edit e = .ok d₁ ∧ d₁.edits es = .ok d' := by
  rw [edits, List.foldlM_cons]
  cases d.edit e <;> simp [edits]

theorem edit_writes (h : d.edit e = .ok d') : Writes [d.keyOf e.path] d d' ∧
    ∃ k, d'.locate e.path = .ok k ∧ d'.node? k = some (.file e.content e.time) := by
  unfold edit at h
  split at h
  case h_2         => contradiction
  case h_1 d₁ hm =>
    have hw := (makeDirs_adds hm).writes
    have ⟨hw', hn⟩ := writeBytes_writes h
    rw [hw.toGrows.keyOf] at hw'
    exact ⟨hw.trans hw', hn⟩

theorem edits_writes (h : d.edits es = .ok d') : Writes (es.map fun e => d.keyOf e.path) d d' := by
  induction es generalizing d
  case nil          => cases h; exact .refl _
  case cons e es ih =>
    have ⟨d₁, he, hes⟩ := edits_cons_eq_ok_iff.mp h
    have hw := (edit_writes he).left
    have hws := ih hes
    simp only [hw.toGrows.keyOf] at hws
    exact hw.trans hws

theorem edits_node (h : d.edits es = .ok d') (he : e ∈ es) : ∃ k, d'.locate e.path = .ok k ∧
    ∃ e' ∈ es, d'.node? k = some (.file e'.content e'.time) := by
  induction es generalizing d e
  case nil           => cases he
  case cons e₁ es ih =>
    have ⟨d₁, h₁, hes⟩ := edits_cons_eq_ok_iff.mp h
    rcases List.mem_cons.mp he with rfl | he
    case inr =>
      have ⟨k, hl, e', he', hn⟩ := ih hes he
      exact ⟨k, hl, e', List.mem_cons_of_mem _ he', hn⟩
    case inl =>
      have ⟨k, hl, hn⟩ := (edit_writes h₁).right
      have hw := edits_writes hes
      by_cases hk : k ∈ es.map fun e => d₁.keyOf e.path
      case neg => exact ⟨k, hw.locate hl, e, List.mem_cons_self, hw.node k _ hk hn⟩
      -- A later edit leads to the same key.
      case pos =>
        have ⟨e₂, he₂, hk₂⟩ := List.mem_map.mp hk
        have ⟨k', hl', e', he', hn'⟩ := ih hes he₂
        have hkk : k' = k := by rw [locate_eq_ok hl', hw.toGrows.keyOf, hk₂]
        exact ⟨k, hw.locate hl, e', List.mem_cons_of_mem _ he', hkk ▸ hn'⟩

end TypedResources.Disk
