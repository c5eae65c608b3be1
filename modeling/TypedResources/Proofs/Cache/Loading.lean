import TypedResources.Proofs.Cache
import TypedResources.Proofs.Disk.Spares

-- When a cache has a record. A file at its place that is read as one (`Loads`) is all that is needed,
-- with the class beside it, wherever the directory of the cache is found.

namespace TypedResources.Cache

open Text.Utf8 (encode decode)

variable {c : Cache} {d d' : Disk} {σ σ' : Session} {content : String} {bytes : Bytes} {time t : Int}
  {r : Except Failure Int}

-- A file with this content is read as a record.
def Loads (bytes : Bytes) : Prop :=
  ∃ text time, decode bytes = .ok text ∧ recorded? (Text.unifyNewlines text) = .ok (some time)

-- No record stands at the place of the cache.
def Recordless (c : Cache) (d : Disk) : Prop :=
  ∀ bytes time, d.node? (d.keyOf c.recordFile) ≠ some (.file bytes time)

theorem keyOf_dir_prefix_recordFile : d.keyOf c.dir <+: d.keyOf c.recordFile := by
  rw [keyOf_recordFile]
  exact List.prefix_append ..

theorem keyOf_dir_prefix_contentFile : d.keyOf c.dir <+: d.keyOf c.contentFile := by
  rw [keyOf_contentFile]
  exact List.prefix_append ..

theorem Recordless.of_dir {c' : Cache} (h : c.Recordless d) (hd : c'.dir = c.dir) : c'.Recordless d := by
  cases c
  cases c'
  cases hd
  exact h

theorem Recordless.spares (h : c.Recordless d) (hs : Disk.Spares (d.keyOf c.dir) d d') : c.Recordless d' := by
  intro bytes time hn
  rw [hs.keyOf, hs.file_iff keyOf_dir_prefix_recordFile] at hn
  exact h bytes time hn

-- No file is left in the directory of the cache.
def Cleared (c : Cache) (d : Disk) : Prop :=
  ∀ k content time, d.keyOf c.dir <+: k → d.node? k ≠ some (.file content time)

theorem Cleared.recordless (h : c.Cleared d) : c.Recordless d :=
  fun content time => h _ content time keyOf_dir_prefix_recordFile

theorem Cleared.spares (h : c.Cleared d) (hs : Disk.Spares (d.keyOf c.dir) d d') : c.Cleared d' := by
  intro k content time hk hn
  rw [hs.keyOf] at hk
  exact h k content time hk ((hs.file_iff hk).mp hn)

theorem cleared_eraseBelow : c.Cleared (d.eraseBelow (d.keyOf c.dir)) := by
  intro k content time hk hn
  rw [Disk.keyOf_congr (WorkingDir.key_without ..)] at hk
  by_cases he : k = []
  case pos => subst he; cases hn
  case neg => cases (Disk.node?_eraseBelow hk he).symm.trans hn

theorem locate_contentFile (h : d.isDir c.dir) :
    d.locate c.contentFile = .ok (d.keyOf c.contentFile) := by
  rw [keyOf_contentFile]
  exact Disk.locate_child h (by decide) (by decide)

theorem locate_recordFile (h : d.isDir c.dir) :
    d.locate c.recordFile = .ok (d.keyOf c.recordFile) := by
  rw [keyOf_recordFile]
  exact Disk.locate_child h (by decide) (by decide)

theorem loads_of_stored? (h : c.stored? d = .ok (some t)) :
    ∃ bytes time, d.node? (d.keyOf c.recordFile) = some (.file bytes time) ∧ Loads bytes := by
  unfold stored? at h
  cases ht : d.readText c.recordFile <;> rw [ht] at h
  case error f =>
    cases f
    case disk fault p =>
      dsimp only at h
      split at h <;> cases h
    all_goals cases h
  case ok text =>
    obtain ⟨bytes, raw, hr, hd, rfl⟩ := Disk.readText_eq_ok_iff.mp ht
    dsimp only at h
    have ⟨k, time, hl, hn⟩ := Disk.readBytes_eq_ok_iff.mp hr
    cases Disk.locate_eq_ok hl
    refine ⟨bytes, time, hn, raw, ?_⟩
    cases hs : recorded? (Text.unifyNewlines raw) <;> rw [hs] at h
    case error  => cases h
    case ok t'  =>
      cases t'
      case none => cases h
      case some => exact ⟨_, hd, rfl⟩

theorem stored?_of_loads (hd : d.isDir c.dir) (hr : d.node? (d.keyOf c.recordFile) = some (.file bytes time))
    (hl : Loads bytes) (hc : d.isFile c.contentFile) : ∃ t, c.stored? d = .ok (some t) := by
  have ⟨text, t, ht, hs⟩ := hl
  have hb : d.readBytes c.recordFile = .ok bytes :=
    Disk.readBytes_eq_ok_iff.mpr ⟨_, time, locate_recordFile hd, hr⟩
  refine ⟨t, ?_⟩
  rw [stored?, Disk.readText_eq_ok_iff.mpr ⟨bytes, text, hb, ht, rfl⟩]
  dsimp only
  rw [hs, ok_bind, Option.filter_some, if_pos (Disk.has_of_isFile hc)]
  rfl

theorem outcome_invalidate : c.invalidate.outcome σ =
    if σ.disk.has c.dir then
      match σ.disk.removeTree c.dir with
      | .error f => (.error (.disk f c.dir), σ)
      | .ok d    => (.ok (), { σ with
          disk := d
          log  := σ.log ++ [⟨.debug, .cache, "Cache invalidated at " ++ c.dir.toString⟩] })
    else (.ok (), σ) := by
  rw [invalidate, Action.outcome_bind_of_ok Action.outcome_disk]
  split
  case isFalse => rfl
  case isTrue  =>
    rw [Action.outcome_bind, Action.removeTree, Action.outcome_bind_of_ok Action.outcome_disk,
      Action.outcome_bind, Action.outcome_ofExcept]
    cases σ.disk.removeTree c.dir <;> rfl

-- A directory is removed, and anything else is left as it is.
theorem invalidate_cases {r : Except Failure Unit} (h : c.invalidate.outcome σ = (r, σ')) :
    (σ.disk.isDir c.dir ∧ r = .ok () ∧ σ'.disk = σ.disk.eraseBelow (σ.disk.keyOf c.dir)) ∨
      ¬σ.disk.isDir c.dir ∧ σ'.disk = σ.disk ∧ (σ.disk.has c.dir = false → r = .ok ()) := by
  rw [outcome_invalidate] at h
  by_cases hd : σ.disk.isDir c.dir
  case pos =>
    rw [if_pos (Disk.has_of_isDir hd), Disk.removeTree_of_isDir hd] at h
    cases h
    exact .inl ⟨hd, rfl, rfl⟩
  case neg =>
    have ⟨f, hf⟩ := Disk.removeTree_of_not_isDir hd
    rw [hf] at h
    split at h <;> cases h
    case isTrue hh => exact .inr ⟨hd, rfl, fun hn => absurd hh (by simp [hn])⟩
    case isFalse   => exact .inr ⟨hd, rfl, fun _ => rfl⟩

theorem workingDir_of_put (h : (c.put content).outcome σ = (r, σ')) : σ'.disk.workingDir = σ.disk.workingDir := by
  rw [outcome_put] at h
  split at h
  case h_1 => cases h; rfl
  case h_2 =>
    split at h
    case h_1      => cases h; rfl
    case h_2 d hm =>
      have hd := (Disk.makeDirs_adds hm).workingDir
      split at h
      case h_1       => cases h; exact hd
      case h_2 d₁ hc =>
        have hd₁ := (Disk.writeBytes_writes hc).left.workingDir.trans hd
        split at h
        case h_1       => cases h; exact hd₁
        case h_2 d₂ hr => cases h; exact (Disk.writeBytes_writes hr).left.workingDir.trans hd₁

theorem workingKey_of_invalidate {r : Except Failure Unit} (h : c.invalidate.outcome σ = (r, σ')) :
    σ'.disk.workingDir.key = σ.disk.workingDir.key := by
  rcases invalidate_cases h with ⟨_, _, hd⟩ | ⟨_, hd, _⟩ <;> rw [hd]
  exact WorkingDir.key_without ..

end TypedResources.Cache
