import TypedResources.Proofs.Migration.Run

-- Running a migration again. After a run that completes, the next one completes as well and changes
-- nothing exactly if the first one has left all source files settled. It need not have: a call in the
-- arguments of a replaced call is met only by the next run.

namespace TypedResources.Migration

variable {m : Migration} {k k₀ : Knowledge} {s s₁ s₂ : Session} {done : Migrated}

-- The disk after a run holds the directories from before, and the report.
theorem grows_of_run (h : (m.run true).outcome k₀ s = (.ok done, k, s₁)) : s.disk.Grows s₁.disk ∧
    s₁.disk.isDir m.reportPath.parent ∧
    ∃ key content time, s₁.disk.locate m.reportPath = .ok key ∧
      s₁.disk.node? key = some (.file content time) := by
  have ⟨_, _, changed, log, sf, d, page, hfiles, _, hm, hw⟩ := run_eq_ok h
  have hf : s.disk.Grows sf.disk := (migrateFiles_eq_ok hfiles).right.left
  have ha := Disk.makeDirs_adds hm
  have hd := Disk.isDir_parent hm hw
  have ⟨key, hl, hn, hs⟩ := Disk.writeBytes_eq_ok_iff.mp hw
  have hg : d.Grows s₁.disk := hs ▸ .set_file hn
  refine ⟨(hf.trans ha.grows).trans hg, hg.isDir hd, key, page, sf.time, hg.locate hl, ?_⟩
  rw [hs, Disk.node?_set_self (Disk.ne_nil_of_node? hn)]

theorem roots_of_grows {d d' : Disk} (h : d.Grows d') (hr : m.roots d ≠ []) : m.roots d' ≠ [] := by
  have ⟨p, hp⟩ := List.exists_mem_of_ne_nil _ hr
  have ⟨hp, hd⟩ := List.mem_filter.mp hp
  exact List.ne_nil_of_mem (List.mem_filter.mpr ⟨hp, h.isDir hd⟩)

-- After a completed run, with the same resources and settings, the next one reports no changed file
-- and leaves every file but the report as it is, exactly if all source files are settled.
theorem rerun_changes_nothing_iff (k₁ : Knowledge) (h : (m.run true).outcome k₀ s = (.ok done, k, s₁))
    (hd : s₂.disk = s₁.disk) (hl : m.learned s₁.disk = m.learned s.disk) :
    (∃ done' k' s₃, (m.run true).outcome k₁ s₂ = (.ok done', k', s₃) ∧ done'.files = [] ∧
      ∀ p, s₁.disk.locate p ≠ s₁.disk.locate m.reportPath →
        s₃.disk.readBytes p = s₁.disk.readBytes p) ↔
    ∀ p ∈ m.sources s₁.disk, SettledFile k s₁.disk p := by
  have ⟨hr, hk, _⟩ := run_eq_ok h
  rw [hk, ← hd] at hl
  constructor
  case mp =>
    intro ⟨done', k', s₃, h', hnil, _⟩
    have ⟨_, hk', changed, log, _, _, _, hfiles, hc, _⟩ := run_eq_ok h'
    cases hl.symm.trans hk'
    rw [← hd]
    exact (migrateFiles_eq_ok hfiles).right.right (hc ▸ hnil) |>.left
  case mpr =>
    intro hs
    have ⟨hg, hp, key, content, time, hkey, hn⟩ := grows_of_run h
    have hm := Disk.makeDirs_of_isDir hp
    have hw :
        s₁.disk.writeBytes m.reportPath (Text.Utf8.encode (Report.render s₂.date []).toList) s₂.time = .ok _ :=
      Disk.writeBytes_eq_ok_iff.mpr ⟨key, hkey, by simp [hn], rfl⟩
    have hr' := roots_of_grows hg hr
    rw [← hd] at hr' hs hm hw
    have ⟨log, h'⟩ := run_of_settled k₁ hr' hl hs hm hw
    refine ⟨_, _, _, h', rfl, fun p hp => ?_⟩
    rw [hkey] at hp
    rw [hd]
    exact Disk.readBytes_set_file hn hp

-- The changes that two runs in a row report, if they complete.
def changesOfTwo (m : Migration) (s : Session) : Option (List Change × List Change) :=
  match (m.run true).outcome {} s with
  | (.ok done, _, s₁) =>
    match (m.run true).outcome {} s₁ with
    | (.ok done', _, _) => some (done.files.flatMap FileChanges.changes, done'.files.flatMap FileChanges.changes)
    | _                 => none
  | _                 => none

theorem runs_of_changesOfTwo {first second : List Change} (h : m.changesOfTwo s = some (first, second)) :
    ∃ done k s₁ done' k' s₂, (m.run true).outcome {} s = (.ok done, k, s₁) ∧
      (m.run true).outcome {} s₁ = (.ok done', k', s₂) ∧ done'.files.flatMap FileChanges.changes = second := by
  unfold changesOfTwo at h
  rcases h₁ : (m.run true).outcome {} s with ⟨_ | done, k, s₁⟩ <;> rw [h₁] at h
  case error => cases h
  case ok    =>
    dsimp only at h
    rcases h₂ : (m.run true).outcome {} s₁ with ⟨_ | done', k', s₂⟩ <;> rw [h₂] at h
    case error => cases h
    case ok    => cases h; exact ⟨done, k, s₁, done', k', s₂, rfl, h₂, rfl⟩

-- A module with one color, and a source file in which one call is an argument of another.
def nested : Migration where
  module   := ⟨.root, ["app"]⟩
  project  := ⟨.root, []⟩
  settings := { moduleRoot := ⟨.root, ["app"]⟩ }

def nestedSession : Session where
  disk :=
    { entries :=
        [(["app"], .dir), (["app", "src"], .dir), (["app", "src", "main"], .dir),
         (["app", "src", "main", "A.kt"],
          .file (Text.Utf8.encode "getColor(R.color.a,getColor(R.color.a,x))".toList) 0),
         (["app", "src", "main", "res"], .dir), (["app", "src", "main", "res", "values"], .dir),
         (["app", "src", "main", "res", "values", "colors.xml"],
          .file (Text.Utf8.encode "<resources><color name=\"a\"/></resources>".toList) 0)] }

-- The outer call is replaced together with its arguments, and the inner one by the next run.
theorem nested_runs :
    nested.changesOfTwo nestedSession =
      some ([⟨1, "getColor(R.color.a,getColor(R.color.a,x))", "ResourceManager.Colors.a(getColor(R.color.a,x))"⟩],
        [⟨1, "getColor(R.color.a,x)", "ResourceManager.Colors.a(x)"⟩]) ∧
    nested.learned ((nested.run true).outcome {} nestedSession).2.2.disk = nested.learned nestedSession.disk := by
  decide +kernel

theorem nested_rerun_changes_file : ∃ done k s₁ done' k' s₂,
    (nested.run true).outcome {} nestedSession = (.ok done, k, s₁) ∧
    nested.learned s₁.disk = nested.learned nestedSession.disk ∧
    (nested.run true).outcome {} s₁ = (.ok done', k', s₂) ∧ done'.files ≠ [] := by
  have ⟨hc, hl⟩ := nested_runs
  have ⟨done, k, s₁, done', k', s₂, h₁, h₂, hf⟩ := runs_of_changesOfTwo hc
  rw [h₁] at hl
  refine ⟨done, k, s₁, done', k', s₂, h₁, hl, h₂, fun hnil => ?_⟩
  rw [hnil] at hf
  cases hf

theorem nested_call_unsettled : ∃ done k s₁, (nested.run true).outcome {} nestedSession = (.ok done, k, s₁) ∧
    nested.learned s₁.disk = nested.learned nestedSession.disk ∧
    ¬∀ p ∈ nested.sources s₁.disk, SettledFile k s₁.disk p := by
  have ⟨hc, hl⟩ := nested_runs
  have ⟨done, k, s₁, done', k', s₂, h₁, h₂, hf⟩ := runs_of_changesOfTwo hc
  rw [h₁] at hl
  refine ⟨done, k, s₁, h₁, hl, fun hs => ?_⟩
  have ⟨done₃, k₃, s₃, h₃, hnil, _⟩ := (rerun_changes_nothing_iff {} h₁ rfl hl).mpr hs
  cases h₂.symm.trans h₃
  rw [hnil] at hf
  cases hf

end TypedResources.Migration
