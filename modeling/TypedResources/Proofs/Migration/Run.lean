import TypedResources.Proofs.Disk.Growth
import TypedResources.Proofs.Locate
import TypedResources.Proofs.Migration.Migrating
import TypedResources.Proofs.Migration.Revision
import TypedResources.Proofs.Migration.Targets

-- What a run of a migration does: it learns what the disk says of the resources (`outcome_learn`),
-- revises one source file after another (`migrateFile_eq_ok`), and writes its report (`run_eq_ok`).
-- Logs are left open here; no later step depends on them.

namespace TypedResources.Migration

variable {m : Migration} {k k' : Knowledge} {s s' : Session} {p : Path} {d d' : Disk}

-- What a run knows of the resources on a disk.
def learned (m : Migration) (d : Disk) : Except Failure Knowledge := do
  let package ← (BuildFile.namespace? m.module).result d
  let groups ← (Locate.groups m.site).result d
  let found ← (targets groups).result d
  return ⟨package.getD "", groups.map ResourceGroup.owner, found⟩

-- What was known before plays no part in what is learned.
theorem outcome_learn (m : Migration) (k : Knowledge) (s : Session) : ∃ log, match m.learned s.disk with
    | .ok k'   => m.learn.outcome k s = (.ok (), k', { s with log := log })
    | .error f => ∃ k', m.learn.outcome k s = (.error f, k', { s with log := log }) := by
  unfold learn learned
  rw [Migrating.outcome_bind, Migrating.outcome_query BuildFile.steady_namespace?]
  cases (BuildFile.namespace? m.module).result s.disk
  case error => exact ⟨_, _, rfl⟩
  case ok package =>
    simp only [ok_bind, Migrating.outcome_bind, Migrating.outcome_modify,
      Migrating.outcome_query Locate.steady_groups]
    cases (Locate.groups m.site).result s.disk
    case error => exact ⟨_, _, rfl⟩
    case ok groups =>
      simp only [ok_bind, Migrating.outcome_query (steady_targets groups)]
      cases (targets groups).result s.disk
      case error => exact ⟨_, _, rfl⟩
      case ok    => exact ⟨_, rfl⟩

theorem learned_eq_ok (h : m.learned d = .ok k) : ∃ package groups,
    (BuildFile.namespace? m.module).result d = .ok package ∧ (Locate.groups m.site).result d = .ok groups ∧
      (targets groups).result d = .ok k.targets ∧ k.package = package.getD "" ∧
      k.owners = groups.map ResourceGroup.owner := by
  unfold learned at h
  cases hn : (BuildFile.namespace? m.module).result d <;> rw [hn] at h
  case error      => cases h
  case ok package =>
    rw [ok_bind] at h
    cases hg : (Locate.groups m.site).result d <;> rw [hg] at h
    case error     => cases h
    case ok groups =>
      rw [ok_bind] at h
      cases ht : (targets groups).result d <;> rw [ht] at h <;> cases h
      exact ⟨package, groups, rfl, rfl, ht, rfl, rfl⟩

theorem outcome_logEvents (events : List Event) (file : String) (k : Knowledge) (s : Session) :
    ∃ log, Migrating.outcome (forIn events PUnit.unit fun e _ => do
        Migration.log .info (e.message file)
        pure (ForInStep.yield PUnit.unit)) k s = (.ok PUnit.unit, k, { s with log := log }) := by
  induction events generalizing s
  case nil              => exact ⟨s.log, rfl⟩
  case cons e events ih =>
    rw [List.forIn_cons]
    exact ih { s with log := s.log ++ [⟨.info, .migration, e.message file⟩] }

-- The revision of a source file with what is known.
def revisionOf (k : Knowledge) (p : Path) (text : List Char) : Revision :=
  revise k (p.suffix = ".java".toList) text

theorem outcome_migrateFile (p : Path) (k : Knowledge) (s : Session) : ∃ log, (migrateFile p).outcome k s =
    match s.disk.readRaw p with
    | .error f => (.error f, k, { s with log := log })
    | .ok text =>
      let r := revisionOf k p text
      if r.changes = [] then (.ok none, k, { s with log := log })
      else match s.disk.writeBytes p (Text.Utf8.encode r.text) s.time with
        | .error f => (.error (.disk f p), k, { s with log := log })
        | .ok d    => (.ok (some ⟨p.name, p.toString, r.sortedChanges⟩), k, { s with disk := d, log := log }) := by
  unfold migrateFile
  rw [Migrating.outcome_bind, Migrating.outcome_action, Action.outcome_disk]
  dsimp only
  rw [Migrating.outcome_bind, Migrating.outcome_action, Action.outcome_ofExcept]
  cases s.disk.readRaw p
  case error   => exact ⟨_, rfl⟩
  case ok text =>
    dsimp only
    rw [Migrating.outcome_bind, Migrating.outcome_knowledge]
    have ⟨log, hl⟩ := outcome_logEvents (revisionOf k p text).events p.toString k s
    refine ⟨log, (Migrating.outcome_bind_of_ok hl).trans ?_⟩
    change Migrating.outcome (if (revisionOf k p text).changes.isEmpty = true then pure none else do
      Action.writeText p (revisionOf k p text).text
      pure (some _)) k _ = _
    cases hc : (revisionOf k p text).changes
    case nil  => rfl
    case cons =>
      rw [if_neg (by simp), if_neg (by simp), Migrating.outcome_bind, Migrating.outcome_action,
        Action.outcome_writeText]
      dsimp only
      cases s.disk.writeBytes p (Text.Utf8.encode (revisionOf k p text).text) s.time <;> rfl

-- The file is a text in which nothing is to be replaced.
def SettledFile (k : Knowledge) (d : Disk) (p : Path) : Prop :=
  ∃ text, d.readRaw p = .ok text ∧ SettledText k text

theorem migrateFile_of_settled (h : SettledFile k s.disk p) :
    ∃ log, (migrateFile p).outcome k s = (.ok none, k, { s with log := log }) := by
  have ⟨text, ht, hs⟩ := h
  have ⟨log, hl⟩ := outcome_migrateFile p k s
  refine ⟨log, hl.trans ?_⟩
  rw [ht]
  exact if_pos (changes_revise_iff.mpr hs)

theorem migrateFile_eq_ok {r : Option FileChanges} (h : (migrateFile p).outcome k s = (.ok r, k', s')) :
    k' = k ∧ s.disk.Grows s'.disk ∧ (r = none → SettledFile k s.disk p ∧ s'.disk = s.disk) := by
  have ⟨log, hl⟩ := outcome_migrateFile p k s
  rw [h] at hl
  cases ht : s.disk.readRaw p
  case error => rw [ht] at hl; cases hl
  case ok text =>
    rw [ht] at hl
    dsimp only at hl
    split at hl
    case isTrue hc =>
      cases hl
      exact ⟨rfl, .refl _, fun _ => ⟨⟨text, ht, changes_revise_iff.mp hc⟩, rfl⟩⟩
    case isFalse =>
      cases hw : s.disk.writeBytes p (Text.Utf8.encode (revisionOf k p text).text) s.time
      case error => rw [hw] at hl; cases hl
      case ok d  =>
        rw [hw] at hl
        cases hl
        obtain ⟨key, -, hn, rfl⟩ := Disk.writeBytes_eq_ok_iff.mp hw
        exact ⟨rfl, .set_file hn, nofun⟩

variable {ps : List Path} {changed : List (Option FileChanges)}

theorem migrateFiles_of_settled (h : ∀ p ∈ ps, SettledFile k s.disk p) :
    ∃ log, (ps.mapM migrateFile).outcome k s = (.ok (ps.map fun _ => none), k, { s with log := log }) := by
  induction ps generalizing s
  case nil          => exact ⟨s.log, rfl⟩
  case cons p ps ih =>
    have ⟨log, hl⟩ := migrateFile_of_settled (h p List.mem_cons_self)
    have ⟨log', hl'⟩ := ih (s := { s with log := log }) fun p hp => h p (List.mem_cons_of_mem _ hp)
    refine ⟨log', ?_⟩
    rw [List.mapM_cons, Migrating.outcome_bind_of_ok hl, Migrating.outcome_bind_of_ok hl']
    rfl

theorem migrateFiles_eq_ok (h : (ps.mapM migrateFile).outcome k s = (.ok changed, k', s')) :
    k' = k ∧ s.disk.Grows s'.disk ∧
      (changed.filterMap id = [] → (∀ p ∈ ps, SettledFile k s.disk p) ∧ s'.disk = s.disk) := by
  induction ps generalizing s changed
  case nil          => cases h; exact ⟨rfl, .refl _, fun _ => ⟨nofun, rfl⟩⟩
  case cons p ps ih =>
    rw [List.mapM_cons, Migrating.bind_eq_ok_iff] at h
    have ⟨r, k₁, s₁, hp, h⟩ := h
    have ⟨rest, k₂, s₂, hps, h⟩ := Migrating.bind_eq_ok_iff.mp h
    cases h
    obtain ⟨rfl, hg, hn⟩ := migrateFile_eq_ok hp
    obtain ⟨rfl, hg', hn'⟩ := ih hps
    refine ⟨rfl, hg.trans hg', fun hc => ?_⟩
    cases r
    case some => simp at hc
    case none =>
      have ⟨hs, hd⟩ := hn rfl
      have ⟨hs', hd'⟩ := hn' (by simpa using hc)
      exact ⟨List.forall_mem_cons.mpr ⟨hs, hd ▸ hs'⟩, hd'.trans hd⟩

def roots (m : Migration) (d : Disk) : List Path :=
  (m.settings.migration.sourceDirs.map fun dir => m.module / Path.ofPoints dir).filter d.isDir

-- The source files of a module on a disk.
def sources (m : Migration) (d : Disk) : List Path :=
  m.sourceFiles d (m.roots d)

theorem outcome_sourceRoots : m.sourceRoots.outcome s =
    if m.roots s.disk = [] then
      (.error (.noSourceDirectory (m.settings.migration.sourceDirs.map fun dir => m.module / Path.ofPoints dir)), s)
    else (.ok (m.roots s.disk), s) := by
  unfold sourceRoots
  rw [Action.outcome_bind, Action.outcome_disk]
  change Action.outcome (if (m.roots s.disk).isEmpty = true then _ else pure (m.roots s.disk)) s = _
  cases m.roots s.disk <;> simp

theorem run_of_settled (k : Knowledge) (hr : m.roots s.disk ≠ []) (hl : m.learned s.disk = .ok k')
    (hs : ∀ p ∈ m.sources s.disk, SettledFile k' s.disk p) (hm : s.disk.makeDirs m.reportPath.parent = .ok d)
    (hw : d.writeBytes m.reportPath (Text.Utf8.encode (Report.render s.date []).toList) s.time = .ok d') :
    ∃ log, (m.run true).outcome k s = (.ok ⟨[], m.reportPath⟩, k', { s with disk := d', log := log }) := by
  have ⟨log, hlearn⟩ := outcome_learn m k s
  rw [hl] at hlearn
  have ⟨log', hfiles⟩ := migrateFiles_of_settled (s := { s with log := log }) hs
  unfold run
  dsimp only
  rw [if_neg (by decide), Migrating.outcome_bind, Migrating.outcome_action, outcome_sourceRoots, if_neg hr]
  dsimp only
  rw [Migrating.outcome_bind_of_ok hlearn, Migrating.outcome_bind, Migrating.outcome_action, Action.outcome_disk]
  have hnil : ((m.sources s.disk).map fun _ => none).filterMap id = ([] : List FileChanges) := by
    simp [List.filterMap_map]
  have hreport (log : Log) : (Action.writeBelow m.reportPath (Report.render s.date []).toList).outcome
      { s with log := log } = (.ok (), { s with disk := d', log := log }) :=
    Action.writeBelow_eq_ok_iff.mpr ⟨d, d', hm, hw, rfl⟩
  dsimp only
  rw [← sources, Migrating.outcome_bind_of_ok hfiles, hnil]
  simp only [Migrating.outcome_bind, Migrating.outcome_action, Migration.log, Action.outcome_log,
    Migrating.outcome_session, hreport, Action.outcome_disk, Migrating.outcome_pure]
  exact ⟨_, rfl⟩

theorem run_eq_ok {done : Migrated} (h : (m.run true).outcome k s = (.ok done, k', s')) :
    m.roots s.disk ≠ [] ∧ m.learned s.disk = .ok k' ∧ ∃ changed log s₁ d page,
      ((m.sources s.disk).mapM migrateFile).outcome k' { s with log := log } = (.ok changed, k', s₁) ∧
      done.files = changed.filterMap id ∧ s₁.disk.makeDirs m.reportPath.parent = .ok d ∧
      d.writeBytes m.reportPath page s₁.time = .ok s'.disk := by
  unfold run at h
  dsimp only at h
  rw [if_neg (by decide), Migrating.outcome_bind, Migrating.outcome_action, outcome_sourceRoots] at h
  by_cases hr : m.roots s.disk = []
  case pos => rw [if_pos hr] at h; cases h
  case neg =>
    rw [if_neg hr] at h
    have ⟨log, hl⟩ := outcome_learn m k s
    cases hk : m.learned s.disk
    case error =>
      rw [hk] at hl
      have ⟨_, hl⟩ := hl
      dsimp only at h
      rw [Migrating.outcome_bind, hl] at h
      cases h
    case ok k₁ =>
      rw [hk] at hl
      dsimp only at h
      rw [Migrating.outcome_bind_of_ok hl, Migrating.outcome_bind, Migrating.outcome_action,
        Action.outcome_disk] at h
      have ⟨changed, k₂, s₂, hfiles, h₂⟩ := Migrating.bind_eq_ok_iff.mp h
      have hk₂ := (migrateFiles_eq_ok hfiles).left
      rw [hk₂] at hfiles h₂
      rw [Migrating.outcome_bind, Migrating.outcome_action, Migration.log, Action.outcome_log] at h₂
      dsimp only at h₂
      rw [Migrating.outcome_bind, Migrating.outcome_session] at h₂
      have ⟨_, k₃, s₃, hreport, h₃⟩ := Migrating.bind_eq_ok_iff.mp h₂
      have ⟨hwrite, hk₃⟩ := Migrating.action_eq_ok_iff.mp hreport
      have ⟨d, d', hm, hw, hs₃⟩ := Action.writeBelow_eq_ok_iff.mp hwrite
      subst hk₃ hs₃
      cases h₃
      exact ⟨hr, rfl, changed, log, s₂, d, _, hfiles, rfl, hm, hw⟩

end TypedResources.Migration
