import TypedResources.Proofs.Cache.Loading
import TypedResources.Proofs.Generate.Freshness

-- What the cache of a module holds after any calls of the generator, with changes outside of the cache
-- in between. A record that can be read always stands beside the class that was rendered last, and
-- that class lacks nothing (`only_complete_classes_kept`): a class that is stored takes the place of
-- the last one, and any other class that is rendered makes the cache forget it. The invariant is
-- `Backed`, which also says that where a record stands the cache is found, since otherwise it could not
-- be forgotten.

namespace TypedResources.Generate

open Cache (Loads Recordless keyOf_dir_prefix_recordFile keyOf_dir_prefix_contentFile)
open Text.Utf8 (encode)

variable {c : Cache} {d d' : Disk} {σ σ' : Session} {last : Option (ClassFile × Bool)} {made : ClassFile} {s : Settings}
  {module output : Path} {i : Inputs} {k : Key} {t : Int}

-- Where a record file is, the cache is found, and if it is read as a record, the class beside it is
-- the one that was rendered last, with the cache on, and lacks nothing.
def Backed (c : Cache) (d : Disk) (last : Option (ClassFile × Bool)) : Prop :=
  ∀ bytes time, d.node? (d.keyOf c.recordFile) = some (.file bytes time) → d.isDir c.dir ∧
    (Loads bytes → ∃ made time', last = some (made, true) ∧ made.skipped = [] ∧
      d.node? (d.keyOf c.contentFile) = some (.file (encode made.content.toList) time'))

theorem backed_of_recordless (h : c.Recordless d) : Backed c d last :=
  fun bytes time hn => absurd hn (h bytes time)

-- What spares the cache and leaves it where it is found changes nothing about it.
theorem Backed.spares (h : Backed c d last) (hs : Disk.Spares (d.keyOf c.dir) d d')
    (hd : d.isDir c.dir → d'.isDir c.dir) : Backed c d' last := by
  intro bytes time hn
  rw [hs.keyOf, hs.file_iff keyOf_dir_prefix_recordFile] at hn
  have ⟨hdir, hl⟩ := h bytes time hn
  refine ⟨hd hdir, fun hloads => ?_⟩
  have ⟨made, time', hlast, hk, hc⟩ := hl hloads
  refine ⟨made, time', hlast, hk, ?_⟩
  rw [hs.keyOf]
  exact (hs.file_iff keyOf_dir_prefix_contentFile).mpr hc

theorem Backed.isFile (h : Backed c d last) {bytes : Bytes} {time : Int}
    (hr : d.node? (d.keyOf c.recordFile) = some (.file bytes time)) (hl : Loads bytes) : d.isFile c.contentFile := by
  have ⟨hd, h⟩ := h bytes time hr
  have ⟨made, time', _, _, hc⟩ := h hl
  exact Disk.isFile_iff.mpr ⟨_, _, _, Cache.locate_contentFile hd, hc⟩

-- After a cache is forgotten there is no record, and if it cannot be forgotten there was none.
theorem recordless_of_invalidate {r : Except Failure Unit} (hb : Backed c σ.disk last)
    (h : c.invalidate.outcome σ = (r, σ')) : c.Recordless σ'.disk := by
  rcases Cache.invalidate_cases h with ⟨_, _, hd⟩ | ⟨hn, hd, _⟩ <;> rw [hd]
  case inl => exact (Cache.cleared_eraseBelow).recordless
  case inr => exact fun bytes time hr => hn (hb bytes time hr).left

-- A complete class is behind the record when it is stored, and if it cannot be stored there is none.
theorem backed_of_put {r : Except Failure Int} (hb : Backed c σ.disk last) (hk : made.skipped = [])
    (hn : ∀ t, c.stored? σ.disk = .ok (some t) → ∃ time, Cache.newest σ.disk c.observed = .ok time)
    (h : (c.put made.content).outcome σ = (r, σ')) : Backed c σ'.disk (some (made, true)) := by
  rw [Cache.outcome_put] at h
  cases ht : Cache.newest σ.disk c.observed <;> rw [ht] at h
  case error f =>
    cases h
    intro bytes time hr
    have ⟨hd, _⟩ := hb bytes time hr
    refine ⟨hd, fun hl => ?_⟩
    have ⟨t, hs⟩ := Cache.stored?_of_loads hd hr hl (hb.isFile hr hl)
    have ⟨time, ht'⟩ := hn t hs
    cases ht.symm.trans ht'
  case ok newest =>
    dsimp only at h
    cases hm : σ.disk.makeDirs c.dir <;> rw [hm] at h
    case error =>
      cases h
      refine backed_of_recordless fun bytes time hr => ?_
      cases hm.symm.trans (Disk.makeDirs_of_isDir (hb bytes time hr).left)
    case ok d =>
      have ha := Disk.makeDirs_adds hm
      dsimp only at h
      cases hc : d.writeBytes c.contentFile (encode made.content.toList) σ.time <;> rw [hc] at h
      case error =>
        cases h
        intro bytes time hr
        rw [ha.grows.keyOf, ha.spares.file_iff keyOf_dir_prefix_recordFile] at hr
        refine ⟨ha.grows.isDir (hb bytes time hr).left, fun hl => ?_⟩
        have hf := ha.grows.isFile (hb.isFile hr hl)
        have ⟨d', hw⟩ := Disk.writeBytes_of_isFile (encode made.content.toList) σ.time hf
        cases hc.symm.trans hw
      case ok d₁ =>
        have hd := Cache.isDir_of_put hm hc
        have hg := (Disk.writeBytes_writes hc).left.toGrows
        dsimp only at h
        cases hr : d₁.writeBytes c.recordFile (encode (Cache.record newest σ.stamp).toList) σ.time <;> rw [hr] at h
        case error =>
          cases h
          refine backed_of_recordless fun bytes time hn => ?_
          have hf : d₁.isFile c.recordFile :=
            Disk.isFile_iff.mpr ⟨_, _, _, Cache.locate_recordFile (hg.isDir hd), hn⟩
          have ⟨d', hw⟩ := Disk.writeBytes_of_isFile (encode (Cache.record newest σ.stamp).toList) σ.time hf
          cases hr.symm.trans hw
        case ok d₂ =>
          cases h
          have hw := (Disk.writeBytes_writes hr).left
          have hb : d₂.readBytes c.contentFile = _ :=
            hw.readBytes (by simpa using Cache.keyOf_contentFile_ne) (Disk.readBytes_of_writeBytes hc)
          have ⟨key, time', hl, hn⟩ := Disk.readBytes_eq_ok_iff.mp hb
          cases Disk.locate_eq_ok hl
          exact fun _ _ _ => ⟨hw.isDir (hg.isDir hd), fun _ => ⟨made, time', rfl, hk, hn⟩⟩

theorem newest_of_offered (hc : s.generation.cache) (ho : offered s c d = .ok none)
    (hs : c.stored? d = .ok (some t)) : ∃ time, Cache.newest d c.observed = .ok time := by
  rw [offered_of_cache hc, Cache.isUpToDate, hs] at ho
  cases hn : Cache.newest d c.observed
  case ok time => exact ⟨time, rfl⟩
  case error f => rw [hn] at ho; cases ho

-- What was rendered is behind the record now, or there is none.
theorem backed_of_keep {r : Except Failure Unit} (hb : Backed c σ.disk last) (ho : offered s c σ.disk = .ok none)
    (h : (keep s c made).outcome σ = (r, σ')) : Backed c σ'.disk (some (made, s.generation.cache)) ∧
      (s.generation.cache = false ∨ made.skipped ≠ [] → c.Recordless σ'.disk) := by
  unfold keep at h
  split at h
  case isTrue hk =>
    have ⟨hc, hk⟩ : s.generation.cache ∧ made.skipped = [] := by simpa using hk
    have ⟨_, _, hp, hd⟩ := Action.disk_of_bind (fun _ _ => rfl) h
    rw [hc, hd]
    exact ⟨backed_of_put hb hk (fun t => newest_of_offered hc ho) hp, by simp [hk]⟩
  case isFalse =>
    have hr := recordless_of_invalidate hb h
    exact ⟨backed_of_recordless hr, fun _ => hr⟩

theorem workingKey_of_keep {r : Except Failure Unit} (h : (keep s c made).outcome σ = (r, σ')) :
    σ'.disk.workingDir.key = σ.disk.workingDir.key := by
  unfold keep at h
  split at h
  case isFalse => exact Cache.workingKey_of_invalidate h
  case isTrue  =>
    have ⟨_, _, hp, hd⟩ := Action.disk_of_bind (fun _ _ => rfl) h
    exact hd ▸ congrArg WorkingDir.key (Cache.workingDir_of_put hp)

-- The class that a run renders, if it comes to that and completes it.
def rendered? (s : Settings) (module : Path) (d : Disk) : Option ClassFile :=
  match (inputs s module).result d with
  | .error _ => none
  | .ok i    =>
    match offered s (cacheOf s module i.observed) d with
    | .ok none => ((classOf s i).result d).toOption
    | _        => none

-- A run tells what it has rendered, and writes it.
theorem result_of_run (h : (run s module output).outcome σ = (.ok g, σ')) :
    match rendered? s module σ.disk with
    | none      => g.fromCache = true ∧ g.skipped = []
    | some made => g.fromCache = false ∧ g.skipped = made.skipped ∧
        σ'.disk.readBytes output = .ok (encode made.content.toList) := by
  have ⟨i, hi, h⟩ := run_eq_ok h
  unfold rendered?
  rw [hi]
  dsimp only
  rcases h with ⟨content, ho, h⟩ | ⟨ho, h⟩ <;> rw [ho]
  case inl =>
    have ⟨_, hg⟩ := reuse_eq_ok_iff.mp h
    exact ⟨hg ▸ rfl, hg ▸ rfl⟩
  case inr =>
    have ⟨made, _, _, hm, _, _, hg, _⟩ := regenerate_eq_ok_iff.mp h
    have ⟨made', hm', hk, _, hr⟩ := writes_of_regenerate h
    rw [disk_prepared] at hm hm'
    cases hm.symm.trans hm'
    rw [hm]
    exact ⟨hg ▸ rfl, hk, hr⟩

theorem rendered?_of_made (h : (run s module output).outcome σ = (.ok g, σ')) (hf : g.fromCache = false) :
    ∃ made, rendered? s module σ.disk = some made ∧ g.skipped = made.skipped := by
  have h := result_of_run h
  cases hm : rendered? s module σ.disk <;> rw [hm] at h
  case none      => cases hf.symm.trans h.left
  case some made => exact ⟨made, rfl, h.right.left⟩

theorem reuse_spares {r : Except Failure Generated} {content : String} (h : (reuse output content).outcome σ = (r, σ'))
    (hk : ¬k <+: σ.disk.keyOf output) : Disk.Spares k σ.disk σ'.disk ∧ σ.disk.Grows σ'.disk := by
  rw [reuse, log, Action.outcome_bind_of_ok (Action.outcome_log ..)] at h
  obtain ⟨_, _, hw, hd⟩ := Action.disk_of_bind (fun _ _ => rfl) h
  have hs := Action.writeBelow_spares hw hk
  rwa [← hd] at hs

-- A class that was rendered is kept first and written then.
theorem regenerate_spares {r : Except Failure Generated} (h : (regenerate s c i output).outcome σ = (r, σ')) :
    match (classOf s i).result σ.disk with
    | .error _ => σ'.disk = σ.disk
    | .ok made => ∃ σ₀ r₁ σ₁, σ₀.disk = σ.disk ∧ (keep s c made).outcome σ₀ = (r₁, σ₁) ∧
      ∀ k, ¬k <+: σ₁.disk.keyOf output → Disk.Spares k σ₁.disk σ'.disk ∧ σ₁.disk.Grows σ'.disk := by
  rw [regenerate, Action.outcome_bind, Action.outcome_query steady_classOf] at h
  cases hc : (classOf s i).result σ.disk <;> rw [hc] at h
  case error   => cases h; rfl
  case ok made =>
    dsimp only at h ⊢
    rw [Action.outcome_bind] at h
    rcases hk : (keep s c made).outcome { σ with log := σ.log ++ (classOf s i).records σ.disk } with ⟨r₁, σ₁⟩
    refine ⟨{ σ with log := σ.log ++ (classOf s i).records σ.disk }, r₁, σ₁, rfl, hk, fun k ho => ?_⟩
    rw [hk] at h
    cases r₁
    case error => cases h; exact ⟨.refl _ _, .refl _⟩
    case ok    =>
      obtain ⟨_, _, hw, hd⟩ := Action.disk_of_bind (fun _ _ => rfl) h
      exact hd ▸ Action.writeBelow_spares hw ho

theorem Backed.of_dir {c' : Cache} (h : Backed c d last) (hd : c'.dir = c.dir) : Backed c' d last := by
  cases c
  cases c'
  cases hd
  exact h

-- What one run makes of the cache, if it writes its class elsewhere.
theorem backed_of_run {r : Except Failure Generated} (hb : Backed c σ.disk last) (hc : (recordOf s module).dir = c.dir)
    (ho : ¬σ.disk.keyOf c.dir <+: σ.disk.keyOf output) (h : (run s module output).outcome σ = (r, σ')) :
    Backed c σ'.disk ((rendered? s module σ.disk).map (·, s.generation.cache) <|> last) ∧
      ∀ made, rendered? s module σ.disk = some made → s.generation.cache = false ∨ made.skipped ≠ [] →
        c.Recordless σ'.disk := by
  rw [outcome_run] at h
  unfold rendered?
  cases hi : (inputs s module).result σ.disk <;> rw [hi] at h
  case error => cases h; exact ⟨hb, nofun⟩
  case ok i  =>
    dsimp only at h ⊢
    rcases hoff : offered s (cacheOf s module i.observed) σ.disk with _ | _ | content <;> rw [hoff] at h
    case error   => cases h; exact ⟨hb, nofun⟩
    case ok.some =>
      have ⟨hs, hg⟩ := reuse_spares h ho
      exact ⟨hb.spares hs hg.isDir, nofun⟩
    case ok.none =>
      dsimp only at h ⊢
      have hr := regenerate_spares h
      rw [disk_prepared] at hr
      cases hm : (classOf s i).result σ.disk <;> rw [hm] at hr
      case error => exact ⟨hr ▸ hb, nofun⟩
      case ok made =>
        have ⟨σ₀, r₁, σ₁, hd, hk, hs⟩ := hr
        have hw := workingKey_of_keep hk
        rw [hd] at hw
        rw [← hd] at hb hoff
        have hdir : (cacheOf s module i.observed).dir = c.dir := hc
        have ⟨hb₁, hr₁⟩ := backed_of_keep (hb.of_dir hdir) hoff hk
        have ⟨hs, hg⟩ := hs (σ₁.disk.keyOf c.dir) (by rwa [Disk.keyOf_congr hw, Disk.keyOf_congr hw])
        refine ⟨(hb₁.of_dir hdir.symm).spares hs hg.isDir, fun made' hm' hbad => ?_⟩
        cases hm'
        exact ((hr₁ hbad).of_dir hdir.symm).spares hs

-- A change outside of the cache: all that stands in its directory stays, and is still found there.
structure Outside (c : Cache) (d d' : Disk) : Prop where
  workingKey : d'.workingDir.key = d.workingDir.key
  node       : ∀ k, d.keyOf c.dir <+: k → d'.node? k = d.node? k
  found      : d.isDir c.dir → d'.isDir c.dir

theorem Outside.spares (h : Outside c d d') : Disk.Spares (d.keyOf c.dir) d d' where
  workingKey := h.workingKey
  node       := fun k hk => .inl (h.node k hk)

-- Calls that keep their classes in the cache, with any settings else and with an output outside of
-- it, and changes outside of it in between; there is no record in the beginning. `last` is the class
-- that was rendered last, and whether that was with the cache on.
inductive Reachable (c : Cache) : (d : Disk) → (last : Option (ClassFile × Bool)) → Prop
  | start {d : Disk} (h : c.Recordless d) : Reachable c d none
  | change {d d' : Disk} {last : Option (ClassFile × Bool)} (h : Reachable c d last) (ho : Outside c d d') :
      Reachable c d' last
  | call {σ σ' : Session} {last : Option (ClassFile × Bool)} {s : Settings} {module output : Path}
      {r : Except Failure Generated} (h : Reachable c σ.disk last) (hc : (recordOf s module).dir = c.dir)
      (ho : ¬σ.disk.keyOf c.dir <+: σ.disk.keyOf output) (hr : (run s module output).outcome σ = (r, σ')) :
      Reachable c σ'.disk ((rendered? s module σ.disk).map (·, s.generation.cache) <|> last)

theorem Reachable.backed (h : Reachable c d last) : Backed c d last := by
  induction h
  case start h          => exact backed_of_recordless h
  case change ho ih     => exact ih.spares ho.spares ho.found
  case call hc ho hr ih => exact (backed_of_run ih hc ho hr).left

-- Whatever has happened, a record that can be read stands beside the class that was rendered last,
-- which was rendered with the cache on and lacks nothing. A run that renders a class otherwise leaves
-- no record behind.
theorem only_complete_classes_kept (h : Reachable c d last) :
    (∀ t, c.stored? d = .ok (some t) → ∃ made, last = some (made, true) ∧ made.skipped = [] ∧
      d.readRaw c.contentFile = .ok made.content.toList) ∧
    ∀ s module output σ σ' r made, σ.disk = d → (recordOf s module).dir = c.dir →
      ¬d.keyOf c.dir <+: d.keyOf output → (run s module output).outcome σ = (r, σ') →
      rendered? s module d = some made → s.generation.cache = false ∨ made.skipped ≠ [] →
      c.Recordless σ'.disk ∧ ∀ t, c.stored? σ'.disk ≠ .ok (some t) := by
  constructor
  case left =>
    intro t hs
    obtain ⟨bytes, time, hr, hl⟩ := Cache.loads_of_stored? hs
    obtain ⟨hd, hb⟩ := h.backed bytes time hr
    obtain ⟨made, time', hlast, hk, hc⟩ := hb hl
    refine ⟨made, hlast, hk, Disk.readRaw_of_readBytes ?_⟩
    exact Disk.readBytes_eq_ok_iff.mpr ⟨_, time', Cache.locate_contentFile hd, hc⟩
  case right =>
    intro s module output σ σ' r made hσ hc ho hr hm hbad
    subst hσ
    have hn := (backed_of_run h.backed hc ho hr).right made hm hbad
    refine ⟨hn, fun t hs => ?_⟩
    obtain ⟨bytes, time, hr, _⟩ := Cache.loads_of_stored? hs
    exact hn bytes time hr

def appRecord : Cache :=
  recordOf appSettings appDir

theorem recordless_appDisk : appRecord.Recordless appDisk := by
  have h : appDisk.node? (appDisk.keyOf appRecord.recordFile) = none := by decide +kernel
  intro bytes time hn
  rw [h] at hn
  cases hn

theorem reachable_appRun : ∃ made, Reachable appRecord appRun.2.disk (some (made, true)) ∧ made.skipped = [] := by
  have ⟨g, hg, hf, hk⟩ := kept_appRun
  have ⟨made, hm, hk'⟩ := rendered?_of_made hg hf
  have ho : ¬appDisk.keyOf appRecord.dir <+: appDisk.keyOf appOutput := by decide +kernel
  have h := Reachable.call (σ := Clock.session appDisk 1) (s := appSettings.caching true)
    (.start recordless_appDisk) rfl ho hg
  rw [hm] at h
  exact ⟨made, h, hk'.symm.trans hk⟩

theorem stored?_appRun : appRecord.stored? appRun.2.disk = .ok (some 0) := by
  have ⟨g, hg, hf, hk⟩ := kept_appRun
  have ⟨_, time, _, ht, hh, _⟩ := holds_of_run Cache.isStamp_session hg hf hk editedSince_newManifest.apart
  cases ht.symm.trans editedSince_newManifest.observed
  exact Cache.stored?_of_holds hh Numeral.integerLimit_pos

def offRun : Except Failure Generated × Session :=
  (run (appSettings.caching false) appDir appOutput).outcome (Clock.session appRun.2.disk 2)

theorem app_record_kept_then_dropped : ∃ made,
    (Reachable appRecord appRun.2.disk (some (made, true)) ∧ appRecord.stored? appRun.2.disk = .ok (some 0) ∧
      made.skipped = [] ∧ appRun.2.disk.readRaw appRecord.contentFile = .ok made.content.toList) ∧
    (rendered? (appSettings.caching false) appDir appRun.2.disk).isSome ∧ appRecord.Recordless offRun.2.disk := by
  have ⟨made, h, hk⟩ := reachable_appRun
  have ⟨hkept, hdropped⟩ := only_complete_classes_kept h
  have ⟨made', hl, _, hr⟩ := hkept 0 stored?_appRun
  cases hl
  have ⟨g, hg, hf⟩ : ∃ g, offRun = (.ok g, offRun.2) ∧ g.fromCache = false :=
    Action.outcome_eq_ok_of_map (f := Generated.fromCache) (by decide +kernel)
  have ⟨off, hm, _⟩ := rendered?_of_made (σ := Clock.session appRun.2.disk 2) hg hf
  rw [disk_session] at hm
  have ho : ¬appRun.2.disk.keyOf appRecord.dir <+: appRun.2.disk.keyOf appOutput := by decide +kernel
  have hn := hdropped (appSettings.caching false) appDir appOutput (Clock.session appRun.2.disk 2) offRun.2 _ off
    disk_session rfl ho hg hm (.inl rfl)
  exact ⟨made, ⟨h, stored?_appRun, hk, hr⟩, Option.isSome_iff_exists.mpr ⟨off, hm⟩, hn.left⟩

end TypedResources.Generate
