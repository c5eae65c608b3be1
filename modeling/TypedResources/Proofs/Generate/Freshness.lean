import TypedResources.Proofs.Disk.Edits
import TypedResources.Proofs.Generate.Record

-- When a run with the cache writes what it writes without it, after files have been edited. An edit
-- that a run observes is seen by its time (`lt_inputTime`). Not every file that the class is made
-- from is observed: the manifest is not, and neither is what the build files and manifests of other
-- modules say.

namespace TypedResources.Generate

open Text.Utf8 (encode)

variable {s : Settings} {c : Cache} {g : Generated} {module output : Path} {d : Disk} {text : List Char}
  {time t : Int}

-- Edits of other files leave a record as it was.
theorem holds_of_edits {d' : Disk} {es : List Disk.Edit} (hc : c.Holds d text time) (h : d.edits es = .ok d')
    (he : ∀ e ∈ es, ¬d'.sameFile e.path c.contentFile ∧ ¬d'.sameFile e.path c.recordFile) :
    c.Holds d' text time := by
  have hw := Disk.edits_writes h
  have key_not_mem {p : Path} (hp : d.isFile p) (hne : ∀ e ∈ es, ¬d'.sameFile e.path p) :
      d.keyOf p ∉ es.map fun e => d.keyOf e.path := by
    intro hk
    have ⟨e, he, hk⟩ := List.mem_map.mp hk
    have ⟨k, hl, e', _, hn⟩ := Disk.edits_node h he
    have hf : d'.isFile e.path := Disk.isFile_iff.mpr ⟨k, _, _, hl, hn⟩
    rw [← hw.toGrows.keyOf, ← hw.toGrows.keyOf] at hk
    exact hne e he (Disk.sameFile_of_isFile hf (hw.isFile hp) hk)
  have ⟨_, _, hr⟩ := hc.record
  have hcn := key_not_mem (Disk.isFile_of_readBytes hc.content) fun e h => (he e h).left
  have hrn := key_not_mem (Disk.isFile_of_readBytes hr) fun e h => (he e h).right
  exact hc.of_writes hw (hw.readBytes hcn hc.content) hrn

theorem disk_session {now : Int} : (Clock.session d now).disk = d :=
  rfl

-- Whether an edit has written a file that a run on the disk observes.
def ObservesEdit (s : Settings) (module : Path) (d : Disk) (es : List Disk.Edit) : Prop :=
  ∃ i, (inputs s module).result d = .ok i ∧ ∃ e ∈ es, ∃ p ∈ i.observed, d.sameFile p e.path

-- An edit that is observed is seen by its time, if that is new.
theorem lt_inputTime {d' : Disk} {es : List Disk.Edit} (he : d.edits es = .ok d') (hn : ∀ e ∈ es, t < e.time)
    (ht : inputTime s module d' = .ok time) (ho : ObservesEdit s module d' es) : t < time := by
  obtain ⟨i, hi, e, hmem, p, hp, hs⟩ := ho
  rw [inputTime, hi, ok_bind] at ht
  obtain ⟨k, hl, e', hmem', hk⟩ := Disk.edits_node he hmem
  have hl : d'.locate p = .ok k := (Disk.sameFile_iff hl).mp hs
  have hs : d'.stat p = .ok (.file e'.content e'.time) := Disk.stat_eq_ok_iff.mpr ⟨k, hl, hk⟩
  exact Int.lt_of_lt_of_le (hn e' hmem') ((Cache.newest_eq_ok_iff.mp ht).right.le p hp _ _ hs)

-- A run that keeps its class, and edits of other files since, each with a time that is later than
-- all times that the run observed. The settings may be edited, but not where the class is kept. The
-- time in the record has no more digits than are read again, which no time of a file comes near.
structure EditedSince (s s' : Settings) (module output : Path) (d : Disk) (now t : Int) (σ : Session)
    (es : List Disk.Edit) (d' : Disk) : Prop where
  kept     : ∃ g, (run (s.caching true) module output).outcome (Clock.session d now) = (.ok g, σ) ∧
    g.fromCache = false ∧ g.skipped = []
  apart    : ¬σ.disk.sameFile output (recordOf s module).recordFile
  observed : inputTime s module d = .ok t
  written  : t.natAbs < Numeral.integerLimit
  edited   : σ.disk.edits es = .ok d'
  later    : ∀ e ∈ es, t < e.time
  others   : ∀ e ∈ es, ¬d'.sameFile e.path (recordOf s module).contentFile ∧
    ¬d'.sameFile e.path (recordOf s module).recordFile
  place    : recordOf s' module = recordOf s module

section EditedSince

variable {s₁ s₂ : Settings} {d₁ d₂ : Disk} {now₁ now₂ : Int} {σ₁ σ₂ : Session} {es : List Disk.Edit}

-- What the next run comes to when it would succeed without the cache.
theorem EditedSince.outcome (h : EditedSince s₁ s₂ module output d₁ now₁ t σ₁ es d₂)
    (hr : (run (s₂.caching false) module output).outcome (Clock.session d₂ now₂) = (.ok g, σ₂)) :
    ∃ old new, classOn s₁ module d₁ = .ok old ∧ classOn s₂ module d₂ = .ok new ∧
      σ₂.disk.readBytes output = .ok (encode new.content.toList) ∧
      match inputTime s₂ module d₂ with
      | .error f => ∃ σ', (run (s₂.caching true) module output).outcome (Clock.session d₂ now₂) = (.error f, σ')
      | .ok time => ∃ g σ', (run (s₂.caching true) module output).outcome (Clock.session d₂ now₂) = (.ok g, σ') ∧
          σ'.disk.readBytes output =
            .ok (encode (if t = time then Text.unifyNewlines old.content.toList else new.content.toList)) := by
  have ⟨g₁, h₁, hf, hk⟩ := h.kept
  have ⟨old, t', ho, ht, hh, hfile, hdir⟩ := holds_of_run Cache.isStamp_session h₁ hf hk h.apart
  rw [disk_session] at ho ht
  cases ht.symm.trans h.observed
  have hg := (Disk.edits_writes h.edited).toGrows
  have hh : (recordOf s₂ module).Holds d₂ old.content.toList t := h.place ▸ holds_of_edits hh h.edited h.others
  have ⟨new, hn, hw, hrun⟩ :=
    outcome_of_holds hh h.written (hg.isFile hfile) (hg.isDir hdir) hr
  rw [disk_session] at hn hrun
  exact ⟨old, new, ho, hn, hw, hrun⟩

-- A run that observes no new time writes the old class.
theorem EditedSince.reused (h : EditedSince s₁ s₂ module output d₁ now₁ t σ₁ es d₂)
    (hr : (run (s₂.caching false) module output).outcome (Clock.session d₂ now₂) = (.ok g, σ₂))
    (ht : inputTime s₂ module d₂ = .ok t) : ∃ old new g' σ', classOn s₁ module d₁ = .ok old ∧
      classOn s₂ module d₂ = .ok new ∧ σ₂.disk.readBytes output = .ok (encode new.content.toList) ∧
      (run (s₂.caching true) module output).outcome (Clock.session d₂ now₂) = (.ok g', σ') ∧
      σ'.disk.readBytes output = .ok (encode (Text.unifyNewlines old.content.toList)) := by
  have ⟨old, new, ho, hn, hw, hrun⟩ := h.outcome hr
  rw [ht] at hrun
  have ⟨g', σ', h', hr'⟩ := hrun
  rw [if_pos rfl] at hr'
  exact ⟨old, new, g', σ', ho, hn, hw, h', hr'⟩

-- With the cache the next run writes what it writes without it exactly if it can tell that something
-- was edited, or if the class is the same as before. Line endings are unified in the cache.
theorem cached_run_fresh_iff (h : EditedSince s₁ s₂ module output d₁ now₁ t σ₁ es d₂)
    (hr : (run (s₂.caching false) module output).outcome (Clock.session d₂ now₂) = (.ok g, σ₂)) :
    (∃ g' σ', (run (s₂.caching true) module output).outcome (Clock.session d₂ now₂) = (.ok g', σ') ∧
        σ'.disk.readBytes output = σ₂.disk.readBytes output) ↔
      ∃ time, inputTime s₂ module d₂ = .ok time ∧
        (ObservesEdit s₂ module d₂ es ∨ time ≠ t ∨
          (classOn s₁ module d₁).map (Text.unifyNewlines ·.content.toList) =
            (classOn s₂ module d₂).map (·.content.toList)) := by
  have ⟨old, new, ho, hn, hw, hrun⟩ := h.outcome hr
  rw [hw, ho, hn]
  cases ht : inputTime s₂ module d₂
  case error f =>
    rw [ht] at hrun
    have ⟨σ', hrun⟩ := hrun
    constructor
    case mp  => rintro ⟨g', σ', h', -⟩; cases hrun.symm.trans h'
    case mpr => rintro ⟨time, h, -⟩; cases h
  case ok time =>
    rw [ht] at hrun
    have ⟨g', σ', h', hr'⟩ := hrun
    constructor
    case mp =>
      rintro ⟨_, _, h'', heq⟩
      cases h'.symm.trans h''
      rw [hr'] at heq
      have heq := Text.Utf8.encode_injective (Except.ok.inj heq)
      refine ⟨time, rfl, ?_⟩
      by_cases hte : t = time
      case neg => exact .inr (.inl (Ne.symm hte))
      case pos => rw [if_pos hte] at heq; exact .inr (.inr (congrArg Except.ok heq))
    case mpr =>
      rintro ⟨_, ⟨⟩, hc⟩
      refine ⟨g', σ', h', ?_⟩
      by_cases hte : t = time
      case neg => rw [hr', if_neg hte]
      case pos =>
        rw [hr', if_pos hte]
        rcases hc with hc | hc | hc
        · exact absurd (lt_inputTime h.edited h.later ht hc) (by omega)
        · exact absurd hte.symm hc
        · exact congrArg (Except.ok ∘ encode) (Except.ok.inj hc)

end EditedSince

-- A module that only its manifest gives a package.
def appDir : Path := ⟨.root, ["app"]⟩

def appSettings : Settings where
  moduleRoot := appDir

def appOutput : Path := ⟨.root, ["A.kt"]⟩

def manifest (package : String) : Bytes :=
  encode ("<manifest package=\"" ++ package ++ "\"/>").toList

def appDisk : Disk where
  entries :=
    [(["app"], .dir), (["app", "build.gradle"], .file [] 0), (["app", "src"], .dir), (["app", "src", "main"], .dir),
     (["app", "src", "main", "AndroidManifest.xml"], .file (manifest "a") 0)]

def newManifest : Disk.Edit :=
  ⟨appDir / BuildFile.manifestPath, manifest "b", 2⟩

def appRun : Except Failure Generated × Session :=
  (run (appSettings.caching true) appDir appOutput).outcome (Clock.session appDisk 1)

-- The disk with the new manifest.
def editedDisk : Disk :=
  (appRun.2.disk.edits [newManifest]).toOption.getD appRun.2.disk

-- The next run without the cache, and with it.
def freshRun : Except Failure Generated × Session :=
  (run (appSettings.caching false) appDir appOutput).outcome (Clock.session editedDisk 3)

def cachedRun : Except Failure Generated × Session :=
  (run (appSettings.caching true) appDir appOutput).outcome (Clock.session editedDisk 3)

-- The first run keeps its class, the manifest can be edited then, and the next run succeeds.
theorem runs_app :
    appRun.1.toOption.map (fun g => (g.fromCache, g.skipped)) = some (false, []) ∧
    (appRun.2.disk.edits [newManifest]).toOption.map (fun _ => ()) = some () ∧
    freshRun.1.toOption.map (fun _ => ()) = some () := by
  decide +kernel

theorem kept_appRun : ∃ g, appRun = (.ok g, appRun.2) ∧ g.fromCache = false ∧ g.skipped = [] := by
  have ⟨h, _⟩ := runs_app
  have ⟨g, hg, hgs⟩ := Action.outcome_eq_ok_of_map h
  have ⟨hf, hk⟩ := Prod.mk.inj hgs
  exact ⟨g, hg, hf, hk⟩

theorem edits_appRun : appRun.2.disk.edits [newManifest] = .ok editedDisk := by
  have ⟨_, h, _⟩ := runs_app
  have ⟨d, hd, _⟩ := eq_ok_of_map h
  rw [editedDisk, hd, Except.toOption, Option.getD]

theorem editedSince_newManifest :
    EditedSince appSettings appSettings appDir appOutput appDisk 1 0 appRun.2 [newManifest] editedDisk where
  kept     := kept_appRun
  apart    := by decide +kernel
  observed := by decide +kernel
  written  := Numeral.integerLimit_pos
  edited   := edits_appRun
  later    := by simp [newManifest]
  others   := by decide +kernel
  place    := rfl

theorem inputs_app : (inputs appSettings appDir).result appDisk =
      .ok ⟨"a", [⟨.values, ⟨"", "a"⟩, []⟩], [appDir.child "build.gradle", appDir.child settingsFile]⟩ ∧
    (inputs appSettings appDir).result editedDisk =
      .ok ⟨"b", [⟨.values, ⟨"", "b"⟩, []⟩], [appDir.child "build.gradle", appDir.child settingsFile]⟩ := by
  decide +kernel

theorem classOn_app : classOn appSettings appDir appDisk = .ok ⟨ClassFile.render "a" [] [], []⟩ ∧
    classOn appSettings appDir editedDisk = .ok ⟨ClassFile.render "b" [] [], []⟩ := by
  have ⟨ha, hb⟩ := inputs_app
  rw [classOn, classOn, ha, hb, ok_bind, ok_bind, classOf, classOf, ClassFile.result_generate,
    ClassFile.result_generate]
  exact ⟨rfl, rfl⟩

theorem inputTime_app : inputTime appSettings appDir editedDisk = .ok 0 := by
  decide +kernel

theorem texts_differ :
    Text.unifyNewlines (ClassFile.render "a" [] []).toList ≠ (ClassFile.render "b" [] []).toList := by
  have ⟨t, ht⟩ := ClassFile.toList_render "a" [] []
  have ⟨t', ht'⟩ := ClassFile.toList_render "b" [] []
  rw [ht, ht', Disk.unifyNewlines_append (by decide), Disk.unifyNewlines_append (by decide)]
  intro h
  have h := List.append_cancel_left (List.append_cancel_left h)
  cases h

theorem freshRun_eq_ok : ∃ g, freshRun = (.ok g, freshRun.2) := by
  have ⟨_, _, h⟩ := runs_app
  have ⟨g, hg, _⟩ := Action.outcome_eq_ok_of_map h
  exact ⟨g, hg⟩

def isOlder (time : Int) : Node → Bool
  | .file _ modified => modified < time
  | .dir             => true

-- The new manifest is later than everything on the disk, and the next run still writes the old package.
theorem new_manifest_unseen :
    (∀ e ∈ appRun.2.disk.entries, isOlder newManifest.time e.2) ∧ ∃ g g' σ,
      freshRun = (.ok g, freshRun.2) ∧ cachedRun = (.ok g', σ) ∧
      σ.disk.readBytes appOutput ≠ freshRun.2.disk.readBytes appOutput := by
  have ⟨g, hr⟩ := freshRun_eq_ok
  have ⟨old, new, g', σ, ho, hn, hw, h', hr'⟩ := editedSince_newManifest.reused hr inputTime_app
  cases ho.symm.trans classOn_app.left
  cases hn.symm.trans classOn_app.right
  refine ⟨by decide +kernel, g, g', σ, hr, h', fun heq => texts_differ ?_⟩
  rw [hr', hw] at heq
  exact Text.Utf8.encode_injective (Except.ok.inj heq)

theorem newManifest_not_observed : ¬ObservesEdit appSettings appDir editedDisk [newManifest] := by
  rintro ⟨i, hi, e, he, p, hp, hs⟩
  cases hi.symm.trans inputs_app.right
  cases List.mem_singleton.mp he
  have hne : ∀ p ∈ [appDir.child "build.gradle", appDir.child settingsFile],
      ¬editedDisk.sameFile p newManifest.path := by
    decide +kernel
  exact hne p hp hs

theorem next_run_not_fresh :
    EditedSince appSettings appSettings appDir appOutput appDisk 1 0 appRun.2 [newManifest] editedDisk ∧
    (∃ g, freshRun = (.ok g, freshRun.2)) ∧
    ¬∃ g σ, cachedRun = (.ok g, σ) ∧ σ.disk.readBytes appOutput = freshRun.2.disk.readBytes appOutput := by
  have ⟨g, hr⟩ := freshRun_eq_ok
  refine ⟨editedSince_newManifest, ⟨g, hr⟩, (cached_run_fresh_iff editedSince_newManifest hr).not.mpr ?_⟩
  rintro ⟨time, ht, ho | hne | heq⟩
  all_goals cases ht.symm.trans inputTime_app
  · exact newManifest_not_observed ho
  · exact hne rfl
  · rw [classOn_app.left, classOn_app.right] at heq
    exact texts_differ (Except.ok.inj heq)

end TypedResources.Generate
