import TypedResources.Proofs.ClassFile.Outline
import TypedResources.Proofs.Generate.Freshness

-- What comes back out of the cache. The class is kept as it was rendered, and it is read with line feeds
-- for all of its line endings, so that a class with a carriage return in it is served as another text
-- (`cached_text_exact_iff`).

namespace TypedResources.Generate

open Text.Utf8 (encode)

variable {s s' : Settings} {c c' : Cache} {i : Inputs} {g : Generated} {made : ClassFile} {module output output' : Path}
  {σ σ' σ₀ σ₁ σ₂ σ₃ : Session} {content : String} {text : List Char}

-- A run that keeps the class that it renders, and a later one that is served with it: the file of the
-- class in the cache is as it was left.
structure ServedLater (c : Cache) (s s' : Settings) (module output output' : Path) (σ₀ σ₁ σ₂ σ₃ : Session) :
    Prop where
  place  : (recordOf s module).dir = c.dir
  place' : (recordOf s' module).dir = c.dir
  kept   : ∃ g, (run s module output).outcome σ₀ = (.ok g, σ₁) ∧ g.fromCache = false ∧ g.skipped = [] ∧
    s.generation.cache
  left   : σ₂.disk.readBytes c.contentFile = σ₁.disk.readBytes c.contentFile
  served : ∃ g, (run s' module output').outcome σ₂ = (.ok g, σ₃) ∧ g.fromCache

theorem content_of_keep (h : (keep s c made).outcome σ = (.ok (), σ')) (hc : s.generation.cache)
    (hk : made.skipped = []) : σ'.disk.readBytes c.contentFile = .ok (encode made.content.toList) := by
  have hs : s.caching true = s := by rw [← hc]; rfl
  rw [← hs] at h
  have ⟨time, hp⟩ := (keep_eq_ok_iff hk).mp h
  exact Cache.content_of_put hp

-- The class is written and kept as it was rendered.
theorem content_of_run (h : (run s module output).outcome σ = (.ok g, σ')) (hf : g.fromCache = false)
    (hk : g.skipped = []) (hc : s.generation.cache) :
    ∃ made, classOn s module σ.disk = .ok made ∧ σ'.disk.readBytes output = .ok (encode made.content.toList) ∧
      σ'.disk.readBytes (recordOf s module).contentFile = .ok (encode made.content.toList) := by
  have ⟨i, hi, h⟩ := run_eq_ok h
  rcases h with ⟨content, -, h⟩ | ⟨-, h⟩
  case inl =>
    have ⟨_, hg⟩ := reuse_eq_ok_iff.mp h
    rw [hg] at hf
    contradiction
  case inr =>
    obtain ⟨made, σ₁, σ₂, hm, hkeep, hw, rfl, rfl⟩ := regenerate_eq_ok_iff.mp h
    have hfile := Action.readBytes_of_writeBelow hw (content_of_keep hkeep hc hk)
    have ⟨_, _, hr⟩ := Action.writes_of_writeBelow hw
    exact ⟨made, by rw [classOn, hi]; exact hm, hr, hfile⟩

theorem offered_eq_some {d : Disk} (h : offered s c d = .ok (some content)) : c.content? d = .ok (some content) := by
  unfold offered at h
  split at h
  case isFalse => cases h
  case isTrue  =>
    cases hu : c.isUpToDate d <;> rw [hu] at h
    case error => cases h
    case ok up => cases up <;> first | exact h | cases h

-- A class from the cache is written as it is read there.
theorem written_of_served (h : (run s module output).outcome σ = (.ok g, σ')) (hf : g.fromCache)
    (hc : σ.disk.readBytes (recordOf s module).contentFile = .ok (encode text)) :
    σ'.disk.readBytes output = .ok (encode (Text.unifyNewlines text)) := by
  have ⟨i, hi, h⟩ := run_eq_ok h
  rcases h with ⟨content, ho, h⟩ | ⟨-, h⟩
  case inl =>
    have ⟨hw, _⟩ := reuse_eq_ok_iff.mp h
    have hr := Cache.content?_of_readBytes (c := cacheOf s module i.observed) hc
    cases hr.symm.trans (offered_eq_some ho)
    rw [String.toList_ofList] at hw
    exact (Action.writes_of_writeBelow hw).right.right
  case inr =>
    obtain ⟨_, _, _, _, _, _, rfl, _⟩ := regenerate_eq_ok_iff.mp h
    contradiction

-- What is stored is given back as it is, also by the cache that is opened anew, and a class from the
-- cache is the one that was rendered, as long as there is no carriage return in it.
theorem cached_text_exact_iff (hd : c'.dir = c.dir) :
    (∀ (content : String) (time : Int) (σ σ' : Session), (c.put content).outcome σ = (.ok time, σ') →
      ∃ text, c'.content? σ'.disk = .ok (some text) ∧ (text = content ↔ '\r' ∉ content.toList)) ∧
    ∀ (s s' : Settings) (module output output' : Path) (σ₀ σ₁ σ₂ σ₃ : Session),
      ServedLater c s s' module output output' σ₀ σ₁ σ₂ σ₃ →
      ∃ made, classOn s module σ₀.disk = .ok made ∧ σ₁.disk.readRaw output = .ok made.content.toList ∧
        σ₃.disk.readRaw output' = .ok (Text.unifyNewlines made.content.toList) ∧
        (σ₃.disk.readRaw output' = σ₁.disk.readRaw output ↔ '\r' ∉ made.content.toList) := by
  constructor
  case left =>
    intro content t σ σ' hp
    have hc : σ'.disk.readBytes c'.contentFile = .ok (encode content.toList) := by
      rw [Cache.contentFile_congr hd]
      exact Cache.content_of_put hp
    refine ⟨_, Cache.content?_of_readBytes hc, ?_⟩
    rw [← String.toList_inj, String.toList_ofList, Disk.unifyNewlines_eq_self_iff]
  case right =>
    intro s s' module output output' σ₀ σ₁ σ₂ σ₃ h
    have ⟨g, hr, hf, hk, hc⟩ := h.kept
    have ⟨made, hm, hw, hfile⟩ := content_of_run hr hf hk hc
    have hfile : σ₂.disk.readBytes (recordOf s' module).contentFile = .ok (encode made.content.toList) := by
      rw [Cache.contentFile_congr h.place', h.left]
      rwa [Cache.contentFile_congr h.place] at hfile
    have ⟨g', hr', hf'⟩ := h.served
    have hw := Disk.readRaw_of_readBytes hw
    have hw' := Disk.readRaw_of_readBytes (written_of_served hr' hf' hfile)
    refine ⟨made, hm, hw, hw', ?_⟩
    rw [hw, hw', Except.ok.injEq, Disk.unifyNewlines_eq_self_iff]

def servedRun : Except Failure Generated × Session :=
  (run (appSettings.caching true) appDir appOutput).outcome (Clock.session appRun.2.disk 2)

theorem holds_appRun : ∃ made : ClassFile, (recordOf appSettings appDir).Holds appRun.2.disk made.content.toList 0 ∧
    appRun.2.disk.isFile appOutput ∧ appRun.2.disk.isDir appOutput.parent := by
  have ⟨g, hg, hf, hk⟩ := kept_appRun
  have ⟨made, time, _, ht, hh, hfile, hdir⟩ :=
    holds_of_run Cache.isStamp_session hg hf hk editedSince_newManifest.apart
  have ht : inputTime appSettings appDir appDisk = .ok time := ht
  cases ht.symm.trans editedSince_newManifest.observed
  exact ⟨made, hh, hfile, hdir⟩

theorem servedRun_eq_ok : ∃ g, servedRun = (.ok g, servedRun.2) ∧ g.fromCache = true := by
  have ⟨made, hh, hfile, hdir⟩ := holds_appRun
  have ht : inputTime appSettings appDir appRun.2.disk = .ok 0 := by decide +kernel
  have hd : (Clock.session appRun.2.disk 2).disk = appRun.2.disk := disk_session
  rw [← hd] at hh hfile hdir ht
  have ⟨g, σ', hr, hf, _⟩ := served_of_holds hh Numeral.integerLimit_pos hfile hdir ht
  have hr : servedRun = (.ok g, σ') := hr
  exact ⟨g, by rw [hr], hf⟩

theorem servedLater_servedRun : ServedLater (recordOf appSettings appDir) (appSettings.caching true)
    (appSettings.caching true) appDir appOutput appOutput (Clock.session appDisk 1) appRun.2
    (Clock.session appRun.2.disk 2) servedRun.2 where
  place  := rfl
  place' := rfl
  kept   :=
    have ⟨g, hg, hf, hk⟩ := kept_appRun
    ⟨g, hg, hf, hk, rfl⟩
  left   := by rw [disk_session]
  served := servedRun_eq_ok

theorem not_mem_unlines {ls : List String} (h : ∀ l ∈ ls, ClassFile.Free ['\r'] l) :
    '\r' ∉ (ClassFile.unlines ls).toList := by
  induction ls
  case nil          => rw [ClassFile.unlines_nil]; exact List.not_mem_nil
  case cons l ls ih =>
    have ⟨hl, hls⟩ := List.forall_mem_cons.mp h
    rw [ClassFile.unlines_cons, String.toList_append, String.toList_append]
    exact List.not_mem_append (List.not_mem_append (hl.not_mem List.mem_cons_self) (by decide)) (ih hls)

theorem not_mem_render {package : String} (h : '\r' ∉ package.toList) :
    '\r' ∉ (ClassFile.render package [] []).toList := by
  have hr : ClassFile.render package [] [] = ClassFile.unlines (ClassFile.header package ++ ["\x7d"]) := rfl
  have hp : ClassFile.Free ['\r'] package := fun c hc hm => h (List.mem_singleton.mp hm ▸ hc)
  rw [hr]
  exact not_mem_unlines (List.forall_mem_append.mpr ⟨ClassFile.free_header (.inr rfl) hp, by decide⟩)

def storedSession (content : String) : Session :=
  (((recordOf appSettings appDir).put content).outcome (Clock.session appDisk 1)).2

theorem app_class_served_exactly :
    ((recordOf appSettings appDir).put "class\n").outcome (Clock.session appDisk 1) =
      (.ok 0, storedSession "class\n") ∧
    (recordOf appSettings appDir).content? (storedSession "class\n").disk = .ok (some "class\n") ∧
    ServedLater (recordOf appSettings appDir) (appSettings.caching true) (appSettings.caching true) appDir appOutput
      appOutput (Clock.session appDisk 1) appRun.2 (Clock.session appRun.2.disk 2) servedRun.2 ∧
    servedRun.2.disk.readRaw appOutput = appRun.2.disk.readRaw appOutput := by
  have hp : ((recordOf appSettings appDir).put "class\n").outcome (Clock.session appDisk 1) =
      (.ok 0, storedSession "class\n") := Prod.ext (by decide +kernel) rfl
  have ⟨hstored, hserved⟩ := cached_text_exact_iff (c := recordOf appSettings appDir) rfl
  have ⟨text, ht, hi⟩ := hstored _ _ _ _ hp
  have ⟨made, hm, _, _, hr⟩ := hserved _ _ _ _ _ _ _ _ _ servedLater_servedRun
  rw [disk_session, classOn_caching, classOn_app.left] at hm
  cases hm
  rw [hi.mpr (by decide)] at ht
  exact ⟨hp, ht, servedLater_servedRun, hr.mpr (not_mem_render (by decide))⟩

theorem carriage_return_not_kept :
    ((recordOf appSettings appDir).put "a\rb").outcome (Clock.session appDisk 1) = (.ok 0, storedSession "a\rb") ∧
    (recordOf appSettings appDir).content? (storedSession "a\rb").disk = .ok (some "a\nb") :=
  ⟨Prod.ext (by decide +kernel) rfl, by decide +kernel⟩

end TypedResources.Generate
