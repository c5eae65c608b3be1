import TypedResources.Proofs.Generate.Run

-- What runs make of each other's records. A run that keeps its class leaves a record behind
-- (`holds_of_run`). On a disk that holds a record a run writes the recorded class again if the newest
-- time that it observes is the recorded one, and makes the class anew otherwise (`outcome_of_holds`).

namespace TypedResources

-- The same settings with the cache on or off.
def Settings.caching (s : Settings) (cache : Bool) : Settings :=
  { s with generation := { s.generation with cache := cache } }

namespace Generate

open Text.Utf8 (encode)

variable {s : Settings} {c : Cache} {i : Inputs} {g : Generated} {made : ClassFile} {module output : Path}
  {σ σ' : Session} {content : String} {text : List Char} {d : Disk} {time t : Int} {b : Bool}

-- The newest modification time that a run observes.
def inputTime (s : Settings) (module : Path) (d : Disk) : Except Failure Int := do
  Cache.newest d (← (inputs s module).result d).observed

-- The class that a run makes if it makes one.
def classOn (s : Settings) (module : Path) (d : Disk) : Except Failure ClassFile := do
  (classOf s (← (inputs s module).result d)).result d

@[simp]
theorem inputs_caching : inputs (s.caching b) module = inputs s module :=
  rfl

theorem classOn_caching : classOn (s.caching b) module d = classOn s module d :=
  rfl

-- Where the settings keep the class of a module.
def recordOf (s : Settings) (module : Path) : Cache :=
  cacheOf s module []

theorem keep_of_skipped (h : made.skipped ≠ []) :
    keep (s.caching true) c made = keep (s.caching false) c made := by
  simp [keep, h]

theorem keep_eq_ok_iff (h : made.skipped = []) : (keep (s.caching true) c made).outcome σ = (.ok (), σ') ↔
    ∃ time, (c.put made.content).outcome σ = (.ok time, σ') := by
  have hk : keep (s.caching true) c made = (do let _ ← c.put made.content) := by simp [keep, Settings.caching, h]
  rw [hk]
  simp only [Action.bind_eq_ok_iff, Action.outcome_pure, Prod.mk.injEq, true_and]
  constructor
  case mp  => rintro ⟨time, _, h, rfl⟩; exact ⟨time, h⟩
  case mpr => rintro ⟨time, h⟩; exact ⟨time, _, h, rfl⟩

-- A run that makes a class writes it, whatever the cache does.
theorem writes_of_regenerate (h : (regenerate s c i output).outcome σ = (.ok g, σ')) :
    ∃ made, (classOf s i).result σ.disk = .ok made ∧ g.skipped = made.skipped ∧
      σ'.disk.isDir output.parent ∧ σ'.disk.readBytes output = .ok (encode made.content.toList) := by
  obtain ⟨made, σ₁, σ₂, hm, -, hw, rfl, rfl⟩ := regenerate_eq_ok_iff.mp h
  have ⟨_, hd, hr⟩ := Action.writes_of_writeBelow hw
  exact ⟨made, hm, rfl, hd, hr⟩

theorem holds_of_regenerate (hs : Cache.IsStamp σ.stamp)
    (h : (regenerate (s.caching true) c i output).outcome σ = (.ok g, σ')) (hk : g.skipped = [])
    (ho : ¬σ'.disk.sameFile output c.recordFile) :
    ∃ made time, (classOf s i).result σ.disk = .ok made ∧ Cache.newest σ.disk c.observed = .ok time ∧
      c.Holds σ'.disk made.content.toList time := by
  obtain ⟨made, σ₁, σ₂, hm, hkeep, hwrite, rfl, rfl⟩ := regenerate_eq_ok_iff.mp h
  have ⟨time, hp⟩ := (keep_eq_ok_iff hk).mp hkeep
  have ⟨ht, hh⟩ := Cache.put_eq_ok (by exact hs) hp
  -- The output may take the place of the class in the cache, which has the same text.
  have hcontent := Action.readBytes_of_writeBelow hwrite hh.content
  have ⟨hw, _, hr⟩ := Action.writes_of_writeBelow hwrite
  refine ⟨made, time, hm, ht, hh.of_writes hw hcontent fun hk => ho ?_⟩
  have hf : σ₂.disk.isFile output := Disk.isFile_of_readBytes hr
  have ⟨_, _, hrf⟩ := hh.record
  have hrf := hw.isFile (Disk.isFile_of_readBytes hrf)
  have hk := (List.mem_singleton.mp hk).symm
  rw [← hw.toGrows.keyOf, ← hw.toGrows.keyOf] at hk
  exact Disk.sameFile_of_isFile hf hrf hk

theorem holds_of_run (hs : Cache.IsStamp σ.stamp)
    (h : (run (s.caching true) module output).outcome σ = (.ok g, σ')) (hf : g.fromCache = false)
    (hk : g.skipped = []) (ho : ¬σ'.disk.sameFile output (recordOf s module).recordFile) :
    ∃ made time, classOn s module σ.disk = .ok made ∧ inputTime s module σ.disk = .ok time ∧
      (recordOf s module).Holds σ'.disk made.content.toList time ∧
      σ'.disk.isFile output ∧ σ'.disk.isDir output.parent := by
  have ⟨i, hi, h⟩ := run_eq_ok h
  rw [inputs_caching] at hi
  rcases h with ⟨content, -, h⟩ | ⟨-, h⟩
  case inl =>
    have ⟨_, hg⟩ := reuse_eq_ok_iff.mp h
    rw [hg] at hf
    contradiction
  case inr =>
    have hs : Cache.IsStamp (prepared (s.caching true) module σ).stamp := hs
    have ho : ¬σ'.disk.sameFile output (cacheOf (s.caching true) module i.observed).recordFile := ho
    have ⟨made, time, hm, ht, hh⟩ := holds_of_regenerate hs h hk ho
    have ⟨_, _, _, hd, hr⟩ := writes_of_regenerate h
    refine ⟨made, time, ?_, ?_, hh.of_dir rfl, Disk.isFile_of_readBytes hr, hd⟩
    · rw [classOn, hi]; exact hm
    · rw [inputTime, hi]; exact ht

theorem offered_of_holds (hc : c.Holds d text t) (hlt : t.natAbs < Numeral.integerLimit) :
    offered (s.caching true) c d = (Cache.newest d c.observed).map fun time =>
      if t = time then some (String.ofList (Text.unifyNewlines text)) else none := by
  rw [offered_of_cache rfl, Cache.isUpToDate_of_holds hc hlt]
  cases Cache.newest d c.observed
  case error   => rfl
  case ok time =>
    by_cases he : t = time
    case pos => simp [Except.map, he, Cache.content?_of_readBytes hc.content]
    case neg => simp [Except.map, he]; rfl

theorem reuse_of_isFile (content : String) (hf : σ.disk.isFile output) (hd : σ.disk.isDir output.parent) :
    ∃ g σ', (reuse output content).outcome σ = (.ok g, σ') ∧ g.fromCache = true ∧
      σ'.disk.readBytes output = .ok (encode content.toList) := by
  have ⟨σ', hw⟩ := Action.writeBelow_of_isFile (s := { σ with log := σ.log ++
    [⟨.info, .generator, "Inputs unchanged; reusing cached ResourceManager"⟩] }) content.toList hf hd
  exact ⟨_, σ', reuse_eq_ok_iff.mpr ⟨hw, rfl⟩, rfl, (Action.writes_of_writeBelow hw).right.right⟩

-- A run that observes no other time than the recorded one writes the recorded class again.
theorem served_of_holds (hc : (recordOf s module).Holds σ.disk text t) (hlt : t.natAbs < Numeral.integerLimit)
    (hf : σ.disk.isFile output) (hd : σ.disk.isDir output.parent) (ht : inputTime s module σ.disk = .ok t) :
    ∃ g σ', (run (s.caching true) module output).outcome σ = (.ok g, σ') ∧ g.fromCache = true ∧
      σ'.disk.readBytes output = .ok (encode (Text.unifyNewlines text)) := by
  cases hi : (inputs s module).result σ.disk <;> rw [inputTime, hi] at ht
  case error => cases ht
  case ok i  =>
    have ht : Cache.newest σ.disk (cacheOf (s.caching true) module i.observed).observed = .ok t := ht
    have hc : (cacheOf (s.caching true) module i.observed).Holds σ.disk text t := hc.of_dir rfl
    have ho := offered_of_holds (s := s) hc hlt
    rw [ht, Except.map, if_pos rfl] at ho
    rw [outcome_run, inputs_caching, hi]
    dsimp only
    rw [ho]
    have hr := reuse_of_isFile (σ := prepared (s.caching true) module σ) (String.ofList (Text.unifyNewlines text)) hf hd
    rwa [String.toList_ofList] at hr

-- The class is made anew just as it would be without the cache.
theorem regenerate_of_holds {σ₃ : Session} (hc : c.Holds σ.disk text t)
    (ht : Cache.newest σ.disk c.observed = .ok time) (hf : σ.disk.isFile output) (hd : σ.disk.isDir output.parent)
    (h : (regenerate (s.caching false) c i output).outcome σ = (.ok g, σ₃)) :
    ∃ g σ', (regenerate (s.caching true) c i output).outcome σ = (.ok g, σ') := by
  obtain ⟨made, σ₁, σ₂, hm, hkeep, hw, rfl, rfl⟩ := regenerate_eq_ok_iff.mp h
  by_cases hk : made.skipped = []
  case neg => exact ⟨_, _, regenerate_eq_ok_iff.mpr ⟨made, σ₁, σ₂, hm, keep_of_skipped hk ▸ hkeep, hw, rfl, rfl⟩⟩
  case pos =>
    have ⟨σ', hp, hg⟩ :=
      Cache.put_of_holds made.content (s := { σ with log := σ.log ++ (classOf s i).records σ.disk }) hc ht
    have hkeep := (keep_eq_ok_iff (s := s) hk).mpr ⟨time, hp⟩
    have ⟨σ'', hw⟩ := Action.writeBelow_of_isFile made.content.toList (hg.isFile hf) (hg.isDir hd)
    exact ⟨_, _, regenerate_eq_ok_iff.mpr ⟨made, σ', σ'', hm, hkeep, hw, rfl, rfl⟩⟩

-- What a run comes to on a disk that holds a record, when the run without the cache succeeds.
theorem outcome_of_holds {σ₃ : Session} (hc : (recordOf s module).Holds σ.disk text t)
    (hlt : t.natAbs < Numeral.integerLimit) (hf : σ.disk.isFile output) (hd : σ.disk.isDir output.parent)
    (h : (run (s.caching false) module output).outcome σ = (.ok g, σ₃)) :
    ∃ made, classOn s module σ.disk = .ok made ∧ σ₃.disk.readBytes output = .ok (encode made.content.toList) ∧
      match inputTime s module σ.disk with
      | .error f => ∃ σ', (run (s.caching true) module output).outcome σ = (.error f, σ')
      | .ok time => ∃ g σ', (run (s.caching true) module output).outcome σ = (.ok g, σ') ∧
          σ'.disk.readBytes output =
            .ok (encode (if t = time then Text.unifyNewlines text else made.content.toList)) := by
  have ⟨i, hi, h⟩ := run_eq_ok h
  rcases h with ⟨content, ho, -⟩ | ⟨-, h⟩
  case inl => cases ho
  case inr =>
    rw [inputs_caching] at hi
    have ⟨made, hm, _, _, hr⟩ := writes_of_regenerate h
    refine ⟨made, by rw [classOn, hi]; exact hm, hr, ?_⟩
    by_cases he : inputTime s module σ.disk = .ok t
    case pos =>
      have ⟨g, σ', hrun, _, hw⟩ := served_of_holds hc hlt hf hd he
      rw [he]
      dsimp only
      rw [if_pos rfl]
      exact ⟨g, σ', hrun, hw⟩
    case neg =>
      have hc : (cacheOf s module i.observed).Holds σ.disk text t := hc.of_dir rfl
      have ho := offered_of_holds (s := s) hc hlt
      have ht : inputTime s module σ.disk = Cache.newest σ.disk (cacheOf s module i.observed).observed := by
        rw [inputTime, hi]
        rfl
      rw [ht] at he
      rw [ht, outcome_run, inputs_caching, hi]
      dsimp only
      rw [show cacheOf (s.caching true) module i.observed = cacheOf s module i.observed from rfl, ho]
      cases ht : Cache.newest σ.disk (cacheOf s module i.observed).observed
      case error   => exact ⟨_, rfl⟩
      case ok time =>
        have he : t ≠ time := fun h => he (h ▸ ht)
        dsimp only [Except.map]
        rw [if_neg he, if_neg he]
        have ⟨g, σ', hr⟩ := regenerate_of_holds (σ := prepared s module σ) hc ht hf hd h
        have ⟨made', hm', _, _, hw⟩ := writes_of_regenerate hr
        cases hm.symm.trans hm'
        exact ⟨g, σ', hr, hw⟩

end Generate

end TypedResources
