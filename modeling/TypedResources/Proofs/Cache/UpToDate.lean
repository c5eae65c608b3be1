import TypedResources.Proofs.Cache.Loading
import TypedResources.Proofs.Disk.Changes

-- When a cache is up to date after changes outside of its directory: as long as it has not been
-- forgotten, exactly if the newest time of the files that it observes is what it was when the class was
-- stored (`up_to_date_iff_newest_kept`). Only where the path of its directory has double dots may it
-- fail to be found.

namespace TypedResources.Cache

variable {c : Cache} {d d' : Disk} {σ σ' : Session} {content : String} {text : List Char} {files : List Path}
  {kept : Bool} {now t time : Int}

theorem IsNewest.unique {time' : Int} (h : IsNewest d files time) (h' : IsNewest d files time') : time = time' := by
  have le {time time' : Int} (h : IsNewest d files time) (h' : IsNewest d files time') : time ≤ time' := by
    rcases h.attained with rfl | ⟨p, hp, content, hs⟩
    case inl => exact h'.nonneg
    case inr => exact h'.le p hp content time hs
  exact Int.le_antisymm (le h h') (le h' h)

-- Each of the paths leads to a file or to nothing.
def AreFiles (d : Disk) (files : List Path) : Prop :=
  ∀ p ∈ files, d.isFile p ∨ d.stat p = .error .notFound

theorem AreFiles.newest (h : AreFiles d files) : ∃ time, newest d files = .ok time ∧ IsNewest d files time := by
  have hs : ∀ p ∈ files, ∀ f, d.stat p = .error f → f = .notFound := by
    intro p hp f hf
    rcases h p hp with h | h
    case inl => simp [Disk.isFile, hf] at h
    case inr => cases hf.symm.trans h; rfl
  have ⟨time, ht⟩ := exists_newest_iff.mpr hs
  exact ⟨time, ht, (newest_eq_ok_iff.mp ht).right⟩

theorem isUpToDate_of_recordless (h : c.Recordless d) (hz : ¬Disk.refuses c.dir) :
    c.isUpToDate d = .ok false := by
  have hr : ¬Disk.isRefused "timestamp.json" := by decide +kernel
  have hz : ¬Disk.refuses c.recordFile := by simpa [recordFile, Disk.refuses, Path.child, hr] using hz
  cases hb : d.readBytes c.recordFile
  case ok bytes =>
    obtain ⟨k, time, hl, hn⟩ := Disk.readBytes_eq_ok_iff.mp hb
    cases Disk.locate_eq_ok hl
    exact absurd hn (h bytes time)
  case error f =>
    have hr : d.readText c.recordFile = .error (.disk f c.recordFile) := by
      rw [Disk.readText, Disk.readRaw, hb]
      rfl
    rw [isUpToDate, stored?, hr]
    dsimp only
    rw [if_pos (Disk.isSystem_of_readBytes hz hb)]
    rfl

theorem cleared_of_invalidate (hi : c.invalidate.outcome σ = (.ok (), σ'))
    (h : σ.disk.isDir c.dir ∨ c.Cleared σ.disk) : c.Cleared σ'.disk := by
  rcases invalidate_cases hi with ⟨_, _, hd⟩ | ⟨hn, hd, _⟩ <;> rw [hd]
  case inl => exact cleared_eraseBelow
  case inr => exact h.resolve_left hn

theorem invalidate_returns (h : σ.disk.isDir c.dir ∨ c.Cleared σ.disk) :
    ∃ σ', c.invalidate.outcome σ = (.ok (), σ') := by
  rcases hi : c.invalidate.outcome σ with ⟨r, σ'⟩
  rcases invalidate_cases hi with ⟨_, rfl, _⟩ | ⟨hn, _, hr⟩
  case inl => exact ⟨σ', rfl⟩
  case inr =>
    have hf : σ.disk.has c.dir = false := by
      by_contra hh
      have ⟨k, content, time, hl, hk⟩ := Disk.isFile_iff.mp (Disk.isFile_of_has (by simpa using hh) hn)
      cases Disk.locate_eq_ok hl
      exact h.resolve_left hn _ content time (List.prefix_refl _) hk
    cases hr hf
    exact ⟨σ', rfl⟩

-- Only double dots can keep a directory that is there from being found.
def Found (c : Cache) (d : Disk) : Prop :=
  ".." ∈ c.dir.parts → d.isDir c.dir

-- What happens to a cache after a class was stored: changes outside of its directory, and that it is
-- forgotten, which it has not been yet if it is `kept`.
inductive Since (c : Cache) (d : Disk) : (d' : Disk) → (kept : Bool) → Prop
  | stored : Since c d d true
  | change {d₁ d₂ : Disk} {kept : Bool} {x : Disk.Change} (h : Since c d d₁ kept)
      (ho : x.IsOutside d₁ (d₁.keyOf c.dir)) (hx : d₁.change x = .ok d₂) : Since c d d₂ kept
  | invalidate {σ σ' : Session} {kept : Bool} (h : Since c d σ.disk kept) (hf : kept → c.Found σ.disk)
      (hi : c.invalidate.outcome σ = (.ok (), σ')) : Since c d σ'.disk false

theorem Found.isDir (h : c.Found d') (ha : Disk.Aside (d.keyOf c.dir) d d') (hd : d.isDir c.dir) :
    d'.isDir c.dir := by
  by_cases hp : ".." ∈ c.dir.parts
  case pos => exact h hp
  case neg => exact ha.isDir hp hd

-- The invariant of a history: a cache that is kept is spared, and one that is not has lost its files.
def Remains (c : Cache) (d d' : Disk) : (kept : Bool) → Prop
  | true  => Disk.Aside (d.keyOf c.dir) d d'
  | false => c.Cleared d'

theorem Since.remains (h : c.Since d d' kept) (hd : d.isDir c.dir) : c.Remains d d' kept := by
  induction h
  case stored => exact .refl _ d
  case change d₁ d₂ kept x _ ho hx ih =>
    have ha := Disk.change_aside hx ho
    cases kept
    case true  => exact ih.trans (ih.keyOf ▸ ha)
    case false => exact ih.spares ha.toSpares
  case invalidate σ σ' kept _ hf hi ih =>
    refine cleared_of_invalidate hi ?_
    cases kept
    case true  => exact .inl ((hf rfl).isDir ih hd)
    case false => exact .inr ih

theorem Holds.aside (h : c.Holds d text time) (ha : Disk.Aside (d.keyOf c.dir) d d') (hd : d'.isDir c.dir) :
    c.Holds d' text time where
  nonneg  := h.nonneg
  dir     := hd
  content := by
    have ⟨k, time, hl, hn⟩ := Disk.readBytes_eq_ok_iff.mp h.content
    cases Disk.locate_eq_ok hl
    refine Disk.readBytes_eq_ok_iff.mpr ⟨_, time, locate_contentFile hd, ?_⟩
    rw [ha.keyOf]
    exact (ha.file_iff keyOf_dir_prefix_contentFile).mpr hn
  record  := by
    have ⟨stamp, hs, h⟩ := h.record
    have ⟨k, time, hl, hn⟩ := Disk.readBytes_eq_ok_iff.mp h
    cases Disk.locate_eq_ok hl
    refine ⟨stamp, hs, Disk.readBytes_eq_ok_iff.mpr ⟨_, time, locate_recordFile hd, ?_⟩⟩
    rw [ha.keyOf]
    exact (ha.file_iff keyOf_dir_prefix_recordFile).mpr hn

-- Whatever has happened outside of it, a cache that was not forgotten is up to date exactly if the
-- newest time is what it was, and it can always be forgotten. A cache that is opened anew for the same
-- module and files is the same one. The time has no more digits than are read again, which no time of
-- a file comes near.
theorem up_to_date_iff_newest_kept (hp : (c.put content).outcome (Clock.session d now) = (.ok t, σ))
    (hl : t.natAbs < Numeral.integerLimit) (hs : c.Since σ.disk d' kept) (hf : kept → c.Found d')
    (ho : AreFiles d c.observed) (ho' : AreFiles d' c.observed) :
    (∃ old new, IsNewest d c.observed old ∧ IsNewest d' c.observed new ∧
      c.isUpToDate d' = .ok (kept && old = new)) ∧
    ∀ σ', σ'.disk = d' → ∃ σ'', c.invalidate.outcome σ' = (.ok (), σ'') := by
  have ⟨ht, hh⟩ := put_eq_ok isStamp_session hp
  have ⟨old, ht', hold⟩ := ho.newest
  have ⟨new, hn, hnew⟩ := ho'.newest
  cases ht'.symm.trans ht
  have hr := hs.remains hh.dir
  cases kept
  case true =>
    have hd := (hf rfl).isDir hr hh.dir
    refine ⟨⟨t, new, hold, hnew, ?_⟩, fun σ' hσ => invalidate_returns (.inl (hσ ▸ hd))⟩
    rw [isUpToDate_of_holds (hh.aside hr hd) hl, hn, Bool.true_and]
    rfl
  case false =>
    have ⟨hz, _⟩ := Disk.isDir_iff_keyOf.mp hh.dir
    have hz : ¬Disk.refuses c.dir := fun h => by simp [Disk.locate, h] at hz
    have hu := isUpToDate_of_recordless hr.recordless hz
    exact ⟨⟨t, new, hold, hnew, hu⟩, fun σ' hσ => invalidate_returns (.inr (hσ ▸ hr))⟩

def logo : Path := ⟨.root, ["logo.xml"]⟩

def icon : Path := ⟨.root, ["icon.xml"]⟩

def imageDisk : Disk where
  entries := [(["logo.xml"], .file [] 1), (["icon.xml"], .file [] 2), (["x"], .dir)]

def imageCache : Cache :=
  ofRoot ⟨.root, ["cache"]⟩ "app" [logo, icon]

def imageSession : Session :=
  ((imageCache.put "class").outcome (Clock.session imageDisk 3)).2

def touchedDisk : Disk :=
  imageSession.disk.changed (.touch logo 2)

def deletedDisk : Disk :=
  touchedDisk.changed (.delete icon)

-- One file takes the time of the other one, which is deleted then.
theorem exchanged_time_up_to_date :
    ((imageCache.put "class").outcome (Clock.session imageDisk 3) = (.ok 2, imageSession) ∧
      (2 : Int).natAbs < Numeral.integerLimit ∧ imageCache.Since imageSession.disk deletedDisk true ∧
      imageCache.Found deletedDisk ∧ AreFiles imageDisk imageCache.observed ∧
      AreFiles deletedDisk imageCache.observed) ∧
    imageCache.isUpToDate deletedDisk = .ok true := by
  have hp : (imageCache.put "class").outcome (Clock.session imageDisk 3) = (.ok 2, imageSession) :=
    Prod.ext (by decide +kernel) rfl
  have hl : (2 : Int).natAbs < Numeral.integerLimit := Numeral.length_toDigits_le_iff.mp (by decide)
  have hs : imageCache.Since imageSession.disk deletedDisk true :=
    .change (.change .stored (by decide +kernel) (Disk.change_eq_ok (by decide +kernel)))
      (by decide +kernel) (Disk.change_eq_ok (by decide +kernel))
  have hf : imageCache.Found deletedDisk := by unfold Found; decide +kernel
  have ho : AreFiles imageDisk imageCache.observed := by unfold AreFiles; decide +kernel
  have ho' : AreFiles deletedDisk imageCache.observed := by unfold AreFiles; decide +kernel
  obtain ⟨⟨old, new, hold, hnew, hu⟩, _⟩ := up_to_date_iff_newest_kept hp hl hs (fun _ => hf) ho ho'
  have ht : newest imageDisk imageCache.observed = .ok 2 := by decide +kernel
  have ht' : newest deletedDisk imageCache.observed = .ok 2 := by decide +kernel
  cases hold.unique (newest_eq_ok_iff.mp ht).right
  cases hnew.unique (newest_eq_ok_iff.mp ht').right
  exact ⟨⟨hp, hl, hs, hf, ho, ho'⟩, hu⟩

def crossedCache : Cache :=
  ofRoot ⟨.root, ["x", ".."]⟩ "app" [logo]

def crossedSession : Session :=
  ((crossedCache.put "class").outcome (Clock.session imageDisk 3)).2

def crossedDisk : Disk :=
  crossedSession.disk.changed (.delete ⟨.root, ["x"]⟩)

-- The directory that is deleted is empty, but the way to the cache leads through it.
theorem crossed_cache_not_up_to_date :
    (crossedCache.put "class").outcome (Clock.session imageDisk 3) = (.ok 1, crossedSession) ∧
    crossedCache.Since crossedSession.disk crossedDisk true ∧ AreFiles imageDisk crossedCache.observed ∧
    AreFiles crossedDisk crossedCache.observed ∧ IsNewest imageDisk crossedCache.observed 1 ∧
    IsNewest crossedDisk crossedCache.observed 1 ∧ crossedCache.isUpToDate crossedDisk = .ok false := by
  have ht : newest imageDisk crossedCache.observed = .ok 1 := by decide +kernel
  have ht' : newest crossedDisk crossedCache.observed = .ok 1 := by decide +kernel
  refine ⟨Prod.ext (by decide +kernel) rfl, ?_, ?_, ?_, (newest_eq_ok_iff.mp ht).right,
    (newest_eq_ok_iff.mp ht').right, by decide +kernel⟩
  case refine_1 => exact .change .stored (by decide +kernel) (Disk.change_eq_ok (by decide +kernel))
  case refine_2 => unfold AreFiles; decide +kernel
  case refine_3 => unfold AreFiles; decide +kernel

end TypedResources.Cache
