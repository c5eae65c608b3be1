import TypedResources.Proofs.Generate.Completeness
import TypedResources.Proofs.Json.Faults

-- What a damaged record does. Bytes that are no record count as none, and the class is made anew. But
-- bytes that are no text, and texts with an integer that has too many digits, are not found to be no
-- record: a run of the generator fails by them (`damaged_record_missing_iff`).

namespace TypedResources

namespace Cache

open Text.Utf8 (encode decode)

variable {c : Cache} {d : Disk} {bytes : Bytes} {text : List Char} {time : Int} {f : Failure} {files : List Path}

-- Bytes of which can be said whether they are a record.
def Legible (bytes : Bytes) : Prop :=
  ∃ text, decode bytes = .ok text ∧ ∀ f, Json.read (Text.unifyNewlines text) ≠ .error (.number f)

theorem legible_of_text (ht : decode bytes = .ok text) (hr : ¬Json.LongRun (Text.unifyNewlines text)) :
    Legible bytes :=
  ⟨text, ht, fun _ => Json.read_ne_number hr⟩

-- The text of an object with the version and with a whole number for the time.
def IsRecordText (text : List Char) (time : Int) : Prop :=
  ∃ entries w, Json.read text = .ok (.object entries) ∧ (Json.Value.object entries).get? "version" = some w ∧
    isVersion w ∧ (Json.Value.object entries).get? "most_recent_input_timestamp" = some (.integer time)

def IsRecord (bytes : Bytes) (time : Int) : Prop :=
  ∃ text, decode bytes = .ok text ∧ IsRecordText (Text.unifyNewlines text) time

theorem recorded?_of_byteOrderMark (h : text.head? = some '\uFEFF') :
    recorded? text = .ok none ∧ Json.read text = .error .malformed := by
  obtain ⟨t, rfl⟩ := List.head?_eq_some_iff.mp h
  exact ⟨if_pos h, Json.read_byteOrderMark⟩

theorem recorded?_eq_some_iff : recorded? text = .ok (some time) ↔ IsRecordText text time := by
  by_cases hb : text.head? = some '\uFEFF'
  case pos =>
    have ⟨hn, hr⟩ := recorded?_of_byteOrderMark hb
    simp [IsRecordText, hn, hr]
  case neg =>
    rw [recorded?, if_neg hb, IsRecordText]
    rcases hr : Json.read text with (_ | f) | v
    case error.malformed => simp
    case error.number => simp
    case ok =>
      cases v
      case object entries =>
        cases hw : (Json.Value.object entries).get? "version"
        case none => simp [hw]
        case some w =>
          rcases ht : (Json.Value.object entries).get? "most_recent_input_timestamp" with - | v
          case none => simp [hw, ht]
          case some => cases v <;> simp [hw, ht]
      all_goals simp [Json.Value.get?]

theorem recorded?_eq_error_iff :
    recorded? text = .error f ↔ ∃ n, Json.read text = .error (.number n) ∧ f = .badNumber n := by
  by_cases hb : text.head? = some '\uFEFF'
  case pos =>
    have ⟨hn, hr⟩ := recorded?_of_byteOrderMark hb
    simp [hn, hr]
  case neg =>
    rw [recorded?, if_neg hb]
    rcases hr : Json.read text with (_ | n) | v
    case error.malformed => simp
    case error.number => simp [eq_comm]
    case ok =>
      dsimp only
      split <;> simp

theorem stored?_of_readBytes (h : d.readBytes c.recordFile = .ok bytes) : c.stored? d =
    match decode bytes with
    | .error e => .error (.notText e)
    | .ok text => (recorded? (Text.unifyNewlines text)).map (·.filter fun _ => d.has c.contentFile) := by
  rw [stored?, Disk.readText, Disk.readRaw, h, diskFailure, ok_bind]
  cases decode bytes
  case error   => rfl
  case ok text => dsimp only [pure, Except.pure, Except.map]; cases recorded? (Text.unifyNewlines text) <;> rfl

theorem stored?_returns_iff (h : d.readBytes c.recordFile = .ok bytes) :
    (∃ found, c.stored? d = .ok found) ↔ Legible bytes := by
  rw [stored?_of_readBytes h, Legible]
  cases decode bytes
  case error   => simp
  case ok text =>
    cases hr : recorded? (Text.unifyNewlines text)
    case error f =>
      have ⟨n, hn, _⟩ := recorded?_eq_error_iff.mp hr
      simp [Except.map, hr, hn]
    case ok found =>
      have hn : ∀ n, Json.read (Text.unifyNewlines text) ≠ .error (.number n) := fun n hn => by
        cases hr.symm.trans (recorded?_eq_error_iff.mpr ⟨n, hn, rfl⟩)
      simp [Except.map, hr, hn]

theorem stored?_eq_some_iff (h : d.readBytes c.recordFile = .ok bytes) :
    c.stored? d = .ok (some time) ↔ IsRecord bytes time ∧ d.has c.contentFile := by
  rw [stored?_of_readBytes h, IsRecord]
  cases decode bytes
  case error   => simp
  case ok text =>
    have hr : recorded? (Text.unifyNewlines text) = .ok (some time) ↔ IsRecordText (Text.unifyNewlines text) time :=
      recorded?_eq_some_iff
    cases hf : recorded? (Text.unifyNewlines text) <;> rw [hf] at hr
    case error    => simp [Except.map, hf, ← hr]
    case ok found => simp [Except.map, hf, ← hr, Option.filter_eq_some_iff]

theorem isUpToDate_of_missing (h : d.readBytes c.recordFile = .ok bytes) (hl : Legible bytes)
    (hn : ∀ time, ¬IsRecord bytes time) : c.isUpToDate d = .ok false := by
  have ⟨found, hs⟩ := (stored?_returns_iff h).mpr hl
  cases found
  case none   => exact isUpToDate_of_none hs
  case some t => exact absurd ((stored?_eq_some_iff h).mp hs).left (hn t)

theorem isUpToDate_of_illegible (h : d.readBytes c.recordFile = .ok bytes) (hl : ¬Legible bytes) :
    ∃ f, c.isUpToDate d = .error f := by
  cases hs : c.stored? d
  case error f  => exact ⟨f, by rw [isUpToDate, hs]; rfl⟩
  case ok found => exact absurd ((stored?_returns_iff h).mp ⟨found, hs⟩) hl

-- A record with the class beside it is compared with the newest time, which must be found for that.
theorem isUpToDate_of_record (h : d.readBytes c.recordFile = .ok bytes) (hr : IsRecord bytes time)
    (hc : d.has c.contentFile) : (∃ b, c.isUpToDate d = .ok b) ↔
      ∀ p ∈ c.observed, ∀ f, d.stat p = .error f → f = .notFound := by
  have hs := (stored?_eq_some_iff h).mpr ⟨hr, hc⟩
  rw [← exists_newest_iff, isUpToDate, hs, ok_bind]
  cases newest d c.observed <;> simp [pure, Except.pure]

theorem isUpToDate_returns_iff (h : d.readBytes c.recordFile = .ok bytes) : (∃ b, c.isUpToDate d = .ok b) ↔
    Legible bytes ∧ ((∃ time, IsRecord bytes time) → d.has c.contentFile →
      ∀ p ∈ c.observed, ∀ f, d.stat p = .error f → f = .notFound) := by
  constructor
  case mp =>
    rintro ⟨b, hb⟩
    have hl : Legible bytes := by
      by_contra hl
      have ⟨f, hf⟩ := isUpToDate_of_illegible h hl
      cases hb.symm.trans hf
    exact ⟨hl, fun ⟨time, hr⟩ hc => (isUpToDate_of_record h hr hc).mp ⟨b, hb⟩⟩
  case mpr =>
    rintro ⟨hl, ho⟩
    have ⟨found, hs⟩ := (stored?_returns_iff h).mpr hl
    cases found
    case none      => exact ⟨false, isUpToDate_of_none hs⟩
    case some time =>
      have ⟨hr, hc⟩ := (stored?_eq_some_iff h).mp hs
      exact (isUpToDate_of_record h hr hc).mpr (ho ⟨time, hr⟩ hc)

end Cache

namespace Generate

open Cache (Legible IsRecord)
open Text.Utf8 (encode decode)

variable {c : Cache} {d : Disk} {bytes : Bytes}

-- Bytes that are no record count as none, for a run of the generator too, as long as it can be said
-- whether they are one.
theorem damaged_record_missing_iff (h : d.readBytes c.recordFile = .ok bytes) :
    (∀ text, decode bytes = .ok text → ¬Json.LongRun (Text.unifyNewlines text) → Legible bytes) ∧
    ((∃ b, c.isUpToDate d = .ok b) ↔ Legible bytes ∧ ((∃ time, IsRecord bytes time) → d.has c.contentFile →
      ∀ p ∈ c.observed, ∀ f, d.stat p = .error f → f = .notFound)) ∧
    (Legible bytes → (∀ time, ¬IsRecord bytes time) → c.isUpToDate d = .ok false) ∧
    ∀ (s : Settings) (module output : Path) (i : Inputs) (σ : Session), s.generation.cache → σ.disk = d →
      (inputs s module).result d = .ok i → cacheOf s module i.observed = c →
      (Legible bytes → (∀ time, ¬IsRecord bytes time) →
        (run s module output).outcome σ = (regenerate s c i output).outcome (prepared s module σ)) ∧
      (¬Legible bytes → ∃ f, c.isUpToDate d = .error f ∧
        (run s module output).outcome σ = (.error f, prepared s module σ)) := by
  refine ⟨fun text => Cache.legible_of_text, Cache.isUpToDate_returns_iff h, Cache.isUpToDate_of_missing h, ?_⟩
  intro s module output i σ hcache hσ hi hc
  subst hσ hc
  constructor
  case left =>
    intro hl hn
    rw [outcome_run, hi]
    dsimp only
    rw [offered_of_cache hcache, Cache.isUpToDate_of_missing h hl hn]
    rfl
  case right =>
    intro hl
    have ⟨f, hf⟩ := Cache.isUpToDate_of_illegible h hl
    refine ⟨f, hf, ?_⟩
    rw [outcome_run, hi]
    dsimp only
    rw [offered_of_cache hcache, hf]
    rfl

def damagedDisk (bytes : Bytes) : Disk :=
  appRun.2.disk.set (appRun.2.disk.keyOf appRecord.recordFile) (.file bytes 1)

def appInputs : Inputs :=
  ⟨"a", [⟨.values, ⟨"", "a"⟩, []⟩], [appDir.child "build.gradle", appDir.child settingsFile]⟩

def appCache : Cache :=
  cacheOf (appSettings.caching true) appDir appInputs.observed

def cutRecord : Bytes :=
  encode "\x7bnot json".toList

theorem cut_record_missing :
    ((damagedDisk cutRecord).readBytes appCache.recordFile = .ok cutRecord ∧ Legible cutRecord ∧
      (∀ time, ¬IsRecord cutRecord time) ∧
      (inputs (appSettings.caching true) appDir).result (damagedDisk cutRecord) = .ok appInputs) ∧
    appCache.isUpToDate (damagedDisk cutRecord) = .ok false ∧
    (run (appSettings.caching true) appDir appOutput).outcome (Clock.session (damagedDisk cutRecord) 2) =
      (regenerate (appSettings.caching true) appCache appInputs appOutput).outcome
        (prepared (appSettings.caching true) appDir (Clock.session (damagedDisk cutRecord) 2)) := by
  have hb : (damagedDisk cutRecord).readBytes appCache.recordFile = .ok cutRecord := by decide +kernel
  have hi : (inputs (appSettings.caching true) appDir).result (damagedDisk cutRecord) = .ok appInputs := by
    decide +kernel
  have hn : ∀ time, ¬IsRecord cutRecord time := by
    rintro time ⟨text, ht, hr⟩
    cases (Text.Utf8.decode_encode _).symm.trans ht
    have hm : Cache.recorded? (Text.unifyNewlines "\x7bnot json".toList) = .ok none := by decide +kernel
    cases hm.symm.trans (Cache.recorded?_eq_some_iff.mpr hr)
  have ⟨hlegible, _, hmissing, hrun⟩ := damaged_record_missing_iff hb
  have hl : Legible cutRecord := by
    refine hlegible _ (Text.Utf8.decode_encode _) fun ⟨run, hr, _, hlong⟩ => ?_
    have hle : run.length ≤ 9 := hr.length_le
    exact absurd hlong (by unfold Numeral.digitLimit; omega)
  exact ⟨⟨hb, hl, hn, hi⟩, hmissing hl hn, (hrun _ _ appOutput _ _ rfl disk_session hi rfl).left hl hn⟩

-- A byte that begins no character.
theorem foreign_record_fails :
    (damagedDisk [0xFF]).readBytes appCache.recordFile = .ok [0xFF] ∧
    (∀ b, appCache.isUpToDate (damagedDisk [0xFF]) ≠ .ok b) ∧
    ((run (appSettings.caching true) appDir appOutput).outcome
      (Clock.session (damagedDisk [0xFF]) 2)).1.toOption.isNone := by
  decide +kernel

end Generate

end TypedResources
