import TypedResources.Proofs.Disk.Growth
import TypedResources.Proofs.Naming
import TypedResources.Proofs.Query
import TypedResources.Proofs.Yaml.Building
import TypedResources.Settings

-- What loading the settings of a module fails by. A settings file that is malformed or holds no mapping is
-- an error of the settings. Every other failure that a file lets through is known: its bytes are no text,
-- one of its scalars has no value, a number that is asked for as a text has too many digits, or a name on
-- the way to the root of the project is none that a file can have (`load_contained_iff`).

namespace TypedResources

-- Whether the failure is an error of the settings.
def Failure.isConfig : Failure → Bool
  | badSettings .malformed | settingsNoMapping => true
  | _ => false

theorem Failure.isConfig_badSettings_iff {fault : Yaml.Fault} : (badSettings fault).isConfig ↔ fault = .malformed := by
  cases fault <;> simp [isConfig]

variable {ε α β : Type} {e e' : ε} {φ ψ : Prop} {r : Except ε α} {g : α → Except ε β}

-- There is but one failure, and it arises exactly if something holds.
structure FailsIff (e : ε) (φ : Prop) (r : Except ε α) : Prop where
  error : φ → r = .error e
  ok    : ¬φ → ∃ a, r = .ok a

namespace FailsIff

theorem of_ok {a : α} (h : ¬φ) : FailsIff e φ (.ok a) :=
  ⟨fun hφ => absurd hφ h, fun _ => ⟨a, rfl⟩⟩

theorem of_error (h : φ) : FailsIff e φ (.error e : Except ε α) :=
  ⟨fun _ => rfl, fun hn => absurd h hn⟩

theorem congr (h : FailsIff e φ r) (hψ : φ ↔ ψ) : FailsIff e ψ r :=
  propext hψ ▸ h

theorem bind (hr : FailsIff e φ r) (hg : ∀ a, FailsIff e ψ (g a)) : FailsIff e (φ ∨ ψ) (r >>= g) := by
  by_cases hφ : φ
  case pos => rw [hr.error hφ]; exact .of_error (.inl hφ)
  case neg =>
    obtain ⟨a, rfl⟩ := hr.ok hφ
    exact (hg a).congr (or_iff_right hφ).symm

theorem map (hr : FailsIff e φ r) (f : α → β) : FailsIff e φ (do return f (← r)) :=
  (hr.bind fun _ => .of_ok id).congr (by simp)

theorem mapM {f : α → Except ε β} {φ : α → Prop} (hf : ∀ a, FailsIff e (φ a) (f a)) (l : List α) :
    FailsIff e (∃ a ∈ l, φ a) (l.mapM f) := by
  induction l
  case nil         => exact .of_ok (by simp)
  case cons a l ih =>
    rw [List.mapM_cons]
    exact ((hf a).bind fun _ => ih.map _).congr (by simp)

end FailsIff

namespace Settings

open Text (Points)
open Yaml (Value Document Origin)

variable {d : Disk} {p f moduleRoot : Path} {v : Value} {doc : Document} {bytes : Bytes} {time : Int} {e : Failure}

-- A number that has too many digits to be written.
def TooLarge (v : Value) : Prop :=
  ∃ n, v = .integer n ∧ Numeral.integerLimit ≤ n.natAbs

def tooLarge : Failure :=
  .badSettings (.numeral .tooLarge)

theorem failsIff_text? (v : Value) : FailsIff tooLarge (TooLarge v) (text? v) := by
  unfold text?
  split
  case h_2 n =>
    have hn : FailsIff tooLarge (TooLarge (.integer n)) (numeral (Numeral.writeInteger n)) := by
      unfold Numeral.writeInteger
      split
      case isTrue h  => exact .of_error ⟨n, rfl, h⟩
      case isFalse h => exact .of_ok fun ⟨_, he, hn⟩ => h (Value.integer.inj he ▸ hn)
    exact hn.map fun s => some (Points.ofString s)
  case h_4 hn _ => exact .of_ok fun ⟨n, he, _⟩ => hn n he
  all_goals exact .of_ok nofun

theorem failsIff_itemText? (v : Value) : FailsIff tooLarge (TooLarge v) (itemText? v) := by
  unfold itemText?
  split
  case h_3 => exact failsIff_text? _
  all_goals exact .of_ok nofun

-- An item of a list with too many digits.
def ListsTooLarge (doc : Document) (v : Value) : Prop :=
  ∃ items, v = .list items ∧ ∃ i ∈ items, TooLarge (doc.value i)

theorem failsIff_texts (doc : Document) (v : Value) : FailsIff tooLarge (ListsTooLarge doc v) (texts doc v) := by
  unfold texts
  split
  case h_3 items =>
    have hi := FailsIff.mapM (fun i => failsIff_itemText? (doc.value i)) items
    exact (hi.map _).congr (by simp [ListsTooLarge])
  case h_4 hn    => exact .of_ok fun ⟨items, he, _⟩ => hn items he
  all_goals exact .of_ok nofun

-- What of a generation is a text, and what of a migration a list of texts.
def textKeys : List String := ["output", "drawable_prefix", "cache_dir", "plural_language"]
def listKeys : List String := ["source_dirs", "source_extensions"]

-- The values that are taken as texts.
inductive Asked (doc : Document) : Value → Prop
  | projectRoot : Asked doc (doc.get "project_root" doc.rootValue)
  | generation {key : String} (hk : key ∈ textKeys) :
      Asked doc (doc.get key (doc.get "generation" doc.rootValue))
  | reportPath : Asked doc (doc.get "report_path" (doc.get "migration" doc.rootValue))
  | item {key : String} {items : List Nat} {i : Nat} (hk : key ∈ listKeys)
      (hl : doc.get key (doc.get "migration" doc.rootValue) = .list items) (hi : i ∈ items) : Asked doc (doc.value i)

def AsksTooMuch (doc : Document) : Prop :=
  ∃ v, Asked doc v ∧ TooLarge v

theorem failsIff_readGeneration (doc : Document) (v : Value) :
    FailsIff tooLarge (∃ key ∈ textKeys, TooLarge (doc.get key v)) (readGeneration doc v) :=
  ((failsIff_text? _).bind fun _ => (failsIff_text? _).bind fun _ => (failsIff_text? _).bind fun _ =>
    (failsIff_text? _).map _).congr (by simp [textKeys])

theorem failsIff_readMigration (doc : Document) (v : Value) : FailsIff tooLarge
    (TooLarge (doc.get "report_path" v) ∨ ∃ key ∈ listKeys, ListsTooLarge doc (doc.get key v)) (readMigration doc v) :=
  ((failsIff_text? _).bind fun _ => (failsIff_texts _ _).bind fun _ => (failsIff_texts _ _).map _).congr (by simp [listKeys])

theorem asksTooMuch_iff : AsksTooMuch doc ↔
    (∃ key ∈ textKeys, TooLarge (doc.get key (doc.get "generation" doc.rootValue))) ∨
    (TooLarge (doc.get "report_path" (doc.get "migration" doc.rootValue)) ∨
      ∃ key ∈ listKeys, ListsTooLarge doc (doc.get key (doc.get "migration" doc.rootValue))) ∨
    TooLarge (doc.get "project_root" doc.rootValue) := by
  constructor
  case mp  =>
    rintro ⟨_, hv | hk | _ | ⟨hk, hl, hi⟩, ht⟩
    · exact .inr (.inr ht)
    · exact .inl ⟨_, hk, ht⟩
    · exact .inr (.inl (.inl ht))
    · exact .inr (.inl (.inr ⟨_, hk, _, hl, _, hi, ht⟩))
  case mpr =>
    rintro (⟨_, hk, ht⟩ | (ht | ⟨_, hk, _, hl, _, hi, ht⟩) | ht)
    · exact ⟨_, .generation hk, ht⟩
    · exact ⟨_, .reportPath, ht⟩
    · exact ⟨_, .item hk hl hi, ht⟩
    · exact ⟨_, .projectRoot, ht⟩

-- The first name of a path that no file can have, with the fault that it is refused for and its place.
inductive RefusedAt (p : Path) : Disk.Fault → Path → Prop
  | zeroCharacter {before rest : List String} {part : String} (hp : p.parts = before ++ part :: rest)
      (hb : ∀ name ∈ before, ¬Disk.isRefused name) (hz : .char '\x00' ∈ Path.pointsOf part)
      (hu : ∀ x ∈ Path.pointsOf part, x.isEncodable) :
      RefusedAt p .zeroCharacter ⟨.root, Path.normalize before ++ [part]⟩
  | unencodable {before rest : List String} {part : String} (hp : p.parts = before ++ part :: rest)
      (hb : ∀ name ∈ before, ¬Disk.isRefused name) (hu : ∃ x ∈ Path.pointsOf part, ¬x.isEncodable) :
      RefusedAt p .unencodable ⟨.root, Path.normalize before ++ [part]⟩

theorem refusedPart?_eq_some_iff (ha : p.isAbsolute) {fault : Disk.Fault} {place : Path} :
    refusedPart? p = some (fault, place) ↔ ∃ before part rest, p.parts = before ++ part :: rest ∧
      (∀ name ∈ before, ¬Disk.isRefused name) ∧ Disk.isRefused part ∧ fault = Disk.refusal ⟨.relative, [part]⟩ ∧
      place = ⟨.root, Path.normalize before ++ [part]⟩ := by
  have htake {before rest : List String} {part : String} (hp : p.parts = before ++ part :: rest)
      (hb : ∀ name ∈ before, ¬Disk.isRefused name) (hr : Disk.isRefused part) :
      p.parts.takeWhile (!Disk.isRefused ·) = before := by
    rw [hp, List.takeWhile_append_of_pos (by simpa using hb), List.takeWhile_cons, hr]
    exact List.append_nil before
  simp only [refusedPart?, if_pos ha, Option.map_eq_some_iff, Prod.mk.injEq]
  constructor
  case mp  =>
    rintro ⟨part, hf, rfl, rfl⟩
    obtain ⟨hr, before, rest, hp, hb⟩ := List.find?_eq_some_iff_append.mp hf
    have hb : ∀ name ∈ before, ¬Disk.isRefused name := by simpa using hb
    exact ⟨before, part, rest, hp, hb, hr, rfl, by rw [htake hp hb hr]⟩
  case mpr =>
    rintro ⟨before, part, rest, hp, hb, hr, rfl, rfl⟩
    refine ⟨part, List.find?_eq_some_iff_append.mpr ⟨hr, before, rest, hp, by simpa using hb⟩, rfl, ?_⟩
    rw [htake hp hb hr]

theorem refusedAt_iff (ha : p.isAbsolute) {fault : Disk.Fault} {place : Path} :
    RefusedAt p fault place ↔ refusedPart? p = some (fault, place) := by
  rw [refusedPart?_eq_some_iff ha]
  constructor
  case mp  =>
    rintro (@⟨before, rest, part, hp, hb, hz, hu⟩ | @⟨before, rest, part, hp, hb, hu⟩)
    case zeroCharacter =>
      have hu : Disk.isUnencodable part = false := by simpa [Disk.isUnencodable] using hu
      refine ⟨_, _, _, hp, hb, ?_, ?_, rfl⟩
      · simpa [Disk.isRefused, Disk.hasZeroCharacter, hu] using hz
      · simp [Disk.refusal, hu]
    case unencodable =>
      have hu : Disk.isUnencodable part = true := by simpa [Disk.isUnencodable] using hu
      exact ⟨_, _, _, hp, hb, by simp [Disk.isRefused, hu], by simp [Disk.refusal, hu], rfl⟩
  case mpr =>
    rintro ⟨before, part, rest, hp, hb, hr, rfl, rfl⟩
    by_cases hu : Disk.isUnencodable part
    case pos =>
      rw [show Disk.refusal ⟨.relative, [part]⟩ = .unencodable by simp [Disk.refusal, hu]]
      exact .unencodable hp hb (by simpa [Disk.isUnencodable] using hu)
    case neg =>
      rw [show Disk.refusal ⟨.relative, [part]⟩ = .zeroCharacter by simp [Disk.refusal, hu]]
      refine .zeroCharacter hp hb ?_ (by simpa [Disk.isUnencodable] using hu)
      simpa [Disk.isRefused, Disk.hasZeroCharacter, hu] using hr

-- An absolute path has its plain form, unless one of its names is refused.
theorem plainPath_eq_error_iff (ha : p.isAbsolute) :
    plainPath d p = .error e ↔ ∃ fault place, RefusedAt p fault place ∧ e = .disk fault place := by
  simp only [refusedAt_iff ha]
  unfold plainPath
  split
  case h_1 hr => simp [hr, eq_comm]
  case h_2 hr => simp [hr, ha]

theorem isAbsolute_of_plainPath (h : plainPath d p = .ok f) : f.isAbsolute := by
  unfold plainPath at h
  split at h
  case h_1 => cases h
  case h_2 =>
    split at h
    case isTrue  => cases h; rfl
    case isFalse =>
      cases hh : d.here <;> rw [hh] at h <;> cases h
      rfl

theorem isAbsolute_of_file (h : file d p = .ok f) : f.isAbsolute := by
  unfold file at h
  cases hp : expandHome d p <;> rw [hp] at h
  case error => cases h
  case ok    => exact isAbsolute_of_plainPath h

theorem isAbsolute_parent (h : p.isAbsolute) : p.parent.isAbsolute :=
  h

theorem isAbsolute_div {q : Path} (h : p.isAbsolute) : (p / q).isAbsolute := by
  change (Path.join p q).isAbsolute
  unfold Path.join
  split
  case isTrue hq => exact hq
  case isFalse   => exact h

-- Only mappings have anything under a key.
theorem get_eq_null (h : ∀ entries, v ≠ .mapping entries) (key : String) : doc.get key v = .null := by
  unfold Document.get
  split
  case h_1 entries => exact absurd rfl (h entries)
  case h_2         => rfl

theorem mapping_of_asksTooMuch (h : AsksTooMuch doc) : ∃ entries, doc.rootValue = .mapping entries := by
  by_contra hm
  have hg (key : String) : doc.get key doc.rootValue = .null := get_eq_null (not_exists.mp hm) key
  have hn (key : String) : doc.get key .null = .null := rfl
  have ht : ¬TooLarge .null := nofun
  have hl : ¬ListsTooLarge doc .null := nofun
  simp [asksTooMuch_iff, hg, hn, ht, hl] at h

-- What is read of a mapping before the root of the project is looked for.
def readings (doc : Document) : Except Failure (GenerationSettings × MigrationSettings × Option Points) := do
  return (← readGeneration doc (doc.get "generation" doc.rootValue),
    ← readMigration doc (doc.get "migration" doc.rootValue), ← text? (doc.get "project_root" doc.rootValue))

theorem failsIff_readings (doc : Document) : FailsIff tooLarge (AsksTooMuch doc) (readings doc) :=
  ((failsIff_readGeneration _ _).bind fun _ => (failsIff_readMigration _ _).bind fun _ =>
    (failsIff_text? _).map _).congr asksTooMuch_iff.symm

theorem text?_of_readings {g : GenerationSettings} {m : MigrationSettings} {s : Option Points}
    (h : readings doc = .ok (g, m, s)) : text? (doc.get "project_root" doc.rootValue) = .ok s := by
  unfold readings at h
  cases hg : readGeneration doc (doc.get "generation" doc.rootValue) <;> rw [hg] at h
  case error => cases h
  case ok    =>
    cases hm : readMigration doc (doc.get "migration" doc.rootValue) <;> rw [hm] at h
    case error => cases h
    case ok    =>
      cases ht : text? (doc.get "project_root" doc.rootValue) <;> rw [ht] at h <;> cases h
      rfl

theorem ofDocument_mapping {entries : List (Nat × Nat)} (h : doc.rootValue = .mapping entries) :
    ofDocument d moduleRoot doc = readings doc >>= fun (g, m, s) =>
      return ⟨moduleRoot, ← s.mapM fun s => plainPath d (moduleRoot / Path.ofPoints s), g, m⟩ := by
  simp only [ofDocument, readings, h, bind_assoc, pure_bind]

-- How the settings of a document fail: it holds no mapping, a number is too large, or else a name on the way
-- to the root of the project is refused.
inductive Refused (moduleRoot : Path) (doc : Document) : Failure → Prop
  | noMapping (hn : doc.rootValue ≠ .null) (hm : ∀ entries, doc.rootValue ≠ .mapping entries) :
      Refused moduleRoot doc .settingsNoMapping
  | tooLarge (ha : AsksTooMuch doc) : Refused moduleRoot doc tooLarge
  | root {s : Points} {fault : Disk.Fault} {place : Path} (ha : ¬AsksTooMuch doc)
      (hs : text? (doc.get "project_root" doc.rootValue) = .ok (some s))
      (hr : RefusedAt (moduleRoot / Path.ofPoints s) fault place) : Refused moduleRoot doc (.disk fault place)

theorem refused_of_ofDocument (hroot : moduleRoot.isAbsolute) (h : ofDocument d moduleRoot doc = .error e) :
    Refused moduleRoot doc e := by
  by_cases hm : ∃ entries, doc.rootValue = .mapping entries
  case neg =>
    unfold ofDocument at h
    split at h
    case h_1      => cases h
    case h_2 hm'  => exact absurd ⟨_, hm'⟩ hm
    case h_3 hn _ => cases h; exact .noMapping hn (not_exists.mp hm)
  case pos =>
    obtain ⟨entries, hm⟩ := hm
    rw [ofDocument_mapping hm] at h
    by_cases ha : AsksTooMuch doc
    case pos => rw [(failsIff_readings doc).error ha] at h; cases h; exact .tooLarge ha
    case neg =>
      obtain ⟨⟨g, m, s⟩, hr⟩ := (failsIff_readings doc).ok ha
      rw [hr, ok_bind] at h
      cases s
      case none   => cases h
      case some s =>
        cases hp : plainPath d (moduleRoot / Path.ofPoints s)
        case ok    => simp [hp] at h
        case error =>
          have ⟨fault, place, hat, he⟩ := (plainPath_eq_error_iff (isAbsolute_div hroot)).mp hp
          simp only [Option.mapM_some, hp] at h
          cases h
          exact he ▸ .root ha (text?_of_readings hr) hat

theorem ofDocument_of_refused (hroot : moduleRoot.isAbsolute) (h : Refused moduleRoot doc e) :
    ofDocument d moduleRoot doc = .error e := by
  cases h
  case noMapping hn hm =>
    unfold ofDocument
    split
    case h_1 h         => exact absurd h hn
    case h_2 entries h => exact absurd h (hm entries)
    case h_3           => rfl
  case tooLarge ha =>
    obtain ⟨entries, hm⟩ := mapping_of_asksTooMuch ha
    rw [ofDocument_mapping hm, (failsIff_readings doc).error ha, error_bind]
  case root s fault place ha hs hat =>
    obtain ⟨entries, hm⟩ : ∃ entries, doc.rootValue = .mapping entries := by
      by_contra hm
      rw [get_eq_null (not_exists.mp hm)] at hs
      cases hs
    obtain ⟨⟨g, m, s'⟩, hr⟩ := (failsIff_readings doc).ok ha
    cases (text?_of_readings hr).symm.trans hs
    rw [ofDocument_mapping hm, hr, ok_bind]
    have hp : plainPath d (moduleRoot / Path.ofPoints s) = .error (.disk fault place) :=
      (plainPath_eq_error_iff (isAbsolute_div hroot)).mpr ⟨fault, place, hat, rfl⟩
    simp [hp]

-- The settings file of these bytes is a text that tells something.
structure Tells (bytes : Bytes) (text : List Char) : Prop where
  decode   : (Text.Utf8.decode bytes).map Text.unifyNewlines = .ok text
  notBlank : Text.trim text ≠ []

-- The failures that a settings file of these bytes lets through, apart from the errors of the settings.
inductive Escape (file : Path) (bytes : Bytes) : Failure → Prop
  -- The bytes are no text.
  | notText {e : Text.Utf8.Failure} (h : Text.Utf8.decode bytes = .error e) : Escape file bytes (.notText e)
  -- A value cannot be worked out, and something in the text is the reason.
  | noValue {text : List Char} {fault : Yaml.Fault} (ht : Tells bytes text) (hf : Document.ofText text = .error fault)
      (hm : fault ≠ .malformed) (ho : Origin text fault) : Escape file bytes (.badSettings fault)
  -- A number that is asked for as a text has too many digits.
  | tooLarge {text : List Char} {doc : Document} (ht : Tells bytes text) (hd : Document.ofText text = .ok doc)
      (ha : AsksTooMuch doc) : Escape file bytes tooLarge
  -- A name on the way to the root of the project has a zero character, or half of a surrogate pair that
  -- stands for no byte.
  | refusedRoot {text : List Char} {doc : Document} {s : Points} {fault : Disk.Fault} {place : Path}
      (ht : Tells bytes text) (hd : Document.ofText text = .ok doc) (ha : ¬AsksTooMuch doc)
      (hs : text? (doc.get "project_root" doc.rootValue) = .ok (some s))
      (hr : RefusedAt (file.parent / Path.ofPoints s) fault place) : Escape file bytes (.disk fault place)

theorem readText_of_stat (hs : d.stat f = .ok (.file bytes time)) : d.readText f =
    match Text.Utf8.decode bytes with
    | .error e => .error (.notText e)
    | .ok raw  => .ok (Text.unifyNewlines raw) := by
  obtain ⟨k, hl, hn⟩ := Disk.stat_eq_ok_iff.mp hs
  have hr : d.readBytes f = .ok bytes := by
    simp only [Disk.readBytes, Disk.stat, hl, hn, ok_bind, pure, Except.pure]
  simp only [Disk.readText, Disk.readRaw, hr, diskFailure, ok_bind]
  cases Text.Utf8.decode bytes <;> rfl

theorem load_of_stat (hf : file d p = .ok f) (hs : d.stat f = .ok (.file bytes time)) : load d p =
    match Text.Utf8.decode bytes with
    | .error e => .error (.notText e)
    | .ok raw  =>
      if Text.trim (Text.unifyNewlines raw) = [] then .ok { moduleRoot := f.parent }
      else match Document.ofText (Text.unifyNewlines raw) with
        | .error e => .error (.badSettings e)
        | .ok doc  => ofDocument d f.parent doc := by
  have hh : d.has f := by simp [Disk.has, hs]
  simp only [load, hf, hh, readText_of_stat hs, ok_bind]
  cases Text.Utf8.decode bytes <;> rfl

theorem load_of_tells {text : List Char} (hf : file d p = .ok f) (hs : d.stat f = .ok (.file bytes time))
    (ht : Tells bytes text) : load d p =
      match Document.ofText text with
      | .error e => .error (.badSettings e)
      | .ok doc  => ofDocument d f.parent doc := by
  have ⟨hd, hb⟩ := ht
  cases hr : Text.Utf8.decode bytes <;> rw [hr] at hd <;> cases hd
  rw [load_of_stat hf hs, hr]
  exact if_neg hb

theorem escape_of_load (hf : file d p = .ok f) (hs : d.stat f = .ok (.file bytes time)) (h : load d p = .error e)
    (hc : ¬e.isConfig) : Escape f bytes e := by
  cases hd : Text.Utf8.decode bytes
  case error =>
    rw [load_of_stat hf hs, hd] at h
    cases h
    exact .notText hd
  case ok raw =>
    by_cases hb : Text.trim (Text.unifyNewlines raw) = []
    case pos => rw [load_of_stat hf hs, hd] at h; cases (if_pos hb).symm.trans h
    case neg =>
      have ht : Tells bytes (Text.unifyNewlines raw) := ⟨hd ▸ rfl, hb⟩
      rw [load_of_tells hf hs ht] at h
      cases hdoc : Document.ofText (Text.unifyNewlines raw) <;> rw [hdoc] at h
      case error fault =>
        cases h
        exact .noValue ht hdoc (mt Failure.isConfig_badSettings_iff.mpr hc) (Yaml.origin_of_ofText hdoc)
      case ok doc =>
        cases refused_of_ofDocument (isAbsolute_parent (isAbsolute_of_file hf)) h
        case noMapping        => exact absurd rfl hc
        case tooLarge ha      => exact .tooLarge ht hdoc ha
        case root ha hs' hat  => exact .refusedRoot ht hdoc ha hs' hat

theorem load_of_escape (hf : file d p = .ok f) (hs : d.stat f = .ok (.file bytes time)) (h : Escape f bytes e) :
    load d p = .error e ∧ ¬e.isConfig := by
  cases h
  case notText hd => rw [load_of_stat hf hs, hd]; exact ⟨rfl, nofun⟩
  case noValue ht hdoc hm _ =>
    rw [load_of_tells hf hs ht, hdoc]
    exact ⟨rfl, mt Failure.isConfig_badSettings_iff.mp hm⟩
  case tooLarge ht hdoc ha =>
    rw [load_of_tells hf hs ht, hdoc]
    exact ⟨ofDocument_of_refused (isAbsolute_parent (isAbsolute_of_file hf)) (.tooLarge ha), nofun⟩
  case refusedRoot ht hdoc ha hs' hat =>
    rw [load_of_tells hf hs ht, hdoc]
    exact ⟨ofDocument_of_refused (isAbsolute_parent (isAbsolute_of_file hf)) (.root ha hs' hat), nofun⟩

def settingsPath : Path := Path.ofString "/app/.resourcegen.yml"

-- A module with nothing but a settings file of these bytes.
def settingsDisk (bytes : Bytes) : Disk :=
  { entries := [(["app"], .dir), (["app", settingsFile], .file bytes 0)] }

theorem file_settingsDisk (bytes : Bytes) : file (settingsDisk bytes) (Path.ofString "/app") = .ok settingsPath := by
  rfl

theorem stat_settingsDisk (bytes : Bytes) : (settingsDisk bytes).stat settingsPath = .ok (.file bytes 0) := by
  rfl

def remark : Bytes := Text.Utf8.encode "# later".toList
def noDay : Bytes := Text.Utf8.encode "2024-02-30".toList

end Settings

end TypedResources
