import TypedResources.CommandLine.Basic
import TypedResources.Proofs.Disk.Spares
import TypedResources.Proofs.Failing
import TypedResources.Proofs.Generate.Rejection
import TypedResources.Proofs.Migration.Run
import TypedResources.Proofs.Settings.Loading

-- Which failures reach the command line. Whatever the generator and the migration fail by is either
-- caught by the handler of the command or none of the program's own failures (`caught_generate`,
-- `caught_migrate`). Settings fail by one that is not caught if their file is a directory
-- (`uncaught_of_load`).

namespace TypedResources

-- Whether the program itself reports the failure, or the disk.
def Failure.isOwn : Failure → Bool
  | disk fault _ => fault.isSystem
  | badSettings .malformed | settingsNoMapping => true
  | noNamespace _ | badDocument .. | noSourceDirectory _ | unconfirmed => true
  | _ => false

-- Of the program's own failures only those of the disk.
def Failure.FromDisk (f : Failure) : Prop :=
  f.isOwn → f.isDisk

theorem Failure.fromDisk_of_isDisk {f : Failure} (h : f.isDisk) : f.FromDisk :=
  fun _ => h

-- None of the program's own failures.
def Failure.Foreign (f : Failure) : Prop :=
  ¬f.isOwn

open Failure (FromDisk Foreign fromDisk_of_isDisk)

variable {d : Disk} {p : Path} {f : Failure} {module : Path} {site : Locate.Site}

theorem fromDisk_of_readBytes (h : diskFailure p (d.readBytes p) = .error f) : f.FromDisk := by
  cases hr : d.readBytes p <;> rw [hr] at h <;> cases h
  exact fromDisk_of_isDisk rfl

theorem fromDisk_of_readRaw (h : d.readRaw p = .error f) : f.FromDisk := by
  unfold Disk.readRaw at h
  cases hr : diskFailure p (d.readBytes p) <;> rw [hr] at h
  case error => cases h; exact fromDisk_of_readBytes hr
  case ok    =>
    dsimp only [ok_bind] at h
    split at h <;> cases h
    exact nofun

theorem fromDisk_of_readText (h : d.readText p = .error f) : f.FromDisk := by
  unfold Disk.readText at h
  cases hr : d.readRaw p <;> rw [hr] at h <;> cases h
  exact fromDisk_of_readRaw hr

theorem fromDisk_of_read (h : Definition.read d p = .error f) : f.FromDisk ∨ ∃ q fault, f = .badDocument q fault := by
  unfold Definition.read at h
  split at h
  case h_1 => cases h; exact .inl (fromDisk_of_isDisk rfl)
  case h_2 =>
    split at h <;> cases h
    case h_2 => exact .inr ⟨_, _, rfl⟩
    all_goals exact .inl nofun

theorem readBytes_of_isDir (h : d.isDir p) : d.readBytes p = .error .isDirectory := by
  have ⟨k, hl, hn⟩ := Disk.isDir_iff.mp h
  simp [Disk.readBytes, Disk.stat, hl, hn]

theorem readText_of_isDir (h : d.isDir p) : d.readText p = .error (.disk .isDirectory p) := by
  simp [Disk.readText, Disk.readRaw, readBytes_of_isDir h, diskFailure, Except.map]

-- What exists can be read, or is a directory.
theorem isDir_of_readBytes {fault : Disk.Fault} (hh : d.has p) (hr : d.readBytes p = .error fault) : d.isDir p := by
  by_contra hd
  unfold Disk.has at hh
  split at hh
  case h_2     => contradiction
  case h_1 n hs =>
    have ⟨k, hl, hn⟩ := Disk.stat_eq_ok_iff.mp hs
    cases n
    case dir  => exact hd (Disk.isDir_iff.mpr ⟨k, hl, hn⟩)
    case file =>
      simp only [Disk.readBytes, Disk.stat, hl, hn, ok_bind] at hr
      cases hr

theorem isDir_of_readText (hh : d.has p) (h : d.readText p = .error f) (ho : f.isOwn) :
    d.isDir p ∧ f = .disk .isDirectory p := by
  cases hr : d.readBytes p
  case error =>
    have hd := isDir_of_readBytes hh hr
    rw [readText_of_isDir hd] at h
    cases h
    exact ⟨hd, rfl⟩
  case ok    =>
    simp only [Disk.readText, Disk.readRaw, hr, diskFailure, ok_bind] at h
    split at h <;> cases h
    contradiction

namespace BuildFile

theorem fromDisk_of_codeLines (h : codeLines d p = .error f) : f.FromDisk := by
  unfold codeLines at h
  cases hr : diskFailure p (d.readBytes p) <;> rw [hr] at h <;> cases h
  exact fromDisk_of_readBytes hr

theorem fromDisk_of_packageIn? {bytes : Bytes} : FailsOnly FromDisk (packageIn? bytes) := by
  unfold packageIn?
  split
  case h_1 => exact failsOnly_ok _
  case h_2 => rintro _ ⟨⟩ ⟨⟩
  case h_3 => exact failsOnly_ok _

theorem failsOnly_namespaceFromBuildFile : (namespaceFromBuildFile module).FailsOnly FromDisk := by
  refine steady_namespaceFromBuildFile.failsOnly fun d => ?_
  rw [result_namespaceFromBuildFile]
  split
  case isTrue  => exact .map fun _ => fromDisk_of_codeLines
  case isFalse => exact failsOnly_ok none

theorem failsOnly_namespaceFromManifest : (namespaceFromManifest module).FailsOnly FromDisk := by
  refine steady_namespaceFromManifest.failsOnly fun d => ?_
  rw [result_namespaceFromManifest]
  split
  case isTrue  => exact .bind (fun _ => fromDisk_of_readBytes) fun _ => fromDisk_of_packageIn?
  case isFalse => exact failsOnly_ok none

theorem failsOnly_namespace? : (namespace? module).FailsOnly FromDisk := by
  refine failsOnly_namespaceFromBuildFile.bind fun name => ?_
  cases name
  case none => exact failsOnly_namespaceFromManifest
  case some => exact Query.failsOnly_pure _

theorem failsOnly_dependencies : (dependencies module).FailsOnly FromDisk := by
  refine steady_dependencies.failsOnly fun d => ?_
  rw [result_dependencies]
  split
  case isTrue  => exact .map fun _ => fromDisk_of_codeLines
  case isFalse => exact failsOnly_ok []

end BuildFile

namespace Locate

theorem failsOnly_dependencyGroups {modulePath : String} : (dependencyGroups site modulePath).FailsOnly FromDisk := by
  refine BuildFile.failsOnly_namespace?.bind fun name => ?_
  cases name
  case none => exact (Query.failsOnly_log _ _ _).bind fun _ => Query.failsOnly_pure _
  case some => exact Query.failsOnly_read.bind fun _ => Query.failsOnly_pure _

theorem failsOnly_groups : (groups site).FailsOnly FromDisk :=
  BuildFile.failsOnly_namespace?.bind fun _ => Query.failsOnly_read.bind fun _ =>
    BuildFile.failsOnly_dependencies.bind fun paths =>
      (Query.FailsOnly.mapM paths fun _ _ => failsOnly_dependencyGroups).bind fun _ =>
        (Query.failsOnly_log _ _ _).bind fun _ => Query.failsOnly_pure _

theorem failsOnly_observed : (observed site).FailsOnly FromDisk :=
  failsOnly_groups.bind fun _ => Query.failsOnly_read.bind fun _ => Query.failsOnly_pure _

end Locate

namespace Settings

theorem here_eq_error_iff : d.here = .error f ↔ d.workingDir.lost ≠ 0 ∧ f = .disk .notFound ⟨.relative, []⟩ := by
  unfold Disk.here
  split
  case isTrue h  => simp [h]
  case isFalse h => simp [h, eq_comm]

theorem foreign_refusal (p q : Path) : (Failure.disk (Disk.refusal p) q).Foreign := by
  unfold Disk.refusal
  split <;> exact nofun

-- Only the plain form of a relative path takes a working directory.
theorem own_plainPath_iff (ho : f.isOwn) :
    plainPath d p = .error f ↔ ¬p.isAbsolute ∧ ¬Disk.refuses p ∧ d.here = .error f := by
  unfold plainPath
  split
  case h_1 hr =>
    obtain ⟨part, hf, he⟩ := Option.map_eq_some_iff.mp hr
    obtain ⟨rfl, rfl⟩ := Prod.mk.inj he
    have hp : Disk.refuses p := List.any_eq_true.mpr ⟨part, List.mem_of_find?_eq_some hf, List.find?_some hf⟩
    refine iff_of_false (fun h => ?_) fun h => h.right.left hp
    cases h
    exact foreign_refusal _ _ ho
  case h_2 hr =>
    have hp : ¬Disk.refuses p := by
      simpa [refusedPart?, Disk.refuses] using hr
    by_cases ha : p.isAbsolute
    case pos => simp [ha]
    case neg => cases hh : d.here <;> simp [ha, hp, Except.map]

theorem foreign_plainPath (ha : p.isAbsolute) : FailsOnly Foreign (plainPath d p) :=
  fun _ h ho => ((own_plainPath_iff ho).mp h).left ha

theorem foreign_expandHome (d : Disk) (p : Path) : FailsOnly Foreign (expandHome d p) := by
  intro f h
  unfold expandHome at h
  split at h
  case h_1 => split at h <;> first | cases h | (split at h <;> cases h; exact nofun)
  case h_2 => cases h

theorem expandHome_of_isAbsolute (ha : p.isAbsolute) : expandHome d p = .ok p := by
  unfold expandHome
  split
  case h_1 hf _ => cases ha.symm.trans hf
  case h_2      => rfl

theorem foreign_file (ha : p.isAbsolute) : FailsOnly Foreign (file d p) := by
  unfold file
  rw [expandHome_of_isAbsolute ha]
  refine foreign_plainPath ?_
  split
  case isTrue  => exact ha
  case isFalse => split <;> exact ha

theorem noMapping_of_ofDocument {doc : Yaml.Document} (ha : p.isAbsolute) (h : ofDocument d p doc = .error f)
    (ho : f.isOwn) : f = .settingsNoMapping := by
  cases refused_of_ofDocument ha h
  case noMapping   => rfl
  case tooLarge    => contradiction
  case root hr => cases hr <;> contradiction

theorem load_of_isDir (hf : file d module = .ok p) (hd : d.isDir p) :
    load d module = .error (.disk .isDirectory p) := by
  simp [load, hf, Disk.has_of_isDir hd, readText_of_isDir hd]

end Settings

namespace Cache

variable {c : Cache}

theorem fromDisk_of_recorded? {text : List Char} (h : recorded? text = .error f) : f.FromDisk := by
  unfold recorded? at h
  split at h
  case isTrue  => cases h
  case isFalse =>
    split at h
    case h_1 => cases h
    case h_2 => cases h; exact nofun
    case h_3 => split at h <;> cases h

theorem fromDisk_of_stored? (h : stored? d c = .error f) : f.FromDisk := by
  unfold stored? at h
  split at h
  case h_1 text _ =>
    cases hr : recorded? text <;> rw [hr] at h <;> cases h
    exact fromDisk_of_recorded? hr
  case h_2 hr => split at h <;> cases h; exact fromDisk_of_readText hr
  case h_3 hr => cases h; exact fromDisk_of_readText hr

theorem fromDisk_of_isUpToDate (h : isUpToDate d c = .error f) : f.FromDisk := by
  unfold isUpToDate at h
  cases hs : stored? d c <;> rw [hs] at h
  case error => cases h; exact fromDisk_of_stored? hs
  case ok stored =>
    cases stored
    case none      => cases h
    case some time =>
      dsimp only [ok_bind] at h
      cases hn : newest d c.observed <;> rw [hn] at h <;> cases h
      exact fromDisk_of_isDisk (isDisk_of_newest hn)

theorem fromDisk_of_content? (h : content? d c = .error f) : f.FromDisk := by
  unfold content? at h
  split at h <;> cases h
  case h_3 hr => exact fromDisk_of_readText hr

end Cache

namespace CommandLine

-- A handler leaves none of the program's own failures but those that it catches.
def Caught (h : Handler) (f : Failure) : Prop :=
  f.isOwn → (h f).isSome

theorem caught_of_fromDisk {h : Handler} (hh : ∀ f, isSystem f → (h f).isSome) (hf : f.FromDisk) : Caught h f := by
  intro ho
  have hd := hf ho
  cases f
  case disk => exact hh _ ho
  all_goals cases hd

theorem isSome_onGenerate (h : isSystem f) : (onGenerate f).isSome := by
  cases f
  case disk fault p => cases fault <;> first | rfl | cases h
  all_goals cases h

theorem isSome_onMigrate (h : isSystem f) : (onMigrate f).isSome := by
  cases f
  case disk fault p => cases fault <;> first | rfl | cases h
  all_goals cases h

theorem caught_generate_of_fromDisk (hf : f.FromDisk) : Caught onGenerate f :=
  caught_of_fromDisk (fun _ => isSome_onGenerate) hf

theorem caught_migrate_of_fromDisk (hf : f.FromDisk) : Caught onMigrate f :=
  caught_of_fromDisk (fun _ => isSome_onMigrate) hf

-- Settings fail by an own failure that is caught, or because their file is a directory.
theorem uncaught_of_load (ha : module.isAbsolute) (h : Settings.load d module = .error f) (hc : ¬Caught onSettings f) :
    ∃ p, Settings.file d module = .ok p ∧ d.isDir p ∧ f = .disk .isDirectory p := by
  have ⟨ho, hn⟩ := Classical.not_imp.mp hc
  unfold Settings.load at h
  cases hf : Settings.file d module <;> rw [hf] at h
  case error => cases h; exact absurd ho (Settings.foreign_file ha _ hf)
  case ok p  =>
    dsimp only [ok_bind] at h
    split at h
    case isTrue      => cases h
    case isFalse hh =>
      cases hr : d.readText p <;> rw [hr] at h
      case error =>
        cases h
        exact ⟨p, rfl, isDir_of_readText (by simpa using hh) hr ho⟩
      case ok text =>
        dsimp only [ok_bind] at h
        split at h
        case isTrue  => cases h
        case isFalse =>
          split at h
          case h_1 e _ => cases h; cases e <;> first | exact absurd rfl hn | contradiction
          case h_2     =>
            have hroot := Settings.isAbsolute_parent (Settings.isAbsolute_of_file hf)
            exact absurd (by rw [Settings.noMapping_of_ofDocument hroot h ho]; rfl) hn

end CommandLine

namespace ClassFile

open CommandLine

theorem failsOnly_readEntries (strict : Bool) (docs : List (ModuleId × Path)) :
    (readEntries strict docs).FailsOnly (Caught onGenerate) := by
  induction docs
  case nil            => exact Query.failsOnly_pure _
  case cons doc docs ih =>
    refine Query.failsOnly_read.bind fun d => ?_
    split
    case h_1 => exact ih.bind fun _ => Query.failsOnly_pure _
    case h_2 =>
      cases strict
      case true  => exact (Query.failsOnly_throw fun _ => rfl).bind fun _ =>
        (Query.failsOnly_log _ _ _).bind fun _ => ih.bind fun _ => Query.failsOnly_pure _
      case false => exact (Query.failsOnly_log _ _ _).bind fun _ => ih.bind fun _ => Query.failsOnly_pure _
    case h_3 f hne hr =>
      refine Query.failsOnly_throw ?_
      rcases fromDisk_of_read hr with hf | ⟨q, fault, rfl⟩
      case inl => exact caught_generate_of_fromDisk hf
      case inr => exact absurd rfl (hne q fault)

theorem failsOnly_generate (options : Options) (package : String) (groups : List ResourceGroup) :
    (generate options package groups).FailsOnly (Caught onGenerate) :=
  (failsOnly_readEntries _ _).bind fun _ =>
    (Query.FailsOnly.of_ok fun _ _ => ⟨(), _, rfl⟩).bind fun _ => Query.failsOnly_pure _

end ClassFile

namespace Generate

open CommandLine

variable {s : Settings} {c : Cache} {i : Inputs} {output : Path}

theorem failsOnly_inputs : (inputs s module).FailsOnly (Caught onGenerate) := by
  refine (BuildFile.failsOnly_namespace?.mono fun _ => caught_generate_of_fromDisk).bind fun package => ?_
  cases package
  case none => exact Query.failsOnly_throw fun _ => rfl
  case some =>
    exact (Locate.failsOnly_groups.mono fun _ => caught_generate_of_fromDisk).bind fun _ =>
      (Locate.failsOnly_observed.mono fun _ => caught_generate_of_fromDisk).bind fun _ => Query.failsOnly_pure _

theorem failsOnly_cached? : (cached? s c).FailsOnly FromDisk := by
  unfold cached?
  split
  case isTrue  => exact Action.failsOnly_pure _
  case isFalse =>
    refine Action.failsOnly_disk.bind fun d => (Action.FailsOnly.ofExcept fun f => Cache.fromDisk_of_isUpToDate).bind fun b => ?_
    cases b
    case false => exact Action.failsOnly_pure _
    case true  => exact Action.FailsOnly.ofExcept fun f => Cache.fromDisk_of_content?

-- Whatever fails while a class is generated, the handler catches it if it is the program's own.
theorem caught_generate : (run s module output).FailsOnly (Caught onGenerate) := by
  have hdisk {α : Type} {a : Action α} (h : a.OnlyDisk) : a.FailsOnly (Caught onGenerate) :=
    fun s f s' ho => caught_generate_of_fromDisk (fromDisk_of_isDisk (h s f s' ho))
  refine (Action.failsOnly_log _ _ _).bind fun _ => (Action.FailsOnly.query failsOnly_inputs).bind fun i => ?_
  refine (failsOnly_cached?.mono fun _ => caught_generate_of_fromDisk).bind fun found => ?_
  cases found
  case some => exact hdisk onlyDisk_reuse
  case none =>
    refine (Action.FailsOnly.query (ClassFile.failsOnly_generate _ _ _)).bind fun made => ?_
    exact (hdisk onlyDisk_keep).bind fun _ => (hdisk Action.onlyDisk_writeBelow).bind fun _ =>
      (Action.failsOnly_log _ _ _).bind fun _ => Action.failsOnly_pure _

end Generate

namespace Migration

open CommandLine

variable {m : Migration}

theorem failsOnly_documentTargets (owner : ModuleId) (ps : List Path) : (documentTargets owner ps).FailsOnly FromDisk := by
  induction ps
  case nil          => exact Query.failsOnly_pure _
  case cons p ps ih =>
    have hs (own : List (String × Target)) : Query.FailsOnly FromDisk (do return own ++ (← documentTargets owner ps)) :=
      ih.bind fun _ => Query.failsOnly_pure _
    refine Query.failsOnly_read.bind fun d => ?_
    dsimp only
    split
    case h_1 => exact (Query.failsOnly_pure _).bind hs
    case h_2 => exact (Query.failsOnly_log _ _ _).bind fun _ => (Query.failsOnly_pure _).bind hs
    case h_3 f hne hr =>
      refine (Query.failsOnly_throw ?_).bind hs
      rcases fromDisk_of_read hr with hf | ⟨q, fault, rfl⟩
      case inl => exact hf
      case inr => exact absurd rfl (hne q fault)

theorem failsOnly_targets (groups : List ResourceGroup) : (targets groups).FailsOnly FromDisk := by
  refine (Query.FailsOnly.mapM groups fun g _ => ?_).bind fun _ => Query.failsOnly_pure _
  unfold groupTargets
  split
  case h_1 => exact failsOnly_documentTargets _ _
  case h_2 => exact Query.failsOnly_pure _

theorem failsOnly_learn : m.learn.FailsOnly FromDisk := by
  have hquery {α : Type} {q : Query α} (h : q.FailsOnly FromDisk) :
      (liftM (liftM q : Action α) : Migrating α).FailsOnly FromDisk := .action (.query h)
  refine (hquery BuildFile.failsOnly_namespace?).bind fun _ => (Migrating.failsOnly_modify _).bind fun _ => ?_
  refine (hquery Locate.failsOnly_groups).bind fun groups => (Migrating.failsOnly_modify _).bind fun _ => ?_
  refine (hquery (failsOnly_targets groups)).bind fun _ => (Migrating.failsOnly_modify _).bind fun _ => ?_
  exact Migrating.failsOnly_knowledge.bind fun _ => .action (Action.failsOnly_log _ _ _)

theorem failsOnly_migrateFile : (migrateFile p).FailsOnly FromDisk := by
  intro k s f k' s' h
  have ⟨log, hl⟩ := outcome_migrateFile p k s
  rw [h] at hl
  cases hr : s.disk.readRaw p <;> rw [hr] at hl
  case error => cases hl; exact fromDisk_of_readRaw hr
  case ok    =>
    dsimp only at hl
    split at hl
    case isTrue  => cases hl
    case isFalse =>
      split at hl <;> cases hl
      exact fromDisk_of_isDisk rfl

-- Whatever fails while a module is migrated, the handler catches it if it is the program's own.
theorem caught_migrate (confirmed : Bool) : (m.run confirmed).FailsOnly (Caught onMigrate) := by
  have hlog (level : Level) (message : String) :
      (liftM (Migration.log level message) : Migrating Unit).FailsOnly (Caught onMigrate) :=
    .action (Action.failsOnly_log _ _ _)
  have hdisk {text : List Char} : (Action.writeBelow m.reportPath text).FailsOnly (Caught onMigrate) :=
    fun s f s' ho => caught_migrate_of_fromDisk (fromDisk_of_isDisk (Action.onlyDisk_writeBelow s f s' ho))
  have hroots : m.sourceRoots.FailsOnly (Caught onMigrate) := by
    intro s f s' h
    rw [outcome_sourceRoots] at h
    split at h <;> cases h
    exact fun _ => rfl
  unfold run
  dsimp only
  split
  case isTrue  => exact Migrating.failsOnly_throw_bind fun _ => rfl
  case isFalse =>
    refine .bind (.action hroots) fun roots => ?_
    refine (failsOnly_learn.mono fun _ => caught_migrate_of_fromDisk).bind fun _ => ?_
    refine .bind (.action Action.failsOnly_disk) fun d => ?_
    refine .bind (.mapM _ fun p _ => failsOnly_migrateFile.mono fun _ => caught_migrate_of_fromDisk) fun changed => ?_
    refine (hlog _ _).bind fun _ => Migrating.failsOnly_session.bind fun s => .bind (.action hdisk) fun _ => ?_
    exact .bind (.action Action.failsOnly_disk) fun d => (hlog _ _).bind fun _ => Migrating.failsOnly_pure _

end Migration

end TypedResources
