import TypedResources.Proofs.Generate.Package
import TypedResources.Proofs.Migration.Once

-- What an added import is for. It names the package that the class of the module is of, if the module
-- has a name (`makesClass_of_learned`), and it stands in a line of its own. Later runs read that line as
-- an import of the class, and so add no other one, exactly if the package can be imported
-- (`added_import_serves_iff`).

namespace TypedResources.Migration

open Generate Text

variable {m : Migration} {s : Settings} {d : Disk} {k : Knowledge} {p : Path} {text body : List Char} {σ : Session}
  {n i : Nat} {before added : String}

-- What can be read for the targets can be read for the class.
theorem exists_generate {groups : List ResourceGroup} {found : List (String × Target)}
    (ht : (targets groups).result d = .ok found) (language package : String) :
    ∃ made, (ClassFile.generate ⟨false, language⟩ package groups).result d = .ok made := by
  have ha := targets_agree (d := d) groups
  rw [ht, ClassFile.entriesOn] at ha
  rw [ClassFile.result_generate]
  cases hr : (ClassFile.readEntries false (ClassFile.documents groups)).result d <;> rw [hr] at ha
  case error => cases ha
  case ok    => exact ⟨_, rfl⟩

-- The package that a migration knows is that of the class, if the module has a name.
theorem makesClass_of_learned (hk : m.learned d = .ok k) (hs : s.generation.strict = false)
    (hsite : Generate.site s m.module = m.site) :
    (k.package = "" → (BuildFile.namespace? m.module).result d = .ok none) ∧
      (k.package ≠ "" → ∃ made, MakesClass s m.module d k.package made) := by
  have ⟨package, groups, hn, hg, ht, hp, _⟩ := learned_eq_ok hk
  rw [hp]
  cases package
  case none         => exact ⟨fun _ => hn, fun hp => absurd rfl hp⟩
  case some package =>
    refine ⟨fun hp => absurd hp (BuildFile.ne_empty_of_namespace? hn), fun _ => ?_⟩
    have hi := result_inputs s m.module d
    rw [hn, hsite] at hi
    dsimp only at hi
    rw [hg] at hi
    have ⟨made, hm⟩ := exists_generate ht (Text.shown s.generation.pluralLanguage) package
    exact ⟨made, makesClass_of_result hi (by rw [classOf, hs]; exact hm)⟩

-- What an import of the class in the text of a file is for: the class can be made and is of the
-- imported package, and no other import is added by later runs, whatever is edited in other lines.
structure Serves (m : Migration) (s : Settings) (d : Disk) (k : Knowledge) (isJava : Bool) (body text : List Char) :
    Prop where
  made : ∃ made, MakesClass s m.module d k.package made
  once : ∀ t events, Lives isJava body text t events → NoneAdded events

-- A line that is not read as an import does not keep the next run from adding one.
theorem GetsImport.added_again {line : Line} (h : GetsImport k text i line) (hi : import? body = none)
    (hb : OneLine body) (hne : body ≠ []) (isJava : Bool) (after : List Char) :
    ∃ t events, Lives isJava body after t events ∧ ¬NoneAdded events := by
  have hline : HasLine body ([] ++ body ++ '\n' :: text) :=
    hasLine_append (by simp [Ended]) hb hne (by simp [IsBreak])
  obtain ⟨j, line, h⟩ := h.cons hi hb hne
  obtain ⟨n, before, added, he⟩ : ∃ n before added,
      .imported n before added ∈ (revise k isJava (body ++ '\n' :: text)).events := imported_mem_iff.mpr ⟨j, line, h⟩
  exact ⟨_, _, .run k (.edit .refl hline), fun hn => hn n before added he⟩

-- A file that is read gets the text of its revision, which is the same if nothing is changed.
theorem migrateFile_revises (k : Knowledge) (ht : σ.disk.readRaw p = .ok text) : ∃ result σ',
    (migrateFile p).outcome k σ = (.ok result, k, σ') ∧ σ'.disk.readRaw p = .ok (revisionOf k p text).text ∧
      (result = none → (revisionOf k p text).changes = []) := by
  have ⟨log, ho⟩ := outcome_migrateFile p k σ
  rw [ht] at ho
  dsimp only at ho
  by_cases hc : (revisionOf k p text).changes = []
  case pos =>
    rw [if_pos hc] at ho
    exact ⟨_, _, ho, by rw [revisionOf, text_revise (changes_revise_iff.mp hc)]; exact ht, fun _ => hc⟩
  case neg =>
    have ⟨d, hw⟩ :=
      Disk.writeBytes_of_isFile (Utf8.encode (revisionOf k p text).text) σ.time (Disk.isFile_of_readRaw ht)
    rw [if_neg hc, hw] at ho
    exact ⟨_, _, ho, Disk.readRaw_of_readBytes (Disk.readBytes_of_writeBytes hw), nofun⟩

theorem changes_ne_nil_of_imported (he : .imported n before added ∈ (revisionOf k p text).events) :
    (revisionOf k p text).changes ≠ [] :=
  List.ne_nil_of_mem (List.mem_filterMap.mpr ⟨_, he, rfl⟩)

-- A run comes to a file with what it has learned, and adds an import to it. The import serves its
-- purpose exactly if the package can be imported. That of a module without a name cannot, and the
-- module has no class.
theorem added_import_serves_iff (hk : m.learned d = .ok k) (hs : s.generation.strict = false)
    (hsite : Generate.site s m.module = m.site) (ht : σ.disk.readRaw p = .ok text)
    (he : .imported n before added ∈ (revisionOf k p text).events) : ∃ changed σ' after like,
    let isJava := p.suffix = ".java".toList
    let body := accessorImport k isJava like
    (migrateFile p).outcome k σ = (.ok (some changed), k, σ') ∧ σ'.disk.readRaw p = .ok after ∧
      added = String.ofList (trim body) ∧
      (OneLine k.package.toList → HasLine body after ∧ (Serves m s d k isJava body after ↔ Importable k.package)) ∧
      (k.package = "" → ∀ σ output, σ.disk = d →
        ((Generate.run s m.module output).outcome σ).1 = .error (.noNamespace m.module)) := by
  have ⟨i, line, hg⟩ := imported_mem_iff.mp ⟨n, before, added, he⟩
  have ⟨result, σ', ho, hw, hr⟩ := migrateFile_revises k ht
  have ⟨changed, hr⟩ := Option.ne_none_iff_exists'.mp (mt hr (changes_ne_nil_of_imported he))
  subst hr
  have ⟨_, _, hadded⟩ := hg.imported_iff.mp he
  have ⟨hunnamed, hnamed⟩ := makesClass_of_learned hk hs hsite
  have hone (ho : OneLine k.package.toList) : OneLine (accessorImport k (p.suffix = ".java".toList) line.body) :=
    oneLine_accessorImport ho hg.mem hg.import?_ne_none
  refine ⟨changed, σ', _, line.body, ho, hw, hadded, fun ho => ⟨hg.hasLine ho, ?serves, fun hi => ⟨?made, ?once⟩⟩,
    fun hp σ output hd => ?unnamed⟩
  case serves =>
    intro hv
    by_contra hi
    have ⟨t, events, hl, hn⟩ := hg.added_again (import?_of_not_importable hi) (hone ho) accessorImport_ne_nil
      (p.suffix = ".java".toList) (revisionOf k p text).text
    exact hn (hv.once t events hl)
  case made    => exact hnamed fun hp => not_importable_empty (hp ▸ hi)
  case unnamed => exact outcome_run_of_unnamed (hd ▸ hunnamed hp)
  case once =>
    intro t events hl
    exact (noneAdded_of_lives (hg.hasLine ho) (import?_of_importable hi) (hone ho) hl).right

-- A module with one color and one source file, and what its build file says.
def importing : Migration where
  module   := ⟨.root, ["app"]⟩
  project  := ⟨.root, []⟩
  settings := { moduleRoot := ⟨.root, ["app"]⟩, generation := { strict := false } }

def importingFile : Path := ⟨.root, ["app", "src", "main", "A.kt"]⟩

def importingText : List Char :=
  "import b.R\ngetColor(R.color.c)".toList

def importingSession (build : String) : Session where
  disk :=
    { entries :=
        [(["app"], .dir), (["app", "build.gradle"], .file (Utf8.encode build.toList) 0), (["app", "src"], .dir),
         (["app", "src", "main"], .dir), (["app", "src", "main", "A.kt"], .file (Utf8.encode importingText) 0),
         (["app", "src", "main", "res"], .dir), (["app", "src", "main", "res", "values"], .dir),
         (["app", "src", "main", "res", "values", "colors.xml"],
          .file (Utf8.encode "<resources><color name=\"c\"/></resources>".toList) 0)] }

def importingKnowledge (package : String) : Knowledge where
  package := package
  owners  := [⟨"", package⟩]
  targets := [("R.color.c", ⟨.values .color, "c", ""⟩)]

theorem learned_importing :
    importing.learned (importingSession "namespace 'a'").disk = .ok (importingKnowledge "a") ∧
    importing.learned (importingSession "").disk = .ok (importingKnowledge "") := by
  decide +kernel

theorem named_import_serves : ∃ changed σ' after like,
    let d := (importingSession "namespace 'a'").disk
    let isJava := importingFile.suffix = ".java".toList
    let body := accessorImport (importingKnowledge "a") isJava like
    importing.learned d = .ok (importingKnowledge "a") ∧
    (migrateFile importingFile).outcome (importingKnowledge "a") (importingSession "namespace 'a'") =
      (.ok (some changed), importingKnowledge "a", σ') ∧
    σ'.disk.readRaw importingFile = .ok after ∧ "import a.ResourceManager" = String.ofList (trim body) ∧
    HasLine body after ∧ Serves importing importing.settings d (importingKnowledge "a") isJava body after := by
  have hr : (importingSession "namespace 'a'").disk.readRaw importingFile = .ok importingText := by decide +kernel
  have he : .imported 1 "import b.R" "import a.ResourceManager" ∈
      (revisionOf (importingKnowledge "a") importingFile importingText).events := by decide +kernel
  have hsite : Generate.site importing.settings importing.module = importing.site := rfl
  have ⟨changed, σ', after, like, ho, hw, ha, hs, _⟩ :=
    added_import_serves_iff learned_importing.left rfl hsite hr he
  have ⟨hl, hs⟩ := hs (by decide)
  have hi : Importable (importingKnowledge "a").package := ⟨List.all_eq_true.mp (by decide), by decide⟩
  exact ⟨changed, σ', after, like, learned_importing.left, ho, hw, ha, hl, hs.mpr hi⟩

-- The module has no class, and the import that is added for it is not read as one.
theorem unnamed_import_added_again :
    let d := (importingSession "").disk
    let added := "import .ResourceManager"
    let isJava := importingFile.suffix = ".java".toList
    let r := revisionOf (importingKnowledge "") importingFile importingText
    importing.learned d = .ok (importingKnowledge "") ∧ d.readRaw importingFile = .ok importingText ∧
    .imported 1 "import b.R" added ∈ r.events ∧
    (∃ t events, Lives isJava added.toList r.text t events ∧ ¬NoneAdded events) ∧
    ∀ output, ((Generate.run importing.settings importing.module output).outcome (importingSession "")).1 =
      .error (.noNamespace importing.module) := by
  have he : .imported 1 "import b.R" "import .ResourceManager" ∈
      (revisionOf (importingKnowledge "") importingFile importingText).events := by decide +kernel
  have hn : (BuildFile.namespace? importing.module).result (importingSession "").disk = .ok none := by decide +kernel
  have ⟨i, line, hg⟩ := imported_mem_iff.mp ⟨_, _, _, he⟩
  exact ⟨learned_importing.right, by decide +kernel, he,
    hg.added_again (by decide) (by decide) (by decide) _ _, fun output => outcome_run_of_unnamed hn⟩

end TypedResources.Migration
