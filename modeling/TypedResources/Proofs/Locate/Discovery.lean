import TypedResources.Proofs.BuildFile.Sources
import TypedResources.Proofs.Locate.Contribution
import TypedResources.Proofs.Redeclaration

-- Which resources are found. A module and those of its dependencies that have a name contribute in the
-- order of declaration, and nothing else does: what the build files of dependencies declare plays no part
-- (`discovery_exact`).

namespace TypedResources.Locate

open BuildFile (groovyFile kotlinFile manifestPath sources SameSources)
open Disk (Sound Refiled)

variable {d d' : Disk} {site : Site} {paths : List String} {module : Path} {package : Option String}
  {found : List (String × Option String)} {modules : List (Path × ModuleId)} {cs : List Contribution}
  {gs : List ResourceGroup} {modulePath : String} {e : Failure}

-- What the modules say of themselves.
structure Resolved (d : Disk) (site : Site) (package : Option String) (found : List (String × Option String)) :
    Prop where
  package      : (BuildFile.namespace? site.module).result d = .ok package
  dependencies : (BuildFile.dependencies site.module).result d = .ok (found.map Prod.fst)
  namespaces   : ∀ e ∈ found, (BuildFile.namespace? (dependencyDir site.project e.1)).result d = .ok e.2

-- The module itself, and the dependencies that have a name, with their directories.
def located (site : Site) (package : Option String) (found : List (String × Option String)) :
    List (Path × ModuleId) :=
  (site.module, ⟨"", package.getD ""⟩) :: found.filterMap located?
where
  located? (e : String × Option String) : Option (Path × ModuleId) :=
    e.2.map fun name => (dependencyDir site.project e.1, ⟨e.1, name⟩)

-- The groups of all modules, each with what it contributes.
def allGroups (modules : List (Path × ModuleId)) (cs : List Contribution) : List ResourceGroup :=
  (List.zipWith (fun e c => c.groups e.1 e.2) modules cs).flatten

theorem result_dependencyGroups : (dependencyGroups site modulePath).result d =
    (BuildFile.namespace? (dependencyDir site.project modulePath)).result d >>= fun
      | some package =>
        .ok (moduleGroups d site.drawablePrefix (dependencyDir site.project modulePath) ⟨modulePath, package⟩)
      | none         => .ok [] := by
  rw [dependencyGroups, Query.result_bind fun name => by
    cases name
    case none => exact (Query.steady_log _ _ _).bind fun _ => Query.steady_pure _
    case some => exact Query.steady_read.bind fun _ => Query.steady_pure _]
  refine congrArg _ (funext fun name => ?_)
  cases name <;> rfl

theorem result_groups : (groups site).result d = (do
    let package ← (BuildFile.namespace? site.module).result d
    let paths ← (BuildFile.dependencies site.module).result d
    let others ← paths.mapM fun modulePath => (dependencyGroups site modulePath).result d
    .ok (moduleGroups d site.drawablePrefix site.module ⟨"", package.getD ""⟩ ++ others.flatten)) := by
  rw [groups_eq, result_groupsWith BuildFile.steady_dependencies]

theorem mapM_dependencyGroups
    (h : ∀ e ∈ found, (BuildFile.namespace? (dependencyDir site.project e.1)).result d = .ok e.2) :
    ((found.map Prod.fst).mapM fun modulePath => (dependencyGroups site modulePath).result d) =
      .ok (found.map fun e =>
        (located.located? site e).toList.flatMap fun e => moduleGroups d site.drawablePrefix e.1 e.2) := by
  induction found
  case nil             => rfl
  case cons e found ih =>
    have ⟨he, hf⟩ := List.forall_mem_cons.mp h
    rw [List.map_cons, List.mapM_cons, ih hf, result_dependencyGroups, he, List.map_cons]
    rcases e with ⟨modulePath, _ | name⟩
    case none => rfl
    case some => rw [located.located?, Option.map_some, Option.toList_some, List.flatMap_singleton]; rfl

theorem Resolved.result (h : Resolved d site package found) : (groups site).result d =
    .ok ((located site package found).flatMap fun e => moduleGroups d site.drawablePrefix e.1 e.2) := by
  rw [result_groups, h.package, h.dependencies, ok_bind, ok_bind, mapM_dependencyGroups h.namespaces, ok_bind,
    located, List.flatMap_cons, List.filterMap_eq_flatMap_toList, List.flatMap_assoc, List.flatMap_def]

theorem exists_names
    (h : ∀ p ∈ paths, ∃ name, (BuildFile.namespace? (dependencyDir site.project p)).result d = .ok name) :
    ∃ found : List (String × Option String), found.map Prod.fst = paths ∧
      ∀ e ∈ found, (BuildFile.namespace? (dependencyDir site.project e.1)).result d = .ok e.2 := by
  induction paths
  case nil             => exact ⟨[], rfl, fun _ h => nomatch h⟩
  case cons p paths ih =>
    have ⟨⟨name, hp⟩, hr⟩ := List.forall_mem_cons.mp h
    obtain ⟨found, hf, hn⟩ := ih hr
    exact ⟨(p, name) :: found, by rw [List.map_cons, hf], List.forall_mem_cons.mpr ⟨hp, hn⟩⟩

theorem exists_resolved (h : (groups site).result d = .ok gs) : ∃ package found, Resolved d site package found := by
  rw [result_groups] at h
  cases hp : (BuildFile.namespace? site.module).result d
  case error      => rw [hp] at h; contradiction
  case ok package =>
    cases hd : (BuildFile.dependencies site.module).result d
    case error    => rw [hp, hd] at h; contradiction
    case ok paths =>
      rw [hp, hd, ok_bind, ok_bind] at h
      cases hm : paths.mapM fun modulePath => (dependencyGroups site modulePath).result d
      case error     => rw [hm] at h; contradiction
      case ok others =>
        have hn : ∀ p ∈ paths, ∃ name, (BuildFile.namespace? (dependencyDir site.project p)).result d = .ok name := by
          intro p hp
          obtain ⟨gs, hg⟩ := (mapM_eq_ok_iff.mp hm).left p hp
          rw [result_dependencyGroups] at hg
          cases hn : (BuildFile.namespace? (dependencyDir site.project p)).result d
          case error   => rw [hn] at hg; contradiction
          case ok name => exact ⟨name, rfl⟩
        obtain ⟨found, rfl, hf⟩ := exists_names hn
        exact ⟨package, found, hp, hd, hf⟩

theorem allGroups_eq (hd : d.Sound)
    (h : List.Forall₂ (fun e c => Contributes d site.drawablePrefix e.1 c) modules cs) :
    allGroups modules cs = modules.flatMap fun e => moduleGroups d site.drawablePrefix e.1 e.2 := by
  induction h
  case nil => rfl
  case cons e c modules cs hc _ ih =>
    rw [List.flatMap_cons, ← ih, hc.moduleGroups_eq hd]
    rfl

theorem exists_contributions (hd : d.Sound) (site : Site) (modules : List (Path × ModuleId)) :
    ∃ cs, List.Forall₂ (fun e c => Contributes d site.drawablePrefix e.1 c) modules cs := by
  have he (e : Path × ModuleId) := exists_contribution hd site.drawablePrefix e.1
  choose c hc using he
  refine ⟨modules.map c, ?_⟩
  rw [List.forall₂_map_right_iff, List.forall₂_same]
  exact fun e _ => (hc e).left

theorem groups_eq_ok_iff (hd : d.Sound) : (groups site).result d = .ok gs ↔ ∃ package found cs,
    Resolved d site package found ∧
    List.Forall₂ (fun e c => Contributes d site.drawablePrefix e.1 c) (located site package found) cs ∧
    allGroups (located site package found) cs = gs := by
  constructor
  case mp =>
    intro h
    obtain ⟨package, found, hr⟩ := exists_resolved h
    obtain ⟨cs, hc⟩ := exists_contributions hd site (located site package found)
    rw [hr.result, ← allGroups_eq hd hc] at h
    exact ⟨package, found, cs, hr, hc, Except.ok.inj h⟩
  case mpr =>
    rintro ⟨package, found, cs, hr, hc, rfl⟩
    rw [hr.result, allGroups_eq hd hc]

-- What keeps a module or one of its dependencies from saying what it is.
inductive Unresolved (d : Disk) (site : Site) (e : Failure) : Prop
  | package (h : (BuildFile.namespace? site.module).result d = .error e)
  | dependencies (h : (BuildFile.dependencies site.module).result d = .error e)
  | namespace {paths : List String} {modulePath : String}
      (hd : (BuildFile.dependencies site.module).result d = .ok paths) (hm : modulePath ∈ paths)
      (h : (BuildFile.namespace? (dependencyDir site.project modulePath)).result d = .error e)

theorem unresolved_of_groups (h : (groups site).result d = .error e) : Unresolved d site e := by
  rw [result_groups] at h
  cases hp : (BuildFile.namespace? site.module).result d <;> rw [hp] at h
  case error      => cases h; exact .package hp
  case ok package =>
    cases hd : (BuildFile.dependencies site.module).result d <;> rw [hd, ok_bind] at h
    case error    => cases h; exact .dependencies hd
    case ok paths =>
      rw [ok_bind] at h
      cases hm : paths.mapM fun modulePath => (dependencyGroups site modulePath).result d <;> rw [hm] at h
      case ok      => cases h
      case error f =>
        cases h
        obtain ⟨modulePath, hmem, he⟩ := exists_of_mapM_eq_error hm
        rw [result_dependencyGroups] at he
        cases hn : (BuildFile.namespace? (dependencyDir site.project modulePath)).result d <;> rw [hn] at he
        case error   => cases he; exact .namespace hd hmem hn
        case ok name => cases name <;> cases he

-- Where a build file of a dependency stands that is not the module itself.
def IsOtherBuildFile (d : Disk) (site : Site) (paths : List String) (k : Key) : Prop :=
  ∃ p ∈ paths, d.keyOf (dependencyDir site.project p) ≠ d.keyOf site.module ∧
    ∃ name ∈ [groovyFile, kotlinFile], k = d.keyOf (dependencyDir site.project p) ++ [name]

-- The disks differ in such build files only. Every dependency has the same name on both, and where a build
-- file lies among drawables, it is there on both.
structure Rebuilt (site : Site) (paths : List String) (d d' : Disk) : Prop
    extends Refiled (IsOtherBuildFile d site paths) d d' where
  namespaces : ∀ p ∈ paths, d.keyOf (dependencyDir site.project p) ≠ d.keyOf site.module →
    (BuildFile.namespace? (dependencyDir site.project p)).result d' =
      (BuildFile.namespace? (dependencyDir site.project p)).result d
  drawables  : ∀ dir ∈ site.module :: paths.map (dependencyDir site.project),
    ∀ drawables ∈ drawableDirs d site.drawablePrefix (dir / resourcePath), ∀ name,
      IsOtherBuildFile d site paths (d.keyOf drawables ++ [name]) →
        (d'.node? (d.keyOf drawables ++ [name])).isSome = (d.node? (d.keyOf drawables ++ [name])).isSome

-- Writing such a build file anew is a change of this sort, if it goes on giving the module its name.
theorem rebuilt_set_file {k : Key} {content content' : Bytes} {time time' : Int}
    (hk : IsOtherBuildFile d site paths k) (hn : d.node? k = some (.file content time))
    (hs : ∀ p ∈ paths, (BuildFile.namespace? (dependencyDir site.project p)).result (d.set k (.file content' time')) =
      (BuildFile.namespace? (dependencyDir site.project p)).result d) :
    Rebuilt site paths d (d.set k (.file content' time')) where
  toRefiled  := Disk.refiled_set_file hk (by simp [hn])
  namespaces := fun p hp _ => hs p hp
  drawables  := fun _ _ drawables _ name _ => by
    by_cases he : d.keyOf drawables ++ [name] = k
    case pos =>
      have hne : d.node? k ≠ some .dir := by simp [hn]
      rw [he, hn, Disk.node?_set_self (Disk.ne_nil_of_node? hne)]
      rfl
    case neg => rw [Disk.node?_set_of_ne he]

theorem hasExtension_of_isOtherBuildFile {k : Key} {name : String} (h : IsOtherBuildFile d site paths (k ++ [name])) :
    hasExtension ["xml"] ⟨.relative, [name]⟩ = false := by
  obtain ⟨p, -, -, buildFile, hb, he⟩ := h
  obtain ⟨-, hn⟩ := List.append_inj' he rfl
  cases hn
  have hall : ∀ name ∈ [groovyFile, kotlinFile], hasExtension ["xml"] ⟨.relative, [name]⟩ = false := by decide
  exact hall name hb

theorem keyOf_sources {p : Path} (h : p ∈ sources module) : (∃ name, d.keyOf p = d.keyOf module ++ [name]) ∨
    d.keyOf p = d.keyOf module ++ ["src", "main"] ++ ["AndroidManifest.xml"] := by
  simp only [sources, List.mem_cons, List.not_mem_nil, or_false] at h
  rcases h with rfl | rfl | rfl
  case inl     => exact .inl ⟨groovyFile, Disk.keyOf_child (by decide)⟩
  case inr.inl => exact .inl ⟨kotlinFile, Disk.keyOf_child (by decide)⟩
  case inr.inr =>
    have hb : module / manifestPath = module.below ["src", "main", "AndroidManifest.xml"] := rfl
    rw [hb, Disk.keyOf_below (by decide), List.append_assoc]
    exact .inr rfl

theorem not_isOtherBuildFile (h : d.keyOf module = d.keyOf site.module) {p : Path} (hp : p ∈ sources module) :
    ¬IsOtherBuildFile d site paths (d.keyOf p) := by
  rintro ⟨p', -, hk, name, hb, he⟩
  rcases keyOf_sources hp with ⟨name', hs⟩ | hs
  case inl =>
    rw [hs] at he
    exact hk ((List.append_inj' he rfl).left.symm.trans h)
  case inr =>
    rw [hs] at he
    have hn := List.singleton_inj.mp (List.append_inj' he rfl).right
    have hall : "AndroidManifest.xml" ∉ [groovyFile, kotlinFile] := by decide
    exact hall (hn ▸ hb)

theorem sameSources_of_refiled {s : Key → Prop} (h : Refiled s d d') (hs : ∀ p ∈ sources module, ¬s (d.keyOf p)) :
    SameSources module d d' where
  has       := fun p hp => h.has_eq (hs p hp)
  readBytes := fun p hp => h.readBytes_eq (hs p hp)

theorem Rebuilt.groups_eq (h : Rebuilt site paths d d') (hd : d.Sound) (hd' : d'.Sound)
    (hp : (BuildFile.dependencies site.module).result d = .ok paths) :
    (groups site).result d' = (groups site).result d := by
  have hm : SameSources site.module d d' := sameSources_of_refiled h.toRefiled fun p => not_isOtherBuildFile rfl
  have hn : ∀ p ∈ paths, (BuildFile.namespace? (dependencyDir site.project p)).result d' =
      (BuildFile.namespace? (dependencyDir site.project p)).result d := by
    intro p hp
    by_cases hk : d.keyOf (dependencyDir site.project p) = d.keyOf site.module
    case neg => exact h.namespaces p hp hk
    case pos => exact (sameSources_of_refiled h.toRefiled fun p => not_isOtherBuildFile hk).namespace?_eq
  have hg (dir : Path) (hdir : dir ∈ site.module :: paths.map (dependencyDir site.project)) (owner : ModuleId) :
      moduleGroups d' site.drawablePrefix dir owner = moduleGroups d site.drawablePrefix dir owner :=
    moduleGroups_congr h.toRefiled hd hd' (fun _ _ => hasExtension_of_isOtherBuildFile) (h.drawables dir hdir) owner
  have ho : (paths.mapM fun p => (dependencyGroups site p).result d') =
      paths.mapM fun p => (dependencyGroups site p).result d := by
    refine mapM_congr fun p hp => ?_
    rw [result_dependencyGroups, result_dependencyGroups, hn p hp]
    refine congrArg _ (funext fun name => ?_)
    cases name
    case none => rfl
    case some => exact congrArg Except.ok (hg _ (List.mem_cons_of_mem _ (List.mem_map_of_mem hp)) _)
  rw [result_groups, result_groups, hm.namespace?_eq, hm.dependencies_eq, hp]
  refine congrArg _ (funext fun package => ?_)
  rw [ok_bind, ok_bind, ho, hg site.module List.mem_cons_self]

theorem discovery_exact (hd : d.Sound) (site : Site) :
    (∀ e, (groups site).result d = .error e → Unresolved d site e) ∧
    (∀ gs, (groups site).result d = .ok gs ↔ ∃ package found cs,
      Resolved d site package found ∧
      List.Forall₂ (fun e c => Contributes d site.drawablePrefix e.1 c) (located site package found) cs ∧
      allGroups (located site package found) cs = gs) ∧
    ∀ d' paths, d'.Sound → (BuildFile.dependencies site.module).result d = .ok paths → Rebuilt site paths d d' →
      (groups site).result d' = (groups site).result d :=
  ⟨fun _ => unresolved_of_groups, fun _ => groups_eq_ok_iff hd, fun _ _ hd' hp hb => hb.groups_eq hd hd' hp⟩

def appSite : Site where
  project := ⟨.root, []⟩
  module  := ⟨.root, ["app"]⟩

def libDisk (buildText : String) : Disk where
  entries :=
    [(["lib", "src", "main", "res", "values", "b.xml"], .file [] 0), (["app"], .dir),
     (["app", "build.gradle"], .file (Text.Utf8.encode "namespace 'a'\napi project(':lib')".toList) 0), (["lib"], .dir),
     (["lib", "build.gradle"], .file (Text.Utf8.encode buildText.toList) 0), (["lib", "src"], .dir),
     (["lib", "src", "main"], .dir), (["lib", "src", "main", "res"], .dir),
     (["lib", "src", "main", "res", "values"], .dir), (["lib", "src", "main", "res", "values", "a.xml"], .file [] 0),
     (["lib", "src", "main", "res", "drawable-hdpi"], .dir),
     (["lib", "src", "main", "res", "drawable-hdpi", "x.9.png"], .file [] 0)]

-- What the dependency depends on is not looked for.
theorem lib_resources_found : (libDisk "namespace 'l'").Sound ∧
    (groups appSite).result (libDisk "namespace 'l'") =
      .ok [⟨.values, ⟨"", "a"⟩, []⟩,
        ⟨.values, ⟨"lib", "l"⟩,
          [⟨.root, ["lib", "src", "main", "res", "values", "a.xml"]⟩,
           ⟨.root, ["lib", "src", "main", "res", "values", "b.xml"]⟩]⟩,
        ⟨.drawables, ⟨"lib", "l"⟩, [⟨.root, ["lib", "src", "main", "res", "drawable-hdpi", "x.9.png"]⟩]⟩] ∧
    (groups appSite).result
        ((libDisk "namespace 'l'").set ["lib", "build.gradle"]
          (.file (Text.Utf8.encode "namespace 'l'\napi project(':app')".toList) 1)) =
      (groups appSite).result (libDisk "namespace 'l'") := by
  have hd : (libDisk "namespace 'l'").Sound := by decide +kernel
  have hp : (BuildFile.dependencies appSite.module).result (libDisk "namespace 'l'") = .ok ["lib"] := by decide +kernel
  have hk : IsOtherBuildFile (libDisk "namespace 'l'") appSite ["lib"] ["lib", "build.gradle"] :=
    ⟨"lib", by decide, by decide, groovyFile, by decide, by decide⟩
  have hn : (libDisk "namespace 'l'").node? ["lib", "build.gradle"] =
      some (.file (Text.Utf8.encode "namespace 'l'".toList) 0) := rfl
  obtain ⟨-, -, hr⟩ := discovery_exact hd appSite
  exact ⟨hd, by decide +kernel, hr _ ["lib"] (hd.set (by decide)) hp (rebuilt_set_file hk hn (by decide +kernel))⟩

-- The dependency is a drawable directory of the module, and it has its name from its manifest.
def nestedDisk : Disk where
  entries :=
    [(["app"], .dir), (["app", "src"], .dir), (["app", "src", "main"], .dir), (["app", "src", "main", "res"], .dir),
     (["app", "src", "main", "res", "drawable"], .dir), (["app", "src", "main", "res", "drawable", "src"], .dir),
     (["app", "src", "main", "res", "drawable", "src", "main"], .dir),
     (["app", "src", "main", "res", "drawable", "src", "main", "AndroidManifest.xml"],
      .file (Text.Utf8.encode "<manifest package='n'/>".toList) 0),
     (["app", "build.gradle"],
      .file (Text.Utf8.encode "namespace 'a'\napi project(':app:src:main:res:drawable')".toList) 0)]

def nestedBuildFile : Key :=
  ["app", "src", "main", "res", "drawable", groovyFile]

def nestedWithBuildFile : Disk :=
  nestedDisk.set nestedBuildFile (.file (Text.Utf8.encode "namespace 'n'".toList) 0)

-- By its base name a build file counts as a drawable.
theorem nested_build_file_found :
    let paths := ["app:src:main:res:drawable"]
    Refiled (IsOtherBuildFile nestedDisk appSite paths) nestedDisk nestedWithBuildFile ∧
    (BuildFile.dependencies appSite.module).result nestedDisk = .ok paths ∧
    (∀ p ∈ paths, (BuildFile.namespace? (dependencyDir appSite.project p)).result nestedWithBuildFile =
      (BuildFile.namespace? (dependencyDir appSite.project p)).result nestedDisk) ∧
    (groups appSite).result nestedWithBuildFile ≠ (groups appSite).result nestedDisk := by
  intro paths
  have hk : IsOtherBuildFile nestedDisk appSite paths nestedBuildFile :=
    ⟨"app:src:main:res:drawable", by decide, by decide, groovyFile, by decide, by decide⟩
  exact ⟨Disk.refiled_set_file hk (by decide), by decide +kernel, by decide +kernel, by decide +kernel⟩

end TypedResources.Locate
