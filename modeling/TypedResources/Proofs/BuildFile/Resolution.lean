import TypedResources.Proofs.BuildFile.Dependencies
import TypedResources.Proofs.CommandLine.Failures
import TypedResources.Proofs.Generate.Package
import TypedResources.Proofs.Xml.Encoding

-- What a module's files may hold. Its dependencies are found whatever the bytes are, and so is its name,
-- unless the build file gives none and the manifest is in an encoding that is refused
-- (`resolution_returns_iff`).

namespace TypedResources.BuildFile

variable {d : Disk} {module p : Path} {bytes : Bytes} {name : List Char} {reason : Xml.Unreadable}

-- The files that tell of a module.
def sources (module : Path) : List Path :=
  [module.child groovyFile, module.child kotlinFile, module / manifestPath]

-- The name in the build file, if there is one.
def buildName? (d : Disk) (module : Path) : Option String :=
  match d.readBytes (path d module) with
  | .ok bytes => (codeOf bytes).findSome? (found? namespacePattern)
  | .error _  => none

-- The manifest is needed for the name, and its declaration names an encoding that is refused.
structure Refused (d : Disk) (module : Path) (reason : Xml.Unreadable) (name : List Char) : Prop where
  unnamed  : buildName? d module = none
  encoding : ∃ bytes, d.readBytes (module / manifestPath) = .ok bytes ∧ Xml.encodingName? bytes = some name
  refused  : Xml.refusal? name = some reason

theorem path_mem_sources : path d module ∈ sources module := by
  unfold path
  split <;> simp [sources]

-- What stands at the path and is no directory can be read.
theorem exists_readBytes (hd : ¬d.isDir p) (hh : d.has p) : ∃ bytes, d.readBytes p = .ok bytes := by
  cases hr : d.readBytes p
  case error    => exact absurd (isDir_of_readBytes hh hr) hd
  case ok bytes => exact ⟨bytes, rfl⟩

theorem result_buildName? (h : ¬d.isDir (path d module)) :
    (namespaceFromBuildFile module).result d = .ok (buildName? d module) := by
  rw [result_namespaceFromBuildFile, buildName?]
  cases hr : d.readBytes (path d module)
  case error    => rw [if_neg fun hh => h (isDir_of_readBytes hh hr)]
  case ok bytes =>
    rw [if_pos (has_of_readBytes hr), codeLines_of_readBytes hr]
    rfl

theorem result_packageIn? (h : d.readBytes (module / manifestPath) = .ok bytes) :
    (namespaceFromManifest module).result d = packageIn? bytes := by
  rw [result_namespaceFromManifest, if_pos (has_of_readBytes h), h]
  rfl

theorem exists_result_of_manifest (hd : ¬d.isDir (module / manifestPath))
    (h : ∀ bytes name, d.readBytes (module / manifestPath) = .ok bytes → Xml.encodingName? bytes = some name →
      Xml.refusal? name = none) : ∃ name, (namespaceFromManifest module).result d = .ok name := by
  by_cases hh : d.has (module / manifestPath)
  case neg =>
    rw [result_namespaceFromManifest, if_neg hh]
    exact ⟨none, rfl⟩
  case pos =>
    obtain ⟨bytes, hr⟩ := exists_readBytes hd hh
    rw [result_packageIn? hr, packageIn?]
    cases hp : Xml.parse bytes
    case ok      => exact ⟨_, rfl⟩
    case error f =>
      obtain ⟨fault, rfl⟩ := Xml.onlyMalformed_parse (h bytes · hr) f hp
      exact ⟨none, rfl⟩

theorem result_of_refusal? (hr : d.readBytes (module / manifestPath) = .ok bytes)
    (hn : Xml.encodingName? bytes = some name) (h : Xml.refusal? name = some reason) :
    (namespaceFromManifest module).result d = .error (.unreadableEncoding reason (String.ofList name)) := by
  rw [result_packageIn? hr, packageIn?, Xml.parse_of_refusal? hn h]

theorem exists_dependencies (h : ¬d.isDir (path d module)) : ∃ paths, (dependencies module).result d = .ok paths := by
  by_cases hh : d.has (path d module)
  case neg =>
    rw [result_dependencies, if_neg hh]
    exact ⟨[], rfl⟩
  case pos =>
    obtain ⟨bytes, hr⟩ := exists_readBytes h hh
    exact ⟨_, result_dependencies_of_readBytes hr⟩

theorem result_namespace?_of_buildName? (h : ¬d.isDir (path d module)) : (namespace? module).result d =
    match buildName? d module with
    | some name => .ok (some name)
    | none      => (namespaceFromManifest module).result d := by
  rw [result_namespace?, result_buildName? h]
  cases buildName? d module <;> rfl

theorem resolution_returns_iff (h : ∀ p ∈ sources module, ¬d.isDir p) :
    (∃ paths, (dependencies module).result d = .ok paths) ∧
    ((∃ name, (namespace? module).result d = .ok name ∧ name ≠ some "") ↔
      ¬∃ reason name, Refused d module reason name) ∧
    ∀ reason name, Refused d module reason name →
      (namespace? module).result d = .error (.unreadableEncoding reason (String.ofList name)) := by
  have hp : ¬d.isDir (path d module) := h _ path_mem_sources
  have hm : ¬d.isDir (module / manifestPath) := h _ (by simp [sources])
  have hrefused : ∀ reason name, Refused d module reason name →
      (namespace? module).result d = .error (.unreadableEncoding reason (String.ofList name)) := by
    rintro reason name ⟨hu, ⟨bytes, hr, hn⟩, hi⟩
    rw [result_namespace?_of_buildName? hp, hu]
    exact result_of_refusal? hr hn hi
  refine ⟨exists_dependencies hp, ⟨?mp, ?mpr⟩, hrefused⟩
  case mp =>
    rintro ⟨found, hf, -⟩ ⟨reason, name, hr⟩
    cases (hrefused reason name hr).symm.trans hf
  case mpr =>
    intro hno
    have hex : ∃ found, (namespace? module).result d = .ok found := by
      rw [result_namespace?_of_buildName? hp]
      cases hu : buildName? d module
      case some name => exact ⟨some name, rfl⟩
      case none =>
        refine exists_result_of_manifest hm fun bytes name hr hn => ?_
        exact Option.eq_none_iff_forall_ne_some.mpr fun reason hi => hno ⟨reason, name, hu, ⟨bytes, hr, hn⟩, hi⟩
    obtain ⟨found, hf⟩ := hex
    exact ⟨found, hf, fun he => ne_empty_of_namespace? (he ▸ hf) rfl⟩

def manifestDisk (build manifest : Bytes) : Disk where
  entries :=
    [(["app"], .dir), (["app", "build.gradle"], .file build 0), (["app", "src"], .dir), (["app", "src", "main"], .dir),
     (["app", "src", "main", "AndroidManifest.xml"], .file manifest 0)]

-- Neither file is a text.
def brokenModule : Disk :=
  manifestDisk [0xFF, 0x2F, 0x2A] [0x3C, 0xFF]

theorem broken_module_resolved : (∃ paths, (dependencies moduleDir).result brokenModule = .ok paths) ∧
    ∃ name, (namespace? moduleDir).result brokenModule = .ok name ∧ name ≠ some "" := by
  have h : ∀ p ∈ sources moduleDir, ¬brokenModule.isDir p := by decide +kernel
  obtain ⟨hd, hn, -⟩ := resolution_returns_iff h
  refine ⟨hd, hn.mpr ?_⟩
  rintro ⟨reason, name, -, ⟨bytes, hr, he⟩, -⟩
  have hb : brokenModule.readBytes (moduleDir / manifestPath) = .ok [0x3C, 0xFF] := by decide +kernel
  cases hb.symm.trans hr
  have hno : Xml.encodingName? [0x3C, 0xFF] = none := by decide +kernel
  cases hno.symm.trans he

def klingonModule : Disk :=
  manifestDisk [] (Text.Utf8.encode
    "<?xml version=\"1.0\" encoding=\"klingon\"?><manifest package=\"com.example.app\"/>".toList)

-- Nothing catches the failure for an encoding that nobody knows.
theorem klingon_manifest_fails : (∀ p ∈ sources moduleDir, ¬klingonModule.isDir p) ∧
    (namespace? moduleDir).result klingonModule = .error (.unreadableEncoding .unknown "klingon") := by
  decide +kernel

end TypedResources.BuildFile
