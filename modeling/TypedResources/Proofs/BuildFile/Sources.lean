import TypedResources.Proofs.BuildFile.Resolution

-- What a module says of itself is read from its own files, so that its name and its dependencies are the
-- same on all disks that have those files alike (`SameSources`).

namespace TypedResources.BuildFile

variable {d d' : Disk} {module p : Path}

-- The files that tell of a module are the same on both disks.
structure SameSources (module : Path) (d d' : Disk) : Prop where
  has       : ∀ p ∈ sources module, d'.has p = d.has p
  readBytes : ∀ p ∈ sources module, d.has p → d'.readBytes p = d.readBytes p

namespace SameSources

theorem path_eq (h : SameSources module d d') : path d' module = path d module := by
  rw [path, path, h.has _ (by simp [sources])]

theorem has_path (h : SameSources module d d') : d'.has (path d module) = d.has (path d module) :=
  h.has _ path_mem_sources

theorem codeLines_eq (h : SameSources module d d') (hh : d.has (path d module)) :
    codeLines d' (path d module) = codeLines d (path d module) := by
  rw [codeLines, codeLines, h.readBytes _ path_mem_sources hh]

theorem fromBuildFile (h : SameSources module d d') :
    (namespaceFromBuildFile module).result d' = (namespaceFromBuildFile module).result d := by
  rw [result_namespaceFromBuildFile, result_namespaceFromBuildFile, h.path_eq, h.has_path]
  split
  case isTrue hh => rw [h.codeLines_eq hh]
  case isFalse   => rfl

theorem fromManifest (h : SameSources module d d') :
    (namespaceFromManifest module).result d' = (namespaceFromManifest module).result d := by
  have hm : module / manifestPath ∈ sources module := by simp [sources]
  rw [result_namespaceFromManifest, result_namespaceFromManifest, h.has _ hm]
  split
  case isTrue hh => rw [h.readBytes _ hm hh]
  case isFalse   => rfl

theorem namespace?_eq (h : SameSources module d d') : (namespace? module).result d' = (namespace? module).result d := by
  rw [result_namespace?, result_namespace?, h.fromBuildFile, h.fromManifest]

theorem dependencies_eq (h : SameSources module d d') :
    (dependencies module).result d' = (dependencies module).result d := by
  rw [result_dependencies, result_dependencies, h.path_eq, h.has_path]
  split
  case isTrue hh => rw [h.codeLines_eq hh]
  case isFalse   => rfl

end SameSources

end TypedResources.BuildFile
