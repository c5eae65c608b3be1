import TypedResources.Proofs.Locate
import TypedResources.Proofs.Migration.Targets
import TypedResources.Proofs.Repetition

-- Dependencies that are declared again. Their groups repeat groups that stand before them, so that their
-- entries and drawables lose every accessor to equal ones, and their targets are known already. A class
-- and the targets of a migration are thus what they are without the repetitions
-- (`redeclared_dependencies_unseen`).

namespace TypedResources

variable {d : Disk} {gs gs' : List ResourceGroup} {entries entries' : List Entry} {assets assets' : List Drawable}

namespace ClassFile

theorem alike_documents (h : Alike gs gs') : Alike (documents gs) (documents gs') :=
  (h.filter _).flatMap _

theorem alike_drawables (h : Alike gs gs') : Alike (drawables gs) (drawables gs') :=
  (h.filter _).flatMap _

theorem entriesOf_eq (kind : Kind) (entries : List Entry) :
    entriesOf kind entries = sortByName (·.value.name) (entries.filter (·.value.kind = kind)) :=
  rfl

theorem alike_entriesOf (kind : Kind) (h : Alike entries entries') :
    Alike (entriesOf kind entries) (entriesOf kind entries') := by
  rw [entriesOf_eq, entriesOf_eq]
  exact (h.filter _).sortByName _

theorem emitted_eq (kind : Kind) (h : Alike entries entries') : emitted kind entries = emitted kind entries' :=
  (alike_entriesOf kind h).firsts_eq

theorem emittedDrawables_eq (h : Alike assets assets') : emittedDrawables assets = emittedDrawables assets' :=
  (h.sortByName Drawable.name).firsts_eq

theorem occurringKinds_eq (h : Alike entries entries') : occurringKinds entries = occurringKinds entries' := by
  refine List.filter_congr fun k _ => Bool.eq_iff_iff.mpr ?_
  simp only [List.any_eq_true, h.mem_iff]

theorem isEmpty_eq (h : Alike assets assets') : assets.isEmpty = assets'.isEmpty := by
  refine Bool.eq_iff_iff.mpr ?_
  simp only [List.isEmpty_iff, List.eq_nil_iff_forall_not_mem, h.mem_iff]

theorem render_eq (package : String) (he : Alike entries entries') (ha : Alike assets assets') :
    render package entries assets = render package entries' assets' := by
  have hv : valueParts entries = valueParts entries' := by
    rw [valueParts, occurringKinds_eq he]
    exact List.map_congr_left fun k _ => by rw [emitted_eq k he]
  have hd : drawableParts assets = drawableParts assets' := by
    rw [drawableParts, isEmpty_eq ha, emittedDrawables_eq ha]
    rfl
  rw [render, hv, hd]
  rfl

theorem content_generate_eq (options : Options) (package : String) (h : Alike gs gs') :
    ((generate options package gs).result d).map content =
      ((generate options package gs').result d).map content := by
  have hd := alike_documents h
  rw [result_generate, result_generate, result_readEntries_eq, result_readEntries_eq, hd.findSome?_eq]
  cases (documents gs').findSome? fun doc => failureAt? options.strict d doc.2
  case some => simp only [Except.map]
  case none =>
    have he := hd.flatMap fun doc => (valuesAt d doc.2).map fun v => (⟨doc.1, v⟩ : Entry)
    exact congrArg Except.ok (render_eq package he (alike_drawables h))

end ClassFile

theorem Migration.result_targets_eq (h : Alike gs gs') :
    (targets gs).result d = (targets gs').result d := by
  rw [result_targets, result_targets]
  refine (h.mapM fun g => (groupTargets g).result d).congr (F := fun r => r.map fun found => found.flatten.eraseDups)
    fun found found' h => ?_
  have he : found.flatten.eraseDups = found'.flatten.eraseDups := h.flatten
  exact congrArg Except.ok he

namespace Locate

variable {site : Site} {declared : Query (List String)}

-- The groups of a module with the dependencies that some query finds.
def groupsWith (site : Site) (declared : Query (List String)) : Query (List ResourceGroup) := do
  let package := (← BuildFile.namespace? site.module).getD ""
  let own := moduleGroups (← read) site.drawablePrefix site.module ⟨"", package⟩
  let others ← (← declared).mapM (dependencyGroups site)
  let all := own ++ others.flatten
  Query.log .debug .locator
    ("Located " ++ toString all.length ++ " resource groups for " ++ site.module.toString)
  return all

theorem groups_eq (site : Site) : groups site = groupsWith site (BuildFile.dependencies site.module) :=
  rfl

theorem result_groupsWith (hs : declared.Steady) : (groupsWith site declared).result d = (do
    let package ← (BuildFile.namespace? site.module).result d
    let paths ← declared.result d
    let others ← paths.mapM fun modulePath => (dependencyGroups site modulePath).result d
    .ok (moduleGroups d site.drawablePrefix site.module ⟨"", package.getD ""⟩ ++ others.flatten)) := by
  have hlog {message : String} {all : List ResourceGroup} :
      Query.Steady (do Query.log .debug .locator message; return all) :=
    (Query.steady_log _ _ _).bind fun _ => Query.steady_pure _
  have hothers (paths : List String) : Query.Steady (paths.mapM (dependencyGroups site)) :=
    Query.steady_mapM paths fun _ _ => steady_dependencyGroups
  rw [groupsWith, Query.result_bind fun _ => Query.steady_read.bind fun _ => hs.bind fun _ =>
    (hothers _).bind fun _ => hlog]
  congr 1
  funext package
  rw [Query.result_read_bind, Query.result_bind fun _ => (hothers _).bind fun _ => hlog]
  congr 1
  funext paths
  rw [Query.result_bind fun _ => hlog, Query.result_mapM paths fun _ _ => steady_dependencyGroups]
  rfl

theorem result_eraseDups : (List.eraseDups <$> declared).result d = (declared.result d).map List.eraseDups := by
  rw [← bind_pure_comp, Query.result_bind fun _ => Query.steady_pure _]
  cases declared.result d <;> rfl

-- Each dependency has the same groups wherever it is declared.
theorem alike_groupsWith (hs : declared.Steady) :
    AlikeResults ((groupsWith site declared).result d) ((groupsWith site (List.eraseDups <$> declared)).result d) := by
  rw [result_groupsWith hs, result_groupsWith hs.map, result_eraseDups]
  cases (BuildFile.namespace? site.module).result d
  case error f    => exact .error f
  case ok package =>
    cases declared.result d
    case error f  => exact .error f
    case ok paths =>
      have hf := (alike_eraseDups paths).mapM fun modulePath => (dependencyGroups site modulePath).result d
      exact hf.bind fun _ _ h => .ok (h.flatten.append_left _)

-- A class and the targets of a migration do not tell whether a dependency is declared once or again.
theorem redeclared_dependencies_unseen (site : Site) (options : ClassFile.Options) (package : String) (d : Disk) :
    let distinct := List.eraseDups <$> BuildFile.dependencies site.module
    ((groups site >>= ClassFile.generate options package).result d).map ClassFile.content =
        ((groupsWith site distinct >>= ClassFile.generate options package).result d).map ClassFile.content ∧
      (groups site >>= Migration.targets).result d = (groupsWith site distinct >>= Migration.targets).result d := by
  intro distinct
  have h : AlikeResults ((groups site).result d) ((groupsWith site distinct).result d) := by
    rw [groups_eq]
    exact alike_groupsWith BuildFile.steady_dependencies
  have hg := ClassFile.steady_generate options package
  rw [Query.result_bind hg, Query.result_bind hg, Query.result_bind Migration.steady_targets,
    Query.result_bind Migration.steady_targets]
  constructor
  case left =>
    exact h.congr (F := fun r => (r >>= fun gs => (ClassFile.generate options package gs).result d).map ClassFile.content)
      fun _ _ h => ClassFile.content_generate_eq options package h
  case right =>
    exact h.congr (F := fun r => r >>= fun gs => (Migration.targets gs).result d)
      fun _ _ h => Migration.result_targets_eq h

end Locate

end TypedResources
