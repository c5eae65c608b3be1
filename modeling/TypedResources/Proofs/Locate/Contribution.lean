import TypedResources.Locate
import TypedResources.Proofs.Disk.Refiling

-- What one module contributes: its value documents as one group, and each of its drawable directories as
-- one more. The names that lead to the files tell all of it (`Contributes`), and disks on which the names
-- are the same give the same groups (`moduleGroups_congr`).

namespace TypedResources

open Disk (IsName Sound Refiled)

variable {d d' : Disk} {p root res dir : Path} {names names' : List String} {P : String → Prop} {q : Path → Bool}
  {drawablePrefix name : String} {s : Key → Prop}

-- The names that have a property, by ascending name.
structure Lists (names : List String) (P : String → Prop) : Prop where
  ascending : names.Pairwise (· < ·)
  mem       : ∀ name, name ∈ names ↔ P name

theorem Lists.unique (h : Lists names P) (h' : Lists names' P) : names = names' :=
  List.Pairwise.eq_of_mem_iff h.ascending h'.ascending fun name => (h.mem name).trans (h'.mem name).symm

theorem Path.name_child : (p.child name).name = name :=
  Path.name_below (List.cons_ne_nil name [])

theorem hasExtension_child {extensions : List String} :
    hasExtension extensions (p.child name) = hasExtension extensions ⟨.relative, [name]⟩ := by
  have hn : (⟨.relative, [name]⟩ : Path).name = name := rfl
  rw [hasExtension, hasExtension, Path.suffix, Path.suffix, Path.name_child, hn]

theorem isResourceFile_child : isResourceFile (p.child name) = isResourceFile ⟨.relative, [name]⟩ := by
  have hn : (⟨.relative, [name]⟩ : Path).name = name := rfl
  rw [isResourceFile, isResourceFile, resourceBaseName, resourceBaseName, Path.name_child, hn]

-- No excluded file is a value document, and none is a drawable.
theorem not_excluded_of_hasExtension (h : hasExtension ["xml"] (p.child name)) : name ∉ excludedFiles := by
  rw [hasExtension_child] at h
  intro hx
  have hall : ∀ name ∈ excludedFiles, hasExtension ["xml"] ⟨.relative, [name]⟩ = false := by decide
  rw [hall name hx] at h
  contradiction

theorem not_excluded_of_isResourceFile (h : isResourceFile (p.child name)) : name ∉ excludedFiles := by
  rw [isResourceFile_child] at h
  intro hx
  have hall : ∀ name ∈ excludedFiles, isResourceFile ⟨.relative, [name]⟩ = false := by decide
  rw [hall name hx] at h
  contradiction

theorem eq_of_map_fst {α β : Type} {l l' : List (α × β)} (h : l.map Prod.fst = l'.map Prod.fst)
    (hs : ∀ e ∈ l, ∀ e' ∈ l', e.1 = e'.1 → e.2 = e'.2) : l = l' := by
  induction l generalizing l'
  case nil => exact (List.map_eq_nil_iff.mp h.symm).symm
  case cons e l ih =>
    cases l'
    case nil => contradiction
    case cons e' l' =>
      obtain ⟨hfst, ht⟩ := List.cons.inj h
      have he : e = e' := Prod.ext hfst (hs e List.mem_cons_self e' List.mem_cons_self hfst)
      have hl : l = l' := ih ht fun a ha a' ha' =>
        hs a (List.mem_cons_of_mem e ha) a' (List.mem_cons_of_mem e' ha')
      rw [he, hl]

namespace Locate

theorem exists_filesIn (hd : d.Sound) (root : Path) (hq : ∀ name, q (root.child name) → name ∉ excludedFiles) :
    ∃ names, d.filesIn q root = names.map root.child ∧
      Lists names fun name => IsName name ∧ d.isFile (root.child name) ∧ q (root.child name) := by
  have ⟨names, hf, hp, hm⟩ := hd.exists_filesIn q root
  refine ⟨names, hf, hp, fun name => ?_⟩
  rw [hm, Disk.listed_singleton_iff]
  exact ⟨fun ⟨hn, hf, _, hq⟩ => ⟨hn, hf, hq⟩, fun ⟨hn, hf, h⟩ => ⟨hn, hf, hq name h, h⟩⟩

theorem drawableDirs_eq (h : d.isDir res) : drawableDirs d drawablePrefix res =
    (d.dirNames (fun name => drawablePrefix.toList.isPrefixOf name.toList) res).map res.child := by
  rw [drawableDirs, if_pos h, Disk.dirNames, List.map_filterMap]
  refine List.filterMap_congr fun e _ => ?_
  rcases e with ⟨name, _ | _⟩
  case file => rfl
  case dir  => dsimp only; split <;> rfl

theorem exists_drawableDirs (hd : d.Sound) (drawablePrefix : String) (res : Path) :
    ∃ names, drawableDirs d drawablePrefix res = names.map res.child ∧
      Lists names fun name => IsName name ∧ d.isDir (res.child name) ∧ drawablePrefix.toList <+: name.toList := by
  by_cases h : d.isDir res
  case pos =>
    refine ⟨_, drawableDirs_eq h, hd.pairwise_dirNames, fun name => ?_⟩
    rw [hd.mem_dirNames_iff h, List.isPrefixOf_iff_prefix]
  case neg =>
    refine ⟨[], by rw [drawableDirs, if_neg h]; rfl, .nil, fun name => ?_⟩
    refine ⟨(nomatch ·), fun ⟨hname, hn, _⟩ => absurd ?_ h⟩
    have hs : d.stat (res.below [name]) = .ok .dir := Disk.isDir_iff_stat.mp hn
    exact Disk.isDir_of_stat_below hname.noParent hs

-- The names of a module's value documents, and of its drawable directories with the files in them.
structure Contribution where
  documents : List String
  drawables : List (String × List String)

def Contribution.groups (c : Contribution) (dir : Path) (owner : ModuleId) : List ResourceGroup :=
  let res := dir / resourcePath
  ⟨.values, owner, c.documents.map (res.child "values").child⟩ ::
    c.drawables.map fun e => ⟨.drawables, owner, e.2.map (res.child e.1).child⟩

-- The names are those of all that the module has to contribute.
structure Contributes (d : Disk) (drawablePrefix : String) (dir : Path) (c : Contribution) : Prop where
  documents : Lists c.documents fun name =>
    let document := ((dir / resourcePath).child "values").child name
    IsName name ∧ d.isFile document ∧ hasExtension ["xml"] document
  drawables : Lists (c.drawables.map Prod.fst) fun name =>
    IsName name ∧ d.isDir ((dir / resourcePath).child name) ∧ drawablePrefix.toList <+: name.toList
  assets    : ∀ e ∈ c.drawables, Lists e.2 fun name =>
    let asset := ((dir / resourcePath).child e.1).child name
    IsName name ∧ d.isFile asset ∧ isResourceFile asset

theorem exists_contribution (hd : d.Sound) (drawablePrefix : String) (dir : Path) :
    ∃ c, Contributes d drawablePrefix dir c ∧
      ∀ owner, moduleGroups d drawablePrefix dir owner = c.groups dir owner := by
  have ⟨documents, hf, hl⟩ := exists_filesIn hd ((dir / resourcePath).child "values")
    fun _ => not_excluded_of_hasExtension
  have ⟨dirs, hdf, hdl⟩ := exists_drawableDirs hd drawablePrefix (dir / resourcePath)
  have ha (name : String) := exists_filesIn hd ((dir / resourcePath).child name)
    fun _ => not_excluded_of_isResourceFile
  choose assets haf hal using ha
  refine ⟨⟨documents, dirs.map fun name => (name, assets name)⟩, ⟨hl, ?_, ?_⟩, fun owner => ?_⟩
  · simpa [Function.comp_def] using hdl
  · intro e he
    obtain ⟨name, -, rfl⟩ := List.mem_map.mp he
    exact hal name
  · simp only [moduleGroups, Contribution.groups, hf, hdf, List.map_map, Function.comp_def, haf]

theorem Contributes.unique {c c' : Contribution} (h : Contributes d drawablePrefix dir c)
    (h' : Contributes d drawablePrefix dir c') : c = c' := by
  have hs : c.drawables = c'.drawables := by
    refine eq_of_map_fst (h.drawables.unique h'.drawables) fun e he e' he' hn => ?_
    refine (h.assets e he).unique (hn ▸ h'.assets e' he')
  cases c
  cases c'
  cases hs
  cases h.documents.unique h'.documents
  rfl

theorem Contributes.moduleGroups_eq (hd : d.Sound) {c : Contribution} (h : Contributes d drawablePrefix dir c)
    (owner : ModuleId) : moduleGroups d drawablePrefix dir owner = c.groups dir owner := by
  have ⟨c', hc, hg⟩ := exists_contribution hd drawablePrefix dir
  rw [h.unique hc, hg]

-- A module has the same groups on both disks, unless a drawable is on one of them alone.
theorem moduleGroups_congr (h : Refiled s d d') (hd : d.Sound) (hd' : d'.Sound)
    (hs : ∀ k name, s (k ++ [name]) → hasExtension ["xml"] ⟨.relative, [name]⟩ = false)
    (ha : ∀ drawables ∈ drawableDirs d drawablePrefix (dir / resourcePath), ∀ name,
      s (d.keyOf drawables ++ [name]) →
        (d'.node? (d.keyOf drawables ++ [name])).isSome = (d.node? (d.keyOf drawables ++ [name])).isSome)
    (owner : ModuleId) : moduleGroups d' drawablePrefix dir owner = moduleGroups d drawablePrefix dir owner := by
  have hvalues : d'.filesIn (hasExtension ["xml"]) ((dir / resourcePath).child "values") =
      d.filesIn (hasExtension ["xml"]) ((dir / resourcePath).child "values") := by
    refine h.filesIn_eq hd hd' fun name hq hk => ?_
    rw [hasExtension_child, hs _ name hk] at hq
    contradiction
  have hdirs : drawableDirs d' drawablePrefix (dir / resourcePath) =
      drawableDirs d drawablePrefix (dir / resourcePath) := by
    have ⟨dirs, hf, hl⟩ := exists_drawableDirs hd drawablePrefix (dir / resourcePath)
    have ⟨dirs', hf', hl'⟩ := exists_drawableDirs hd' drawablePrefix (dir / resourcePath)
    simp only [h.isDir_eq] at hl'
    rw [hf, hf', hl.unique hl']
  rw [moduleGroups, moduleGroups, hvalues, hdirs]
  refine congrArg _ (List.map_congr_left fun drawables hm => ?_)
  rw [h.filesIn_eq hd hd' fun name _ => ha drawables hm name]

end Locate

end TypedResources
