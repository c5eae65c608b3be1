import TypedResources.Proofs.Generate.Record
import TypedResources.Proofs.Generate.Rejection
import TypedResources.Proofs.Pattern.Reads

-- The package of a class. No module has an empty name (`ne_empty_of_namespace?`). A class of a module
-- that has a name is of the package of that name, and only the disk fails a run that makes it
-- (`makesClass_of_result`); a module without one has no class (`outcome_run_of_unnamed`).

namespace TypedResources

namespace BuildFile

variable {module : Path} {d : Disk} {w line : List Char} {kept : List (Unit × List Char)} {bytes : Bytes}
  {name : String}

-- A part of a pattern that keeps nothing leaves what is kept to the parts behind it.
theorem kept_of_reads_all_cons {p : Pattern Unit} {ps : List (Pattern Unit)}
    (hp : ∀ {w kept}, p.Reads w kept → kept = []) (h : (Pattern.all (p :: ps)).Reads w kept) :
    ∃ v, (Pattern.all ps).Reads v kept := by
  obtain ⟨u, v, ku, kv, hu, hv, -, rfl⟩ := Pattern.reads_all_cons.mp h
  rw [hp hu, List.append_nil]
  exact ⟨v, hv⟩

theorem kept_of_reads_opt {p : Pattern Unit} (hp : ∀ {w kept}, p.Reads w kept → kept = [])
    (h : p.opt.Reads w kept) : kept = [] :=
  (Pattern.reads_opt_iff.mp h).elim hp And.right

theorem kept_of_reads_blanks (h : Pattern.blanks.Reads w kept) : kept = [] :=
  (Pattern.reads_blanks_iff.mp h).right

-- The name is the only part that is kept, and it has a character at least.
theorem kept_namespacePattern (h : namespacePattern.Reads w kept) : ∃ u, u ≠ [] ∧ kept = [((), u)] := by
  have ⟨_, h₁⟩ := kept_of_reads_all_cons And.right h
  have ⟨_, h₂⟩ := kept_of_reads_all_cons (fun h => (Pattern.reads_word_iff.mp h).right) h₁
  have ⟨_, h₃⟩ := kept_of_reads_all_cons kept_of_reads_blanks h₂
  have ⟨_, h₄⟩ := kept_of_reads_all_cons (kept_of_reads_opt And.right) h₃
  have ⟨_, h₅⟩ := kept_of_reads_all_cons kept_of_reads_blanks h₄
  have ⟨_, h₆⟩ := kept_of_reads_all_cons And.right h₅
  obtain ⟨u, _, _, _, ⟨_, hname, rfl⟩, ⟨_, _, _, _, ⟨_, rfl⟩, ⟨_, rfl⟩, -, rfl⟩, -, rfl⟩ :=
    Pattern.reads_all_cons.mp h₆
  obtain ⟨_, v, _, _, ⟨⟨c, -, rfl⟩, rfl⟩, hmore, rfl, rfl⟩ := hname
  obtain ⟨-, rfl⟩ := Pattern.reads_many_one_iff.mp hmore
  exact ⟨c :: v, List.cons_ne_nil _ _, rfl⟩

theorem ne_empty_of_found? (h : found? namespacePattern line = some name) : name ≠ "" := by
  unfold found? at h
  obtain ⟨w, hw, rfl⟩ := Option.map_eq_some_iff.mp h
  obtain ⟨o, ho, hw⟩ := Option.bind_eq_some_iff.mp hw
  have ⟨u, hne, hk⟩ := kept_namespacePattern (Pattern.reads_of_mem_occurrences (List.mem_of_head? ho))
  rw [Occurrence.get?, hk] at hw
  cases hw
  simpa using hne

theorem ne_empty_of_namespaceFromBuildFile (h : (namespaceFromBuildFile module).result d = .ok (some name)) :
    name ≠ "" := by
  rw [result_namespaceFromBuildFile] at h
  split at h
  case isFalse => cases h
  case isTrue  =>
    cases hc : codeLines d (path d module) <;> rw [hc] at h
    case error => cases h
    case ok    =>
      have ⟨_, _, hf⟩ := List.exists_of_findSome?_eq_some (Except.ok.inj h)
      exact ne_empty_of_found? hf

theorem ne_empty_of_packageIn? (h : packageIn? bytes = .ok (some name)) : name ≠ "" := by
  unfold packageIn? at h
  split at h
  case h_1 => cases h
  case h_2 => cases h
  case h_3 =>
    dsimp only at h
    split at h <;> cases h
    case isFalse hn => simpa using hn

theorem ne_empty_of_namespaceFromManifest (h : (namespaceFromManifest module).result d = .ok (some name)) :
    name ≠ "" := by
  rw [result_namespaceFromManifest] at h
  split at h
  case isFalse => cases h
  case isTrue  =>
    cases hr : d.readBytes (module / manifestPath) <;> rw [hr] at h
    case error => cases h
    case ok    => exact ne_empty_of_packageIn? h

theorem ne_empty_of_namespace? (h : (namespace? module).result d = .ok (some name)) : name ≠ "" := by
  rw [result_namespace?] at h
  cases hb : (namespaceFromBuildFile module).result d <;> rw [hb] at h
  case error    => cases h
  case ok found =>
    cases found
    case none => exact ne_empty_of_namespaceFromManifest h
    case some => cases h; exact ne_empty_of_namespaceFromBuildFile hb

end BuildFile

namespace Generate

open Text.Utf8 (encode)

variable {s : Settings} {module output : Path} {d : Disk} {σ : Session} {i : Inputs} {made : ClassFile}

theorem result_inputs (s : Settings) (module : Path) (d : Disk) : (inputs s module).result d =
    match (BuildFile.namespace? module).result d with
    | .error f           => .error f
    | .ok none           => .error (.noNamespace module)
    | .ok (some package) => ((Locate.groups (site s module)).result d).map fun groups =>
        ⟨package, groups, groups.flatMap ResourceGroup.files ++ [BuildFile.path d module] ++
          [s.moduleRoot.child settingsFile]⟩ := by
  have hs (groups : List ResourceGroup) (package : String) : Query.Steady (do
      let observed ← Locate.observed (site s module)
      return (⟨package, groups, observed ++ [s.moduleRoot.child settingsFile]⟩ : Inputs)) :=
    Locate.steady_observed.bind fun _ => Query.steady_pure _
  rw [inputs, Query.result_bind fun package => by
    cases package
    case none => exact Query.steady_throw _
    case some => exact Locate.steady_groups.bind fun _ => hs _ _]
  rcases (BuildFile.namespace? module).result d with _ | _ | package
  case error   => rfl
  case ok.none => rfl
  case ok.some =>
    rw [ok_bind]
    dsimp only
    rw [Query.result_bind fun _ => hs _ _]
    cases hg : (Locate.groups (site s module)).result d
    case error     => rfl
    case ok groups =>
      have ho : (Locate.observed (site s module)).result d = _ := Locate.result_observed
      rw [hg] at ho
      rw [ok_bind, Query.result_bind fun _ => Query.steady_pure _, ho]
      rfl

-- The class of a module is of the package, and is what a run writes that finds none in the cache, if
-- the disk lets it.
structure MakesClass (s : Settings) (module : Path) (d : Disk) (package : String) (made : ClassFile) : Prop where
  classOn : classOn s module d = .ok made
  clause  : ∃ rest, made.content.toList = "// Generated by resourcegen. Do not edit.\n".toList ++
    ("package ".toList ++ (package.toList ++ ("\n".toList ++ rest)))
  run     : ∀ σ output i, σ.disk = d → (inputs s module).result d = .ok i →
    offered s (cacheOf s module i.observed) d = .ok none →
    match (run s module output).outcome σ with
    | (.ok g, σ')   => g.skipped = made.skipped ∧ σ'.disk.readBytes output = .ok (encode made.content.toList)
    | (.error f, _) => f.isDisk

theorem makesClass_of_result (hi : (inputs s module).result d = .ok i) (hm : (classOf s i).result d = .ok made) :
    MakesClass s module d i.package made where
  classOn := by rw [Generate.classOn, hi]; exact hm
  clause  := by
    rw [classOf, ClassFile.result_generate] at hm
    rcases hr : (ClassFile.readEntries s.generation.strict (ClassFile.documents i.groups)).result d with
      _ | ⟨entries, skipped⟩
    all_goals rw [hr] at hm
    case error => cases hm
    case ok    =>
      have hm : ⟨ClassFile.render i.package entries (ClassFile.drawables i.groups), skipped⟩ = made :=
        Except.ok.inj hm
      rw [← hm]
      exact ClassFile.toList_render i.package entries (ClassFile.drawables i.groups)
  run     := by
    intro σ output i' hd hi' ho
    cases hi.symm.trans hi'
    subst hd
    rw [outcome_run, hi]
    dsimp only
    rw [ho]
    dsimp only
    rcases hr : (regenerate s (cacheOf s module i.observed) i output).outcome (prepared s module σ) with ⟨_ | g, σ'⟩
    case error => exact onlyDisk_of_regenerate (by exact hm) hr
    case ok    =>
      obtain ⟨_, hm', hg, _, hw⟩ := writes_of_regenerate hr
      cases hm.symm.trans hm'
      exact ⟨hg, hw⟩

theorem outcome_run_of_unnamed (h : (BuildFile.namespace? module).result σ.disk = .ok none) :
    ((run s module output).outcome σ).1 = .error (.noNamespace module) := by
  rw [outcome_run, result_inputs, h]

end Generate

end TypedResources
