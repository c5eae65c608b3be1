import Mathlib.Data.List.Flatten
import Mathlib.Data.List.Perm.Subperm
import Mathlib.Data.List.TakeDrop
import TypedResources.Proofs.BuildFile.Declaration
import TypedResources.Proofs.Disk.Writes
import TypedResources.Proofs.Locate

-- The dependencies of a module. Of each line of its build file the first declaration of each syntax
-- counts, in the order of the syntaxes. The paths are those of all declarations, from left to right,
-- exactly if every line is orderly (`dependencies_declared_iff`).

namespace TypedResources.BuildFile

open Pattern (anyOf)

variable {α β : Type} {d : Disk} {module p : Path} {bytes : Bytes} {line : List Char} {o : Occurrence Unit}

-- The lines of a build file with these bytes, as code.
def codeOf (bytes : Bytes) : List (List Char) :=
  (stripComments ((Text.splitLines (Text.Utf8.decodeLenient bytes)).map Text.withoutLineEnd)).map Prod.snd

def project? (o : Occurrence Unit) : Option String :=
  (o.get? ()).map String.ofList

-- What is declared on a line, in any of the syntaxes, from left to right.
def declared (line : List Char) : List String :=
  ((anyOf dependencyPatterns).occurrences line).filterMap project?

-- The declarations of a line, syntax by syntax.
def declarations (line : List Char) : List (Occurrence Unit) :=
  dependencyPatterns.flatMap (·.occurrences line)

def firsts (line : List Char) : List (Occurrence Unit) :=
  dependencyPatterns.flatMap fun p => (p.occurrences line).take 1

-- No syntax is used twice on a line, and those that are used come in the order of the patterns, as
-- far as the declared paths tell.
structure Orderly (line : List Char) : Prop where
  once   : ∀ p ∈ dependencyPatterns, (p.occurrences line).length ≤ 1
  sorted : (declarations line).filterMap project? = declared line

instance : Decidable (Orderly line) :=
  decidable_of_iff (_ ∧ _) ⟨fun h => ⟨h.1, h.2⟩, fun h => ⟨h.once, h.sorted⟩⟩

theorem flatMap_subperm {l : List α} {f g : α → List β} (h : ∀ a ∈ l, (f a).Subperm (g a)) :
    (l.flatMap f).Subperm (l.flatMap g) := by
  induction l
  case nil         => exact .refl _
  case cons a l ih =>
    have ⟨ha, hl⟩ := List.forall_mem_cons.mp h
    exact ha.append (ih hl)

-- Lists that are parts of others give the same list together only if each of them is the whole.
theorem flatMap_eq_flatMap_iff {l : List α} {f g : α → List β} (h : ∀ a ∈ l, (f a).Subperm (g a)) :
    l.flatMap f = l.flatMap g ↔ ∀ a ∈ l, f a = g a := by
  induction l
  case nil         => simp
  case cons a l ih =>
    have ⟨ha, hl⟩ := List.forall_mem_cons.mp h
    rw [List.flatMap_cons, List.flatMap_cons, List.forall_mem_cons, ← ih hl]
    constructor
    case mpr =>
      rintro ⟨he, hr⟩
      rw [he, hr]
    case mp =>
      intro he
      have hlen := congrArg List.length he
      rw [List.length_append, List.length_append] at hlen
      have hhead := ha.length_le
      have htail := (flatMap_subperm hl).length_le
      exact List.append_inj he (by omega)

theorem filterMap_found?_eq : dependencyPatterns.filterMap (found? · line) = (firsts line).filterMap project? := by
  have h (p : Pattern Unit) : ((p.occurrences line).take 1).filterMap project? = (found? p line).toList := by
    rw [found?, Pattern.search?]
    cases p.occurrences line
    case nil       => rfl
    case cons o os => exact (List.filterMap_eq_flatMap_toList ..).trans (List.flatMap_singleton ..)
  rw [firsts, List.filterMap_flatMap, List.filterMap_eq_flatMap_toList]
  exact List.flatMap_congr fun p _ => (h p).symm

theorem firsts_sublist : (firsts line).Sublist (declarations line) :=
  List.Sublist.flatMap_right _ fun _ _ => List.take_sublist 1 _

theorem project?_isSome (h : o ∈ declarations line) : (project? o).isSome := by
  obtain ⟨p, hp, ho⟩ := List.mem_flatMap.mp h
  rw [dependencyPatterns_eq] at hp
  obtain ⟨s, hs, rfl⟩ := List.mem_map.mp hp
  have hr := Pattern.reads_of_mem_occurrences ho
  obtain ⟨-, -, -, -, -, name, hk⟩ := (declares_of_mem_syntaxes hs).declaration _ _ hr
  rw [project?, Occurrence.get?, hk]
  rfl

theorem occurrences_perm : ((anyOf dependencyPatterns).occurrences line).Perm (declarations line) :=
  Pattern.occurrences_anyOf_perm solid_patterns pairwise_apart

theorem declared_perm : (declared line).Perm ((declarations line).filterMap project?) :=
  occurrences_perm.filterMap project?

theorem firsts_subperm : ((firsts line).filterMap project?).Subperm (declared line) :=
  (firsts_sublist.filterMap project?).subperm.trans declared_perm.symm.subperm

theorem once_iff : (∀ p ∈ dependencyPatterns, (p.occurrences line).length ≤ 1) ↔ firsts line = declarations line := by
  rw [firsts, declarations, flatMap_eq_flatMap_iff fun _ _ => (List.take_sublist 1 _).subperm]
  simp only [List.take_eq_self_iff]

theorem firsts_eq_declared_iff : (firsts line).filterMap project? = declared line ↔ Orderly line := by
  constructor
  case mpr =>
    rintro ⟨ho, hs⟩
    rw [once_iff.mp ho]
    exact hs
  case mp =>
    intro h
    -- Every declaration has a path, so none is left out unless a path is.
    have hall {os : List (Occurrence Unit)} (hs : os ⊆ declarations line) : (os.filterMap project?).length = os.length :=
      List.filterMap_length_eq_length.mpr fun o ho => project?_isSome (hs ho)
    have hlen : (firsts line).length = (declarations line).length := by
      rw [← hall firsts_sublist.subset, h, declared_perm.length_eq, hall (List.Subset.refl _)]
    have he := firsts_sublist.eq_of_length hlen
    exact ⟨once_iff.mpr he, he ▸ h⟩

theorem has_of_readBytes (h : d.readBytes p = .ok bytes) : d.has p :=
  Disk.has_of_isFile (Disk.isFile_of_readBytes h)

theorem codeLines_of_readBytes (h : d.readBytes p = .ok bytes) : codeLines d p = .ok (codeOf bytes) := by
  rw [codeLines, h]
  rfl

theorem result_dependencies_of_readBytes (h : d.readBytes (path d module) = .ok bytes) :
    (dependencies module).result d = .ok ((codeOf bytes).flatMap fun line => (firsts line).filterMap project?) := by
  rw [result_dependencies, if_pos (has_of_readBytes h), codeLines_of_readBytes h]
  simp only [Except.map, filterMap_found?_eq]

theorem dependencies_declared_iff (h : d.readBytes (path d module) = .ok bytes) : ∃ found,
    (dependencies module).result d = .ok found ∧ found.Subperm ((codeOf bytes).flatMap declared) ∧
    (found = (codeOf bytes).flatMap declared ↔ ∀ line ∈ codeOf bytes, Orderly line) := by
  refine ⟨_, result_dependencies_of_readBytes h, flatMap_subperm fun _ _ => firsts_subperm, ?_⟩
  rw [flatMap_eq_flatMap_iff fun _ _ => firsts_subperm]
  simp only [firsts_eq_declared_iff]

def buildText (lines : List String) : Bytes :=
  Text.Utf8.encode ("\n".intercalate lines).toList

def moduleDisk (lines : List String) : Disk where
  entries := [(["app"], .dir), (["app", "build.gradle.kts"], .file (buildText lines) 0)]

def moduleDir : Path :=
  ⟨.root, ["app"]⟩

def orderlyLines : List String :=
  ["implementation(project(\":core:ui\")); api project(':data')", "api(project(\":data\")) // api(project(\":x\"))"]

theorem orderly_dependencies_found :
    (dependencies moduleDir).result (moduleDisk orderlyLines) = .ok ["core:ui", "data", "data"] := by
  have h : (moduleDisk orderlyLines).readBytes (path (moduleDisk orderlyLines) moduleDir) =
      .ok (buildText orderlyLines) := by decide +kernel
  obtain ⟨found, hr, -, hd⟩ := dependencies_declared_iff h
  rw [hr, hd.mpr (by decide +kernel)]
  decide +kernel

def crowdedLines : List String :=
  ["api(project(\":a\")); implementation(project(\":b\")); api(project(\":c\"))"]

-- The second use of a syntax on a line is lost, and the syntaxes come before the places.
theorem crowded_dependencies_missed :
    (dependencies moduleDir).result (moduleDisk crowdedLines) = .ok ["b", "a"] ∧
    (codeOf (buildText crowdedLines)).flatMap declared = ["a", "b", "c"] := by
  decide +kernel

end TypedResources.BuildFile
