import Mathlib.Data.List.Forall2
import TypedResources.Proofs.ClassFile.Leniency
import TypedResources.Proofs.Disk.Path

-- The order in which files are listed. A class depends on its groups through the documents and the
-- drawables of each category, and a group gives these in the order of its paths. So it makes no
-- difference in which order a group lists its files, nor how the groups of one category stand between
-- those of the other (`generate_rearranged`).

namespace TypedResources

namespace Path

variable {p q : Path}

-- An anchor is told from the parts, and so the components tell the path.
theorem eq_of_components_eq (hp : p.IsWritten) (hq : q.IsWritten) (h : p.components = q.components) : p = q := by
  unfold components at h
  split at h <;> split at h
  case isTrue.isTrue ha hb => exact Path.ext (ha.trans hb.symm) h
  case isTrue.isFalse _ hb =>
    have hm : q.anchor.text ∈ p.parts := h ▸ List.mem_cons_self
    exact absurd hm (hp.anchor_not_mem hb)
  case isFalse.isTrue ha _ =>
    have hm : p.anchor.text ∈ q.parts := h ▸ List.mem_cons_self
    exact absurd hm (hq.anchor_not_mem ha)
  case isFalse.isFalse ha hb =>
    obtain ⟨ht, hr⟩ := List.cons.inj h
    refine Path.ext ?_ hr
    cases hx : p.anchor <;> cases hy : q.anchor <;> simp_all [Anchor.text]

theorem le_antisymm (hp : p.IsWritten) (hq : q.IsWritten) (h : p ≤ q) (h' : q ≤ p) : p = q :=
  eq_of_components_eq hp hq (List.le_antisymm h h')

end Path

namespace ClassFile

variable {α : Type} {groups groups' : List ResourceGroup} {files files' : List Path} {g g' : ResourceGroup}

theorem sortPaths_perm (hw : ∀ p ∈ files, p.IsWritten) (h : files.Perm files') : sortPaths files = sortPaths files' := by
  have hp : (sortPaths files).Perm (sortPaths files') := (sortBy_perm _ _).trans (h.trans (sortBy_perm _ _).symm)
  refine hp.eq_of_pairwise (fun p q hp hq => ?_) (pairwise_sortPaths files) (pairwise_sortPaths files')
  exact Path.le_antisymm (hw p (mem_sortBy.mp hp)) (hw q (h.mem_iff.mpr (mem_sortBy.mp hq)))

-- The same group, but for the order in which it lists its files.
structure Relisted (g g' : ResourceGroup) : Prop where
  category : g.category = g'.category
  owner    : g.owner = g'.owner
  files    : g.files.Perm g'.files

-- Each category has the same groups in the same order. How the categories stand between each other
-- is left open.
def Rearranged (groups groups' : List ResourceGroup) : Prop :=
  ∀ c, List.Forall₂ Relisted (groups.filter (·.category = c)) (groups'.filter (·.category = c))

theorem flatMap_relisted (item : ModuleId → Path → α) (h : List.Forall₂ Relisted groups groups')
    (hw : ∀ g ∈ groups, ∀ p ∈ g.files, p.IsWritten) :
    (groups.flatMap fun g => (sortPaths g.files).map (item g.owner)) =
      groups'.flatMap fun g => (sortPaths g.files).map (item g.owner) := by
  induction h
  case nil          => rfl
  case cons hg _ ih =>
    have ⟨hf, hw⟩ := List.forall_mem_cons.mp hw
    rw [List.flatMap_cons, List.flatMap_cons, sortPaths_perm hf hg.files, hg.owner, ih hw]

variable (h : Rearranged groups groups') (hw : ∀ g ∈ groups, ∀ p ∈ g.files, p.IsWritten)

include h hw

theorem documents_rearranged : documents groups = documents groups' :=
  flatMap_relisted Prod.mk (h .values) fun g hg => hw g (List.mem_of_mem_filter hg)

theorem drawables_rearranged : drawables groups = drawables groups' :=
  flatMap_relisted (fun owner p => (⟨owner, resourceBaseName p⟩ : Drawable)) (h .drawables) fun g hg =>
    hw g (List.mem_of_mem_filter hg)

-- The class with the documents that it skips, or the failure, is the same, and so are the records.
theorem generate_rearranged (options : Options) (package : String) (d : Disk) (log : Log) :
    (generate options package groups).outcome d log = (generate options package groups').outcome d log := by
  rw [generate, generate, documents_rearranged h hw, drawables_rearranged h hw]

omit h hw

-- Two of the three documents are malformed, and the drawables stand between them.
def listedGroups : List ResourceGroup :=
  [⟨.values, ⟨"lib", "com.lib"⟩, [⟨.root, ["c.xml"]⟩]⟩,
   ⟨.drawables, ⟨"", "com.example"⟩, [⟨.root, ["e.png"]⟩, ⟨.root, ["d.png"]⟩]⟩,
   ⟨.values, ⟨"", "com.example"⟩, [⟨.root, ["b.xml"]⟩, ⟨.root, ["a.xml"]⟩]⟩]

def shuffledGroups : List ResourceGroup :=
  [⟨.drawables, ⟨"", "com.example"⟩, [⟨.root, ["d.png"]⟩, ⟨.root, ["e.png"]⟩]⟩,
   ⟨.values, ⟨"lib", "com.lib"⟩, [⟨.root, ["c.xml"]⟩]⟩,
   ⟨.values, ⟨"", "com.example"⟩, [⟨.root, ["a.xml"]⟩, ⟨.root, ["b.xml"]⟩]⟩]

theorem rearranged_shuffledGroups : Rearranged listedGroups shuffledGroups := by
  rintro (_ | _)
  case values    => exact .cons ⟨rfl, rfl, .refl _⟩ (.cons ⟨rfl, rfl, .swap ..⟩ .nil)
  case drawables => exact .cons ⟨rfl, rfl, .swap ..⟩ .nil

theorem isWritten_listedGroups : ∀ g ∈ listedGroups, ∀ p ∈ g.files, p.IsWritten := by
  have h : ∀ g ∈ listedGroups, ∀ p ∈ g.files, Path.ofString p.toString = p := by decide +kernel
  exact fun g hg p hp => ⟨p.toString, h g hg p hp⟩

theorem shuffled_generate_eq : Rearranged listedGroups shuffledGroups ∧
    (∀ g ∈ listedGroups, ∀ p ∈ g.files, p.IsWritten) ∧ ∀ strict log,
      (generate ⟨strict, "en"⟩ "com.example" listedGroups).outcome flawedDisk log =
        (generate ⟨strict, "en"⟩ "com.example" shuffledGroups).outcome flawedDisk log :=
  ⟨rearranged_shuffledGroups, isWritten_listedGroups, fun strict log =>
    generate_rearranged rearranged_shuffledGroups isWritten_listedGroups ⟨strict, "en"⟩ "com.example" flawedDisk log⟩

end ClassFile

end TypedResources
