import Mathlib.Data.List.Nodup
import TypedResources.Proofs.Migration.Calls
import TypedResources.Proofs.Migration.Lookup
import TypedResources.Proofs.Naming.Collision
import TypedResources.Proofs.Repetition

-- The targets that a migration knows. They stand for the resources that the located documents define
-- and for the located drawables (`mem_targets_iff`). A reference leads to a single target in each module
-- and block, since camel case makes one name of all names with one field (`camel_case_stable`).

namespace TypedResources

open ClassFile Migration

-- A resource that a module of the groups defines, in a document that can be read or as a drawable.
inductive Resource.Located (d : Disk) (groups : List ResourceGroup) : Resource → Prop
  | value {g p values v} (hg : g ∈ groups) (hc : g.category = .values) (hp : p ∈ g.files)
      (hr : Definition.read d p = .ok values) (hv : v ∈ values) : Located d groups ⟨.values v.kind, g.owner, v.name⟩
  | drawable {g p} (hg : g ∈ groups) (hc : g.category = .drawables) (hp : p ∈ g.files) :
      Located d groups ⟨.drawables, g.owner, resourceBaseName p⟩

namespace ClassFile

variable {d : Disk} {groups : List ResourceGroup} {docs : List (ModuleId × Path)} {es : List Entry} {e : Entry}
  {r : Resource}

theorem mem_entriesOn (h : entriesOn d docs = .ok es) :
    e ∈ es ↔ ∃ p values, (e.owner, p) ∈ docs ∧ Definition.read d p = .ok values ∧ e.value ∈ values := by
  induction docs generalizing es
  case nil            => cases h; simp
  case cons doc docs ih =>
    obtain ⟨owner, q⟩ := doc
    rw [entriesOn_cons] at h
    simp only [List.mem_cons, Prod.mk.injEq, or_and_right, exists_or, and_assoc]
    split at h
    case h_3 => cases h
    case h_1 values hq =>
      cases hr : entriesOn d docs <;> rw [hr] at h <;> cases h
      rw [List.mem_append, ih hr]
      refine or_congr_left ?_
      cases e
      simp [hq, and_comm, eq_comm]
    case h_2 hq =>
      simp [hq, ih h]

theorem mem_documents_iff {owner : ModuleId} {p : Path} : (owner, p) ∈ documents groups ↔
    ∃ g ∈ groups, g.category = .values ∧ p ∈ g.files ∧ g.owner = owner := by
  simp [documents, sortPaths, and_assoc]

theorem mem_drawables_iff {a : Drawable} : a ∈ drawables groups ↔
    ∃ g ∈ groups, g.category = .drawables ∧ ∃ p ∈ g.files, ⟨g.owner, resourceBaseName p⟩ = a := by
  simp [drawables, sortPaths, and_assoc]

theorem mem_resources_iff (h : entriesOn d (documents groups) = .ok es) :
    r ∈ resources es (drawables groups) ↔ r.Located d groups := by
  rw [resources, List.mem_append, List.mem_map, List.mem_map]
  constructor
  case mp =>
    rintro (⟨e, he, rfl⟩ | ⟨a, ha, rfl⟩)
    case inl =>
      obtain ⟨p, values, hd, hr, hv⟩ := (mem_entriesOn h).mp he
      obtain ⟨g, hg, hc, hp, ho⟩ := mem_documents_iff.mp hd
      rw [Resource.ofEntry, ← ho]
      exact .value hg hc hp hr hv
    case inr =>
      obtain ⟨g, hg, hc, p, hp, rfl⟩ := mem_drawables_iff.mp ha
      exact .drawable hg hc hp
  case mpr =>
    rintro (⟨hg, hc, hp, hr, hv⟩ | ⟨hg, hc, hp⟩)
    case value g p values v =>
      exact .inl ⟨⟨g.owner, v⟩, (mem_entriesOn h).mpr ⟨p, values, mem_documents_iff.mpr ⟨g, hg, hc, hp, rfl⟩, hr, hv⟩, rfl⟩
    case drawable g p => exact .inr ⟨_, mem_drawables_iff.mpr ⟨g, hg, hc, p, hp, rfl⟩, rfl⟩

end ClassFile

namespace Migration

variable {d : Disk} {groups : List ResourceGroup} {k : Knowledge} {key : String} {t t' : Target}

-- The module and the block of a target, by which those of one key are told apart.
def Target.candidate (t : Target) : String × Block :=
  (t.owner, t.block)

-- What a migration knows after it has located these groups.
structure Knowledge.Knows (k : Knowledge) (d : Disk) (groups : List ResourceGroup) : Prop where
  owners  : k.owners = groups.map ResourceGroup.owner
  targets : (Migration.targets groups).result d = .ok k.targets

namespace Knowledge.Knows

variable (hk : k.Knows d groups)

include hk

theorem mem_targets_iff {x : String × Target} : x ∈ k.targets ↔ ∃ r : Resource, r.Located d groups ∧ r.target = x := by
  have h := targets_agree (d := d) groups
  rw [hk.targets] at h
  cases he : entriesOn d (documents groups) <;> rw [he] at h <;> cases h
  case ok h =>
    rw [h]
    exact exists_congr fun r => and_congr_left fun _ => mem_resources_iff he

theorem nodup_targets : k.targets.Nodup := by
  have h := hk.targets
  rw [result_targets] at h
  cases hm : groups.mapM fun g => (groupTargets g).result d <;> rw [hm] at h
  case error => cases h
  case ok found =>
    have he : found.flatten.eraseDups = k.targets := Except.ok.inj h
    exact he ▸ nodup_eraseDups _

theorem nodup_targetsOf : (k.targetsOf key).Nodup := by
  refine hk.nodup_targets.filterMap fun x y t hx hy => ?_
  simp only [Option.mem_def, Option.ite_none_right_eq_some, Option.some.injEq] at hx hy
  exact Prod.ext (hx.1.trans hy.1.symm) (hx.2.trans hy.2.symm)

-- The resources behind the targets of a key have one field in a block, and so one accessor in a module.
theorem eq_of_mem_targetsOf (ht : t ∈ k.targetsOf key) (ht' : t' ∈ k.targetsOf key)
    (h : t.candidate = t'.candidate) : t = t' := by
  obtain ⟨r, -, hr⟩ := hk.mem_targets_iff.mp (mem_targetsOf_iff.mp ht)
  obtain ⟨r', -, hr'⟩ := hk.mem_targets_iff.mp (mem_targetsOf_iff.mp ht')
  obtain ⟨hkey, rfl⟩ := Prod.mk.inj hr
  obtain ⟨hkey', rfl⟩ := Prod.mk.inj hr'
  obtain ⟨ho, hb⟩ := Prod.mk.inj h
  have hb : r.block = r'.block := hb
  have hf : r.field = r'.field := reference_injective r.block.tag (hkey.trans (hb ▸ hkey'.symm))
  have hfun : r.function = r'.function := Naming.functionName_eq hf ho
  change Target.mk r.block r.function r.owner.name = ⟨r'.block, r'.function, r'.owner.name⟩
  rw [hfun, hb, show r.owner.name = r'.owner.name from ho]

theorem pairwise_targetsOf : (k.targetsOf key).Pairwise fun t t' => t.candidate ≠ t'.candidate :=
  hk.nodup_targetsOf.imp_of_mem fun ht ht' hne h => hne (hk.eq_of_mem_targetsOf ht ht' h)

end Knowledge.Knows

-- What camel case does not change: a name in camel case, the name of a resource when its field is put in
-- its place, the accessor that a field has in a module, and so the single target that a key has in a
-- module and a block.
theorem camel_case_stable :
    (∀ s, Naming.camelCase (Naming.camelCase s) = Naming.camelCase s) ∧
    (∀ name, Naming.camelCase (Naming.fieldName name).toList = Naming.camelCase name.toList) ∧
    (∀ name name' m, Naming.fieldName name = Naming.fieldName name' →
      Naming.functionName name m = Naming.functionName name' m) ∧
    ∀ d groups (k : Knowledge), (Migration.targets groups).result d = .ok k.targets → ∀ key,
      (k.targetsOf key).Pairwise fun t t' => ¬(t.block = t'.block ∧ t.owner = t'.owner) := by
  refine ⟨Naming.camelCase_camelCase, Naming.camelCase_fieldName, fun _ _ _ h => Naming.functionName_eq h rfl, ?_⟩
  intro d groups k h key
  have hk : Knowledge.Knows { k with owners := groups.map ResourceGroup.owner } d groups := ⟨rfl, h⟩
  exact hk.pairwise_targetsOf.imp fun hne ⟨hb, ho⟩ => hne (Prod.ext ho hb)

-- Two names with one field, in the module and in a dependency.
def dottedGroups : List ResourceGroup :=
  [⟨.values, ⟨"", "com.example"⟩, [⟨.root, ["values.xml"]⟩]⟩,
   ⟨.values, ⟨"lib", "com.example.lib"⟩, [⟨.root, ["values.xml"]⟩]⟩]

def dottedDisk : Disk where
  entries := [(["values.xml"], .file (Text.Utf8.encode
    "<resources><string name=\"foo.bar\"/><string name=\"foo_bar\"/></resources>".toList) 0)]

def dottedKnowledge : Knowledge where
  targets := [("R.string.foo_bar", ⟨.values .string, "fooBar", ""⟩),
    ("R.string.foo_bar", ⟨.values .string, "fooBar_lib", "lib"⟩)]

theorem dotted_name_stable :
    (Migration.targets dottedGroups).result dottedDisk = .ok dottedKnowledge.targets ∧
    (dottedKnowledge.targetsOf "R.string.foo_bar").length = 2 ∧
    (dottedKnowledge.targetsOf "R.string.foo_bar").Pairwise fun t t' => ¬(t.block = t'.block ∧ t.owner = t'.owner) := by
  have ht : (Migration.targets dottedGroups).result dottedDisk = .ok dottedKnowledge.targets := by decide +kernel
  have ⟨_, _, _, h⟩ := camel_case_stable
  exact ⟨ht, rfl, h dottedDisk dottedGroups dottedKnowledge ht "R.string.foo_bar"⟩

end Migration

end TypedResources
