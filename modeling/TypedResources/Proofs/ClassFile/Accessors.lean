import TypedResources.ClassFile.Basic
import TypedResources.Proofs.ClassFile.Foremost

-- The accessors of a generated class, seen as the resources that they look up. Of the resources of
-- one block that share a function name the class has an accessor for the one that precedes the others
-- (`mem_accessorsIn_iff`). What the accessor of that name looks up is what a given one of them means
-- exactly if that one prevails (`lookup_accessorsIn_iff`).

namespace TypedResources

-- A resource that a module defines, in the block that its accessor would stand in.
structure Resource where
  block : Block
  owner : ModuleId
  name  : String
deriving DecidableEq

namespace Resource

def ofEntry (e : Entry) : Resource :=
  ⟨.values e.value.kind, e.owner, e.value.name⟩

def ofDrawable (a : Drawable) : Resource :=
  ⟨.drawables, a.owner, a.name⟩

def function (r : Resource) : String :=
  Naming.functionName r.name r.owner

def field (r : Resource) : String :=
  Naming.fieldName r.name

def lookup (r : Resource) : String :=
  Naming.resourceClass r.owner ++ "." ++ r.block.tag ++ "." ++ r.field

end Resource

namespace ClassFile

def resources (entries : List Entry) (assets : List Drawable) : List Resource :=
  entries.map Resource.ofEntry ++ assets.map Resource.ofDrawable

def accessorsIn (rs : List Resource) (b : Block) : List Resource :=
  firsts Resource.function (sortByName Resource.name (rs.filter (·.block = b)))

-- Whatever has the same accessor as the resource but is looked up differently is preceded by
-- something that is looked up like the resource.
def Prevails (rs : List Resource) (own : Resource) : Prop :=
  ∀ rival ∈ rs, rival.block = own.block → rival.function = own.function → rival.lookup ≠ own.lookup →
    ∃ peer ∈ rs, peer.block = own.block ∧ peer.function = own.function ∧ peer.lookup = own.lookup ∧
      Precedes Resource.name rs peer rival

variable {rs : List Resource} {r r' own : Resource} {b : Block} {entries : List Entry}
  {assets : List Drawable}

theorem mem_accessorsIn_iff : r ∈ accessorsIn rs b ↔ r ∈ rs ∧ r.block = b ∧
    ∀ r' ∈ rs, r'.block = b → r'.function = r.function → r' ≠ r → Precedes Resource.name rs r r' := by
  simp only [accessorsIn, mem_firsts_iff, find?_sortByName_eq_some_iff, List.mem_filter,
    decide_eq_true_eq, and_assoc, true_and, and_imp]
  refine and_congr_right fun _ => and_congr_right fun hr => ?_
  refine forall₂_congr fun r' _ => forall_congr' fun hr' => ?_
  have hi := idxOf_filter_lt_iff (l := rs) (p := (·.block = b)) (a := r) (b := r')
    (by simpa using hr) (by simpa using hr')
  simp only [Precedes, hi]

theorem lookup_accessorsIn_iff (ho : own ∈ rs) :
    ((accessorsIn rs own.block).find? (·.function = own.function)).map Resource.lookup = some own.lookup ↔
      Prevails rs own := by
  have hm : own ∈ sortByName Resource.name (rs.filter (·.block = own.block)) := by simp [sortByName, ho]
  obtain ⟨r, hr, hf⟩ := exists_mem_firsts Resource.function hm
  obtain ⟨hrs, hb, hp⟩ := mem_accessorsIn_iff.mp hr
  rw [accessorsIn, find?_firsts_eq_some_iff.mpr ⟨hr, hf⟩, Option.map_some, Option.some_inj]
  constructor
  case mp =>
    intro hl rival hrival hb' hf' hne
    have hne' : rival ≠ r := fun h => hne (h ▸ hl)
    exact ⟨r, hrs, hb, hf, hl, hp rival hrival hb' (hf'.trans hf.symm) hne'⟩
  case mpr =>
    intro h
    by_contra hl
    obtain ⟨peer, hpeer, hb', hf', hl', hlt⟩ := h r hrs hb hf hl
    have hne : peer ≠ r := fun h => hl (h ▸ hl')
    exact (hp peer hpeer hb' (hf'.trans hf.symm) hne).asymm hlt

theorem function_ofEntry (e : Entry) : (Resource.ofEntry e).function = e.function :=
  rfl

theorem function_ofDrawable (a : Drawable) : (Resource.ofDrawable a).function = a.function :=
  rfl

theorem map_emitted (kind : Kind) : (emitted kind entries).map Resource.ofEntry =
    accessorsIn (resources entries assets) (.values kind) := by
  have hs : (entriesOf kind entries).map Resource.ofEntry =
      sortByName Resource.name ((entries.filter (·.value.kind = kind)).map Resource.ofEntry) :=
    map_sortBy fun _ _ => rfl
  rw [emitted, map_firsts function_ofEntry, hs]
  simp [accessorsIn, resources, List.filter_map, Function.comp_def, Resource.ofEntry, Resource.ofDrawable]

theorem map_emittedDrawables : (emittedDrawables assets).map Resource.ofDrawable =
    accessorsIn (resources entries assets) .drawables := by
  have hs : (sortBy (fun a b => a.name ≤ b.name) assets).map Resource.ofDrawable =
      sortByName Resource.name (assets.map Resource.ofDrawable) :=
    map_sortBy fun _ _ => rfl
  rw [emittedDrawables, map_firsts function_ofDrawable, hs]
  simp [accessorsIn, resources, List.filter_map, Function.comp_def, Resource.ofEntry, Resource.ofDrawable]

theorem exists_mem_accessorsIn_iff {f : String} :
    (∃ r ∈ accessorsIn rs b, r.function = f) ↔ ∃ r ∈ rs, r.block = b ∧ r.function = f := by
  rw [accessorsIn, exists_mem_firsts_iff]
  simp [sortByName, and_assoc]

theorem emittedDrawables_eq_nil_iff {assets : List Drawable} : emittedDrawables assets = [] ↔ assets = [] := by
  rw [emittedDrawables, firsts_eq_nil_iff, ← List.length_eq_zero_iff, (sortBy_perm _ _).length_eq,
    List.length_eq_zero_iff]

theorem lookup_ofEntry (e : Entry) : (Resource.ofEntry e).lookup = e.lookup :=
  rfl

theorem lookup_ofDrawable (a : Drawable) : (Resource.ofDrawable a).lookup = a.lookup := by
  simp [Drawable.lookup, Resource.lookup, Resource.ofDrawable, Resource.field, Block.tag, String.append_assoc]

end ClassFile

end TypedResources
