import TypedResources.Proofs.ClassFile.Contents
import TypedResources.Proofs.ClassFile.Reading

-- What the blocks of a generated class hold. Every resource of the located groups has a site, and the
-- sites are ordered by group, file and place in the file; traversing the groups meets the sites in
-- that order (`traverses_definitions`). A block has one accessor for each function name that its
-- resources ask for, made from the first of them by name and then by site (`Chosen`), and nothing
-- else is in the class (`generate_complete`).

namespace TypedResources.ClassFile

variable {α : Type} {category : Category} {items : ResourceGroup → Path → List α} {groups : List ResourceGroup}
  {p q : α → Bool} {l : List α} {a b : α} {name key : α → String} {d : Disk} {e : Entry} {kind : Kind}

-- Where a resource is defined: the group's place in the list, the file, and the place in the file.
structure Site where
  group    : Nat
  file     : Path
  position : Nat

-- The order of sites. The place in a file only counts within the file.
instance : LE Site :=
  ⟨fun s t => s.group < t.group ∨
    s.group = t.group ∧ s.file ≤ t.file ∧ (s.file = t.file → s.position ≤ t.position)⟩

-- What is defined at a site when the files of the groups of a category hold these items.
def Defines (groups : List ResourceGroup) (category : Category) (items : ResourceGroup → Path → List α)
    (site : Site) (a : α) : Prop :=
  ∃ g, groups[site.group]? = some g ∧ g.category = category ∧ site.file ∈ g.files ∧
    (items g site.file)[site.position]? = some a

-- The list has what is defined, and finds what is defined at the least site.
structure Traverses (D : Site → α → Prop) (l : List α) : Prop where
  mem_iff : ∀ a, a ∈ l ↔ ∃ site, D site a
  first   : ∀ p a, l.find? p = some a → ∃ site, D site a ∧ ∀ site' b, D site' b → p b → site ≤ site'

theorem Traverses.filter {D : Site → α → Prop} (h : Traverses D l) (q : α → Bool) :
    Traverses (fun site a => D site a ∧ q a) (l.filter q) where
  mem_iff a := by simp [h.mem_iff]
  first p a hf := by
    rw [List.find?_filter] at hf
    have ⟨site, hd, hs⟩ := h.first _ a hf
    have hq : q a ∧ p a := by simpa using List.find?_some hf
    exact ⟨site, ⟨hd, hq.left⟩, fun site' b hb hp => hs site' b hb.left (decide_eq_true ⟨hb.right, hp⟩)⟩

theorem pathLe_trans (p q r : Path) (hp : decide (p ≤ q)) (hq : decide (q ≤ r)) : decide (p ≤ r) :=
  decide_eq_true (List.le_trans (of_decide_eq_true hp) (of_decide_eq_true hq))

theorem pathLe_total (p q : Path) : decide (p ≤ q) || decide (q ≤ p) := by
  have h : p ≤ q ∨ q ≤ p := List.le_total p.components q.components
  simpa using h

theorem pairwise_sortPaths (files : List Path) : (sortPaths files).Pairwise (· ≤ ·) :=
  (pairwise_sortBy pathLe_trans pathLe_total files).imp of_decide_eq_true

-- The items of the groups of a category, each group in the order of its paths.
def traversal (groups : List ResourceGroup) (category : Category) (items : ResourceGroup → Path → List α) :
    List α :=
  (groups.filter (·.category = category)).flatMap fun g => (sortPaths g.files).flatMap (items g)

theorem mem_traversal_iff : a ∈ traversal groups category items ↔ ∃ site, Defines groups category items site a := by
  simp only [traversal, List.mem_flatMap, List.mem_filter, decide_eq_true_eq, sortPaths, mem_sortBy]
  constructor
  case mp =>
    rintro ⟨g, ⟨hg, hc⟩, file, hf, ha⟩
    obtain ⟨i, hi⟩ := List.mem_iff_getElem?.mp hg
    obtain ⟨n, hn⟩ := List.mem_iff_getElem?.mp ha
    exact ⟨⟨i, file, n⟩, g, hi, hc, hf, hn⟩
  case mpr =>
    rintro ⟨site, g, hg, hc, hf, ha⟩
    exact ⟨g, ⟨List.mem_of_getElem? hg, hc⟩, site.file, hf, List.mem_of_getElem? ha⟩

-- In a list of lists the first match is the first one of the first list that has any.
theorem find?_flatMap_eq_some {β : Type} {l : List β} {f : β → List α} (h : (l.flatMap f).find? p = some a) :
    ∃ before b after, l = before ++ b :: after ∧ (f b).find? p = some a ∧ ∀ c ∈ before, ∀ a ∈ f c, ¬p a := by
  rw [List.find?_flatMap] at h
  have ⟨before, b, after, hl, hf, hn⟩ := List.findSome?_eq_some_iff.mp h
  exact ⟨before, b, after, hl, hf, fun c hc => by simpa using hn c hc⟩

theorem traversal_eq_flatMap : traversal groups category items =
    groups.flatMap fun g => if g.category = category then (sortPaths g.files).flatMap (items g) else [] := by
  unfold traversal
  induction groups
  case nil            => rfl
  case cons g groups ih => by_cases hg : g.category = category <;> simp [hg, ih]

theorem traverses_definitions (groups : List ResourceGroup) (category : Category)
    (items : ResourceGroup → Path → List α) :
    Traverses (Defines groups category items) (traversal groups category items) where
  mem_iff _ := mem_traversal_iff
  first p a h := by
    rw [traversal_eq_flatMap] at h
    obtain ⟨above, g, below, rfl, h, hgroups⟩ := find?_flatMap_eq_some h
    by_cases hc : g.category = category
    case neg => rw [if_neg hc] at h; cases h
    case pos =>
      rw [if_pos hc] at h
      have ⟨before, file, after, hs, h, hfiles⟩ := find?_flatMap_eq_some h
      have ⟨hp, n, hn, ha, hitems⟩ := List.find?_eq_some_iff_getElem.mp h
      have hf : file ∈ g.files := mem_sortBy.mp (hs ▸ List.mem_append_cons_self)
      refine ⟨⟨above.length, file, n⟩, ⟨g, by simp, hc, hf, ha ▸ List.getElem?_eq_getElem hn⟩, ?_⟩
      intro ⟨i, file', n'⟩ b ⟨g', hg', hc', hf', hb⟩ hpb
      dsimp only at hg' hf' hb
      -- Nothing that matches stands in a group, in a file or at a place before this one.
      rcases Nat.lt_trichotomy i above.length with hi | rfl | hi
      case inl =>
        rw [List.getElem?_append_left hi] at hg'
        refine absurd hpb (hgroups g' (List.mem_of_getElem? hg') b ?_)
        rw [if_pos hc']
        exact List.mem_flatMap.mpr ⟨file', mem_sortBy.mpr hf', List.mem_of_getElem? hb⟩
      case inr.inr => exact .inl hi
      case inr.inl =>
        have hgg : g = g' := by simpa using hg'
        subst hgg
        have hm : file' ∈ before ++ file :: after := hs ▸ mem_sortBy.mpr hf'
        rcases List.mem_append.mp hm with hm | hm
        case inl => exact absurd hpb (hfiles file' hm b (List.mem_of_getElem? hb))
        case inr =>
          have hle : file ≤ file' := by
            rcases List.mem_cons.mp hm with rfl | hm
            case inl => exact List.le_refl _
            case inr =>
              have hsorted := hs ▸ pairwise_sortPaths g.files
              exact (List.pairwise_cons.mp (List.pairwise_append.mp hsorted).2.1).1 file' hm
          refine .inr ⟨rfl, hle, fun hfile => ?_⟩
          subst hfile
          by_contra hlt
          have hlt : n' < n := by simpa using hlt
          have hn' := hitems n' hlt
          rw [List.getElem?_eq_getElem (Nat.lt_trans hlt hn)] at hb
          cases hb
          simp [hpb] at hn'

-- One accessor for each function name that what is defined asks for, by name, and made from the
-- first of them by name and site.
structure Chosen (name function : α → String) (D : Site → α → Prop) (accessors : List α) : Prop where
  sorted   : accessors.Pairwise (name · ≤ name ·)
  distinct : (accessors.map function).Nodup
  covers   : ∀ f, f ∈ accessors.map function ↔ ∃ site a, D site a ∧ function a = f
  first    : ∀ a ∈ accessors, ∃ site, D site a ∧ ∀ site' b, D site' b → function b = function a →
    name a < name b ∨ name a = name b ∧ site ≤ site'

theorem map_fst_markFirst (seen : List String) : (markFirst key seen l).map Prod.fst = l := by
  induction l generalizing seen
  case nil         => rfl
  case cons a l ih => unfold markFirst; split <;> simp [ih]

theorem firsts_sublist : (firsts key l).Sublist l := by
  have h := (List.filter_sublist (p := Prod.snd) (l := markFirst key [] l)).map Prod.fst
  rwa [map_fst_markFirst] at h

theorem nodup_markFirst (seen : List String) :
    ((((markFirst key seen l).filter Prod.snd).map Prod.fst).map key).Nodup ∧
      ∀ k ∈ (((markFirst key seen l).filter Prod.snd).map Prod.fst).map key, k ∉ seen := by
  induction l generalizing seen
  case nil         => simp [markFirst]
  case cons a l ih =>
    unfold markFirst
    split
    case isTrue     => simpa using ih seen
    case isFalse hs =>
      obtain ⟨hn, hm⟩ := ih (key a :: seen)
      simp only [List.filter_cons_of_pos, List.map_cons, List.nodup_cons, List.forall_mem_cons]
      refine ⟨⟨fun ha => hm _ ha List.mem_cons_self, hn⟩, by simpa using hs, fun k hk hk' => ?_⟩
      exact hm k hk (List.mem_cons_of_mem _ hk')

theorem nodup_firsts : ((firsts key l).map key).Nodup :=
  (nodup_markFirst []).left

-- Of the elements with a property, a sorted list finds the one that the list finds among those of
-- the least name.
theorem find?_of_sortByName [DecidableEq α] (h : (sortByName name l).find? p = some a) :
    l.find? (fun b => p b && name b = name a) = some a ∧ ∀ b ∈ l, p b → name a ≤ name b := by
  have ⟨ha, hp, hb⟩ := find?_sortByName_eq_some_iff.mp h
  constructor
  case left =>
    refine find?_eq_some_iff_idxOf.mpr ⟨ha, by simp [hp], fun b hm hpb hne => ?_⟩
    have ⟨hpb, hn⟩ : p b ∧ name b = name a := by simpa using hpb
    exact (hb b hm hpb hne).elim (fun h => absurd (hn ▸ h) (String.lt_irrefl _)) And.right
  case right =>
    refine fun b hm hpb => ?_
    by_cases hne : b = a
    case pos => exact hne ▸ String.le_refl _
    case neg =>
      rcases hb b hm hpb hne with h | ⟨h, _⟩
      case inl => exact String.not_lt.mp (String.lt_asymm h)
      case inr => exact h ▸ String.le_refl _

theorem chosen_firsts [DecidableEq α] {D : Site → α → Prop} (h : Traverses D l) :
    Chosen name key D (firsts key (sortByName name l)) where
  sorted   := ((pairwise_sortBy (byName_trans name) (byName_total name) l).imp of_decide_eq_true).sublist firsts_sublist
  distinct := nodup_firsts
  covers f := by
    rw [List.mem_map, exists_mem_firsts_iff]
    simp only [sortByName, mem_sortBy, h.mem_iff]
    constructor
    case mp  => exact fun ⟨a, ⟨site, hd⟩, hf⟩ => ⟨site, a, hd, hf⟩
    case mpr => exact fun ⟨site, a, hd, hf⟩ => ⟨a, ⟨site, hd⟩, hf⟩
  first a ha := by
    have ⟨hfind, hle⟩ := find?_of_sortByName (mem_firsts_iff.mp ha)
    have ⟨site, hd, hs⟩ := h.first _ a hfind
    refine ⟨site, hd, fun site' b hb hf => ?_⟩
    have hn := hle b ((h.mem_iff b).mpr ⟨site', hb⟩) (by simpa using hf)
    by_cases hlt : name a < name b
    case pos => exact .inl hlt
    case neg =>
      have hn : name a = name b := String.le_antisymm hn (String.not_lt.mp hlt)
      exact .inr ⟨hn, hs site' b hb (by simp [hf, hn])⟩

def entriesIn (d : Disk) (g : ResourceGroup) (p : Path) : List Entry :=
  (valuesAt d p).map (⟨g.owner, ·⟩)

def drawablesIn (g : ResourceGroup) (p : Path) : List Drawable :=
  [⟨g.owner, resourceBaseName p⟩]

-- Every value document of the groups can be read.
def Parsed (d : Disk) (groups : List ResourceGroup) : Prop :=
  ∀ g ∈ groups, g.category = .values → ∀ p ∈ g.files, ∃ values, Definition.read d p = .ok values

theorem result_readEntries_documents {strict : Bool} (h : Parsed d groups) :
    (readEntries strict (documents groups)).result d = .ok (traversal groups .values (entriesIn d), []) := by
  rw [result_readEntries (forall_mem_documents.mpr h)]
  simp only [documents, traversal, List.flatMap_assoc, List.flatMap_map]
  rfl

theorem drawables_eq_traversal : drawables groups = traversal groups .drawables drawablesIn := by
  unfold drawables traversal drawablesIn
  simp only [← List.map_eq_flatMap]

-- Each kind that occurs has one block, by label, and the blocks have what is chosen.
structure Blocks.Cover (d : Disk) (groups : List ResourceGroup) (b : Blocks) : Prop where
  ascending : b.kinds.Pairwise (·.label < ·.label)
  occurs    : ∀ k, k ∈ b.kinds ↔ ∃ site e, Defines groups .values (entriesIn d) site e ∧ e.value.kind = k
  values    : ∀ k, Chosen (·.value.name) Entry.function
    (fun site e => Defines groups .values (entriesIn d) site e ∧ e.value.kind = k) (b.accessors k)
  drawn     : b.assets ≠ [] ↔ ∃ g ∈ groups, g.category = .drawables ∧ g.files ≠ []
  drawables : Chosen Drawable.name Drawable.function (Defines groups .drawables drawablesIn) b.assets

theorem pairwise_label_all : Kind.all.Pairwise (·.label < ·.label) := by
  decide +kernel

theorem mem_occurringKinds_iff {entries : List Entry} :
    kind ∈ occurringKinds entries ↔ ∃ e ∈ entries, e.value.kind = kind := by
  simp [occurringKinds, Kind.mem_all]

theorem drawables_ne_nil_iff : drawables groups ≠ [] ↔ ∃ g ∈ groups, g.category = .drawables ∧ g.files ≠ [] := by
  simp only [Ne, List.eq_nil_iff_forall_not_mem, not_forall, not_not]
  simp only [drawables, sortPaths, List.mem_flatMap, List.mem_filter, List.mem_map, mem_sortBy, decide_eq_true_eq]
  constructor
  case mp  => rintro ⟨_, g, ⟨hg, hc⟩, p, hp, _⟩; exact ⟨g, hg, hc, p, hp⟩
  case mpr => rintro ⟨g, hg, hc, p, hp⟩; exact ⟨_, g, ⟨hg, hc⟩, p, hp, rfl⟩

-- What the blocks of the class hold.
theorem cover_blocks : (blocks (traversal groups .values (entriesIn d)) (drawables groups)).Cover d groups := by
  constructor
  case ascending => exact pairwise_label_all.sublist List.filter_sublist
  case occurs    =>
    intro k
    change k ∈ occurringKinds _ ↔ _
    simp only [mem_occurringKinds_iff, mem_traversal_iff]
    exact ⟨fun ⟨e, ⟨site, hd⟩, hk⟩ => ⟨site, e, hd, hk⟩, fun ⟨site, e, hd, hk⟩ => ⟨e, ⟨site, hd⟩, hk⟩⟩
  case values    =>
    intro k
    have ht := (traverses_definitions groups .values (entriesIn d)).filter (·.value.kind = k)
    simp only [decide_eq_true_eq] at ht
    exact chosen_firsts ht
  case drawn     => exact emittedDrawables_eq_nil_iff.not.trans drawables_ne_nil_iff
  case drawables =>
    rw [drawables_eq_traversal]
    exact chosen_firsts (traverses_definitions groups .drawables drawablesIn)

-- From documents that can all be read a class is made whose blocks cover what they define, whether
-- malformed ones would have been passed over or not, and its text tells what the blocks are.
theorem generate_complete (options : Options) (package : String) (h : Parsed d groups) :
    ∃ b : Blocks, b.Cover d groups ∧ ∃ text, (generate options package groups).result d = .ok ⟨text, []⟩ ∧
      b.outline.Tells package text := by
  have hr : (generate options package groups).result d =
      .ok ⟨render package (traversal groups .values (entriesIn d)) (drawables groups), []⟩ := by
    rw [result_generate, result_readEntries_documents h]
    rfl
  exact ⟨blocks (traversal groups .values (entriesIn d)) (drawables groups), cover_blocks, _, hr, tells_render ..⟩

-- Three strings of one module and one of another share a function name up to the module.
def rivalsDisk : Disk where
  entries :=
    [(["a.xml"], .file (Text.Utf8.encode "<r><string name=\"foo_bar\"/><string name=\"fooBar\"/></r>".toList) 0),
     (["b.xml"], .file (Text.Utf8.encode "<r><string name=\"foo.bar\"/><color name=\"c\"/></r>".toList) 0)]

def rivalGroups : List ResourceGroup :=
  [⟨.values, ⟨"", "com.example"⟩, [⟨.root, ["b.xml"]⟩, ⟨.root, ["a.xml"]⟩]⟩,
   ⟨.drawables, ⟨"", "com.example"⟩, [⟨.root, ["c.png"]⟩, ⟨.root, ["c.xml"]⟩]⟩,
   ⟨.values, ⟨"lib", "com.lib"⟩, [⟨.root, ["a.xml"]⟩]⟩]

theorem parsed_rivals : Parsed rivalsDisk rivalGroups := by
  have hr : ∀ g ∈ rivalGroups, g.category = .values → ∀ p ∈ g.files,
      (Definition.read rivalsDisk p).toOption.isSome := by decide +kernel
  intro g hg hc p hp
  have hr := hr g hg hc p hp
  cases hv : Definition.read rivalsDisk p
  case error => rw [hv] at hr; cases hr
  case ok    => exact ⟨_, rfl⟩

theorem rivals_complete : Parsed rivalsDisk rivalGroups ∧ ∃ b : Blocks, b.Cover rivalsDisk rivalGroups ∧
    ∃ text, (generate {} "com.example" rivalGroups).result rivalsDisk = .ok ⟨text, []⟩ ∧
      b.outline.Tells "com.example" text :=
  ⟨parsed_rivals, generate_complete {} "com.example" parsed_rivals⟩

end TypedResources.ClassFile
