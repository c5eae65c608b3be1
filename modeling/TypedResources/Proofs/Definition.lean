import Mathlib.Data.List.Forall2
import TypedResources.Definition
import TypedResources.Proofs.Text.Trim

-- What the records of a value document say. There is one for each child of the root that names a resource
-- of a known kind, in their order (`records_exact`).

namespace TypedResources.Definition

open Text

variable {tag : List Char} {k : Kind} {element item root : Xml.Node} {v : ValueResource} {d : Disk} {p : Path}
  {bytes : Bytes}

-- The name of the elements that define resources of a kind.
def elementTag : Kind → String
  | .array       => "array"
  | .boolean     => "bool"
  | .color       => "color"
  | .dimension   => "dimen"
  | .fraction    => "fraction"
  | .intArray    => "integer-array"
  | .integer     => "integer"
  | .plural      => "plurals"
  | .string      => "string"
  | .stringArray => "string-array"

theorem kindOf?_elementTag (k : Kind) : kindOf? (elementTag k).toList = some k := by
  rw [kindOf?, String.ofList_toList]
  cases k <;> rfl

theorem kindOf?_eq_some_iff : kindOf? tag = some k ↔ tag = (elementTag k).toList := by
  constructor
  case mp  =>
    intro h
    unfold kindOf? at h
    split at h <;> cases h
    all_goals exact String.ofList_injective (by rw [String.ofList_toList]; assumption)
  case mpr =>
    rintro rfl
    exact kindOf?_elementTag k

-- An element of a known tag, with a name that is not blank.
def isDefinition (element : Xml.Node) : Bool :=
  Kind.all.any (fun k => element.localName? = some (elementTag k).toList) &&
    !(element.get "name".toList).all isBlank

-- An item that has a quantity, be it a blank one.
def isItem (item : Xml.Node) : Bool :=
  item.localName? = some "item".toList && item.get "quantity".toList ≠ []

def quantityOf (item : Xml.Node) : List Char :=
  trim (item.get "quantity".toList)

-- The record says what its element says.
structure Describes (element : Xml.Node) (v : ValueResource) : Prop where
  kind          : element.localName? = some (elementTag v.kind).toList
  name          : v.name.toList = trim (element.get "name".toList)
  parameterized : v.parameterized = (v.kind = .string && hasPlaceholder element.allText)
  quantities    : v.quantities.map String.toList =
    if v.kind = .plural then (element.children.filter isItem).map quantityOf else []

-- What all records have in common.
structure WellFormed (v : ValueResource) : Prop where
  named         : v.name ≠ ""
  trimmed       : Trimmed v.name.toList
  parameterized : v.parameterized → v.kind = .string
  plural        : v.quantities ≠ [] → v.kind = .plural
  quantities    : ∀ quantity ∈ v.quantities, Trimmed quantity.toList

theorem isDefinition_iff : isDefinition element ↔
    (∃ k, element.localName? = some (elementTag k).toList) ∧ trim (element.get "name".toList) ≠ [] := by
  simp [isDefinition, Kind.mem_all, trim_eq_nil_iff]

theorem quantities_eq (children : List Xml.Node) :
    quantities children = (children.filter isItem).map fun item => String.ofList (quantityOf item) := by
  rw [← List.filterMap_eq_map, List.filterMap_filter]
  rfl

-- The record of an element that defines a resource of a kind.
def recordOf (k : Kind) (element : Xml.Node) : ValueResource where
  name          := String.ofList (trim (element.get "name".toList))
  kind          := k
  parameterized := k = .string && hasPlaceholder element.allText
  quantities    := if k = .plural then quantities element.children else []

theorem resource?_of_tag (h : element.localName? = some (elementTag k).toList) :
    resource? element = if trim (element.get "name".toList) = [] then none else some (recordOf k element) := by
  unfold resource? recordOf
  rw [h, Option.bind_eq_bind, Option.bind_some, kindOf?_elementTag]
  generalize trim (element.get "name".toList) = name
  cases name
  case nil  => rfl
  case cons => cases k <;> rfl

theorem resource?_of_no_tag (h : ¬∃ k, element.localName? = some (elementTag k).toList) :
    resource? element = none := by
  unfold resource?
  cases ht : element.localName?
  case none => rfl
  case some tag =>
    cases hk : kindOf? tag
    case none   => rw [Option.bind_eq_bind, Option.bind_some, hk]; rfl
    case some k => exact absurd ⟨k, by rw [ht, kindOf?_eq_some_iff.mp hk]⟩ h

theorem describes_recordOf (h : element.localName? = some (elementTag k).toList) :
    Describes element (recordOf k element) where
  kind          := h
  name          := String.toList_ofList
  parameterized := rfl
  quantities    := by
    rw [recordOf]
    dsimp only
    split
    case isTrue  => simp [quantities_eq, Function.comp_def]
    case isFalse => rfl

theorem exists_resource (h : isDefinition element) : ∃ v, resource? element = some v ∧ Describes element v := by
  obtain ⟨⟨k, hk⟩, hn⟩ := isDefinition_iff.mp h
  exact ⟨recordOf k element, by rw [resource?_of_tag hk, if_neg hn], describes_recordOf hk⟩

theorem resource?_of_not_isDefinition (h : ¬isDefinition element) : resource? element = none := by
  by_cases hk : ∃ k, element.localName? = some (elementTag k).toList
  case neg => exact resource?_of_no_tag hk
  case pos =>
    have hn := not_not.mp (fun hn => h (isDefinition_iff.mpr ⟨hk, hn⟩))
    obtain ⟨k, hk⟩ := hk
    rw [resource?_of_tag hk, if_pos hn]

theorem exists_of_mem_resources (h : v ∈ resources root) :
    ∃ element ∈ root.children, isDefinition element ∧ resource? element = some v ∧ Describes element v := by
  obtain ⟨element, he, hr⟩ := List.mem_filterMap.mp h
  have hi : isDefinition element := by
    by_contra hi
    cases (resource?_of_not_isDefinition hi).symm.trans hr
  obtain ⟨v', hr', hd⟩ := exists_resource hi
  cases hr.symm.trans hr'
  exact ⟨element, he, hi, hr, hd⟩

theorem forall₂_resources (root : Xml.Node) :
    List.Forall₂ Describes (root.children.filter isDefinition) (resources root) := by
  unfold resources
  induction root.children
  case nil               => exact .nil
  case cons element rest ih =>
    by_cases h : isDefinition element
    case pos =>
      obtain ⟨v, hv, hd⟩ := exists_resource h
      rw [List.filter_cons_of_pos h, List.filterMap_cons_some hv]
      exact .cons hd ih
    case neg =>
      rw [List.filter_cons_of_neg h, List.filterMap_cons_none (resource?_of_not_isDefinition h)]
      exact ih

-- A plural with an item whose quantity is there, but blank.
def HasBlankQuantity (element : Xml.Node) : Prop :=
  element.localName? = some "plurals".toList ∧
    ∃ item ∈ element.children, isItem item ∧ ∀ c ∈ item.get "quantity".toList, isBlank c

namespace Describes

theorem wellFormed (h : Describes element v) (hn : trim (element.get "name".toList) ≠ []) : WellFormed v where
  named         := fun he => hn (h.name ▸ he ▸ rfl)
  trimmed       := h.name ▸ trimmed_trim
  parameterized := fun hp => of_decide_eq_true (Bool.and_eq_true_iff.mp (h.parameterized ▸ hp)).left
  plural        := fun hq => by
    by_contra hk
    have hs := h.quantities
    rw [if_neg hk, List.map_eq_nil_iff] at hs
    exact hq hs
  quantities    := fun quantity hq => by
    have hm := List.mem_map_of_mem (f := String.toList) hq
    rw [h.quantities] at hm
    split at hm
    case isTrue  =>
      obtain ⟨item, -, hi⟩ := List.mem_map.mp hm
      exact hi ▸ trimmed_trim
    case isFalse => contradiction

theorem empty_mem_iff (h : Describes element v) : "" ∈ v.quantities ↔ HasBlankQuantity element := by
  have he : "" ∈ v.quantities ↔ [] ∈ v.quantities.map String.toList := by
    simp [String.toList_eq_nil_iff]
  have hk : v.kind = .plural ↔ element.localName? = some "plurals".toList := by
    constructor
    case mp  => exact fun hk => by rw [h.kind, hk]; rfl
    case mpr =>
      intro ht
      have hp := kindOf?_eq_some_iff.mpr (Option.some.inj (ht.symm.trans h.kind))
      exact Option.some.inj (hp.symm.trans (kindOf?_elementTag .plural))
  rw [he, h.quantities, HasBlankQuantity, ← hk]
  split
  case isTrue hp  => simp [hp, quantityOf, trim_eq_nil_iff, and_assoc]
  case isFalse hp => simp [hp]

end Describes

theorem quantities_named_iff (root : Xml.Node) : (∀ v ∈ resources root, "" ∉ v.quantities) ↔
    ∀ element ∈ root.children, isDefinition element → ¬HasBlankQuantity element := by
  constructor
  case mp  =>
    intro h element he hi
    obtain ⟨v, hv, hd⟩ := exists_resource hi
    exact fun hb => h v (List.mem_filterMap.mpr ⟨element, he, hv⟩) (hd.empty_mem_iff.mpr hb)
  case mpr =>
    intro h v hv
    obtain ⟨element, he, hi, -, hd⟩ := exists_of_mem_resources hv
    exact fun hm => h element he hi (hd.empty_mem_iff.mp hm)

theorem read_eq_ok_iff {records : List ValueResource} : read d p = .ok records ↔
    ∃ bytes root, d.readBytes p = .ok bytes ∧ Xml.parse bytes = .ok root ∧ resources root = records := by
  unfold read
  cases d.readBytes p
  case error    => simp
  case ok bytes =>
    cases hp : Xml.parse bytes
    case ok root => simp [hp]
    case error f => cases f <;> simp [hp]

theorem records_exact (d : Disk) (p : Path) :
    (∀ records, read d p = .ok records ↔
      ∃ bytes root, d.readBytes p = .ok bytes ∧ Xml.parse bytes = .ok root ∧ resources root = records) ∧
    ∀ root,
      List.Forall₂ Describes (root.children.filter isDefinition) (resources root) ∧
      (∀ v ∈ resources root, WellFormed v) ∧
      ((∀ v ∈ resources root, "" ∉ v.quantities) ↔
        ∀ element ∈ root.children, isDefinition element → ¬HasBlankQuantity element) := by
  refine ⟨fun _ => read_eq_ok_iff, fun root => ⟨forall₂_resources root, fun v hv => ?_, quantities_named_iff root⟩⟩
  obtain ⟨element, -, hi, -, hd⟩ := exists_of_mem_resources hv
  exact hd.wellFormed (isDefinition_iff.mp hi).right

def pluralDocument : Path := ⟨.root, ["c.xml"]⟩

def documentDisk (text : String) : Disk where
  entries := [(["c.xml"], .file (Text.Utf8.encode text.toList) 0)]

-- An item without a quantity is left out, but not one with a blank quantity.
theorem blank_quantity_recorded : read
      (documentDisk "<resources><plurals name=\"p\"><item/><item quantity=\" \">x</item></plurals></resources>")
      pluralDocument = .ok [⟨"p", .plural, false, [""]⟩] := by
  decide +kernel

end TypedResources.Definition
