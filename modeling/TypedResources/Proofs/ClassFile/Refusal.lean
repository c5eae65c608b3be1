import TypedResources.Proofs.ClassFile.Leniency
import TypedResources.Proofs.Disk.Writes
import TypedResources.Proofs.Xml.Encoding

-- Documents that nobody reports. What a document holds is its resources or it is malformed, and then
-- the document is reported by its path, unless its declaration names an encoding that is refused. So
-- a class is made leniently from any documents but these, and the first of them in the order of reading
-- is what the class fails by (`lenient_generate_returns_iff`).

namespace TypedResources

variable {d : Disk} {p q : Path} {bytes : Bytes} {f : Failure} {fault : Xml.Fault} {groups : List ResourceGroup}
  {docs : List (ModuleId × Path)}

namespace Definition

-- What a document fails by when it cannot be parsed.
def failure (p : Path) : Xml.Failure → Failure
  | .malformed fault        => .badDocument p fault
  | .unreadable reason name => .unreadableEncoding reason name

-- What a document fails by if its declaration names an encoding that is refused.
def refusal? (d : Disk) (p : Path) : Option Failure :=
  match d.readBytes p with
  | .ok bytes => do
    let name ← Xml.encodingName? bytes
    let reason ← Xml.refusal? name
    return .unreadableEncoding reason (String.ofList name)
  | .error _  => none

-- The document gives its resources or is reported by its path.
def Reported (d : Disk) (p : Path) : Prop :=
  (∃ values, read d p = .ok values) ∨ ∃ fault, read d p = .error (.badDocument p fault)

theorem read_of_readBytes (h : d.readBytes p = .ok bytes) : read d p =
    match Xml.parse bytes with
    | .ok root => .ok (resources root)
    | .error f => .error (failure p f) := by
  rw [read, h]
  dsimp only
  rcases Xml.parse bytes with (_ | _) | _ <;> rfl

theorem exists_of_refusal? (h : refusal? d p = some f) : ∃ bytes name reason, d.readBytes p = .ok bytes ∧
    Xml.encodingName? bytes = some name ∧ Xml.refusal? name = some reason ∧
    f = .unreadableEncoding reason (String.ofList name) := by
  unfold refusal? at h
  split at h
  case h_2          => cases h
  case h_1 bytes hr =>
    obtain ⟨name, hn, h⟩ := Option.bind_eq_some_iff.mp h
    obtain ⟨reason, hi, h⟩ := Option.bind_eq_some_iff.mp h
    exact ⟨bytes, name, reason, hr, hn, hi, (Option.some.inj h).symm⟩

theorem read_of_refusal? (h : refusal? d p = some f) : read d p = .error f := by
  obtain ⟨bytes, name, reason, hr, hn, hi, rfl⟩ := exists_of_refusal? h
  rw [read_of_readBytes hr, Xml.parse_of_refusal? hn hi]
  rfl

theorem ne_badDocument_of_refusal? (h : refusal? d p = some f) : f ≠ .badDocument q fault := by
  obtain ⟨-, -, -, -, -, -, rfl⟩ := exists_of_refusal? h
  exact nofun

theorem reported_of_refusal?_eq_none (hf : d.isFile p) (h : refusal? d p = none) : Reported d p := by
  obtain ⟨bytes, hr⟩ := Disk.exists_readBytes hf
  have hn : ∀ name ∈ Xml.encodingName? bytes, Xml.refusal? name = none := by
    intro name hname
    refine Option.eq_none_iff_forall_ne_some.mpr fun reason hi => ?_
    simp [refusal?, hr, Option.mem_def.mp hname, hi] at h
  rw [Reported, read_of_readBytes hr]
  cases hp : Xml.parse bytes
  case ok      => exact .inl ⟨_, rfl⟩
  case error f =>
    obtain ⟨fault, rfl⟩ := Xml.onlyMalformed_parse hn f hp
    exact .inr ⟨fault, rfl⟩

theorem reported_iff (hf : d.isFile p) : Reported d p ↔ refusal? d p = none := by
  refine ⟨fun h => Option.eq_none_iff_forall_ne_some.mpr fun f hr => ?_, reported_of_refusal?_eq_none hf⟩
  have hread := read_of_refusal? hr
  rcases h with ⟨values, h⟩ | ⟨fault, h⟩
  case inl => cases h.symm.trans hread
  case inr => exact ne_badDocument_of_refusal? hr (Except.error.inj (hread.symm.trans h))

end Definition

namespace ClassFile

open Definition (Reported refusal?)

-- Of what ends a lenient reading at a file only the refusal is left.
theorem failureAt?_lenient (hf : d.isFile p) : failureAt? false d p = refusal? d p := by
  cases hr : refusal? d p
  case none   =>
    rcases Definition.reported_of_refusal?_eq_none hf hr with ⟨values, h⟩ | ⟨fault, h⟩
    case inl => rw [failureAt?, h]
    case inr => rw [failureAt?, h]; rfl
  case some f =>
    rw [failureAt?, Definition.read_of_refusal? hr]
    cases f
    case badDocument => exact absurd rfl (Definition.ne_badDocument_of_refusal? hr)
    all_goals rfl

theorem findSome?_failureAt?_lenient (hf : ∀ doc ∈ docs, d.isFile doc.2) :
    (docs.findSome? fun doc => failureAt? false d doc.2) = docs.findSome? fun doc => refusal? d doc.2 := by
  have h : (docs.map fun doc => failureAt? false d doc.2) = docs.map fun doc => refusal? d doc.2 :=
    List.map_congr_left fun doc hd => failureAt?_lenient (hf doc hd)
  simpa only [List.findSome?_map, Function.id_comp] using congrArg (List.findSome? id) h

-- Every file is reported but for those in an encoding that is refused, and these are all that keeps
-- a class from being made leniently.
theorem lenient_generate_returns_iff (language package : String)
    (hf : ∀ g ∈ groups, g.category = .values → ∀ p ∈ g.files, d.isFile p) :
    (∀ p, d.isFile p → (Reported d p ↔ refusal? d p = none) ∧
      ∀ f, refusal? d p = some f → Definition.read d p = .error f) ∧
    ((∃ made, (generate ⟨false, language⟩ package groups).result d = .ok made ∧ made.skipped = malformedIn d groups) ↔
      ∀ doc ∈ documents groups, refusal? d doc.2 = none) ∧
    ∀ f, (documents groups).findSome? (fun doc => refusal? d doc.2) = some f →
      (generate ⟨false, language⟩ package groups).result d = .error f := by
  have hr := findSome?_failureAt?_lenient (forall_mem_documents.mpr hf)
  have herror : ∀ f, (documents groups).findSome? (fun doc => refusal? d doc.2) = some f →
      (generate ⟨false, language⟩ package groups).result d = .error f := by
    intro f hs
    rw [result_generate, result_readEntries_eq, hr, hs]
    rfl
  refine ⟨fun p hp => ⟨Definition.reported_iff hp, fun f => Definition.read_of_refusal?⟩, ?_, herror⟩
  rw [← List.findSome?_eq_none_iff]
  constructor
  case mp =>
    rintro ⟨made, hmade, -⟩
    refine Option.eq_none_iff_forall_ne_some.mpr fun f hs => ?_
    cases hmade.symm.trans (herror f hs)
  case mpr =>
    intro hs
    rw [result_generate, result_readEntries_eq, hr, hs, filterMap_documents]
    exact ⟨_, rfl, rfl⟩

def documentDisk (content : Bytes) : Disk where
  entries := [(["a.xml"], .file [] 0), (["b.xml"], .file [0xFF, 0xFE] 0), (["c.xml"], .file content 0)]

def documentGroups : List ResourceGroup :=
  [⟨.values, ⟨"", "com.example"⟩, [⟨.root, ["a.xml"]⟩, ⟨.root, ["b.xml"]⟩, ⟨.root, ["c.xml"]⟩]⟩]

-- An empty file and one that ends with its mark are passed over, and an old encoding is read.
def latinDisk : Disk :=
  documentDisk (Text.Utf8.encode "<?xml version='1.0' encoding='iso-8859-2'?><r><string name='a'>".toList ++ [0xB1] ++
    Text.Utf8.encode "</string></r>".toList)

theorem latin_generate_returns :
    (∀ g ∈ documentGroups, g.category = .values → ∀ p ∈ g.files, latinDisk.isFile p) ∧
    ∃ made, (generate ⟨false, "en"⟩ "com.example" documentGroups).result latinDisk = .ok made ∧
      made.skipped = malformedIn latinDisk documentGroups := by
  have hf : ∀ g ∈ documentGroups, g.category = .values → ∀ p ∈ g.files, latinDisk.isFile p := by decide +kernel
  exact ⟨hf, (lenient_generate_returns_iff "en" "com.example" hf).right.left.mpr (by decide +kernel)⟩

def klingonDisk : Disk :=
  documentDisk (Text.Utf8.encode "<?xml version=\"1.0\" encoding=\"klingon\"?><resources/>".toList)

-- A document in an encoding that nobody knows is not reported, and it is not passed over.
theorem klingon_document_fails :
    klingonDisk.isFile ⟨.root, ["c.xml"]⟩ ∧ ¬Reported klingonDisk ⟨.root, ["c.xml"]⟩ ∧
    (generate ⟨false, "en"⟩ "com.example" documentGroups).result klingonDisk =
      .error (.unreadableEncoding .unknown "klingon") := by
  have hi : klingonDisk.isFile ⟨.root, ["c.xml"]⟩ := by decide +kernel
  refine ⟨hi, fun h => ?_, ?_⟩
  case refine_1 =>
    have hn := (Definition.reported_iff hi).mp h
    have hs : refusal? klingonDisk ⟨.root, ["c.xml"]⟩ = some (.unreadableEncoding .unknown "klingon") := by decide +kernel
    cases hs.symm.trans hn
  case refine_2 => decide +kernel

end ClassFile

end TypedResources
