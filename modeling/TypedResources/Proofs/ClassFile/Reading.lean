import TypedResources.ClassFile.Basic
import TypedResources.Proofs.Query

-- Reading documents and making a class from them are steady queries, and the text of the class begins
-- with its package.

namespace TypedResources.ClassFile

variable {d : Disk} {docs : List (ModuleId × Path)} {p q : Path} {fault : Xml.Fault}

theorem steady_readEntries (strict : Bool) (docs : List (ModuleId × Path)) :
    (readEntries strict docs).Steady := by
  induction docs
  case nil            => exact Query.steady_pure _
  case cons doc docs ih =>
    refine Query.steady_read.bind fun d => ?_
    split
    case h_1 => exact ih.bind fun _ => Query.steady_pure _
    case h_3 => exact Query.steady_throw _
    case h_2 =>
      cases strict
      case true  => exact (Query.steady_throw _).bind fun _ =>
        (Query.steady_log _ _ _).bind fun _ => ih.bind fun _ => Query.steady_pure _
      case false => exact (Query.steady_log _ _ _).bind fun _ => ih.bind fun _ => Query.steady_pure _

-- What reading one more document comes to.
theorem result_readEntries_cons (strict : Bool) (owner : ModuleId) (p : Path) (docs : List (ModuleId × Path)) :
    (readEntries strict ((owner, p) :: docs)).result d =
      match Definition.read d p with
      | .ok values =>
        ((readEntries strict docs).result d).map fun (entries, skipped) =>
          (values.map (⟨owner, ·⟩) ++ entries, skipped)
      | .error (.badDocument q fault) =>
        if strict then .error (.badDocument q fault)
        else ((readEntries strict docs).result d).map fun (entries, skipped) => (entries, ⟨q, fault⟩ :: skipped)
      | .error f => .error f := by
  have hs := steady_readEntries strict docs
  rw [readEntries, Query.result_read_bind]
  dsimp only
  cases Definition.read d p
  case ok values =>
    refine (Query.result_bind fun _ => Query.steady_pure _).trans ?_
    cases (readEntries strict docs).result d <;> rfl
  case error f =>
    cases f
    case badDocument q fault =>
      cases strict
      case true  => rfl
      case false =>
        refine (Query.result_log_bind (hs.bind fun _ => Query.steady_pure _)).trans ?_
        rw [Query.result_bind fun _ => Query.steady_pure _]
        cases (readEntries false docs).result d <;> rfl
    all_goals rfl

-- The resources of a document, if it can be read.
def valuesAt (d : Disk) (p : Path) : List ValueResource :=
  (Definition.read d p).toOption.getD []

-- What is wrong with a document that is malformed.
def malformation? (d : Disk) (p : Path) : Option Xml.Fault :=
  match Definition.read d p with
  | .error (.badDocument _ fault) => some fault
  | _                             => none

-- The document as it is listed when it is skipped.
def skippedAt? (d : Disk) (p : Path) : Option SkippedDocument :=
  (malformation? d p).map (⟨p, ·⟩)

-- A malformed document is reported by its own path.
theorem path_of_badDocument (h : Definition.read d p = .error (.badDocument q fault)) : q = p := by
  unfold Definition.read at h
  split at h
  case h_1 => cases h
  case h_2 => split at h <;> cases h; rfl

-- What ends the reading at a document. A malformed one does so if the reading is strict.
def failureAt? (strict : Bool) (d : Disk) (p : Path) : Option Failure :=
  match Definition.read d p with
  | .ok _                         => none
  | .error (.badDocument q fault) => if strict then some (.badDocument q fault) else none
  | .error f                      => some f

-- Documents are read up to the first one that ends the reading.
theorem result_readEntries_eq (strict : Bool) (docs : List (ModuleId × Path)) : (readEntries strict docs).result d =
    match docs.findSome? fun doc => failureAt? strict d doc.2 with
    | some f => .error f
    | none   => .ok (docs.flatMap fun doc => (valuesAt d doc.2).map (⟨doc.1, ·⟩),
        docs.filterMap fun doc => skippedAt? d doc.2) := by
  induction docs
  case nil            => rfl
  case cons doc docs ih =>
    obtain ⟨owner, p⟩ := doc
    rw [result_readEntries_cons, ih, List.findSome?_cons, List.flatMap_cons, List.filterMap_cons, failureAt?, valuesAt,
      skippedAt?, malformation?]
    rcases hr : Definition.read d p with f | values
    case ok    => cases docs.findSome? _ <;> rfl
    case error =>
      cases f
      case badDocument q fault =>
        cases strict
        case true  => rfl
        case false =>
          cases path_of_badDocument hr
          cases docs.findSome? _ <;> rfl
      all_goals rfl

-- Documents that can all be read are all that is read, strictly or not.
theorem result_readEntries {strict : Bool} (h : ∀ doc ∈ docs, ∃ values, Definition.read d doc.2 = .ok values) :
    (readEntries strict docs).result d = .ok (docs.flatMap fun doc => (valuesAt d doc.2).map (⟨doc.1, ·⟩), []) := by
  have hf : (docs.findSome? fun doc => failureAt? strict d doc.2) = none := by
    refine List.findSome?_eq_none_iff.mpr fun doc hd => ?_
    obtain ⟨values, hv⟩ := h doc hd
    rw [failureAt?, hv]
  have hs : (docs.filterMap fun doc => skippedAt? d doc.2) = [] := by
    refine List.filterMap_eq_nil_iff.mpr fun doc hd => ?_
    obtain ⟨values, hv⟩ := h doc hd
    rw [skippedAt?, malformation?, hv]
    rfl
  rw [result_readEntries_eq, hf, hs]

theorem forall_mem_documents {P : Path → Prop} {groups : List ResourceGroup} :
    (∀ doc ∈ documents groups, P doc.2) ↔ ∀ g ∈ groups, g.category = .values → ∀ p ∈ g.files, P p := by
  constructor
  case mp =>
    intro h g hg hc p hp
    have hd : (g.owner, p) ∈ (sortPaths g.files).map (g.owner, ·) := List.mem_map_of_mem (mem_sortBy.mpr hp)
    exact h (g.owner, p) (List.mem_flatMap.mpr ⟨g, List.mem_filter.mpr ⟨hg, decide_eq_true hc⟩, hd⟩)
  case mpr =>
    intro h doc hd
    obtain ⟨g, hg, hd⟩ := List.mem_flatMap.mp hd
    obtain ⟨p, hp, rfl⟩ := List.mem_map.mp hd
    obtain ⟨hg, hc⟩ := List.mem_filter.mp hg
    exact h g hg (of_decide_eq_true hc) p (mem_sortBy.mp hp)

theorem steady_generate (options : Options) (package : String) (groups : List ResourceGroup) :
    (generate options package groups).Steady :=
  (steady_readEntries options.strict _).bind fun _ =>
    (Query.steady_modify _).bind fun _ => Query.steady_pure _

theorem result_generate (options : Options) (package : String) (groups : List ResourceGroup) :
    (generate options package groups).result d =
      ((readEntries options.strict (documents groups)).result d).map fun (entries, skipped) =>
        ⟨render package entries (drawables groups), skipped⟩ := by
  rw [generate, Query.result_bind fun _ => (Query.steady_modify _).bind fun _ => Query.steady_pure _]
  cases (readEntries options.strict (documents groups)).result d
  case error => rfl
  case ok    => exact Query.result_bind fun _ => Query.steady_pure _

-- The package stands behind a fixed beginning.
theorem toList_render (package : String) (entries : List Entry) (assets : List Drawable) :
    ∃ t, (render package entries assets).toList = "// Generated by resourcegen. Do not edit.\n".toList ++
      ("package ".toList ++ (package.toList ++ ("\n".toList ++ t))) := by
  have h : "// Generated by resourcegen. Do not edit.\n" = "// Generated by resourcegen. Do not edit." ++ "\n" := by
    decide
  simp only [render, header, List.cons_append, unlines_cons, String.toList_append, List.append_assoc, h]
  exact ⟨_, rfl⟩

end TypedResources.ClassFile
