import TypedResources.Migration.Basic
import TypedResources.Proofs.ClassFile.Contents
import TypedResources.Proofs.ClassFile.Reading
import TypedResources.Proofs.Query

-- Where targets come from. The targets of a list of groups and the accessors of the class that is
-- generated from it are made from the same resources, whatever documents are malformed
-- (`targets_agree`), and so they name the functions that the text of the class has, and no others
-- (`targets_name_accessors`).

namespace TypedResources

open Migration ClassFile

def Resource.target (r : Resource) : String × Target :=
  Target.ofResource r.block r.name r.owner

namespace ClassFile

variable {d : Disk} {strict : Bool} {docs docs' : List (ModuleId × Path)}

-- The entries of documents when malformed ones are passed over.
def entriesOn (d : Disk) (docs : List (ModuleId × Path)) : Except Failure (List Entry) :=
  ((readEntries false docs).result d).map Prod.fst

theorem entriesOn_nil : entriesOn d [] = .ok [] :=
  rfl

theorem entriesOn_cons (owner : ModuleId) (p : Path) : entriesOn d ((owner, p) :: docs) =
    match Definition.read d p with
    | .ok values               => (entriesOn d docs).map (values.map (⟨owner, ·⟩) ++ ·)
    | .error (.badDocument ..) => entriesOn d docs
    | .error f                 => .error f := by
  rw [entriesOn, result_readEntries_cons, entriesOn]
  rcases Definition.read d p with f | values
  case ok    => cases (readEntries false docs).result d <;> rfl
  case error =>
    cases f
    case badDocument => cases (readEntries false docs).result d <;> rfl
    all_goals rfl

theorem entriesOn_append : entriesOn d (docs ++ docs') =
    match entriesOn d docs with
    | .ok es   => (entriesOn d docs').map (es ++ ·)
    | .error f => .error f := by
  induction docs
  case nil            =>
    rw [List.nil_append, entriesOn_nil]
    cases entriesOn d docs' <;> rfl
  case cons doc docs ih =>
    rw [List.cons_append, entriesOn_cons, entriesOn_cons, ih]
    split
    case h_2 => rfl
    case h_3 => rfl
    case h_1 =>
      cases entriesOn d docs
      case error => rfl
      case ok es =>
        cases entriesOn d docs'
        case error => rfl
        case ok    => simp [Except.map]

end ClassFile

namespace Migration

variable {d : Disk}

theorem steady_documentTargets (owner : ModuleId) (ps : List Path) :
    (documentTargets owner ps).Steady := by
  induction ps
  case nil          => exact Query.steady_pure _
  case cons p ps ih =>
    have hs (own : List (String × Target)) : Query.Steady (do return own ++ (← documentTargets owner ps)) :=
      ih.bind fun _ => Query.steady_pure _
    refine Query.steady_read.bind fun d => ?_
    dsimp only
    split
    case h_1 => exact (Query.steady_pure _).bind hs
    case h_2 => exact (Query.steady_log _ _ _).bind fun _ => (Query.steady_pure _).bind hs
    case h_3 => exact (Query.steady_throw _).bind hs

theorem steady_groupTargets (g : ResourceGroup) : (groupTargets g).Steady := by
  unfold groupTargets
  split
  case h_1 => exact steady_documentTargets _ _
  case h_2 => exact Query.steady_pure _

theorem steady_targets (groups : List ResourceGroup) : (targets groups).Steady :=
  (Query.steady_mapM groups fun g _ => steady_groupTargets g).bind fun _ => Query.steady_pure _

theorem result_documentTargets (owner : ModuleId) (ps : List Path) :
    (documentTargets owner ps).result d =
      (entriesOn d (ps.map (owner, ·))).map (·.map fun e => (Resource.ofEntry e).target) := by
  induction ps
  case nil          => rfl
  case cons p ps ih =>
    have hs := steady_documentTargets owner ps
    have hr (own : List (String × Target)) :
        Query.result (do return own ++ (← documentTargets owner ps)) d =
          ((documentTargets owner ps).result d).map (own ++ ·) := by
      rw [Query.result_bind fun _ => Query.steady_pure _]
      cases (documentTargets owner ps).result d <;> rfl
    rw [documentTargets, Query.result_read_bind, List.map_cons, entriesOn_cons]
    dsimp only
    cases Definition.read d p
    case ok values =>
      refine (hr _).trans ?_
      rw [ih]
      cases entriesOn d (ps.map (owner, ·))
      case error => rfl
      case ok    => simp [Except.map, Resource.target, Resource.ofEntry]
    case error f =>
      cases f
      case badDocument q fault =>
        refine (Query.result_log_bind <| hs.bind fun _ => Query.steady_pure _).trans ?_
        refine (hr []).trans ?_
        rw [ih]
        cases entriesOn d (ps.map (owner, ·)) <;> rfl
      all_goals rfl

theorem result_groupTargets (g : ResourceGroup) : (groupTargets g).result d =
    match g.category with
    | .values    => (entriesOn d ((sortPaths g.files).map (g.owner, ·))).map
        (·.map fun e => (Resource.ofEntry e).target)
    | .drawables => .ok (g.files.map fun p => (Resource.ofDrawable ⟨g.owner, resourceBaseName p⟩).target) := by
  unfold groupTargets
  cases g.category
  case values    => exact result_documentTargets _ _
  case drawables => rfl

theorem result_targets (groups : List ResourceGroup) : (targets groups).result d =
    (groups.mapM fun g => (groupTargets g).result d).map fun found => found.flatten.eraseDups := by
  rw [targets, Query.result_bind fun _ => Query.steady_pure _,
    Query.result_mapM groups fun g _ => steady_groupTargets g]
  cases groups.mapM fun g => (groupTargets g).result d <;> rfl

theorem groupTargets_cons (g : ResourceGroup) (groups : List ResourceGroup) :
    ((g :: groups).mapM fun g => (groupTargets g).result d).map List.flatten =
      (groupTargets g).result d >>= fun own =>
        ((groups.mapM fun g => (groupTargets g).result d).map List.flatten).map (own ++ ·) := by
  rw [List.mapM_cons]
  cases (groupTargets g).result d
  case error => rfl
  case ok    => cases groups.mapM fun g => (groupTargets g).result d <;> rfl

-- Targets and entries fail alike, or the targets are those of the entries and the drawables.
inductive Agree (assets : List Drawable) :
    Except Failure (List (String × Target)) → Except Failure (List Entry) → Prop
  | ok {ts es} (h : ∀ x, x ∈ ts ↔ ∃ r ∈ resources es assets, r.target = x) : Agree assets (.ok ts) (.ok es)
  | error (f : Failure) : Agree assets (.error f) (.error f)

theorem Agree.append {assets own : List Drawable} {ts : List (String × Target)} {es : List Entry}
    {rest : Except Failure (List (String × Target))} {restEntries : Except Failure (List Entry)}
    (hown : ∀ x, x ∈ ts ↔ ∃ r ∈ resources es own, r.target = x) (h : Agree assets rest restEntries) :
    Agree (own ++ assets) (rest.map (ts ++ ·)) (restEntries.map (es ++ ·)) := by
  cases h
  case error => exact .error _
  case ok h  =>
    refine .ok fun x => ?_
    rw [List.mem_append, hown, h, ← exists_or]
    refine exists_congr fun r => ?_
    simp only [resources, List.map_append, List.mem_append]
    grind

theorem agree_groupTargets (groups : List ResourceGroup) :
    Agree (drawables groups) ((groups.mapM fun g => (groupTargets g).result d).map List.flatten)
      (entriesOn d (documents groups)) := by
  induction groups
  case nil            => exact .ok fun x => by simp [resources, drawables]
  case cons g groups ih =>
    rw [groupTargets_cons, result_groupTargets]
    cases hg : g.category
    case drawables =>
      have hd : documents (g :: groups) = documents groups := by simp [documents, hg]
      have ha : drawables (g :: groups) =
          (sortPaths g.files).map (fun p => ⟨g.owner, resourceBaseName p⟩) ++ drawables groups := by
        simp [drawables, hg]
      have hnil (es : Except Failure (List Entry)) : es.map ([] ++ ·) = es := by cases es <;> rfl
      rw [hd, ha, ← hnil (entriesOn d (documents groups))]
      exact ih.append fun x => by simp [resources, sortPaths]
    case values =>
      have hd : documents (g :: groups) = (sortPaths g.files).map (g.owner, ·) ++ documents groups := by
        simp [documents, hg]
      have ha : drawables (g :: groups) = drawables groups := by simp [drawables, hg]
      rw [hd, ha, entriesOn_append, ← List.nil_append (drawables groups)]
      cases entriesOn d ((sortPaths g.files).map (g.owner, ·))
      case error => exact .error _
      case ok es => exact ih.append fun x => by simp [resources]

theorem targets_agree (groups : List ResourceGroup) :
    Agree (drawables groups) ((targets groups).result d) (entriesOn d (documents groups)) := by
  have h := agree_groupTargets (d := d) groups
  rw [result_targets]
  cases hf : groups.mapM fun g => (groupTargets g).result d <;> rw [hf] at h
  case error f => exact h
  case ok found =>
    generalize entriesOn d (documents groups) = es at h ⊢
    cases h with
    | ok h => exact .ok fun x => by simpa using h x

end Migration

namespace Migration

-- The calls that a migration writes and the accessors that stand in the text of the class are the
-- same, or both come to nothing for the same reason.
theorem targets_name_accessors (d : Disk) (options : ClassFile.Options) (package : String)
    (groups : List ResourceGroup) :
    match (targets groups).result d, (generate { options with strict := false } package groups).result d with
    | .ok ts, .ok made =>
      ∃ entries, (readEntries false (documents groups)).result d = .ok (entries, made.skipped) ∧
        (blocks entries (drawables groups)).outline.Tells package made.content ∧
        ∀ name function, (∃ x ∈ ts, x.2.block.name = name ∧ x.2.function = function) ↔
          (blocks entries (drawables groups)).outline.Has name function
    | .error f, .error f' => f = f'
    | _, _                => False := by
  have h := targets_agree (d := d) groups
  rw [result_generate]
  unfold entriesOn at h
  dsimp only
  cases hr : (readEntries false (documents groups)).result d <;> rw [hr] at h <;>
    cases ht : (targets groups).result d <;> rw [ht] at h <;> cases h
  case error.error => rfl
  case ok.ok read ts h =>
    refine ⟨read.1, rfl, tells_render .., fun name function => ?_⟩
    constructor
    case mp =>
      rintro ⟨x, hx, rfl, rfl⟩
      obtain ⟨r, hr, rfl⟩ := (h x).mp hx
      exact has_outline_iff.mpr ⟨r, hr, rfl, rfl⟩
    case mpr =>
      intro ho
      obtain ⟨b, rfl⟩ := exists_block_of_has ho
      obtain ⟨r, hr, hb, hf⟩ := has_outline_iff.mp ho
      exact ⟨r.target, (h _).mpr ⟨r, hr, rfl⟩, congrArg Block.name hb, hf⟩

end Migration

end TypedResources
