import TypedResources.Proofs.Migration.Calls

-- What a revision does to a text. A text is settled if none of its calls resolves under the imports above
-- it; that is so exactly if its revision changes nothing (`changes_revise_iff`), and then the text stays
-- as it is.

namespace TypedResources.Migration

variable {k : Knowledge} {imported : Option String} {isJava : Bool} {text : List Char} {e : Event}
  {r : Revision} {line : Text.Line} {lines : List Text.Line}

theorem mem_events_addLine (h : e ∈ (r.addLine k line).events) :
    e ∈ r.events ∨ ∃ imported n, e ∈ (migrateBody k imported n line.body).2 := by
  unfold Revision.addLine at h
  dsimp only at h
  split at h
  case h_1 => exact .inl h
  case h_2 => exact .inl h
  case h_3 => exact (List.mem_append.mp h).imp_right fun h => ⟨_, _, h⟩

theorem mem_events_addLines (h : e ∈ (lines.foldl (Revision.addLine k) r).events) :
    e ∈ r.events ∨ ∃ imported n, ∃ line ∈ lines, e ∈ (migrateBody k imported n line.body).2 := by
  induction lines generalizing r
  case nil                => exact .inl h
  case cons line lines ih =>
    rcases ih h with h | ⟨imported, n, line', hl, h⟩
    case inr => exact .inr ⟨imported, n, line', List.mem_cons_of_mem _ hl, h⟩
    case inl =>
      rcases mem_events_addLine h with h | ⟨imported, n, h⟩
      case inl => exact .inl h
      case inr => exact .inr ⟨imported, n, line, List.mem_cons_self, h⟩

theorem mem_events_finish (h : e ∈ (r.finish k isJava).events) :
    e ∈ r.events ∨ ∃ n before added, e = .imported n before added := by
  unfold Revision.finish at h
  split at h
  case h_2 => exact .inl h
  case h_1 =>
    split at h
    case isTrue  => exact .inl h
    case isFalse =>
      unfold Revision.addImport at h
      split at h
      case h_1 => exact .inl h
      case h_2 => exact (List.mem_append.mp h).imp_right fun h => ⟨_, _, _, List.mem_singleton.mp h⟩

-- No call resolves in any line but imports, each with the last import of a resource class above it.
def SettledLines (k : Knowledge) : Option String → List Text.Line → Prop
  | _,        []            => True
  | imported, line :: lines =>
    match import? line.body with
    | some (.resources package) => SettledLines k (some package) lines
    | some .accessors           => SettledLines k imported lines
    | none                      => Settled k imported line.body ∧ SettledLines k imported lines

def SettledText (k : Knowledge) (text : List Char) : Prop :=
  SettledLines k none ((Text.splitLines text).map Text.Line.ofList)

theorem changes_eq_nil_iff : r.changes = [] ↔ ∀ e ∈ r.events, e.change? = none :=
  List.filterMap_eq_nil_iff

theorem changes_addLines_iff : (lines.foldl (Revision.addLine k) r).changes = [] ↔
    r.changes = [] ∧ SettledLines k (r.imported.map Prod.fst) lines := by
  induction lines generalizing r
  case nil                => simp [SettledLines]
  case cons line lines ih =>
    rw [List.foldl_cons, ih, SettledLines, Revision.addLine]
    dsimp only
    cases import? line.body
    case some i => cases i <;> rfl
    case none   =>
      simp only [changes_eq_nil_iff, List.forall_mem_append, migrateBody_settled_iff, and_assoc]

-- Lines whose calls are settled are kept.
theorem lines_addLines (h : SettledLines k (r.imported.map Prod.fst) lines) :
    (lines.foldl (Revision.addLine k) r).lines = r.lines ++ lines := by
  induction lines generalizing r
  case nil                => simp
  case cons line lines ih =>
    rw [SettledLines] at h
    rw [List.foldl_cons]
    have hl : (r.addLine k line).lines = r.lines ++ [line] ∧
        SettledLines k ((r.addLine k line).imported.map Prod.fst) lines := by
      unfold Revision.addLine
      dsimp only
      cases hi : import? line.body <;> rw [hi] at h
      case some i => cases i <;> exact ⟨rfl, h⟩
      case none   => exact ⟨by rw [text_migrateBody h.left], h.right⟩
    rw [ih hl.right, hl.left, List.append_assoc, List.singleton_append]

theorem finish_of_changes_eq_nil (h : r.changes = []) : r.finish k isJava = r := by
  unfold Revision.finish
  cases r.imported
  case none => rfl
  case some => simp [h]

theorem changes_finish_iff : (r.finish k isJava).changes = [] ↔ r.changes = [] := by
  constructor
  case mpr => exact fun h => by rwa [finish_of_changes_eq_nil h]
  case mp  =>
    simp only [changes_eq_nil_iff]
    refine fun h e he => h e ?_
    unfold Revision.finish Revision.addImport
    split
    case h_2 => exact he
    case h_1 =>
      split
      case isTrue  => exact he
      case isFalse =>
        split
        case h_1 => exact he
        case h_2 => exact List.mem_append_left _ he

theorem changes_revise_iff : (revise k isJava text).changes = [] ↔ SettledText k text := by
  rw [revise, changes_finish_iff, changes_addLines_iff]
  exact and_iff_right rfl

theorem text_revise (h : SettledText k text) : (revise k isJava text).text = text := by
  have hl := lines_addLines (r := {}) h
  have hc := changes_addLines_iff (r := {}).mpr ⟨rfl, h⟩
  rw [revise, finish_of_changes_eq_nil hc, Revision.text, hl]
  simp [List.flatMap_map, Text.Line.toList_ofList, Text.flatten_splitLines]

end TypedResources.Migration
