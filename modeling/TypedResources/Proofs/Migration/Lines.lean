import Mathlib.Data.List.Basic
import TypedResources.Proofs.Migration.Revision

-- What a revision makes of the single lines of a text. Imports are kept, and each other line is
-- migrated under the last import of a resource class above it (`foldl_addLine`); nothing that was
-- found in the lines above plays a part beside that import.

namespace TypedResources.Migration

variable {k : Knowledge} {above below lines : List Text.Line} {line : Text.Line} {r : Revision} {e : Event}

-- The package of the last import of a resource class, and the number of lines before that import.
def lastImport (lines : List Text.Line) : Option (String × Nat) :=
  (lines.zipIdx.filterMap fun (line, i) =>
    match import? line.body with
    | some (.resources package) => some (package, i)
    | _                         => none).getLast?

def importedBy (lines : List Text.Line) : Option String :=
  (lastImport lines).map Prod.fst

def importsAccessors (lines : List Text.Line) : Bool :=
  lines.any fun line => import? line.body = some .accessors

-- What becomes of a line below others, and the events in it.
def migrateLine (k : Knowledge) (above : List Text.Line) (line : Text.Line) : Text.Line × List Event :=
  match import? line.body with
  | some _ => (line, [])
  | none   =>
    let (body, events) := migrateBody k (importedBy above) (above.length + 1) line.body
    (⟨body, line.ending⟩, events)

def migrateLines (k : Knowledge) : (above lines : List Text.Line) → List (Text.Line × List Event)
  | _,     []            => []
  | above, line :: lines => migrateLine k above line :: migrateLines k (above ++ [line]) lines

theorem lastImport_concat : lastImport (above ++ [line]) =
    match import? line.body with
    | some (.resources package) => some (package, above.length)
    | _                         => lastImport above := by
  unfold lastImport
  rw [List.zipIdx_append, List.filterMap_append]
  simp only [List.zipIdx_singleton, Nat.zero_add]
  cases h : import? line.body
  case none => simp [h]
  case some i => cases i <;> simp [h]

theorem importsAccessors_concat : importsAccessors (above ++ [line]) =
    (importsAccessors above || import? line.body = some .accessors) := by
  simp [importsAccessors]

-- After some lines the revision knows of them only how many they were and what they imported.
structure Revision.Follows (r : Revision) (above : List Text.Line) : Prop where
  length       : r.lines.length = above.length
  imported     : r.imported = lastImport above
  hasAccessors : r.hasAccessors = importsAccessors above

theorem addLine_eq (k : Knowledge) (line : Text.Line) (h : r.Follows above) : (r.addLine k line).Follows (above ++ [line]) ∧
    (r.addLine k line).lines = r.lines ++ [(migrateLine k above line).1] ∧
    (r.addLine k line).events = r.events ++ (migrateLine k above line).2 := by
  have hi : r.imported.map Prod.fst = importedBy above := congrArg _ h.imported
  unfold Revision.addLine migrateLine
  rw [hi, h.length]
  dsimp only
  cases hl : import? line.body
  case none =>
    refine ⟨⟨by simp [h.length], ?_, ?_⟩, rfl, rfl⟩
    · rw [lastImport_concat, hl, ← h.imported]
    · rw [importsAccessors_concat, hl, ← h.hasAccessors]; simp
  case some i =>
    cases i
    case resources package =>
      refine ⟨⟨by simp [h.length], ?_, ?_⟩, rfl, (List.append_nil _).symm⟩
      · rw [lastImport_concat, hl]
      · rw [importsAccessors_concat, hl, ← h.hasAccessors]; simp
    case accessors =>
      refine ⟨⟨by simp [h.length], ?_, ?_⟩, rfl, (List.append_nil _).symm⟩
      · rw [lastImport_concat, hl, ← h.imported]
      · rw [importsAccessors_concat, hl]; simp

theorem foldl_addLine_eq (k : Knowledge) (lines : List Text.Line) (h : r.Follows above) :
    (lines.foldl (Revision.addLine k) r).Follows (above ++ lines) ∧
    (lines.foldl (Revision.addLine k) r).lines = r.lines ++ (migrateLines k above lines).map Prod.fst ∧
    (lines.foldl (Revision.addLine k) r).events = r.events ++ (migrateLines k above lines).flatMap Prod.snd := by
  induction lines generalizing r above
  case nil                => simpa [migrateLines] using h
  case cons line lines ih =>
    have ⟨hf, hl, he⟩ := addLine_eq k line h
    have ⟨hf', hl', he'⟩ := ih hf
    rw [List.foldl_cons, hl', he', hl, he]
    exact ⟨by simpa using hf', by simp [migrateLines], by simp [migrateLines]⟩

theorem foldl_addLine (k : Knowledge) (lines : List Text.Line) : lines.foldl (Revision.addLine k) {} =
    { lines        := (migrateLines k [] lines).map Prod.fst
      events       := (migrateLines k [] lines).flatMap Prod.snd
      imported     := lastImport lines
      hasAccessors := importsAccessors lines } := by
  have hr : ({} : Revision).Follows [] := ⟨rfl, rfl, rfl⟩
  have ⟨hf, hl, he⟩ := foldl_addLine_eq k lines hr
  have hi := hf.imported
  have ha := hf.hasAccessors
  generalize lines.foldl (Revision.addLine k) {} = r at hl he hi ha
  cases r
  simp_all

@[simp]
theorem length_migrateLines : (migrateLines k above lines).length = lines.length := by
  induction lines generalizing above
  case nil           => rfl
  case cons _ _ ih => rw [migrateLines, List.length_cons, ih, List.length_cons]

theorem getElem?_migrateLines {i : Nat} : (migrateLines k above lines)[i]? =
    lines[i]?.map (migrateLine k (above ++ lines.take i)) := by
  induction lines generalizing above i
  case nil                => simp [migrateLines]
  case cons line lines ih =>
    cases i
    case zero   => simp [migrateLines]
    case succ i => simp [migrateLines, ih]

theorem migrateLine_of_import (h : import? line.body ≠ none) : migrateLine k above line = (line, []) := by
  unfold migrateLine
  split
  case h_1   => rfl
  case h_2 h' => exact absurd h' h

theorem migrateLine_of_not_import (h : import? line.body = none) : migrateLine k above line =
    (⟨(migrateBody k (importedBy above) (above.length + 1) line.body).1, line.ending⟩,
      (migrateBody k (importedBy above) (above.length + 1) line.body).2) := by
  rw [migrateLine, h]

theorem migrateLines_append {more : List Text.Line} :
    migrateLines k above (lines ++ more) = migrateLines k above lines ++ migrateLines k (above ++ lines) more := by
  induction lines generalizing above
  case nil                => simp [migrateLines]
  case cons line lines ih => simp [migrateLines, ih]

theorem exists_events_finish (k : Knowledge) (isJava : Bool) (r : Revision) :
    ∃ added, (r.finish k isJava).events = r.events ++ added := by
  have hr : ∃ added, r.events = r.events ++ added := ⟨[], (List.append_nil _).symm⟩
  unfold Revision.finish Revision.addImport
  split
  case h_2 => exact hr
  case h_1 =>
    split
    case isTrue  => exact hr
    case isFalse =>
      split
      case h_1 => exact hr
      case h_2 => exact ⟨_, rfl⟩

theorem mem_events_finish_of_mem {isJava : Bool} (h : e ∈ r.events) : e ∈ (r.finish k isJava).events := by
  have ⟨_, ha⟩ := exists_events_finish k isJava r
  exact ha ▸ List.mem_append_left _ h

-- What happens to a line is told in one stretch by the revision of the whole text.
theorem exists_events_of_line {text : List Char} (k : Knowledge) (isJava : Bool)
    (hl : (Text.splitLines text).map Text.Line.ofList = above ++ line :: below) :
    ∃ earlier later, (revise k isJava text).events = earlier ++ (migrateLine k above line).2 ++ later := by
  rw [revise]
  obtain ⟨added, h⟩ := exists_events_finish k isJava
    (((Text.splitLines text).map Text.Line.ofList).foldl (Revision.addLine k) {})
  have he : (((Text.splitLines text).map Text.Line.ofList).foldl (Revision.addLine k) {}).events =
      (migrateLines k [] above).flatMap Prod.snd ++
        ((migrateLine k above line).2 ++ (migrateLines k (above ++ [line]) below).flatMap Prod.snd) := by
    rw [foldl_addLine, hl, migrateLines_append, List.nil_append]
    simp [migrateLines]
  refine ⟨(migrateLines k [] above).flatMap Prod.snd, (migrateLines k (above ++ [line]) below).flatMap Prod.snd ++ added, ?_⟩
  rw [h, he]
  simp only [List.append_assoc]

theorem mem_events_of_line {isJava : Bool} {text : List Char}
    (hl : (Text.splitLines text).map Text.Line.ofList = above ++ line :: below)
    (he : e ∈ (migrateLine k above line).2) : e ∈ (revise k isJava text).events := by
  have ⟨_, _, h⟩ := exists_events_of_line k isJava hl
  rw [h]
  exact List.mem_append_left _ (List.mem_append_right _ he)

theorem mem_migrateBody_iff {imported : Option String} {n : Nat} {body : List Char} :
    e ∈ (migrateBody k imported n body).2 ↔ ∃ done shape later o, Call.shapes = done ++ shape :: later ∧
      o ∈ shape.pattern.occurrences (migrateShapes k imported n done body []).1 ∧
      (migrateCall k imported n (Call.ofOccurrence shape o)).2 = e := by
  rw [migrateBody_eq, mem_migrateShapes_iff]
  simp [events_migrateShape]

-- The pattern of a shape meets the occurrence in a line of the text that the shapes before it have been
-- through already. With it go the number of the line and the last import above it.
inductive Meets (k : Knowledge) (text : List Char) : Nat → Option String → Call.Shape → Occurrence Call.Slot → Prop
  | intro {above line below done shape later o}
      (hl : (Text.splitLines text).map Text.Line.ofList = above ++ line :: below) (hi : import? line.body = none)
      (hs : Call.shapes = done ++ shape :: later)
      (ho : o ∈ shape.pattern.occurrences (migrateShapes k (importedBy above) (above.length + 1) done line.body []).1) :
      Meets k text (above.length + 1) (importedBy above) shape o

-- What is told of a text is told of the calls that are met in it, beside the import that is added.
theorem mem_events_revise_iff {isJava : Bool} {text : List Char} (hn : ∀ n before added, e ≠ .imported n before added) :
    e ∈ (revise k isJava text).events ↔ ∃ n imported shape o, Meets k text n imported shape o ∧
      (migrateCall k imported n (Call.ofOccurrence shape o)).2 = e := by
  constructor
  case mp =>
    intro h
    rcases mem_events_finish h with h | ⟨_, _, _, h⟩
    case inr => exact absurd h (hn _ _ _)
    rw [foldl_addLine, List.mem_flatMap] at h
    have ⟨_, hm, he⟩ := h
    obtain ⟨i, hi⟩ := List.mem_iff_getElem?.mp hm
    rw [getElem?_migrateLines, List.nil_append, Option.map_eq_some_iff] at hi
    obtain ⟨line, hline, rfl⟩ := hi
    have ⟨hlt, hget⟩ := List.getElem?_eq_some_iff.mp hline
    have hl := (List.take_append_drop i ((Text.splitLines text).map Text.Line.ofList)).symm
    rw [List.drop_eq_getElem_cons hlt, hget] at hl
    generalize ((Text.splitLines text).map Text.Line.ofList).take i = above at he hl
    cases himport : import? line.body
    case some =>
      rw [migrateLine_of_import (himport ▸ Option.some_ne_none _)] at he
      exact absurd he List.not_mem_nil
    case none =>
      rw [migrateLine_of_not_import himport] at he
      dsimp only at he
      have ⟨done, shape, later, o, hs, ho, he⟩ := mem_migrateBody_iff.mp he
      exact ⟨_, _, shape, o, Meets.intro hl himport hs ho, he⟩
  case mpr =>
    rintro ⟨_, _, shape, o, ⟨hl, hi, hs, ho⟩, rfl⟩
    refine mem_events_of_line hl ?_
    rw [migrateLine_of_not_import hi]
    dsimp only
    exact mem_migrateBody_iff.mpr ⟨_, shape, _, o, hs, ho, rfl⟩

theorem migrateCall_eq_replaced_iff {imported : Option String} {n m : Nat} {c : Call} {before after : String} :
    (migrateCall k imported n c).2 = .replaced m before after ↔ m = n ∧ ∃ t, resolve k imported c = .ok t ∧
      before = String.ofList c.text ∧ after = t.call (String.ofList c.arguments) := by
  unfold migrateCall
  cases resolve k imported c
  case error => simp
  case ok t  =>
    simp only [Event.replaced.injEq, Except.ok.injEq, exists_eq_left']
    grind

end TypedResources.Migration
