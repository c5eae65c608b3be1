import Mathlib.Data.List.Basic
import TypedResources.Migration.Revision

-- Which calls of a text are replaced. A shape replaces those of its occurrences that resolve to a
-- target (`events_migrateShape`). A line is settled if no call in it resolves; that is so exactly if
-- nothing in the line is replaced (`migrateBody_settled_iff`), and then the line stays as it is.

namespace TypedResources.Migration

variable {k : Knowledge} {imported : Option String} {line : Nat} {body : List Char} {c : Call}
  {shape : Call.Shape} {t : Target} {e : Event}

theorem mem_targetsOf_iff {ref : String} : t ∈ k.targetsOf ref ↔ (ref, t) ∈ k.targets := by
  simp only [Knowledge.targetsOf, List.mem_filterMap, Prod.exists, Option.ite_none_right_eq_some, Option.some.injEq]
  constructor
  case mp  => rintro ⟨_, _, h, rfl, rfl⟩; exact h
  case mpr => exact fun h => ⟨ref, t, h, rfl, rfl⟩

theorem narrow_subset {module : Option String} {ts : List Target} (h : t ∈ narrow module ts) : t ∈ ts := by
  unfold narrow at h
  split at h
  case h_1 => exact h
  case h_2 =>
    dsimp only at h
    split at h
    case isTrue  => exact h
    case isFalse => exact (List.mem_filter.mp h).left

-- A call only ever resolves to a target of its own reference, in a block of its own shape.
theorem mem_of_resolve (h : resolve k imported c = .ok t) : (c.key, t) ∈ k.targets ∧ t.block ∈ c.shape.blocks := by
  unfold resolve at h
  dsimp only at h
  split at h
  case h_1 => contradiction
  case h_2 => contradiction
  case h_3 =>
    split at h
    case h_2 => contradiction
    case h_1 hn =>
      cases h
      have hm := narrow_subset (hn ▸ List.mem_singleton_self t)
      rw [List.mem_filter, mem_targetsOf_iff] at hm
      exact ⟨hm.left, by simpa using hm.right⟩

theorem change?_migrateCall :
    (migrateCall k imported line c).2.change? = none ↔ ∀ t, resolve k imported c ≠ .ok t := by
  unfold migrateCall
  cases resolve k imported c <;> simp [Event.change?]

theorem text_migrateCall (h : ∀ t, resolve k imported c ≠ .ok t) : (migrateCall k imported line c).1 = c.text := by
  unfold migrateCall
  split
  case h_1   => rfl
  case h_2 h' => exact absurd h' (h _)

-- No call of the shape resolves.
def SettledFor (k : Knowledge) (imported : Option String) (body : List Char) (shape : Call.Shape) : Prop :=
  ∀ o ∈ shape.pattern.occurrences body, ∀ t, resolve k imported (Call.ofOccurrence shape o) ≠ .ok t

theorem events_migrateShape : (migrateShape k imported line body shape).2 =
    (shape.pattern.occurrences body).map fun o => (migrateCall k imported line (Call.ofOccurrence shape o)).2 := by
  simp only [migrateShape, Pattern.occurrences]
  induction shape.pattern.cut body
  case nil               => rfl
  case cons piece _ ih => cases piece <;> simp_all [migratePiece]

theorem migrateShape_settled_iff : (∀ e ∈ (migrateShape k imported line body shape).2, e.change? = none) ↔
    SettledFor k imported body shape := by
  simp [events_migrateShape, change?_migrateCall, SettledFor]

theorem text_migrateShape (h : SettledFor k imported body shape) :
    (migrateShape k imported line body shape).1 = body := by
  conv => rhs; rw [← Pattern.flatMap_text_cut shape.pattern body]
  simp only [migrateShape, List.flatMap_map]
  refine List.flatMap_congr fun piece hp => ?_
  cases piece
  case plain => rfl
  case found o =>
    have ho : o ∈ shape.pattern.occurrences body := List.mem_filterMap.mpr ⟨_, hp, rfl⟩
    exact text_migrateCall (h o ho)

-- No call in the line resolves.
def Settled (k : Knowledge) (imported : Option String) (body : List Char) : Prop :=
  ∀ shape ∈ Call.shapes, SettledFor k imported body shape

-- The shapes that are still to come, and what those before them have left.
def migrateShapes (k : Knowledge) (imported : Option String) (line : Nat) (shapes : List Call.Shape)
    (body : List Char) (events : List Event) : List Char × List Event :=
  shapes.foldl (fun (body, events) shape =>
    let (body, more) := migrateShape k imported line body shape
    (body, events ++ more)) (body, events)

theorem migrateBody_eq : migrateBody k imported line body = migrateShapes k imported line Call.shapes body [] :=
  rfl

theorem migrateShapes_cons {shapes : List Call.Shape} {events : List Event} :
    migrateShapes k imported line (shape :: shapes) body events =
      migrateShapes k imported line shapes (migrateShape k imported line body shape).1
        (events ++ (migrateShape k imported line body shape).2) :=
  rfl

theorem migrateShapes_append {shapes shapes' : List Call.Shape} {events : List Event} :
    migrateShapes k imported line (shapes ++ shapes') body events =
      migrateShapes k imported line shapes' (migrateShapes k imported line shapes body events).1
        (migrateShapes k imported line shapes body events).2 :=
  List.foldl_append

-- What a shape tells stands behind what those before it have told.
theorem exists_events_migrateShapes (shapes : List Call.Shape) (body : List Char) (events : List Event) :
    ∃ more, (migrateShapes k imported line shapes body events).2 = events ++ more := by
  induction shapes generalizing body events
  case nil                  => exact ⟨[], (List.append_nil _).symm⟩
  case cons shape shapes ih =>
    have ⟨more, h⟩ := ih (migrateShape k imported line body shape).1 (events ++ (migrateShape k imported line body shape).2)
    exact ⟨_, by rw [migrateShapes_cons, h, List.append_assoc]⟩

theorem exists_events_migrateBody (k : Knowledge) (imported : Option String) (line : Nat) (body : List Char)
    {done later : List Call.Shape} (hs : Call.shapes = done ++ shape :: later) : ∃ before after,
    (migrateBody k imported line body).2 =
      before ++ (migrateShape k imported line (migrateShapes k imported line done body []).1 shape).2 ++ after := by
  rw [migrateBody_eq, hs, migrateShapes_append, migrateShapes_cons]
  exact ⟨_, exists_events_migrateShapes ..⟩

theorem mem_migrateShapes_iff {shapes : List Call.Shape} {events : List Event} :
    e ∈ (migrateShapes k imported line shapes body events).2 ↔ e ∈ events ∨
      ∃ done shape later, shapes = done ++ shape :: later ∧
        e ∈ (migrateShape k imported line (migrateShapes k imported line done body events).1 shape).2 := by
  induction shapes generalizing body events
  case nil                  => simp [migrateShapes]
  case cons shape shapes ih =>
    rw [migrateShapes_cons, ih, List.mem_append, or_assoc]
    refine or_congr_right ?_
    constructor
    case mp =>
      rintro (h | ⟨done, shape', later, rfl, h⟩)
      case inl => exact ⟨[], shape, shapes, rfl, h⟩
      case inr => exact ⟨shape :: done, shape', later, rfl, h⟩
    case mpr =>
      rintro ⟨_ | ⟨_, done⟩, shape', later, hs, h⟩
      case nil  => cases hs; exact .inl h
      case cons => cases hs; exact .inr ⟨done, shape', later, rfl, h⟩

theorem mem_migrateShapes {shapes : List Call.Shape} {events : List Event}
    (h : e ∈ (migrateShapes k imported line shapes body events).2) :
    e ∈ events ∨ ∃ shape ∈ shapes, ∃ body, e ∈ (migrateShape k imported line body shape).2 :=
  (mem_migrateShapes_iff.mp h).imp_right fun ⟨_, shape, _, hs, h⟩ => ⟨shape, hs ▸ List.mem_append_cons_self, _, h⟩

theorem subset_migrateShapes {shapes : List Call.Shape} {events : List Event} (h : e ∈ events) :
    e ∈ (migrateShapes k imported line shapes body events).2 :=
  mem_migrateShapes_iff.mpr (.inl h)

theorem migrateShapes_settled_iff {shapes : List Call.Shape} {events : List Event} :
    (∀ e ∈ (migrateShapes k imported line shapes body events).2, e.change? = none) ↔
      (∀ e ∈ events, e.change? = none) ∧ ∀ shape ∈ shapes, SettledFor k imported body shape := by
  induction shapes generalizing body events
  case nil                  => simp [migrateShapes]
  case cons shape shapes ih =>
    -- The next shape meets the same line only if this one has left it as it is.
    by_cases hs : SettledFor k imported body shape
    case pos =>
      have he : ∀ e ∈ (migrateShape k imported line body shape).2, e.change? = none :=
        migrateShape_settled_iff.mpr hs
      rw [migrateShapes_cons, ih, text_migrateShape hs]
      simp only [List.mem_append, List.forall_mem_cons, hs, true_and]
      exact and_congr_left fun _ => ⟨fun h e he => h e (.inl he), fun h e h' => h'.elim (h e) (he e)⟩
    case neg =>
      refine iff_of_false (fun h => hs ?_) (fun h => hs (h.right shape List.mem_cons_self))
      rw [migrateShapes_cons] at h
      exact migrateShape_settled_iff.mp fun e he => h e (subset_migrateShapes (List.mem_append_right _ he))

theorem migrateBody_settled_iff : (∀ e ∈ (migrateBody k imported line body).2, e.change? = none) ↔
    Settled k imported body := by
  rw [migrateBody_eq, migrateShapes_settled_iff]
  simp [Settled]

theorem text_migrateBody (h : Settled k imported body) : (migrateBody k imported line body).1 = body := by
  have go (shapes : List Call.Shape) (events : List Event)
      (h : ∀ shape ∈ shapes, SettledFor k imported body shape) :
      (migrateShapes k imported line shapes body events).1 = body := by
    induction shapes generalizing events
    case nil                  => rfl
    case cons shape shapes ih =>
      rw [migrateShapes_cons, text_migrateShape (h shape List.mem_cons_self)]
      exact ih _ fun shape hs => h shape (List.mem_cons_of_mem _ hs)
  exact go Call.shapes [] h

end TypedResources.Migration
