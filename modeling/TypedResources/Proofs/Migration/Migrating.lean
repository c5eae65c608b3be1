import TypedResources.Migration.Basic
import TypedResources.Proofs.Action

-- What the steps of a migration come to. They succeed exactly if their parts do, one after another
-- (`bind_eq_ok_iff`); an action among them leaves what is known as it is.

namespace TypedResources.Migrating

open Migration

variable {α β : Type} {m : Migrating α} {f : α → Migrating β} {k k' : Knowledge} {s s' : Session} {b : β}

@[simp]
theorem outcome_pure (x : α) : (pure x : Migrating α).outcome k s = (.ok x, k, s) :=
  rfl

@[simp]
theorem outcome_throw (e : Failure) : (throw e : Migrating α).outcome k s = (.error e, k, s) :=
  rfl

@[simp]
theorem outcome_knowledge : (getThe Knowledge : Migrating Knowledge).outcome k s = (.ok k, k, s) :=
  rfl

@[simp]
theorem outcome_session : (getThe Session : Migrating Session).outcome k s = (.ok s, k, s) :=
  rfl

@[simp]
theorem outcome_modify (g : Knowledge → Knowledge) :
    (modifyThe Knowledge g : Migrating Unit).outcome k s = (.ok (), g k, s) :=
  rfl

theorem outcome_action (a : Action α) :
    (liftM a : Migrating α).outcome k s = ((a.outcome s).1, k, (a.outcome s).2) :=
  rfl

theorem outcome_bind : (m >>= f).outcome k s =
    match m.outcome k s with
    | (.ok x, k', s')    => (f x).outcome k' s'
    | (.error e, k', s') => (.error e, k', s') := by
  simp only [outcome, ExceptT.run_bind, StateT.run_bind]
  generalize StateT.run ((ExceptT.run m).run k) s = r
  rcases r with ⟨⟨_ | _, _⟩, _⟩ <;> rfl

theorem outcome_bind_of_ok {x : α} (h : m.outcome k s = (.ok x, k', s')) :
    (m >>= f).outcome k s = (f x).outcome k' s' := by
  rw [outcome_bind, h]

theorem bind_eq_ok_iff : (m >>= f).outcome k s = (.ok b, k', s') ↔
    ∃ x k₁ s₁, m.outcome k s = (.ok x, k₁, s₁) ∧ (f x).outcome k₁ s₁ = (.ok b, k', s') := by
  rw [outcome_bind]
  rcases m.outcome k s with ⟨_ | x, k₁, s₁⟩
  case error => simp
  case ok    =>
    constructor
    case mp  => exact fun h => ⟨x, k₁, s₁, rfl, h⟩
    case mpr => rintro ⟨_, _, _, ⟨⟩, h⟩; exact h

theorem outcome_query {q : Query α} (h : q.Steady) : (liftM (liftM q : Action α) : Migrating α).outcome k s =
    (q.result s.disk, k, { s with log := s.log ++ q.records s.disk }) := by
  rw [outcome_action, Action.outcome_query h]

theorem action_eq_ok_iff {a : Action β} :
    (liftM a : Migrating β).outcome k s = (.ok b, k', s') ↔ a.outcome s = (.ok b, s') ∧ k' = k := by
  rw [outcome_action]
  rcases a.outcome s with ⟨r, s₁⟩
  constructor
  case mp  => rintro ⟨⟩; exact ⟨rfl, rfl⟩
  case mpr => rintro ⟨⟨⟩, rfl⟩; rfl

end TypedResources.Migrating
