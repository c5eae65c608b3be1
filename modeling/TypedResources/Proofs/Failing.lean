import TypedResources.Proofs.Migration.Migrating

-- How operations fail. What is put together from results, queries, actions or the steps of a migration
-- fails only in the ways of its parts (`FailsOnly.bind`), and what is done for each element of a list only
-- in the ways that one element allows (`FailsOnly.mapM`).

namespace TypedResources

variable {α β : Type} {P Q : Failure → Prop} {r : Except Failure α}

def FailsOnly (P : Failure → Prop) (r : Except Failure α) : Prop :=
  ∀ f, r = .error f → P f

theorem failsOnly_ok (x : α) : FailsOnly P (.ok x) := by
  intro f h
  cases h

namespace FailsOnly

variable {g : α → Except Failure β}

theorem bind (hr : FailsOnly P r) (hg : ∀ x, FailsOnly P (g x)) : FailsOnly P (r >>= g) := by
  intro f h
  cases r
  case error => cases h; exact hr f rfl
  case ok x  => exact hg x f h

theorem map {g : α → β} (hr : FailsOnly P r) : FailsOnly P (r.map g) := by
  intro f h
  cases r <;> cases h
  exact hr f rfl

end FailsOnly

namespace Query

variable {q : Query α} {f : α → Query β}

def FailsOnly (P : Failure → Prop) (q : Query α) : Prop :=
  ∀ d log f log', q.outcome d log = (.error f, log') → P f

theorem FailsOnly.of_ok (h : ∀ d log, ∃ x log', q.outcome d log = (.ok x, log')) : q.FailsOnly P := by
  intro d log f log' he
  have ⟨x, log₁, ho⟩ := h d log
  rw [ho] at he
  cases he

-- A steady query fails as its result does.
theorem Steady.failsOnly (hq : q.Steady) (h : ∀ d, TypedResources.FailsOnly P (q.result d)) : q.FailsOnly P := by
  intro d log f log' ho
  rw [hq d log] at ho
  exact h d f (Prod.mk.inj ho).left

theorem failsOnly_pure (x : α) : (pure x : Query α).FailsOnly P :=
  .of_ok fun _ log => ⟨x, log, rfl⟩

theorem failsOnly_read : (read : Query Disk).FailsOnly P :=
  .of_ok fun d log => ⟨d, log, rfl⟩

theorem failsOnly_log (level : Level) (component : Component) (message : String) :
    (Query.log level component message).FailsOnly P :=
  .of_ok fun _ _ => ⟨(), _, rfl⟩

theorem failsOnly_throw {e : Failure} (h : P e) : (throw e : Query α).FailsOnly P := by
  intro d log f log' he
  rw [outcome_throw] at he
  cases he
  exact h

namespace FailsOnly

theorem mono (hq : q.FailsOnly P) (h : ∀ f, P f → Q f) : q.FailsOnly Q :=
  fun d log f log' ho => h f (hq d log f log' ho)

theorem bind (hq : q.FailsOnly P) (hf : ∀ x, (f x).FailsOnly P) : (q >>= f).FailsOnly P := by
  intro d log e log' h
  rw [outcome_bind] at h
  rcases ho : q.outcome d log with ⟨_ | x, log₁⟩ <;> rw [ho] at h
  case error => cases h; exact hq d log _ _ ho
  case ok    => exact hf x d log₁ e log' h

theorem mapM (l : List α) (hf : ∀ x ∈ l, (f x).FailsOnly P) : (l.mapM f).FailsOnly P := by
  induction l
  case nil         => exact failsOnly_pure []
  case cons x l ih =>
    rw [List.mapM_cons]
    have ⟨hx, hl⟩ := List.forall_mem_cons.mp hf
    exact hx.bind fun _ => (ih hl).bind fun _ => failsOnly_pure _

end FailsOnly

end Query

namespace Action

variable {a : Action α} {f : α → Action β} {q : Query α}

def FailsOnly (P : Failure → Prop) (a : Action α) : Prop :=
  ∀ s f s', a.outcome s = (.error f, s') → P f

theorem FailsOnly.of_ok (h : ∀ s, ∃ x s', a.outcome s = (.ok x, s')) : a.FailsOnly P := by
  intro s f s' he
  have ⟨x, s₁, ho⟩ := h s
  rw [ho] at he
  cases he

theorem failsOnly_pure (x : α) : (pure x : Action α).FailsOnly P :=
  .of_ok fun s => ⟨x, s, rfl⟩

theorem failsOnly_disk : disk.FailsOnly P :=
  .of_ok fun s => ⟨s.disk, s, rfl⟩

theorem failsOnly_log (level : Level) (component : Component) (message : String) :
    (Action.log level component message).FailsOnly P :=
  .of_ok fun _ => ⟨(), _, rfl⟩

namespace FailsOnly

theorem mono (ha : a.FailsOnly P) (h : ∀ f, P f → Q f) : a.FailsOnly Q :=
  fun s f s' ho => h f (ha s f s' ho)

theorem ofExcept (h : ∀ f, r = .error f → P f) : (ofExcept r).FailsOnly P := by
  intro s f s' he
  rw [outcome_ofExcept] at he
  exact h f (Prod.mk.inj he).left

theorem query (hq : q.FailsOnly P) : (liftM q : Action α).FailsOnly P := by
  intro s f s' h
  rw [outcome_toAction] at h
  exact hq s.disk s.log f _ (Prod.ext (Prod.mk.inj h).left rfl)

theorem bind (ha : a.FailsOnly P) (hf : ∀ x, (f x).FailsOnly P) : (a >>= f).FailsOnly P := by
  intro s e s' h
  rw [outcome_bind] at h
  rcases ho : a.outcome s with ⟨_ | x, s₁⟩ <;> rw [ho] at h
  case error => cases h; exact ha s _ _ ho
  case ok    => exact hf x s₁ e s' h

end FailsOnly

end Action

namespace Migrating

variable {m : Migrating α} {f : α → Migrating β} {a : Action α}

def FailsOnly (P : Failure → Prop) (m : Migrating α) : Prop :=
  ∀ k s f k' s', m.outcome k s = (.error f, k', s') → P f

theorem FailsOnly.of_ok (h : ∀ k s, ∃ x k' s', m.outcome k s = (.ok x, k', s')) : m.FailsOnly P := by
  intro k s f k' s' he
  have ⟨x, k₁, s₁, ho⟩ := h k s
  rw [ho] at he
  cases he

theorem failsOnly_pure (x : α) : (pure x : Migrating α).FailsOnly P :=
  .of_ok fun k s => ⟨x, k, s, rfl⟩

-- Nothing happens behind a failure.
theorem failsOnly_throw_bind {e : Failure} {g : α → Migrating β} (h : P e) :
    ((throw e : Migrating α) >>= g).FailsOnly P := by
  intro k s f k' s' he
  rw [outcome_bind, outcome_throw] at he
  cases he
  exact h

theorem failsOnly_modify (g : Migration.Knowledge → Migration.Knowledge) :
    (modifyThe Migration.Knowledge g : Migrating Unit).FailsOnly P :=
  .of_ok fun k s => ⟨(), g k, s, rfl⟩

theorem failsOnly_knowledge : (getThe Migration.Knowledge : Migrating Migration.Knowledge).FailsOnly P :=
  .of_ok fun k s => ⟨k, k, s, rfl⟩

theorem failsOnly_session : (getThe Session : Migrating Session).FailsOnly P :=
  .of_ok fun k s => ⟨s, k, s, rfl⟩

namespace FailsOnly

theorem mono (hm : m.FailsOnly P) (h : ∀ f, P f → Q f) : m.FailsOnly Q :=
  fun k s f k' s' ho => h f (hm k s f k' s' ho)

theorem action (ha : a.FailsOnly P) : (liftM a : Migrating α).FailsOnly P := by
  intro k s f k' s' h
  rw [outcome_action] at h
  exact ha s f _ (Prod.ext (Prod.mk.inj h).left rfl)

theorem toAction (hm : m.FailsOnly P) : m.toAction.FailsOnly P :=
  fun s f _ h => hm {} s f _ _ (Prod.ext (Prod.mk.inj h).left rfl)

theorem bind (hm : m.FailsOnly P) (hf : ∀ x, (f x).FailsOnly P) : (m >>= f).FailsOnly P := by
  intro k s e k' s' h
  rw [outcome_bind] at h
  rcases ho : m.outcome k s with ⟨_ | x, k₁, s₁⟩ <;> rw [ho] at h
  case error => cases h; exact hm k s _ _ _ ho
  case ok    => exact hf x k₁ s₁ e k' s' h

theorem mapM (l : List α) (hf : ∀ x ∈ l, (f x).FailsOnly P) : (l.mapM f).FailsOnly P := by
  induction l
  case nil         => exact failsOnly_pure []
  case cons x l ih =>
    rw [List.mapM_cons]
    have ⟨hx, hl⟩ := List.forall_mem_cons.mp hf
    exact hx.bind fun _ => (ih hl).bind fun _ => failsOnly_pure _

end FailsOnly

end Migrating

end TypedResources
