import TypedResources.Run

-- What queries come to. Every query of this library is steady: it adds records to the log and never
-- reads them, so that its result is a function of the disk alone. The result of a compound query
-- follows from those of its parts (`result_bind`).

namespace TypedResources

@[simp]
theorem ok_bind {ε α β : Type} (a : α) (f : α → Except ε β) : (Except.ok a >>= f) = f a :=
  rfl

@[simp]
theorem error_bind {ε α β : Type} (e : ε) (f : α → Except ε β) : (Except.error e >>= f) = .error e :=
  rfl

theorem eq_ok_of_map {ε α β : Type} {f : α → β} {r : Except ε α} {b : β} (h : r.toOption.map f = some b) :
    ∃ a, r = .ok a ∧ f a = b := by
  cases r
  case error => cases h
  case ok a  => exact ⟨a, rfl, Option.some.inj h⟩

def failure? {ε α : Type} : Except ε α → Option ε
  | .ok _    => none
  | .error e => some e

-- What is done for each element of a list fails by the first failure.
theorem mapM_eq {ε α β : Type} (f : α → Except ε β) (l : List α) : l.mapM f =
    match l.findSome? fun a => failure? (f a) with
    | some e => .error e
    | none   => .ok (l.filterMap fun a => (f a).toOption) := by
  induction l
  case nil         => rfl
  case cons a l ih =>
    rw [List.mapM_cons, ih, List.findSome?_cons, List.filterMap_cons]
    cases f a
    case error => rfl
    case ok    => cases l.findSome? _ <;> rfl

theorem mapM_eq_ok_iff {ε α β : Type} {f : α → Except ε β} {l : List α} {bs : List β} : l.mapM f = .ok bs ↔
    (∀ a ∈ l, ∃ b, f a = .ok b) ∧ bs = l.filterMap fun a => (f a).toOption := by
  have hf (a : α) : failure? (f a) = none ↔ ∃ b, f a = .ok b := by cases f a <;> simp [failure?]
  rw [mapM_eq]
  simp only [← hf, ← List.findSome?_eq_none_iff]
  cases l.findSome? fun a => failure? (f a) <;> simp [eq_comm]

theorem exists_of_mapM_eq_error {ε α β : Type} {f : α → Except ε β} {l : List α} {e : ε} (h : l.mapM f = .error e) :
    ∃ a ∈ l, f a = .error e := by
  rw [mapM_eq] at h
  cases hs : l.findSome? fun a => failure? (f a) <;> rw [hs] at h <;> cases h
  obtain ⟨a, ha, he⟩ := List.exists_of_findSome?_eq_some hs
  refine ⟨a, ha, ?_⟩
  cases hf : f a <;> rw [hf] at he <;> cases he
  rfl

theorem mapM_congr {ε α β : Type} {f g : α → Except ε β} {l : List α} (h : ∀ a ∈ l, f a = g a) :
    l.mapM f = l.mapM g := by
  induction l
  case nil         => rfl
  case cons a l ih =>
    have ⟨ha, hl⟩ := List.forall_mem_cons.mp h
    rw [List.mapM_cons, List.mapM_cons, ha, ih hl]

namespace Query

variable {α β : Type} {q : Query α} {f : α → Query β} {d : Disk} {log : Log}

def result (q : Query α) (d : Disk) : Except Failure α :=
  (q.outcome d []).1

def records (q : Query α) (d : Disk) : Log :=
  (q.outcome d []).2

def Steady (q : Query α) : Prop :=
  ∀ d log, q.outcome d log = (q.result d, log ++ q.records d)

@[simp]
theorem outcome_pure (a : α) : (pure a : Query α).outcome d log = (.ok a, log) :=
  rfl

@[simp]
theorem outcome_throw (f : Failure) : (throw f : Query α).outcome d log = (.error f, log) :=
  rfl

@[simp]
theorem outcome_read : (read : Query Disk).outcome d log = (.ok d, log) :=
  rfl

@[simp]
theorem outcome_log (level : Level) (component : Component) (message : String) :
    (Query.log level component message).outcome d log = (.ok (), log ++ [⟨level, component, message⟩]) :=
  rfl

@[simp]
theorem outcome_modify (g : Log → Log) : (modifyThe Log g : Query Unit).outcome d log = (.ok (), g log) :=
  rfl

theorem outcome_bind : (q >>= f).outcome d log =
    match q.outcome d log with
    | (.ok a, log')    => (f a).outcome d log'
    | (.error e, log') => (.error e, log') := by
  simp only [outcome, ReaderT.run_bind, ExceptT.run_bind, StateT.run_bind]
  show (match ((q.run d).run).run log with | (a, s) => _) = _
  rcases ((q.run d).run).run log with ⟨_ | _, _⟩ <;> rfl

@[simp]
theorem result_pure (a : α) : (pure a : Query α).result d = .ok a :=
  rfl

@[simp]
theorem result_throw (f : Failure) : (throw f : Query α).result d = .error f :=
  rfl

@[simp]
theorem result_read : (read : Query Disk).result d = .ok d :=
  rfl

@[simp]
theorem result_log (level : Level) (component : Component) (message : String) :
    (Query.log level component message).result d = .ok () :=
  rfl

@[simp]
theorem result_modify (g : Log → Log) : (modifyThe Log g : Query Unit).result d = .ok () :=
  rfl

@[simp]
theorem result_lift (r : Except Failure α) : (liftM r : Query α).result d = r := by
  cases r <;> rfl

theorem result_read_bind {f : Disk → Query α} : (read >>= f).result d = (f d).result d :=
  rfl

theorem lift_ok_bind (a : α) : ((liftM (Except.ok a : Except Failure α) : Query α) >>= f) = f a :=
  rfl

theorem result_bind (hf : ∀ a, (f a).Steady) : (q >>= f).result d = q.result d >>= fun a => (f a).result d := by
  simp only [result, outcome_bind]
  rcases q.outcome d [] with ⟨_ | a, log⟩
  case error => rfl
  case ok    => exact (congrArg Prod.fst (hf a d log)).trans rfl

theorem steady_pure (a : α) : (pure a : Query α).Steady :=
  fun _ log => by simp [records, result]

theorem steady_throw (f : Failure) : (throw f : Query α).Steady :=
  fun _ log => by simp [records, result]

theorem steady_read : (read : Query Disk).Steady :=
  fun _ log => by simp [records, result]

theorem steady_log (level : Level) (component : Component) (message : String) :
    (Query.log level component message).Steady :=
  fun _ log => by simp [records, result]

theorem steady_modify (more : Log) : (modifyThe Log (· ++ more) : Query Unit).Steady :=
  fun _ _ => rfl

theorem steady_lift (r : Except Failure α) : (liftM r : Query α).Steady := by
  cases r
  case error f => exact steady_throw f
  case ok a    => exact steady_pure a

theorem Steady.bind (hq : q.Steady) (hf : ∀ a, (f a).Steady) : (q >>= f).Steady := by
  intro d log
  show (q >>= f).outcome d log = (((q >>= f).outcome d []).1, log ++ ((q >>= f).outcome d []).2)
  rw [outcome_bind, outcome_bind, hq d log, hq d []]
  cases q.result d
  case error => rfl
  case ok a  =>
    have ha := hf a d
    simp only [List.nil_append, ha (log ++ _), ha (q.records d), List.append_assoc]

theorem Steady.map {g : α → β} (hq : q.Steady) : (g <$> q).Steady := by
  rw [← bind_pure_comp]
  exact hq.bind fun a => steady_pure (g a)

theorem result_log_bind {f : Unit → Query α} {level : Level} {component : Component} {message : String}
    (hf : (f ()).Steady) : (Query.log level component message >>= f).result d = (f ()).result d :=
  result_bind fun _ => hf

theorem steady_mapM (l : List α) (hf : ∀ a ∈ l, (f a).Steady) : (l.mapM f).Steady := by
  induction l
  case nil          => exact steady_pure []
  case cons a l ih =>
    rw [List.mapM_cons]
    have hl := ih fun b hb => hf b (List.mem_cons_of_mem a hb)
    exact (hf a List.mem_cons_self).bind fun _ => hl.bind fun _ => steady_pure _

theorem result_mapM (l : List α) (hf : ∀ a ∈ l, (f a).Steady) :
    (l.mapM f).result d = l.mapM fun a => (f a).result d := by
  induction l
  case nil         => rfl
  case cons a l ih =>
    have hl : ∀ b ∈ l, (f b).Steady := fun b hb => hf b (List.mem_cons_of_mem a hb)
    have hs := steady_mapM l hl
    rw [List.mapM_cons, List.mapM_cons, result_bind fun _ => hs.bind fun _ => steady_pure _]
    congr 1
    funext b
    rw [result_bind fun _ => steady_pure _, ih hl]
    rfl

end Query

end TypedResources
