import TypedResources.Proofs.Disk.Writes
import TypedResources.Proofs.Query

-- What actions come to. An action succeeds exactly if its parts do, one after another
-- (`bind_eq_ok_iff`). A steady query within an action finds what the disk alone decides and leaves
-- everything but the log as it is (`outcome_query`).

namespace TypedResources.Action

variable {α β : Type} {a : Action α} {f : α → Action β} {s s' : Session} {b : β} {p : Path}
  {text : List Char} {u : Unit}

@[simp]
theorem outcome_pure (x : α) : (pure x : Action α).outcome s = (.ok x, s) :=
  rfl

@[simp]
theorem outcome_throw (e : Failure) : (throw e : Action α).outcome s = (.error e, s) :=
  rfl

@[simp]
theorem outcome_disk : Action.disk.outcome s = (.ok s.disk, s) :=
  rfl

@[simp]
theorem outcome_setDisk (d : Disk) : (setDisk d).outcome s = (.ok (), { s with disk := d }) :=
  rfl

@[simp]
theorem outcome_getThe : (getThe Session : Action Session).outcome s = (.ok s, s) :=
  rfl

@[simp]
theorem outcome_log (level : Level) (component : Component) (message : String) :
    (Action.log level component message).outcome s =
      (.ok (), { s with log := s.log ++ [⟨level, component, message⟩] }) :=
  rfl

@[simp]
theorem outcome_ofExcept (r : Except Failure α) : (ofExcept r).outcome s = (r, s) := by
  cases r <;> rfl

theorem outcome_eq_ok_of_map {f : α → β} {r : Except Failure α × Session} (h : r.1.toOption.map f = some b) :
    ∃ a, r = (.ok a, r.2) ∧ f a = b := by
  have ⟨a, ha, hb⟩ := eq_ok_of_map h
  exact ⟨a, Prod.ext ha rfl, hb⟩

theorem outcome_bind : (a >>= f).outcome s =
    match a.outcome s with
    | (.ok x, s')    => (f x).outcome s'
    | (.error e, s') => (.error e, s') := by
  simp only [outcome, ExceptT.run_bind, StateT.run_bind]
  show (match a.run.run s with | (x, s) => _) = _
  rcases a.run.run s with ⟨_ | _, _⟩ <;> rfl

theorem outcome_bind_of_ok {x : α} (h : a.outcome s = (.ok x, s')) : (a >>= f).outcome s = (f x).outcome s' := by
  rw [outcome_bind, h]

theorem bind_eq_ok_iff : (a >>= f).outcome s = (.ok b, s') ↔
    ∃ x s₁, a.outcome s = (.ok x, s₁) ∧ (f x).outcome s₁ = (.ok b, s') := by
  rw [outcome_bind]
  rcases a.outcome s with ⟨_ | x, s₁⟩
  case error => simp
  case ok    =>
    constructor
    case mp  => exact fun h => ⟨x, s₁, rfl, h⟩
    case mpr => rintro ⟨_, _, ⟨⟩, h⟩; exact h

-- What comes behind an action without changing the disk leaves it as the action has left it.
theorem disk_of_bind {r : Except Failure β} (hf : ∀ x s, ((f x).outcome s).2.disk = s.disk)
    (h : (a >>= f).outcome s = (r, s')) : ∃ r₁ s₁, a.outcome s = (r₁, s₁) ∧ s'.disk = s₁.disk := by
  rw [outcome_bind] at h
  rcases ho : a.outcome s with ⟨_ | x, s₁⟩ <;> rw [ho] at h
  case error => cases h; exact ⟨_, _, rfl, rfl⟩
  case ok    =>
    have hd := hf x s₁
    dsimp only at h
    rw [h] at hd
    exact ⟨_, s₁, rfl, hd⟩

theorem outcome_toAction (q : Query α) : (liftM q : Action α).outcome s =
    ((q.outcome s.disk s.log).1, { s with log := (q.outcome s.disk s.log).2 }) :=
  rfl

theorem outcome_query {q : Query α} (h : q.Steady) : (liftM q : Action α).outcome s =
    (q.result s.disk, { s with log := s.log ++ q.records s.disk }) := by
  rw [outcome_toAction, h]

theorem outcome_makeDirs : (makeDirs p).outcome s =
    match s.disk.makeDirs p with
    | .ok d         => (.ok (), { s with disk := d })
    | .error (f, q) => (.error (.disk f q), s) := by
  rw [makeDirs, outcome_bind_of_ok outcome_disk]
  rcases s.disk.makeDirs p with ⟨_, _⟩ | _ <;> rfl

theorem outcome_writeText : (writeText p text).outcome s =
    match s.disk.writeBytes p (Text.Utf8.encode text) s.time with
    | .ok d    => (.ok (), { s with disk := d })
    | .error f => (.error (.disk f p), s) := by
  rw [writeText, outcome_bind_of_ok outcome_getThe]
  cases s.disk.writeBytes p (Text.Utf8.encode text) s.time <;> rfl

theorem writeText_eq_ok_iff : (writeText p text).outcome s = (.ok u, s') ↔
    ∃ d, s.disk.writeBytes p (Text.Utf8.encode text) s.time = .ok d ∧ s' = { s with disk := d } := by
  rw [outcome_writeText]
  cases s.disk.writeBytes p (Text.Utf8.encode text) s.time <;> simp [eq_comm]

theorem writeBelow_eq_ok_iff : (writeBelow p text).outcome s = (.ok u, s') ↔
    ∃ d d', s.disk.makeDirs p.parent = .ok d ∧
      d.writeBytes p (Text.Utf8.encode text) s.time = .ok d' ∧ s' = { s with disk := d' } := by
  rw [writeBelow, outcome_bind, outcome_makeDirs]
  rcases s.disk.makeDirs p.parent with ⟨_, _⟩ | d
  case error => simp
  case ok    => simp [writeText_eq_ok_iff]

theorem writes_of_writeBelow (h : (writeBelow p text).outcome s = (.ok u, s')) :
    Disk.Writes [s.disk.keyOf p] s.disk s'.disk ∧ s'.disk.isDir p.parent ∧
      s'.disk.readBytes p = .ok (Text.Utf8.encode text) := by
  have ⟨d, d', hm, hw, hs⟩ := writeBelow_eq_ok_iff.mp h
  subst hs
  have ha := Disk.makeDirs_adds hm
  have hd := Disk.isDir_parent hm hw
  have ⟨hw', _⟩ := Disk.writeBytes_writes hw
  rw [ha.grows.keyOf] at hw'
  exact ⟨ha.writes.trans hw', hw'.isDir hd, Disk.readBytes_of_writeBytes hw⟩

-- A file that has the text already keeps it, be it the one that is written or not.
theorem readBytes_of_writeBelow {q : Path} (h : (writeBelow p text).outcome s = (.ok u, s'))
    (hq : s.disk.readBytes q = .ok (Text.Utf8.encode text)) : s'.disk.readBytes q = .ok (Text.Utf8.encode text) := by
  have ⟨hw, _, hr⟩ := writes_of_writeBelow h
  by_cases hk : s.disk.keyOf q = s.disk.keyOf p
  case neg => exact hw.readBytes (by simpa using hk) hq
  case pos =>
    have hf := hw.isFile (Disk.isFile_of_readBytes hq)
    rw [← hw.toGrows.keyOf, ← hw.toGrows.keyOf] at hk
    exact Disk.readBytes_of_sameFile (Disk.sameFile_of_isFile hf (Disk.isFile_of_readBytes hr) hk) hr

-- What has been written once can be written again.
theorem writeBelow_of_isFile (text : List Char) (hf : s.disk.isFile p) (hd : s.disk.isDir p.parent) :
    ∃ s', (writeBelow p text).outcome s = (.ok (), s') := by
  have ⟨d, hw⟩ := Disk.writeBytes_of_isFile (Text.Utf8.encode text) s.time hf
  exact ⟨_, writeBelow_eq_ok_iff.mpr ⟨s.disk, d, Disk.makeDirs_of_isDir hd, hw, rfl⟩⟩

end TypedResources.Action
