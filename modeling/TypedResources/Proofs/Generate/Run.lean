import TypedResources.Generate
import TypedResources.Proofs.Cache
import TypedResources.Proofs.ClassFile.Reading
import TypedResources.Proofs.Locate

-- What a run of the generator does: it finds its inputs, which no setting of the cache changes, and
-- then either reuses the class in the cache or makes the class anew (`outcome_run`).

namespace TypedResources.Generate

variable {s : Settings} {c : Cache} {i : Inputs} {g : Generated} {module output : Path} {σ σ' : Session}
  {content : String} {d : Disk}

theorem steady_inputs : (inputs s module).Steady :=
  BuildFile.steady_namespace?.bind fun package => by
    cases package
    case none => exact Query.steady_throw _
    case some => exact Locate.steady_groups.bind fun _ => Locate.steady_observed.bind fun _ => Query.steady_pure _

-- A session that has found its inputs; only its log tells so.
def prepared (s : Settings) (module : Path) (σ : Session) : Session :=
  { σ with log := σ.log ++ [⟨.info, .generator, "Generating ResourceManager for " ++ module.toString⟩] ++
      (inputs s module).records σ.disk }

@[simp]
theorem disk_prepared : (prepared s module σ).disk = σ.disk :=
  rfl

@[simp]
theorem stamp_prepared : (prepared s module σ).stamp = σ.stamp :=
  rfl

-- The class that the cache offers on a disk.
def offered (s : Settings) (c : Cache) (d : Disk) : Except Failure (Option String) :=
  if s.generation.cache then do if ← c.isUpToDate d then c.content? d else return none
  else return none

theorem offered_of_cache (h : s.generation.cache) :
    offered s c d = do if ← c.isUpToDate d then c.content? d else return none :=
  if_pos h

theorem outcome_cached? : (cached? s c).outcome σ = (offered s c σ.disk, σ) := by
  unfold cached? offered
  cases s.generation.cache
  case false => rfl
  case true  =>
    simp only [Bool.not_true, Bool.false_eq_true, if_false, if_true]
    rw [Action.outcome_bind_of_ok Action.outcome_disk, Action.outcome_bind, Action.outcome_ofExcept]
    cases c.isUpToDate σ.disk
    case error   => rfl
    case ok isUp => cases isUp <;> first | rfl | simp

theorem outcome_run : (run s module output).outcome σ =
    match (inputs s module).result σ.disk with
    | .error f => (.error f, prepared s module σ)
    | .ok i    =>
      match offered s (cacheOf s module i.observed) σ.disk with
      | .error f           => (.error f, prepared s module σ)
      | .ok (some content) => (reuse output content).outcome (prepared s module σ)
      | .ok none           =>
        (regenerate s (cacheOf s module i.observed) i output).outcome (prepared s module σ) := by
  rw [run, log, Action.outcome_bind_of_ok (Action.outcome_log ..), Action.outcome_bind,
    Action.outcome_query steady_inputs]
  dsimp only
  cases (inputs s module).result σ.disk
  case error => rfl
  case ok i  =>
    dsimp only
    rw [Action.outcome_bind, outcome_cached?]
    change (match (offered s (cacheOf s module i.observed) σ.disk, prepared s module σ) with | _ => _) = _
    rcases offered s (cacheOf s module i.observed) σ.disk with _ | _ | _ <;> rfl

theorem run_eq_ok (h : (run s module output).outcome σ = (.ok g, σ')) :
    ∃ i, (inputs s module).result σ.disk = .ok i ∧
      ((∃ content, offered s (cacheOf s module i.observed) σ.disk = .ok (some content) ∧
        (reuse output content).outcome (prepared s module σ) = (.ok g, σ')) ∨
      offered s (cacheOf s module i.observed) σ.disk = .ok none ∧
        (regenerate s (cacheOf s module i.observed) i output).outcome (prepared s module σ) = (.ok g, σ')) := by
  rw [outcome_run] at h
  cases hi : (inputs s module).result σ.disk
  case error => simp [hi] at h
  case ok i  =>
    refine ⟨i, rfl, ?_⟩
    rw [hi] at h
    dsimp only at h
    cases ho : offered s (cacheOf s module i.observed) σ.disk
    case error => simp [ho] at h
    case ok found =>
      rw [ho] at h
      cases found
      case some content => exact .inl ⟨content, rfl, h⟩
      case none         => exact .inr ⟨rfl, h⟩

theorem steady_classOf : (classOf s i).Steady :=
  ClassFile.steady_generate _ _ _

theorem reuse_eq_ok_iff : (reuse output content).outcome σ = (.ok g, σ') ↔
    (Action.writeBelow output content.toList).outcome
      { σ with log := σ.log ++ [⟨.info, .generator, "Inputs unchanged; reusing cached ResourceManager"⟩] } =
      (.ok (), σ') ∧ g = { path := output, fromCache := true } := by
  rw [reuse, log, Action.outcome_bind_of_ok (Action.outcome_log ..)]
  simp only [Action.bind_eq_ok_iff, Action.outcome_pure, Prod.mk.injEq, Except.ok.injEq]
  constructor
  case mp  => rintro ⟨_, _, h, rfl, rfl⟩; exact ⟨h, rfl⟩
  case mpr => rintro ⟨h, rfl⟩; exact ⟨_, _, h, rfl, rfl⟩

theorem regenerate_eq_ok_iff : (regenerate s c i output).outcome σ = (.ok g, σ') ↔
    ∃ made σ₁ σ₂, (classOf s i).result σ.disk = .ok made ∧
      (keep s c made).outcome { σ with log := σ.log ++ (classOf s i).records σ.disk } = (.ok (), σ₁) ∧
      (Action.writeBelow output made.content.toList).outcome σ₁ = (.ok (), σ₂) ∧
      g = { path := output, fromCache := false, skipped := made.skipped } ∧
      σ' = { σ₂ with log := σ₂.log ++ [⟨.info, .generator, "Wrote " ++ output.toString⟩] } := by
  rw [regenerate, Action.outcome_bind, Action.outcome_query steady_classOf]
  cases (classOf s i).result σ.disk
  case error   => simp
  case ok made =>
    simp only [log, Action.bind_eq_ok_iff, Action.outcome_log, Action.outcome_pure, Prod.mk.injEq,
      Except.ok.injEq]
    constructor
    case mp  =>
      rintro ⟨_, σ₁, hk, _, σ₂, hw, _, _, ⟨-, rfl⟩, rfl, rfl⟩
      exact ⟨made, σ₁, σ₂, rfl, hk, hw, rfl, rfl⟩
    case mpr =>
      rintro ⟨_, σ₁, σ₂, rfl, hk, hw, rfl, rfl⟩
      exact ⟨(), σ₁, hk, (), σ₂, hw, (), _, ⟨trivial, rfl⟩, rfl, rfl⟩

end TypedResources.Generate
