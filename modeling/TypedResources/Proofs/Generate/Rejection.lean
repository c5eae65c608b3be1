import TypedResources.Proofs.Failing
import TypedResources.Proofs.Generate.Run

-- Calls of the generator that are rejected: the settings cannot be read, the module has no package, or
-- a document is malformed. Whatever a call writes it writes after all of that has been found in order,
-- and then nothing but the disk can fail it (`OnlyDisk`). So a rejected call leaves the disk as it was,
-- and calls that are left out because they are rejected are not missed (`rejected_calls_unseen`).

namespace TypedResources

def Failure.isDisk : Failure → Bool
  | disk .. => true
  | _       => false

-- Whether a call of the generator is rejected by the failure.
def Failure.isRejection : Failure → Bool
  | badSettings .malformed | settingsNoMapping | noNamespace _ | badDocument .. => true
  | _ => false

theorem Failure.not_isRejection {f : Failure} (h : f.isDisk) : f.isRejection = false := by
  cases f <;> first | rfl | cases h

namespace Action

variable {α β : Type} {a : Action α} {f : α → Action β} {p : Path} {text : List Char} {r : Except Failure α}

-- The action fails only by what the disk fails at.
def OnlyDisk (a : Action α) : Prop :=
  ∀ s f s', a.outcome s = (.error f, s') → f.isDisk

theorem OnlyDisk.of_ok (h : ∀ s, ∃ x s', a.outcome s = (.ok x, s')) : a.OnlyDisk :=
  FailsOnly.of_ok h

theorem onlyDisk_pure (x : α) : (pure x : Action α).OnlyDisk :=
  .of_ok fun s => ⟨x, s, rfl⟩

theorem onlyDisk_disk : disk.OnlyDisk :=
  .of_ok fun s => ⟨s.disk, s, rfl⟩

theorem onlyDisk_getThe : (getThe Session : Action Session).OnlyDisk :=
  .of_ok fun s => ⟨s, s, rfl⟩

theorem onlyDisk_log (level : Level) (component : Component) (message : String) :
    (Action.log level component message).OnlyDisk :=
  .of_ok fun _ => ⟨(), _, rfl⟩

theorem OnlyDisk.bind (ha : a.OnlyDisk) (hf : ∀ x, (f x).OnlyDisk) : (a >>= f).OnlyDisk :=
  FailsOnly.bind ha hf

theorem onlyDisk_ofExcept (h : ∀ f, r = .error f → f.isDisk) : (ofExcept r).OnlyDisk :=
  FailsOnly.ofExcept h

theorem onlyDisk_makeDirs : (makeDirs p).OnlyDisk := by
  intro s f s' h
  rw [outcome_makeDirs] at h
  split at h <;> cases h
  rfl

theorem onlyDisk_writeText : (writeText p text).OnlyDisk := by
  intro s f s' h
  rw [outcome_writeText] at h
  split at h <;> cases h
  rfl

theorem onlyDisk_writeBelow : (writeBelow p text).OnlyDisk :=
  onlyDisk_makeDirs.bind fun _ => onlyDisk_writeText

theorem onlyDisk_removeTree : (removeTree p).OnlyDisk := by
  refine onlyDisk_disk.bind fun d => (onlyDisk_ofExcept fun f hf => ?_).bind fun d' => .of_ok fun s => ⟨(), _, rfl⟩
  cases hr : d.removeTree p <;> rw [hr] at hf <;> cases hf
  rfl

end Action

namespace Cache

variable {c : Cache} {d : Disk} {content : String} {files : List Path} {f : Failure}

theorem isDisk_of_modified? {p : Path} (h : modified? d p = .error f) : f.isDisk := by
  unfold modified? at h
  split at h <;> cases h
  rfl

theorem isDisk_of_newest (h : newest d files = .error f) : f.isDisk := by
  have hm : files.mapM (modified? d) = .error f := by
    unfold newest at h
    cases hm : files.mapM (modified? d) <;> rw [hm] at h <;> cases h
    rfl
  clear h
  induction files
  case nil            => cases hm
  case cons p files ih =>
    rw [List.mapM_cons] at hm
    cases hp : modified? d p <;> rw [hp] at hm
    case error => cases hm; exact isDisk_of_modified? hp
    case ok    =>
      rw [ok_bind] at hm
      cases hr : files.mapM (modified? d) <;> rw [hr] at hm <;> cases hm
      exact ih hr

theorem onlyDisk_put : (c.put content).OnlyDisk := by
  refine Action.onlyDisk_disk.bind fun d => (Action.onlyDisk_ofExcept fun f => isDisk_of_newest).bind fun time => ?_
  refine Action.onlyDisk_makeDirs.bind fun _ => Action.onlyDisk_writeText.bind fun _ => ?_
  refine Action.onlyDisk_getThe.bind fun s => Action.onlyDisk_writeText.bind fun _ => ?_
  exact (Action.onlyDisk_log _ _ _).bind fun _ => Action.onlyDisk_pure _

theorem onlyDisk_invalidate : c.invalidate.OnlyDisk := by
  refine Action.onlyDisk_disk.bind fun d => ?_
  split
  case isTrue  => exact Action.onlyDisk_removeTree.bind fun _ => Action.onlyDisk_log _ _ _
  case isFalse => exact Action.onlyDisk_pure _

end Cache

namespace Generate

variable {s : Settings} {c : Cache} {i : Inputs} {made : ClassFile} {module output : Path} {σ σ' : Session}
  {content : String} {f : Failure} {r : Request}

theorem onlyDisk_keep : (keep s c made).OnlyDisk := by
  unfold keep
  split
  case isTrue  => exact Cache.onlyDisk_put.bind fun _ => Action.onlyDisk_pure _
  case isFalse => exact Cache.onlyDisk_invalidate

theorem onlyDisk_reuse : (reuse output content).OnlyDisk :=
  (Action.onlyDisk_log _ _ _).bind fun _ => Action.onlyDisk_writeBelow.bind fun _ => Action.onlyDisk_pure _

-- When the class is made, only the disk can fail what is left to do.
theorem onlyDisk_of_regenerate (hm : (classOf s i).result σ.disk = .ok made)
    (h : (regenerate s c i output).outcome σ = (.error f, σ')) : f.isDisk := by
  rw [regenerate, Action.outcome_bind, Action.outcome_query steady_classOf, hm] at h
  have hd : (do
      keep s c made
      Action.writeBelow output made.content.toList
      log ("Wrote " ++ output.toString)
      pure { path := output, fromCache := false, skipped := made.skipped } : Action Generated).OnlyDisk :=
    onlyDisk_keep.bind fun _ => Action.onlyDisk_writeBelow.bind fun _ =>
      (Action.onlyDisk_log _ _ _).bind fun _ => Action.onlyDisk_pure _
  exact hd _ _ _ h

theorem disk_of_regenerate (h : (regenerate s c i output).outcome σ = (.error f, σ')) (hf : f.isRejection) :
    σ'.disk = σ.disk := by
  cases hc : (classOf s i).result σ.disk
  case ok made =>
    rw [Failure.not_isRejection (onlyDisk_of_regenerate hc h)] at hf
    cases hf
  case error   =>
    rw [regenerate, Action.outcome_bind, Action.outcome_query steady_classOf, hc] at h
    cases h
    rfl

theorem disk_of_run (h : (run s module output).outcome σ = (.error f, σ')) (hf : f.isRejection) :
    σ'.disk = σ.disk := by
  rw [outcome_run] at h
  cases hi : (inputs s module).result σ.disk <;> rw [hi] at h
  case error => cases h; rfl
  case ok i  =>
    dsimp only at h
    rcases ho : offered s (cacheOf s module i.observed) σ.disk with _ | _ | content <;> rw [ho] at h
    case error   => cases h; rfl
    case ok.none => exact (disk_of_regenerate (by exact h) hf).trans disk_prepared
    case ok.some =>
      rw [Failure.not_isRejection (onlyDisk_reuse _ _ _ h)] at hf
      cases hf

-- A rejected call leaves the disk as it was.
theorem disk_of_rejected (h : r.run.outcome σ = (.error f, σ')) (hf : f.isRejection) : σ'.disk = σ.disk := by
  rw [Request.run, Action.outcome_bind_of_ok Action.outcome_disk, Action.outcome_bind, Action.outcome_ofExcept] at h
  cases hm : (Settings.expandHome σ.disk r.module).bind (Settings.plainPath σ.disk) <;> rw [hm] at h
  case error     => cases h; rfl
  case ok module =>
    dsimp only at h
    rw [Action.outcome_bind, Action.outcome_ofExcept] at h
    cases hs : r.settings.elim (Settings.load σ.disk module) .ok <;> rw [hs] at h
    case error => cases h; rfl
    case ok s  => exact disk_of_run h hf

-- What happens to a disk: the generator is called at a time, or anything is edited.
inductive Step
  | call (r : Request) (now : Int)
  | edit (change : Disk → Disk)

-- A step with what it came to: the result of a call, and the disk behind it.
structure Event where
  step   : Step
  result : Option (Except Failure Generated)
  disk   : Disk

def Step.happen (d : Disk) : Step → Event
  | call r now  =>
    let (result, σ) := r.run.outcome (Clock.session d now)
    ⟨call r now, some result, σ.disk⟩
  | edit change => ⟨edit change, none, change d⟩

def history : Disk → List Step → List Event
  | _, []            => []
  | d, step :: steps => step.happen d :: history (step.happen d).disk steps

-- Whether the event is a call that was rejected.
def Event.isRejected (e : Event) : Bool :=
  match e.result with
  | some (.error f) => f.isRejection
  | _               => false

variable {d : Disk} {step : Step} {steps : List Step}

@[simp]
theorem step_happen : (step.happen d).step = step := by
  cases step <;> rfl

theorem isRejected_call_iff {now : Int} : ((Step.call r now).happen d).isRejected ↔
    ∃ f σ, r.run.outcome (Clock.session d now) = (.error f, σ) ∧ f.isRejection := by
  rw [Step.happen, Event.isRejected]
  rcases r.run.outcome (Clock.session d now) with ⟨_ | _, σ⟩ <;> simp

theorem disk_of_isRejected (h : (step.happen d).isRejected) : (step.happen d).disk = d := by
  cases step
  case edit       => cases h
  case call r now =>
    have ⟨f, σ, ho, hf⟩ := isRejected_call_iff.mp h
    rw [Step.happen, ho]
    exact disk_of_rejected ho hf

-- A rejected call leaves the disk as it was, so that the others come to the same without it: each
-- has the same result and leaves the same disk behind.
theorem rejected_calls_unseen (d : Disk) (steps : List Step) :
    (∀ (r : Request) σ f σ', r.run.outcome σ = (.error f, σ') → f.isRejection → σ'.disk = σ.disk) ∧
      let others := (history d steps).filter (!·.isRejected)
      history d (others.map Event.step) = others := by
  refine ⟨fun r σ f σ' => disk_of_rejected, ?_⟩
  induction steps generalizing d
  case nil              => rfl
  case cons step steps ih =>
    by_cases h : (step.happen d).isRejected
    case pos =>
      have ih := ih d
      rw [history, List.filter_cons_of_neg (by simp [h]), disk_of_isRejected h]
      exact ih
    case neg =>
      dsimp only at ih ⊢
      rw [history, List.filter_cons_of_pos (by simp [h]), List.map_cons, history, step_happen]
      exact congrArg _ (ih _)

-- A module with a document that does not close its root, and what an earlier call has written.
def brokenDisk : Disk where
  entries :=
    [(["A.kt"], .file [] 2), (["app"], .dir),
     (["app", "build.gradle"], .file (Text.Utf8.encode "namespace 'a'".toList) 0), (["app", "src"], .dir),
     (["app", "src", "main"], .dir), (["app", "src", "main", "res"], .dir),
     (["app", "src", "main", "res", "values"], .dir),
     (["app", "src", "main", "res", "values", "a.xml"], .file (Text.Utf8.encode "<r>".toList) 1)]

def brokenRequest : Request where
  module := ⟨.root, ["app"]⟩
  output := some ⟨.root, ["A.kt"]⟩

def brokenSteps : List Step :=
  [.call brokenRequest 3, .edit (·.eraseBelow ["app"]), .call brokenRequest 4]

theorem broken_calls_unseen :
    (∃ f σ, brokenRequest.run.outcome (Clock.session brokenDisk 3) = (.error f, σ) ∧ f.isRejection ∧
      σ.disk = brokenDisk) ∧
    (history brokenDisk brokenSteps).map Event.isRejected = [true, false, true] ∧
    history brokenDisk [.edit (·.eraseBelow ["app"])] = (history brokenDisk brokenSteps).filter (!·.isRejected) := by
  have hr : (history brokenDisk brokenSteps).map Event.isRejected = [true, false, true] := by decide +kernel
  have ⟨hd, hs⟩ := rejected_calls_unseen brokenDisk brokenSteps
  simp only [history, brokenSteps, List.map_cons, List.map_nil, List.cons.injEq, and_true] at hr
  have ⟨h₁, h₂, h₃⟩ := hr
  refine ⟨?_, ?_, ?_⟩
  case refine_1 =>
    have ⟨f, σ, ho, hf⟩ := isRejected_call_iff.mp h₁
    exact ⟨f, σ, ho, hf, hd _ _ _ _ ho hf⟩
  case refine_2 => simp only [history, brokenSteps, List.map_cons, List.map_nil, h₁, h₂, h₃]
  case refine_3 => simpa [history, brokenSteps, h₁, h₂, h₃] using hs

end Generate

end TypedResources
