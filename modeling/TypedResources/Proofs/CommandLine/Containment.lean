import TypedResources.Proofs.CommandLine.Failures

-- What a command line lets through. It ends with one of three exit codes, and of the program's own failures
-- it passes on those of a settings file that is a directory, and of a working directory that has been
-- removed (`own_failure_escapes_iff`).

namespace TypedResources.CommandLine

variable {α β : Type} {p file module : Path} {f : Failure} {σ σ' : Session} {a : Action α} {g : α → Guarded β}
  {x : Guarded α} {h : Handler} {c : Command} {args : Arguments} {s : Settings} {words : List String}

-- What a guarded run comes to: a failure that is passed on, a message or a result.
def Guarded.outcome (x : Guarded α) (σ : Session) : Except Failure (Except String α) × Session :=
  Action.outcome x.run σ

theorem outcome_bind : (x >>= g).outcome σ =
    match x.outcome σ with
    | (.error f, σ')             => (.error f, σ')
    | (.ok (.error message), σ') => (.ok (.error message), σ')
    | (.ok (.ok r), σ')          => (g r).outcome σ' := by
  unfold Guarded.outcome
  rw [ExceptT.run_bind, Action.outcome_bind]
  rcases Action.outcome x.run σ with ⟨_ | _ | _, _⟩ <;> rfl

theorem outcome_action : (liftM a : Guarded α).outcome σ =
    match a.outcome σ with
    | (.error f, σ') => (.error f, σ')
    | (.ok r, σ')    => (.ok (.ok r), σ') := by
  show Action.outcome (Except.ok <$> a) σ = _
  rw [map_eq_pure_bind, Action.outcome_bind]
  rcases a.outcome σ with ⟨_ | _, _⟩ <;> rfl

theorem outcome_tryCatch {r : Failure → Action α} : (tryCatch a r : Action α).outcome σ =
    match a.outcome σ with
    | (.error f, σ') => (r f).outcome σ'
    | (.ok r, σ')    => (.ok r, σ') := by
  unfold Action.outcome
  rw [ExceptT.run_tryCatch, StateT.run_bind]
  change (bind (a.run.run σ) _ : Id _).run = _
  rcases a.run.run σ with ⟨_ | _, _⟩ <;> rfl

theorem outcome_guarded : (guarded h a).outcome σ =
    match a.outcome σ with
    | (.ok r, σ')    => (.ok (.ok r), σ')
    | (.error f, σ') =>
      match h f with
      | some message => (.ok (.error message), σ')
      | none         => (.error f, σ') := by
  show Action.outcome (tryCatch _ _ >>= _) σ = _
  rw [Action.outcome_bind, outcome_tryCatch, Action.outcome_bind]
  rcases a.outcome σ with ⟨f | _, _⟩
  case error => dsimp only; cases h f <;> rfl
  case ok    => rfl

@[simp]
theorem outcome_pure (r : α) : (pure r : Guarded α).outcome σ = (.ok (.ok r), σ) :=
  rfl

@[simp]
theorem outcome_throw (message : String) : (throw message : Guarded α).outcome σ = (.ok (.error message), σ) :=
  rfl

-- What an action passes on that runs under a handler, and what comes behind it.
theorem guarded_bind_error_iff : (guarded h a >>= g).outcome σ = (.error f, σ') ↔
    (a.outcome σ = (.error f, σ') ∧ h f = none) ∨
      ∃ r σ₁, a.outcome σ = (.ok r, σ₁) ∧ (g r).outcome σ₁ = (.error f, σ') := by
  rw [outcome_bind, outcome_guarded]
  rcases a.outcome σ with ⟨e | r, σ₁⟩
  case ok    => simp
  case error =>
    dsimp only
    cases hm : h e <;> simp
    case none => rintro rfl _; exact hm
    case some => rintro rfl _; simp [hm]

theorem not_caught (ho : f.isOwn) (hn : h f = none) : ¬Caught h f := by
  intro hc
  have hs := hc ho
  rw [hn] at hs
  contradiction

theorem caught_bind_error_iff (ha : a.FailsOnly (Caught h)) (ho : f.isOwn) :
    (guarded h a >>= g).outcome σ = (.error f, σ') ↔
      ∃ r σ₁, a.outcome σ = (.ok r, σ₁) ∧ (g r).outcome σ₁ = (.error f, σ') := by
  rw [guarded_bind_error_iff, or_iff_right]
  exact fun ⟨he, hn⟩ => not_caught ho hn (ha σ f σ' he)

-- An action that changes nothing and fails by none of the program's own failures.
def Quiet (a : Action α) : Prop :=
  ∀ σ, ∃ r, a.outcome σ = (r, σ) ∧ FailsOnly Failure.Foreign r

theorem quiet_pure (x : α) : Quiet (pure x) :=
  fun _ => ⟨.ok x, rfl, failsOnly_ok x⟩

theorem Quiet.map (ha : Quiet a) (k : α → β) : Quiet (k <$> a) := by
  intro σ
  have ⟨r, hr, hf⟩ := ha σ
  refine ⟨r.map k, ?_, ?_⟩
  case refine_1 =>
    rw [map_eq_pure_bind, Action.outcome_bind, hr]
    cases r <;> rfl
  case refine_2 =>
    intro f h
    cases r <;> cases h
    exact hf _ rfl

theorem quiet_userPath (text : String) : Quiet (userPath text) :=
  fun _ => ⟨_, Action.outcome_ofExcept _, Settings.foreign_expandHome _ _⟩

theorem quiet_transcriptOf : Quiet (transcriptOf args) := by
  unfold transcriptOf
  split
  case isTrue  => exact quiet_pure _
  case isFalse => exact (quiet_userPath _).map _

theorem quiet_outputOf : Quiet (outputOf args s) := by
  unfold outputOf
  split
  case isTrue  => exact quiet_pure _
  case isFalse => exact quiet_userPath _

theorem ne_of_foreign {e : Failure} (he : e.Foreign) (ho : f.isOwn) : e ≠ f := by
  rintro rfl
  exact he ho

theorem quiet_bind_error_iff (ha : Quiet a) (ho : f.isOwn) : (liftM a >>= g).outcome σ = (.error f, σ') ↔
    ∃ r, a.outcome σ = (.ok r, σ) ∧ (g r).outcome σ = (.error f, σ') := by
  rw [outcome_bind, outcome_action]
  have ⟨r, hr, hf⟩ := ha σ
  rw [hr]
  cases r
  case ok      => simp
  case error e => simp [ne_of_foreign (hf e rfl) ho]

-- A path of the user's is read from the working directory, which has been removed.
def Adrift (text : String) (σ : Session) : Prop :=
  ∃ p, Settings.expandHome σ.disk (Path.ofString text) = .ok p ∧ ¬p.isAbsolute ∧ ¬Disk.refuses p ∧
    σ.disk.workingDir.lost ≠ 0

theorem outcome_userPlainPath (text : String) (σ : Session) : (userPlainPath text).outcome σ =
    (Settings.expandHome σ.disk (Path.ofString text) >>= Settings.plainPath σ.disk, σ) := by
  rw [userPlainPath, Action.outcome_bind_of_ok Action.outcome_disk, Action.outcome_bind, userPath,
    Action.outcome_bind_of_ok Action.outcome_disk, Action.outcome_ofExcept]
  cases Settings.expandHome σ.disk (Path.ofString text)
  case error => rfl
  case ok    => exact Action.outcome_ofExcept _

theorem isAbsolute_of_userPlainPath {text : String} (h : (userPlainPath text).outcome σ = (.ok p, σ')) :
    p.isAbsolute := by
  rw [outcome_userPlainPath] at h
  have h := (Prod.mk.inj h).left
  cases he : Settings.expandHome σ.disk (Path.ofString text) <;> rw [he] at h
  case error => cases h
  case ok    => exact Settings.isAbsolute_of_plainPath h

theorem own_userPlainPath_iff {text : String} (ho : f.isOwn) :
    (Settings.expandHome σ.disk (Path.ofString text) >>= Settings.plainPath σ.disk) = .error f ↔
      Adrift text σ ∧ f = .disk .notFound ⟨.relative, []⟩ := by
  unfold Adrift
  cases he : Settings.expandHome σ.disk (Path.ofString text)
  case error e => simp [ne_of_foreign (Settings.foreign_expandHome _ _ _ he) ho]
  case ok p    => simp [Settings.own_plainPath_iff ho, Settings.here_eq_error_iff, and_assoc]

theorem userPlainPath_bind_error_iff {text : String} {g : Path → Guarded β} (ho : f.isOwn) :
    (liftM (userPlainPath text) >>= g).outcome σ = (.error f, σ') ↔
      (Adrift text σ ∧ f = .disk .notFound ⟨.relative, []⟩ ∧ σ' = σ) ∨
        ∃ p, (userPlainPath text).outcome σ = (.ok p, σ) ∧ (g p).outcome σ = (.error f, σ') := by
  rw [outcome_bind, outcome_action, outcome_userPlainPath, ← and_assoc, ← own_userPlainPath_iff ho]
  cases Settings.expandHome σ.disk (Path.ofString text) >>= Settings.plainPath σ.disk
  case error => simp [eq_comm]
  case ok    => simp

theorem projectRootOf_bind_error_iff {g : Option Path → Guarded β} (ho : f.isOwn) :
    (liftM (projectRootOf args s) >>= g).outcome σ = (.error f, σ') ↔
      (args.projectRoot ≠ "" ∧ Adrift args.projectRoot σ ∧ f = .disk .notFound ⟨.relative, []⟩ ∧ σ' = σ) ∨
        ∃ root, (projectRootOf args s).outcome σ = (.ok root, σ) ∧ (g root).outcome σ = (.error f, σ') := by
  rw [outcome_bind, outcome_action]
  unfold projectRootOf
  by_cases h : args.projectRoot = ""
  case pos => simp [h]
  case neg =>
    rw [if_neg h, map_eq_pure_bind, Action.outcome_bind, outcome_userPlainPath, ← and_assoc (a := Adrift _ _),
      ← own_userPlainPath_iff ho]
    cases Settings.expandHome σ.disk (Path.ofString args.projectRoot) >>= Settings.plainPath σ.disk
    case error => simp [h, eq_comm]
    case ok    => simp

-- The command line is read, and its transcript opened.
structure Starts (words : List String) (σ : Session) (c : Command) (args : Arguments) (σ' : Session) : Prop where
  read   : readArguments words = .ok (c, args)
  opened : ∃ p, (transcriptOf args).outcome σ = (.ok p, σ) ∧ (p.forM openTranscript).outcome σ = (.ok (), σ')

inductive Escapes (c : Command) (args : Arguments) (σ : Session) : Failure → Prop
  -- The path of the module is read from a working directory that has been removed.
  | module : Adrift args.module σ → Escapes c args σ (.disk .notFound ⟨.relative, []⟩)
  -- The settings file is a directory.
  | settings {module file : Path} :
    (userPlainPath args.module).outcome σ = (.ok module, σ) →
    Settings.file σ.disk module = .ok file → σ.disk.isDir file → Escapes c args σ (.disk .isDirectory file)
  -- Settings are read, and the root of the project is read from a working directory that has been removed.
  | projectRoot {module : Path} {s : Settings} :
    (userPlainPath args.module).outcome σ = (.ok module, σ) → Settings.load σ.disk module = .ok s →
    args.projectRoot ≠ "" → Adrift args.projectRoot σ → Escapes c args σ (.disk .notFound ⟨.relative, []⟩)
  -- The class is made, and its path is to be shown from a working directory that has been removed.
  | shown {module : Path} {s : Settings} {root : Option Path} {output : Path} {made : Generated} {σ' : Session} :
    (userPlainPath args.module).outcome σ = (.ok module, σ) → c = .generate →
    Settings.load σ.disk module = .ok s → (projectRootOf args s).outcome σ = (.ok root, σ) →
    (outputOf args { s with projectRoot := root }).outcome σ = (.ok output, σ) →
    (Generate.run (adapt args { s with projectRoot := root }) module output).outcome σ = (.ok made, σ') →
    σ'.disk.workingDir.lost ≠ 0 → Escapes c args σ (.disk .notFound ⟨.relative, []⟩)

-- Where the working directory has been removed, and nowhere else, it is not found.
theorem here_bind_error_iff {g : Path → Guarded β} (hg : ∀ p, ∃ r, (g p).outcome σ = (.ok r, σ)) :
    ((liftM (do Action.ofExcept (← Action.disk).here : Action Path) : Guarded Path) >>= g).outcome σ =
      (.error f, σ') ↔ σ' = σ ∧ σ.disk.workingDir.lost ≠ 0 ∧ f = .disk .notFound ⟨.relative, []⟩ := by
  rw [outcome_bind, outcome_action, Action.outcome_bind_of_ok Action.outcome_disk, Action.outcome_ofExcept,
    ← Settings.here_eq_error_iff]
  cases σ.disk.here
  case error => simp [eq_comm, and_comm]
  case ok p  =>
    have ⟨r, hr⟩ := hg p
    simp [hr]

theorem generate_error_iff (ho : f.isOwn) : (generate args s module).outcome σ = (.error f, σ') ↔
    ∃ output made, (outputOf args s).outcome σ = (.ok output, σ) ∧
      (Generate.run (adapt args s) module output).outcome σ = (.ok made, σ') ∧
      σ'.disk.workingDir.lost ≠ 0 ∧ f = .disk .notFound ⟨.relative, []⟩ := by
  unfold generate
  rw [quiet_bind_error_iff quiet_outputOf ho]
  refine exists_congr fun output => ?_
  rw [caught_bind_error_iff Generate.caught_generate ho]
  constructor
  case mp  =>
    intro ⟨hout, made, σ₁, hrun, he⟩
    obtain ⟨rfl, hd, hf⟩ := (here_bind_error_iff fun _ => ⟨_, rfl⟩).mp he
    exact ⟨made, hout, hrun, hd, hf⟩
  case mpr =>
    intro ⟨made, hout, hrun, hd, hf⟩
    exact ⟨hout, made, σ', hrun, (here_bind_error_iff fun _ => ⟨_, rfl⟩).mpr ⟨rfl, hd, hf⟩⟩

-- A migration shows no path from the working directory.
theorem migrate_ne_error (ho : f.isOwn) : (migrate args s module).outcome σ ≠ (.error f, σ') := by
  intro h
  unfold migrate at h
  split at h
  case isTrue  => rw [outcome_bind, outcome_throw] at h; cases h
  case isFalse =>
    have ⟨_, _, _, he⟩ := (caught_bind_error_iff (Migration.caught_migrate true).toAction ho).mp h
    rw [outcome_bind, outcome_action, Action.outcome_disk] at he
    cases he

theorem outcome_load : Action.outcome (do Action.ofExcept (Settings.load (← Action.disk) module)) σ =
    (Settings.load σ.disk module, σ) := by
  rw [Action.outcome_bind_of_ok Action.outcome_disk, Action.outcome_ofExcept]

theorem perform_error_iff (ho : f.isOwn) : (∃ σ', (perform c args).outcome σ = (.error f, σ')) ↔
    Escapes c args σ f := by
  unfold perform
  simp only [userPlainPath_bind_error_iff ho, guarded_bind_error_iff, outcome_load, projectRootOf_bind_error_iff ho]
  constructor
  case mp  =>
    rintro ⟨σ', ⟨ha, rfl, -⟩ | ⟨module, hm, ⟨hl, hn⟩ | ⟨s, σ₁, hs, h⟩⟩⟩
    case inl     => exact .module ha
    case inr.inl =>
      have ⟨file, hf, hd, he⟩ :=
        uncaught_of_load (isAbsolute_of_userPlainPath hm) (Prod.mk.inj hl).left (not_caught ho hn)
      exact he ▸ .settings hm hf hd
    case inr.inr =>
      have ⟨hl, hσ⟩ := Prod.mk.inj hs
      subst hσ
      rcases h with ⟨hr, ha, rfl, -⟩ | ⟨root, hr, h⟩
      case inl => exact .projectRoot hm hl hr ha
      case inr =>
        cases c
        case migrate  => exact absurd h (migrate_ne_error ho)
        case generate =>
          have ⟨output, made, hout, hrun, hd, he⟩ := (generate_error_iff ho).mp h
          exact he ▸ .shown hm rfl hl hr hout hrun hd
  case mpr =>
    rintro (ha | ⟨hm, hf, hd⟩ | ⟨hm, hl, hr, ha⟩ | ⟨hm, rfl, hl, hr, hout, hrun, hd⟩)
    case module      => exact ⟨σ, .inl ⟨ha, rfl, rfl⟩⟩
    case settings    => exact ⟨σ, .inr ⟨_, hm, .inl ⟨by rw [Settings.load_of_isDir hf hd], rfl⟩⟩⟩
    case projectRoot => exact ⟨σ, .inr ⟨_, hm, .inr ⟨_, σ, by rw [hl], .inl ⟨hr, ha, rfl, rfl⟩⟩⟩⟩
    case shown       =>
      exact ⟨_, .inr ⟨_, hm, .inr ⟨_, σ, by rw [hl], .inr ⟨_, hr,
        (generate_error_iff ho).mpr ⟨_, _, hout, hrun, hd, rfl⟩⟩⟩⟩⟩

-- A transcript changes nothing of what a run comes to.
theorem outcome_transcribed (p : Option Path) (a : Action α) (σ : Session) :
    ∃ σ', (transcribed p a).outcome σ = ((a.outcome σ).1, σ') := by
  cases p
  case none   => exact ⟨_, rfl⟩
  case some p =>
    simp only [transcribed, withTranscript, Action.outcome, ExceptT.run_mk, StateT.run]
    rcases ExceptT.run a σ with ⟨r, σ₁⟩
    dsimp only
    split
    case h_1 => exact ⟨_, rfl⟩
    case h_2 => exact ⟨_, rfl⟩

theorem transcribed_bind_error_iff {p : Option Path} {k : α → Action β}
    (hk : ∀ r σ, ∃ x σ', (k r).outcome σ = (.ok x, σ')) :
    (∃ σ', (transcribed p a >>= k).outcome σ = (.error f, σ')) ↔ ∃ σ', a.outcome σ = (.error f, σ') := by
  have ⟨σ₁, ht⟩ := outcome_transcribed p a σ
  rw [Action.outcome_bind, ht]
  rcases a.outcome σ with ⟨e | r, σ₂⟩
  case error => simp
  case ok    =>
    have ⟨x, σ₃, hx⟩ := hk r σ₁
    simp [hx]

theorem outcome_conclude (logging : Logging) (result : Except String String) (σ : Session) :
    ∃ o, (conclude logging result).outcome σ = (.ok o, σ) ∧ o.code ≤ 1 := by
  cases result
  case ok    => exact ⟨_, rfl, Nat.zero_le 1⟩
  case error => exact ⟨_, rfl, le_rfl⟩

theorem onlyDisk_here (d : Disk) : (Action.ofExcept d.here : Action Path).OnlyDisk := by
  intro σ f σ' h
  rw [Action.outcome_ofExcept] at h
  rw [(Settings.here_eq_error_iff.mp (Prod.mk.inj h).left).right]
  rfl

theorem caught_openTranscript {p : Path} : (openTranscript p).FailsOnly (Caught (onTranscript p)) := by
  have ho : (openTranscript p).OnlyDisk :=
    Action.onlyDisk_makeDirs.bind fun _ => Action.onlyDisk_disk.bind fun d => by
      split
      case isTrue  => exact (onlyDisk_here d).bind fun _ => Action.onlyDisk_writeText
      case isFalse => exact Action.onlyDisk_writeText
  intro σ f σ' h
  refine caught_of_fromDisk (fun e he => ?_) (Failure.fromDisk_of_isDisk (ho σ f σ' h))
  rw [onTranscript, if_pos he]
  rfl

-- What stands behind a transcript that was opened.
theorem opened_bind_error_iff {p : Option Path} {k : Except String Unit → Action β}
    (hk : ∀ message σ, ∃ x, (k (.error message)).outcome σ = (.ok x, σ)) (ho : f.isOwn) :
    ((p.forM fun p => guarded (onTranscript p) (openTranscript p) : Guarded Unit).run >>= k).outcome σ = (.error f, σ') ↔
      ∃ σ₁, (p.forM openTranscript).outcome σ = (.ok (), σ₁) ∧ (k (.ok ())).outcome σ₁ = (.error f, σ') := by
  rw [Action.outcome_bind]
  cases p
  case none   => simp [Option.forM]
  case some p =>
    have hg : (guarded (onTranscript p) (openTranscript p)).run.outcome σ = _ := outcome_guarded
    simp only [Option.forM, hg]
    rcases hr : (openTranscript p).outcome σ with ⟨e | _, σ₁⟩
    case ok    => simp
    case error =>
      dsimp only
      cases hm : onTranscript p e
      case some message =>
        obtain ⟨x, hx⟩ := hk message σ₁
        simp [hx]
      case none =>
        have hne : e ≠ f := by
          rintro rfl
          exact not_caught ho hm (caught_openTranscript σ e σ₁ hr)
        simp [hne]

-- A transcript is opened, or the command line ends here, or something fails that is not its own.
theorem carryOut_error_iff (ho : f.isOwn) : (∃ σ', (carryOut c args).outcome σ = (.error f, σ')) ↔
    ∃ p σ₁, (transcriptOf args).outcome σ = (.ok p, σ) ∧ (p.forM openTranscript).outcome σ = (.ok (), σ₁) ∧
      ∃ σ', (perform c args).outcome σ₁ = (.error f, σ') := by
  unfold carryOut
  rw [Action.outcome_bind]
  have ⟨r, hr, hf⟩ := (quiet_transcriptOf : Quiet (transcriptOf args)) σ
  simp only [hr]
  cases r
  case error e => simp [ne_of_foreign (hf e rfl) ho]
  case ok p =>
    have hc (r : Except String String) (σ : Session) :
        ∃ o σ', (conclude ⟨args.verbose, p.isSome⟩ r).outcome σ = (.ok o, σ') :=
      have ⟨o, ho, _⟩ := outcome_conclude ⟨args.verbose, p.isSome⟩ r σ
      ⟨o, σ, ho⟩
    dsimp only
    constructor
    case mp  =>
      intro ⟨σ', h⟩
      have ⟨σ₁, hp, h⟩ := (opened_bind_error_iff (fun _ _ => ⟨_, rfl⟩) ho).mp h
      exact ⟨p, σ₁, rfl, hp, (transcribed_bind_error_iff (p := p) hc).mp ⟨σ', h⟩⟩
    case mpr =>
      intro ⟨_, σ₁, hr, hp, h⟩
      cases hr
      have ⟨σ', h⟩ := (transcribed_bind_error_iff (p := p) hc).mpr h
      exact ⟨σ', (opened_bind_error_iff (fun _ _ => ⟨_, rfl⟩) ho).mpr ⟨σ₁, hp, h⟩⟩

theorem code_of_carryOut {o : Outcome} (h : (carryOut c args).outcome σ = (.ok o, σ')) : o.code ≤ 1 := by
  have ⟨p, σ₁, _, h⟩ := Action.bind_eq_ok_iff.mp h
  have ⟨r, σ₂, _, h⟩ := Action.bind_eq_ok_iff.mp h
  cases r
  case error message => cases h; exact le_rfl
  case ok            =>
    have ⟨result, σ₃, _, h⟩ := Action.bind_eq_ok_iff.mp h
    have ⟨o', ho, hc⟩ := outcome_conclude ⟨args.verbose, p.isSome⟩ result σ₃
    rw [ho] at h
    cases h
    exact hc

theorem run_of_error {stop : Stop} (h : readArguments words = .error stop) :
    (run words).outcome σ = (.ok stop.outcome, σ) := by
  unfold run
  rw [h]
  rfl

theorem run_of_ok (h : readArguments words = .ok (c, args)) : run words = carryOut c args := by
  unfold run
  rw [h]

theorem code_mem {o : Outcome} (h : (run words).outcome σ = (.ok o, σ')) : o.code ∈ [0, 1, 2] := by
  cases hr : readArguments words
  case error stop =>
    rw [run_of_error hr] at h
    cases h
    cases stop
    case help  => exact List.mem_cons_self
    case wrong => exact List.mem_cons_of_mem _ (List.mem_cons_of_mem _ List.mem_cons_self)
  case ok r =>
    rw [run_of_ok hr] at h
    have hc := code_of_carryOut h
    rcases Nat.le_one_iff_eq_zero_or_eq_one.mp hc with hc | hc <;> simp [hc]

theorem Escapes.isOwn (h : Escapes c args σ f) : f.isOwn := by
  cases h <;> rfl

-- A command line ends with one of three codes or lets a failure through, and of its own exactly these: a
-- directory in the place of the settings file, and a working directory that has been removed, where the
-- path of the module or of the project is read from there or that of the class is shown from there.
theorem own_failure_escapes_iff (words : List String) (σ : Session) :
    (∀ o σ', (run words).outcome σ = (.ok o, σ') → o.code ∈ [0, 1, 2]) ∧
      ∀ f, (f.isOwn ∧ ∃ σ', (run words).outcome σ = (.error f, σ')) ↔
        ∃ c args σ₁, Starts words σ c args σ₁ ∧ Escapes c args σ₁ f := by
  refine ⟨fun o σ' => code_mem, fun f => ⟨?mp, ?mpr⟩⟩
  case mp =>
    intro ⟨ho, σ', h⟩
    cases hr : readArguments words
    case error => rw [run_of_error hr] at h; cases h
    case ok r  =>
      rw [run_of_ok hr] at h
      have ⟨p, σ₁, ht, hp, hf⟩ := (carryOut_error_iff ho).mp ⟨σ', h⟩
      exact ⟨r.1, r.2, σ₁, ⟨hr, ⟨p, ht, hp⟩⟩, (perform_error_iff ho).mp hf⟩
  case mpr =>
    intro ⟨c, args, σ₁, ⟨hr, ⟨p, ht, hp⟩⟩, he⟩
    have ho := he.isOwn
    rw [run_of_ok hr]
    exact ⟨ho, (carryOut_error_iff ho).mpr ⟨p, σ₁, ht, hp, (perform_error_iff ho).mpr he⟩⟩

-- A module whose settings file is a directory.
def blockedSession : Session where
  disk := { entries := [(["app"], .dir), (["app", settingsFile], .dir)] }

theorem settings_directory_escapes : (Failure.disk .isDirectory ⟨.root, ["app", settingsFile]⟩).isOwn ∧
    ((run ["generate", "app"]).outcome blockedSession).1 =
      .error (.disk .isDirectory ⟨.root, ["app", settingsFile]⟩) := by
  decide +kernel

theorem exists_of_fst {r : Except Failure α × Session} (h : r.1 = .error f) : ∃ σ, r = (.error f, σ) :=
  ⟨r.2, Prod.ext h rfl⟩

-- A working directory that generating without the cache removes.
def insideSession : Session where
  disk := {
    entries    := [(["app"], .dir), (["app", "build.gradle"], .file (Text.Utf8.encode "namespace = \"a\"".toList) 0),
      (["app", "build"], .dir), (["app", "build", "cache"], .dir), (["app", "build", "cache", "resourcegen"], .dir),
      (["app", "build", "cache", "resourcegen", "app"], .dir)]
    workingDir := { key := ["app", "build", "cache", "resourcegen", "app"] } }

theorem outcome_insideSession :
    ((run ["generate", "/app", "--no-cache"]).outcome insideSession).1 = .error (.disk .notFound ⟨.relative, []⟩) := by
  decide +kernel

theorem removed_directory_escapes : ∃ c args σ,
    Starts ["generate", "/app", "--no-cache"] insideSession c args σ ∧
      Escapes c args σ (.disk .notFound ⟨.relative, []⟩) :=
  ((own_failure_escapes_iff _ _).right _).mp ⟨rfl, exists_of_fst outcome_insideSession⟩

end TypedResources.CommandLine
