import TypedResources.BuildFile.Module
import TypedResources.Proofs.Query

-- What a module says of itself, as a function of the disk. Each query is steady and comes to what one
-- file of the module holds (`result_namespaceFromBuildFile`, `result_namespaceFromManifest`,
-- `result_dependencies`), or to one of these after the other (`result_namespace?`).

namespace TypedResources.BuildFile

variable {d : Disk} {module : Path}

theorem steady_warn {message : String} : (warn message).Steady :=
  Query.steady_log _ _ _

theorem steady_namespaceFromBuildFile : (namespaceFromBuildFile module).Steady := by
  refine Query.steady_read.bind fun d => ?_
  dsimp only
  split
  case isTrue  => exact steady_warn.bind fun _ => Query.steady_pure _
  case isFalse =>
    refine (Query.steady_lift _).bind fun lines => ?_
    split
    case h_1 => exact Query.steady_pure _
    case h_2 => exact steady_warn.bind fun _ => Query.steady_pure _

theorem steady_namespaceFromManifest : (namespaceFromManifest module).Steady := by
  refine Query.steady_read.bind fun d => ?_
  dsimp only
  split
  case isTrue  => exact steady_warn.bind fun _ => Query.steady_pure _
  case isFalse =>
    refine (Query.steady_lift _).bind fun bytes => ?_
    split
    case h_1 => exact steady_warn.bind fun _ => Query.steady_pure _
    case h_2 => exact Query.steady_throw _
    case h_3 =>
      split
      case isTrue  => exact steady_warn.bind fun _ => Query.steady_pure _
      case isFalse => exact Query.steady_pure _

theorem steady_namespace? : (namespace? module).Steady := by
  refine steady_namespaceFromBuildFile.bind fun name => ?_
  cases name
  case none => exact steady_namespaceFromManifest
  case some => exact Query.steady_pure _

theorem steady_dependencies : (dependencies module).Steady := by
  refine Query.steady_read.bind fun d => ?_
  dsimp only
  split
  case isTrue  => exact Query.steady_pure _
  case isFalse => exact (Query.steady_lift _).bind fun _ => Query.steady_pure _

-- The package that a manifest names.
def packageIn? (bytes : Bytes) : Except Failure (Option String) :=
  match Xml.parse bytes with
  | .error (.malformed _)            => .ok none
  | .error (.unreadable reason name) => .error (.unreadableEncoding reason name)
  | .ok root                         =>
    let package := Text.trim (root.get "package".toList)
    .ok (if package = [] then none else some (String.ofList package))

theorem result_namespaceFromBuildFile : (namespaceFromBuildFile module).result d =
    if d.has (path d module) then
      (codeLines d (path d module)).map fun lines => lines.findSome? (found? namespacePattern)
    else .ok none := by
  rw [namespaceFromBuildFile, Query.result_read_bind]
  dsimp only
  by_cases hh : d.has (path d module)
  case neg =>
    rw [if_pos (by simp [hh]), if_neg hh]
    rfl
  case pos =>
    rw [if_neg (by simp [hh]), if_pos hh]
    cases codeLines d (path d module)
    case error    => rfl
    case ok lines =>
      rw [Query.lift_ok_bind, Except.map]
      cases lines.findSome? (found? namespacePattern) <;> rfl

theorem result_namespaceFromManifest : (namespaceFromManifest module).result d =
    if d.has (module / manifestPath) then
      diskFailure (module / manifestPath) (d.readBytes (module / manifestPath)) >>= packageIn?
    else .ok none := by
  rw [namespaceFromManifest, Query.result_read_bind]
  dsimp only
  by_cases hh : d.has (module / manifestPath)
  case neg =>
    rw [if_pos (by simp [hh]), if_neg hh]
    rfl
  case pos =>
    rw [if_neg (by simp [hh]), if_pos hh]
    cases d.readBytes (module / manifestPath)
    case error    => rfl
    case ok bytes =>
      simp only [diskFailure, Query.lift_ok_bind, ok_bind, packageIn?]
      rcases Xml.parse bytes with (_ | _) | root
      case error.malformed  => rfl
      case error.unreadable => rfl
      case ok =>
        dsimp only
        split <;> rfl

theorem result_namespace? : (namespace? module).result d =
    (namespaceFromBuildFile module).result d >>= fun
      | some name => .ok (some name)
      | none      => (namespaceFromManifest module).result d := by
  rw [namespace?, Query.result_bind fun name => by
    cases name
    case none => exact steady_namespaceFromManifest
    case some => exact Query.steady_pure _]
  refine congrArg _ (funext fun name => ?_)
  cases name <;> rfl

theorem result_dependencies : (dependencies module).result d =
    if d.has (path d module) then
      (codeLines d (path d module)).map fun lines =>
        lines.flatMap fun line => dependencyPatterns.filterMap (found? · line)
    else .ok [] := by
  rw [dependencies, Query.result_read_bind]
  dsimp only
  by_cases hh : d.has (path d module)
  case neg =>
    rw [if_pos (by simp [hh]), if_neg hh]
    rfl
  case pos =>
    rw [if_neg (by simp [hh]), if_pos hh]
    cases codeLines d (path d module) <;> rfl

end TypedResources.BuildFile
