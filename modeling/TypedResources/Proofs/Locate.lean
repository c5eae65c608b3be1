import TypedResources.Locate
import TypedResources.Proofs.BuildFile.Module

-- Which files modules contribute, and which of them are observed, are steady queries.

namespace TypedResources.Locate

variable {site : Site}

theorem steady_dependencyGroups {modulePath : String} : (dependencyGroups site modulePath).Steady := by
  refine BuildFile.steady_namespace?.bind fun name => ?_
  cases name
  case none => exact (Query.steady_log _ _ _).bind fun _ => Query.steady_pure _
  case some => exact Query.steady_read.bind fun _ => Query.steady_pure _

theorem steady_groups : (groups site).Steady :=
  BuildFile.steady_namespace?.bind fun _ => Query.steady_read.bind fun _ =>
    BuildFile.steady_dependencies.bind fun paths =>
      (Query.steady_mapM paths fun _ _ => steady_dependencyGroups).bind fun _ =>
        (Query.steady_log _ _ _).bind fun _ => Query.steady_pure _

theorem steady_observed : (observed site).Steady :=
  steady_groups.bind fun _ => Query.steady_read.bind fun _ => Query.steady_pure _

theorem result_observed {d : Disk} : (observed site).result d =
    ((groups site).result d).map fun gs => gs.flatMap ResourceGroup.files ++ [BuildFile.path d site.module] := by
  rw [observed, Query.result_bind fun _ => Query.steady_read.bind fun _ => Query.steady_pure _]
  cases (groups site).result d <;> rfl

end TypedResources.Locate
