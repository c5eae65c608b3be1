import TypedResources.Proofs.Naming
import TypedResources.Proofs.Text.Markup

-- When accessors have one name. Camel case leaves no separator in a name, so that a second camel-casing
-- changes nothing, and so that the low line in front of a module's name is the only one in the name of
-- an accessor. It parts the resource from the module, and two names are equal only where both parts are
-- (`function_name_collides_iff`).

namespace TypedResources.Naming

variable {c x : Char} {s : List Char} {name name' : String} {m m' : ModuleId}

theorem isAscii_of_isSeparator (h : isSeparator c) : Text.isAscii c := by
  rcases Bool.or_eq_true_iff.mp h with h | h
  case inr => rw [of_decide_eq_true h]; rfl
  case inl => rcases Bool.or_eq_true_iff.mp h with h | h <;> rw [of_decide_eq_true h] <;> rfl

theorem not_isSeparator_of_cased (hc : isSeparator c = false) (hx : Text.Cased c x) : isSeparator x = false :=
  Text.not_of_cased (fun _ => isAscii_of_isSeparator) (by decide +kernel) hc hx

theorem not_isSeparator_camelCase : ∀ x ∈ camelCase s, isSeparator x = false := by
  intro x hx
  have ⟨c, _, hc, hx⟩ := exists_of_mem_camelCase hx
  exact not_isSeparator_of_cased hc hx

theorem lowLine_notMem_camelCase : '_' ∉ camelCase s :=
  fun h => absurd (not_isSeparator_camelCase '_' h) (by decide)

theorem camelCase_of_not_isSeparator (h : ∀ c ∈ s, isSeparator c = false) : camelCase s = s := by
  have hs : s.any isSeparator = false := List.any_eq_false.mpr fun c hc => by simp [h c hc]
  rw [camelCase, hs]
  rfl

theorem camelCase_camelCase (s : List Char) : camelCase (camelCase s) = camelCase s :=
  camelCase_of_not_isSeparator not_isSeparator_camelCase

theorem camelCase_fieldName (name : String) : camelCase (fieldName name).toList = camelCase name.toList := by
  rw [fieldName_eq, String.toList_ofList, camelCase_map_fieldChar]

-- The name of a module with low lines in the place of what is in no word.
def plainName (m : ModuleId) : List Char :=
  m.name.toList.map fun c => if Text.isWord c then c else '_'

theorem moduleSuffix_of_dependency (hm : m.isPrimary = false) : moduleSuffix m = '_' :: camelCase (plainName m) :=
  if_neg (by simp [hm])

theorem lowLine_mem_functionName_iff : '_' ∈ (functionName name m).toList ↔ m.isPrimary = false := by
  rw [toList_functionName, List.mem_append]
  cases hm : m.isPrimary
  case true  => simp [moduleSuffix_eq_nil_iff.mpr hm, lowLine_notMem_camelCase]
  case false => simp [moduleSuffix_of_dependency hm]

-- The low line tells whether the module is a dependency.
theorem isPrimary_of_functionName_eq (h : functionName name m = functionName name' m') :
    m.isPrimary = m'.isPrimary := by
  have hm : '_' ∈ (functionName name m).toList ↔ m.isPrimary = false := lowLine_mem_functionName_iff
  rw [h, lowLine_mem_functionName_iff] at hm
  cases hp : m.isPrimary
  case true  => simpa [hp] using hm
  case false => exact (hm.mpr hp).symm

-- Only resources with one camel-cased name collide, in the primary module or in dependencies that
-- camel case does not tell apart.
theorem function_name_collides_iff (name name' : String) (m m' : ModuleId) :
    (functionName name m = functionName name' m' ↔
      camelCase name.toList = camelCase name'.toList ∧
        (m.isPrimary ∧ m'.isPrimary ∨
          ¬m.isPrimary ∧ ¬m'.isPrimary ∧ camelCase (plainName m) = camelCase (plainName m'))) ∧
    (m.isPrimary → ¬m'.isPrimary → functionName name m ≠ functionName name' m') := by
  refine ⟨⟨fun h => ?_, ?_⟩, fun hm hm' h => hm' (isPrimary_of_functionName_eq h ▸ hm)⟩
  case refine_1 =>
    have hk := isPrimary_of_functionName_eq h
    have hs : camelCase name.toList ++ moduleSuffix m = camelCase name'.toList ++ moduleSuffix m' :=
      String.ofList_injective h
    cases hm : m.isPrimary
    case true  =>
      rw [moduleSuffix_eq_nil_iff.mpr hm, moduleSuffix_eq_nil_iff.mpr (hk ▸ hm), List.append_nil, List.append_nil] at hs
      exact ⟨hs, .inl ⟨rfl, hk ▸ hm⟩⟩
    case false =>
      have hm' : m'.isPrimary = false := hk ▸ hm
      rw [moduleSuffix_of_dependency hm, moduleSuffix_of_dependency hm'] at hs
      have ⟨hr, hs⟩ := Text.eq_of_first lowLine_notMem_camelCase lowLine_notMem_camelCase hs
      exact ⟨hr, .inr ⟨Bool.false_ne_true, by simp [hm'], hs⟩⟩
  case refine_2 =>
    rintro ⟨hr, ⟨hm, hm'⟩ | ⟨hm, hm', hs⟩⟩ <;> rw [functionName, functionName, hr]
    case inl => rw [moduleSuffix_eq_nil_iff.mpr hm, moduleSuffix_eq_nil_iff.mpr hm']
    case inr =>
      rw [moduleSuffix_of_dependency (by simpa using hm), moduleSuffix_of_dependency (by simpa using hm'), hs]

-- Dependencies may collide with each other, but no resource of the primary module with one of theirs.
example : functionName "btn_ok" ⟨"feature:login", ""⟩ = functionName "btn.ok" ⟨"feature-login", ""⟩ ∧
    functionName "btn_ok_lib" ⟨"", ""⟩ ≠ functionName "btn_ok" ⟨"lib", ""⟩ := by
  decide +kernel

end TypedResources.Naming
