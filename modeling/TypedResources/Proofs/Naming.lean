import TypedResources.Naming
import TypedResources.Proofs.Text.Case

-- What the names of accessors depend on. Resource names with one field have one camel-cased form, so
-- that a field and a module name decide the accessor's name (`functionName_eq`). Neither lowering nor
-- raising the case of a letter makes a parenthesis, so a field of word characters never brings one
-- into an accessor's name (`not_isParen_functionName`).

namespace TypedResources

namespace Text

variable {p : Char → Bool} {f : Char → Char} {c x : Char} {s t : List Char}

theorem splitAll_map (h : ∀ c, p (f c) = p c) (s : List Char) :
    splitAll p (s.map f) = (splitAll p s).map (List.map f) := by
  induction s
  case nil         => rfl
  case cons c s ih =>
    rw [List.map_cons, splitAll, splitAll, h, ih]
    split
    case isTrue  => rfl
    case isFalse => cases splitAll p s <;> rfl

theorem mem_of_mem_splitAll {w : List Char} (hw : w ∈ splitAll p s) (hc : c ∈ w) : c ∈ s := by
  induction s generalizing w
  case nil         => simp_all [splitAll]
  case cons d s ih => grind [splitAll]

theorem flatten_splitAll (p : Char → Bool) (s : List Char) : (splitAll p s).flatten = s.filter (!p ·) := by
  induction s
  case nil         => rfl
  case cons c s ih =>
    rw [splitAll, List.filter_cons, ← ih]
    split
    case isTrue hc  => simp [hc]
    case isFalse hc =>
      cases hs : splitAll p s
      case nil  => exact absurd hs (splitAll_ne_nil p s)
      case cons => simp [hc]

theorem splitAll_append_cons (hc : p c) : splitAll p (s ++ c :: t) = splitAll p s ++ splitAll p t := by
  induction s
  case nil         => simp [splitAll, hc]
  case cons x s ih =>
    rw [List.cons_append, splitAll, splitAll, ih]
    split
    case isTrue  => rfl
    case isFalse =>
      cases hs : splitAll p s
      case nil  => exact absurd hs (splitAll_ne_nil p s)
      case cons => rfl

theorem splitAll_of_none (h : ∀ c ∈ s, p c = false) : splitAll p s = [s] := by
  induction s
  case nil         => rfl
  case cons c s ih =>
    have ⟨hc, hs⟩ := List.forall_mem_cons.mp h
    rw [splitAll, ih hs, hc]
    rfl

def isParen (c : Char) : Bool :=
  c = '(' || c = ')'

theorem isAscii_of_isParen (h : isParen c) : isAscii c := by
  rcases Bool.or_eq_true_iff.mp h with h | h <;> rw [of_decide_eq_true h] <;> rfl

theorem not_isParen_of_cased (hc : isParen c = false) (hx : Cased c x) : isParen x = false :=
  not_of_cased (fun _ => isAscii_of_isParen) (by decide +kernel) hc hx

theorem not_isParen_of_isWord (h : isWord c) : isParen c = false := by
  have hl : c ≠ '(' := fun hc => absurd (hc ▸ h) (by decide)
  have hr : c ≠ ')' := fun hc => absurd (hc ▸ h) (by decide)
  simp [isParen, hl, hr]

theorem exists_of_has {ranges : Ranges} {n : Nat} (h : ranges.has n) : ∃ r ∈ ranges, r.1 ≤ n ∧ n ≤ r.2 := by
  induction ranges
  case nil            => cases h
  case cons r rest ih =>
    rw [Ranges.has] at h
    split at h
    case isTrue     => cases h
    case isFalse hr =>
      rcases Bool.or_eq_true_iff.mp h with h | h
      case inl => exact ⟨r, List.mem_cons_self, Nat.le_of_not_lt hr, of_decide_eq_true h⟩
      case inr => have ⟨r, hm, hn⟩ := ih h; exact ⟨r, List.mem_cons_of_mem _ hm, hn⟩

theorem not_isWord_of_isBlank (h : isBlank c) : isWord c = false := by
  have hw : ∀ r ∈ blankRanges, ∀ i < r.2 + 1 - r.1, isWord (Char.ofNat (r.1 + i)) = false := by decide +kernel
  have ⟨r, hr, hl, hu⟩ := exists_of_has h
  have hc := hw r hr (c.toNat - r.1) (by omega)
  rwa [Nat.add_sub_of_le hl, Char.ofNat_toNat] at hc

theorem not_isBlank_of_isWord (h : isWord c) : isBlank c = false := by
  by_contra hb
  exact absurd h (by simp [not_isWord_of_isBlank (by simpa using hb)])

theorem not_isParen_of_isBlank (h : isBlank c) : isParen c = false := by
  have ho : c ≠ '(' := fun hc => absurd (hc ▸ h) (by decide)
  have hc : c ≠ ')' := fun hc => absurd (hc ▸ h) (by decide)
  simp [isParen, ho, hc]

end Text

namespace Naming

variable {c x : Char} {s : List Char} {name name' : String} {m m' : ModuleId}

def fieldChar (c : Char) : Char :=
  if c = '.' then '_' else c

theorem fieldName_eq : fieldName name = String.ofList (name.toList.map fieldChar) :=
  rfl

theorem isSeparator_fieldChar (c : Char) : isSeparator (fieldChar c) = isSeparator c := by
  by_cases h : c = '.' <;> simp [fieldChar, isSeparator, h]

theorem fieldChar_of_not_isSeparator (h : isSeparator c = false) : fieldChar c = c :=
  if_neg fun hc => by simp [isSeparator, hc] at h

theorem map_fieldChar_of_not_isSeparator (h : ∀ c ∈ s, isSeparator c = false) : s.map fieldChar = s :=
  (List.map_congr_left fun c hc => fieldChar_of_not_isSeparator (h c hc)).trans (List.map_id s)

theorem words_map_fieldChar : words (s.map fieldChar) = words s := by
  have hm : (Text.splitAll isSeparator s).map (List.map fieldChar) = Text.splitAll isSeparator s := by
    refine (List.map_congr_left fun w hw => ?_).trans (List.map_id _)
    exact map_fieldChar_of_not_isSeparator (Text.not_mem_of_mem_splitAll hw)
  rw [words, Text.splitAll_map isSeparator_fieldChar, hm, words]

-- A name and its field come to one name in camel case.
theorem camelCase_map_fieldChar : camelCase (s.map fieldChar) = camelCase s := by
  have ha : (s.map fieldChar).any isSeparator = s.any isSeparator := by
    simp [List.any_map, Function.comp_def, isSeparator_fieldChar]
  rw [camelCase, camelCase, ha, words_map_fieldChar]
  cases h : s.any isSeparator
  case true  => rfl
  case false =>
    exact map_fieldChar_of_not_isSeparator fun c hc => by simpa using List.any_eq_false.mp h c hc

theorem functionName_eq (hf : fieldName name = fieldName name') (hm : m.name = m'.name) :
    functionName name m = functionName name' m' := by
  have hc : camelCase name.toList = camelCase name'.toList := by
    have hs : name.toList.map fieldChar = name'.toList.map fieldChar := String.ofList_injective hf
    rw [← camelCase_map_fieldChar, hs, camelCase_map_fieldChar]
  rw [functionName, functionName, hc, moduleSuffix, moduleSuffix, ModuleId.isPrimary, ModuleId.isPrimary, hm]

theorem toList_functionName : (functionName name m).toList = camelCase name.toList ++ moduleSuffix m :=
  String.toList_ofList

theorem moduleSuffix_eq_nil_iff : moduleSuffix m = [] ↔ m.isPrimary := by
  unfold moduleSuffix
  split <;> simp [*]

-- Camel case keeps no separator, and changes nothing but the case of the other characters.
theorem exists_of_mem_camelCase (hx : x ∈ camelCase s) : ∃ c ∈ s, isSeparator c = false ∧ Text.Cased c x := by
  have hw : ∀ w ∈ words s, ∀ c ∈ w, c ∈ s ∧ isSeparator c = false := fun w hw c hc =>
    have hw := (List.mem_filter.mp hw).left
    ⟨Text.mem_of_mem_splitAll hw hc, Text.not_mem_of_mem_splitAll hw c hc⟩
  unfold camelCase at hx
  split at hx
  case isTrue h  => exact ⟨x, hx, by simpa using List.any_eq_false.mp (by simpa using h) x hx, .same⟩
  case isFalse h =>
    split at hx
    case h_1                => cases hx
    case h_2 first rest h =>
      rw [h] at hw
      have ⟨hfirst, hrest⟩ := List.forall_mem_cons.mp hw
      rcases List.mem_append.mp hx with hx | hx
      case inl =>
        have ⟨c, hc, hx⟩ := Text.exists_of_mem_lower x hx
        exact ⟨c, (hfirst c hc).left, (hfirst c hc).right, hx⟩
      case inr =>
        obtain ⟨w, hw, hx⟩ := List.mem_flatMap.mp hx
        cases w
        case nil       => cases hx
        case cons c cs =>
          have ⟨hc, hcs⟩ := List.forall_mem_cons.mp (hrest _ hw)
          rcases List.mem_append.mp hx with hx | hx
          case inl => exact ⟨c, hc.left, hc.right, .upper hx⟩
          case inr => exact ⟨x, (hcs x hx).left, (hcs x hx).right, .same⟩

theorem not_isParen_camelCase (hs : ∀ c ∈ s, Text.isParen c = false) :
    ∀ x ∈ camelCase s, Text.isParen x = false := by
  intro x hx
  have ⟨c, hc, _, hx⟩ := exists_of_mem_camelCase hx
  exact Text.not_isParen_of_cased (hs c hc) hx

theorem not_isParen_moduleSuffix : ∀ x ∈ moduleSuffix m, Text.isParen x = false := by
  unfold moduleSuffix
  split
  case isTrue  => exact nofun
  case isFalse =>
    refine List.forall_mem_cons.mpr ⟨rfl, not_isParen_camelCase fun c hc => ?_⟩
    obtain ⟨d, -, rfl⟩ := List.mem_map.mp hc
    split
    case isTrue h => exact Text.not_isParen_of_isWord h
    case isFalse  => rfl

theorem not_isParen_functionName (h : ∀ c ∈ (fieldName name).toList, Text.isParen c = false) :
    ∀ x ∈ (functionName name m).toList, Text.isParen x = false := by
  rw [fieldName_eq, String.toList_ofList] at h
  rw [toList_functionName, ← camelCase_map_fieldChar]
  exact List.forall_mem_append.mpr ⟨not_isParen_camelCase h, not_isParen_moduleSuffix⟩

end Naming

end TypedResources
