import TypedResources.Proofs.ClassFile.Contents
import TypedResources.Proofs.Naming

-- Which names of accessors the language of the generated class takes as they are. A resource name may
-- have low lines and dots anywhere behind its first character, and what camel case makes of it need
-- not be an identifier: nothing may be left, a digit may come first, or a word of the language may come
-- out. Only in these cases, and where the suffix of a dependency is not ASCII, the name of the accessor
-- is not legal (`emitted_name_legal_iff`).

namespace TypedResources

namespace Text

variable {c x : Char} {s : List Char}

def CaseRun.apply (r : CaseRun) (c : Char) : Char :=
  if r.contains c.toNat then r.map c.toNat else c

-- Of the runs only the first one begins within ASCII.
theorem mapThrough_of_isAscii {r : CaseRun} {rest : List CaseRun} (hr : ∀ r ∈ rest, 128 ≤ r.first)
    (h : isAscii c) :
    mapThrough (r :: rest) c = r.apply c := by
  have hlt : c.toNat < 128 := of_decide_eq_true h
  have hn : rest.find? (·.contains c.toNat) = none := by
    refine List.find?_eq_none.mpr fun r' hm hc => ?_
    simp only [CaseRun.contains, Bool.and_eq_true, decide_eq_true_eq] at hc
    exact absurd (hr r' hm) (by omega)
  rw [mapThrough, List.find?_cons, hn, CaseRun.apply]
  cases r.contains c.toNat <;> rfl

theorem lowerChar_of_isAscii (h : isAscii c) : lowerChar c = [c.toLower] := by
  have hne : c ≠ '\u0130' := by rintro rfl; contradiction
  have ht : CaseRun.apply ⟨0x41, 0x5A, 1, 32⟩ c = c.toLower :=
    of_isAscii (p := fun c => CaseRun.apply ⟨0x41, 0x5A, 1, 32⟩ c = c.toLower) (by decide +kernel) h
  rw [lowerChar, if_neg hne, lowerRuns, mapThrough_of_isAscii (by decide +kernel) h, ht]

theorem upperChar_of_isAscii (h : isAscii c) : upperChar c = [c.toUpper] := by
  have hlt : c.toNat < 128 := of_decide_eq_true h
  have hn : upperExpansions.find? (·.1 = c.toNat) = none := by
    have he : ∀ e ∈ upperExpansions, 128 ≤ e.1 := by decide +kernel
    refine List.find?_eq_none.mpr fun e hm hc => ?_
    have hc := of_decide_eq_true hc
    exact absurd (he e hm) (by omega)
  have ht : CaseRun.apply ⟨0x61, 0x7A, 1, -32⟩ c = c.toUpper :=
    of_isAscii (p := fun c => CaseRun.apply ⟨0x61, 0x7A, 1, -32⟩ c = c.toUpper) (by decide +kernel) h
  rw [upperChar, hn]
  dsimp only
  rw [upperRuns, mapThrough_of_isAscii (by decide +kernel) h, ht]

-- The other case of an ASCII character is ASCII too. There a digit is what it was, and a capital is
-- no small letter.
theorem otherCase_of_isAscii (h : isAscii c) : isAscii c.toLower ∧ isAscii c.toUpper ∧
    c.toLower.isDigit = c.isDigit ∧ ¬c.toUpper.isLower :=
  of_isAscii (p := fun c => isAscii c.toLower ∧ isAscii c.toUpper ∧
    c.toLower.isDigit = c.isDigit ∧ ¬c.toUpper.isLower) (by decide +kernel) h

theorem lower_of_isAscii (h : ∀ c ∈ s, isAscii c) : lower s = s.map Char.toLower := by
  have go (before : List Char) : lower.go before s = s.map Char.toLower := by
    induction s generalizing before
    case nil         => rfl
    case cons c s ih =>
      have ⟨hc, hs⟩ := List.forall_mem_cons.mp h
      have hsigma : c ≠ '\u03A3' := by rintro rfl; contradiction
      rw [lower.go, if_neg hsigma, lowerChar_of_isAscii hc, ih hs, List.map_cons]
      rfl
  exact go []

-- What an identifier is made of.
def isNameChar (c : Char) : Bool :=
  c.isAlphanum || c = '_'

theorem isAscii_of_isNameChar (h : isNameChar c) : isAscii c := by
  have hv {limit : Char} (hl : limit.toNat < 128) (hc : c.val ≤ limit.val) : isAscii c :=
    decide_eq_true (Nat.lt_of_le_of_lt (UInt32.le_iff_toNat_le.mp hc) hl)
  rcases Bool.or_eq_true_iff.mp h with h | h
  case inr => rw [of_decide_eq_true h]; rfl
  case inl =>
    rcases Bool.or_eq_true_iff.mp h with h | hd
    case inr => exact hv (by decide) (of_decide_eq_true (Bool.and_eq_true_iff.mp hd).right)
    case inl =>
      rcases Bool.or_eq_true_iff.mp h with hu | hl
      case inl => exact hv (by decide) (of_decide_eq_true hu).right
      case inr => exact hv (by decide) (of_decide_eq_true (Bool.and_eq_true_iff.mp hl).right)

theorem isNameChar_of_isWord (h : isWord c) (ha : isAscii c) : isNameChar c := by
  rwa [isWord, if_pos (of_decide_eq_true ha)] at h

end Text

namespace Naming

variable {c x : Char} {s w : List Char} {name : String} {m : ModuleId}

-- The words of the language that stand for nothing else.
def hardKeywords : List String := [
  "as", "break", "class", "continue", "do", "else", "false", "for", "fun", "if", "in", "interface", "is", "null",
  "object", "package", "return", "super", "this", "throw", "true", "try", "typealias", "typeof", "val", "var", "when",
  "while"]

def isLegal (name : String) : Bool :=
  name ≠ "" && !name.toList.head?.any Char.isDigit && name.toList.all Text.isNameChar && name ∉ hardKeywords

-- What resources may be called: dots stand between the parts.
def isAndroidName (name : String) : Bool :=
  name.toList.head?.any (fun c => c.isAlpha || c = '_') && name.toList.all fun c => Text.isNameChar c || c = '.'

-- What a resource name and its module must be like for the accessor's name to be legal.
structure Nameable (name : String) (m : ModuleId) : Prop where
  lead  : ∀ w ∈ (words name.toList).head?, ∀ c ∈ w.head?, c.isDigit = false
  word  : m.isPrimary → words name.toList ≠ []
  free  : m.isPrimary → ∀ w, words name.toList = [w] →
    String.ofList (if name.toList.any isSeparator then Text.lower w else w) ∉ hardKeywords
  ascii : ∀ c ∈ moduleSuffix m, Text.isAscii c

theorem isAscii_of_isAndroidName (h : isAndroidName name) : ∀ c ∈ name.toList, Text.isAscii c := by
  intro c hc
  rcases Bool.or_eq_true_iff.mp (List.all_eq_true.mp (Bool.and_eq_true_iff.mp h).right c hc) with h | h
  case inl => exact Text.isAscii_of_isNameChar h
  case inr => rw [of_decide_eq_true h]; rfl

theorem isNameChar_of_isAndroidName (h : isAndroidName name) (hc : c ∈ name.toList) (hs : isSeparator c = false) :
    Text.isNameChar c := by
  have ⟨_, hall⟩ := Bool.and_eq_true_iff.mp h
  refine (Bool.or_eq_true_iff.mp (List.all_eq_true.mp hall c hc)).resolve_right fun h => ?_
  rw [of_decide_eq_true h] at hs
  contradiction

theorem mem_of_mem_words (hw : w ∈ words s) (hc : c ∈ w) : c ∈ s :=
  Text.mem_of_mem_splitAll (List.mem_filter.mp hw).left hc

theorem ne_nil_of_mem_words (hw : w ∈ words s) : w ≠ [] :=
  of_decide_eq_true (List.mem_filter.mp hw).right

theorem words_of_none (h : s.any isSeparator = false) (hs : s ≠ []) : words s = [s] := by
  rw [words, Text.splitAll_of_none fun c hc => by simpa using List.any_eq_false.mp h c hc]
  simp [hs]

theorem lower_eq_nil_iff (h : ∀ c ∈ w, Text.isAscii c) : Text.lower w = [] ↔ w = [] := by
  rw [Text.lower_of_isAscii h, List.map_eq_nil_iff]

theorem camelCase_eq_nil_iff (h : ∀ c ∈ s, Text.isAscii c) : camelCase s = [] ↔ words s = [] := by
  unfold camelCase
  split
  case isTrue hs  =>
    by_cases hn : s = []
    case pos => subst hn; decide
    case neg => simp [words_of_none (by simpa using hs) hn, hn]
  case isFalse =>
    split
    case h_1 hw           => simp [hw]
    case h_2 first rest hw =>
      have hf : first ∈ words s := by simp [hw]
      have hl := lower_eq_nil_iff fun c hc => h c (mem_of_mem_words hf hc)
      simp [hw, hl, ne_nil_of_mem_words hf]

-- Lowering the first word makes no digit and removes none.
theorem head?_camelCase (h : ∀ c ∈ s, Text.isAscii c) :
    (camelCase s).head?.any Char.isDigit = ((words s).head?.bind List.head?).any Char.isDigit := by
  unfold camelCase
  split
  case isTrue hs  =>
    by_cases hn : s = []
    case pos => subst hn; decide
    case neg => simp [words_of_none (by simpa using hs) hn]
  case isFalse =>
    split
    case h_1 hw            => simp [hw]
    case h_2 first rest hw =>
      have hf : first ∈ words s := by simp [hw]
      have ha : ∀ c ∈ first, Text.isAscii c := fun c hc => h c (mem_of_mem_words hf hc)
      cases first
      case nil       => exact absurd rfl (ne_nil_of_mem_words hf)
      case cons c cs =>
        rw [Text.lower_of_isAscii ha, hw]
        obtain ⟨-, -, hd, -⟩ := Text.otherCase_of_isAscii (ha c List.mem_cons_self)
        simp [hd]

theorem isLower_of_hardKeyword (h : name ∈ hardKeywords) : ∀ c ∈ name.toList, c.isLower := by
  have hk : ∀ k ∈ hardKeywords, k.toList.all Char.isLower := by decide +kernel
  exact List.all_eq_true.mp (hk name h)

-- The second word brings a capital or a digit, which no keyword has.
theorem camelCase_notMem_hardKeywords_iff (h : ∀ c ∈ s, Text.isAscii c) (hn : words s ≠ []) :
    String.ofList (camelCase s) ∉ hardKeywords ↔
      ∀ w, words s = [w] → String.ofList (if s.any isSeparator then Text.lower w else w) ∉ hardKeywords := by
  cases hs : s.any isSeparator
  case false =>
    have hw : words s = [s] := words_of_none hs fun h => hn (by subst h; decide)
    simp [camelCase, hs, hw]
  case true =>
    rcases hw : words s with - | ⟨first, - | ⟨second, rest⟩⟩
    case nil       => exact absurd hw hn
    case cons.nil  => simp [camelCase, hs, hw]
    case cons.cons =>
      refine iff_of_true (fun hk => ?_) fun _ h => by cases h
      have hm : second ∈ words s := by simp [hw]
      cases second
      case nil       => exact ne_nil_of_mem_words hm rfl
      case cons c cs =>
        have hc : Text.isAscii c := h c (mem_of_mem_words hm List.mem_cons_self)
        obtain ⟨-, -, -, hu⟩ := Text.otherCase_of_isAscii hc
        refine hu (isLower_of_hardKeyword hk _ ?_)
        simp [camelCase, hs, hw, capitalize, Text.upperChar_of_isAscii hc]

theorem isNameChar_of_cased (h : Text.isWord c) (hx : Text.Cased c x) (ha : Text.isAscii x) : Text.isNameChar x :=
  Text.of_cased (by decide +kernel) (Text.isNameChar_of_isWord h) hx ha

theorem isAscii_of_cased (h : Text.isAscii c) (hx : Text.Cased c x) : Text.isAscii x := by
  obtain ⟨hl, hu, -⟩ := Text.otherCase_of_isAscii h
  cases hx
  case same     => exact h
  case lower hx =>
    rw [Text.lowerChar_of_isAscii h, List.mem_singleton] at hx
    rwa [hx]
  case upper hx =>
    rw [Text.upperChar_of_isAscii h, List.mem_singleton] at hx
    rwa [hx]
  case sigma hc => subst hc; contradiction

theorem isWord_of_isNameChar (h : Text.isNameChar c) : Text.isWord c := by
  rwa [Text.isWord, if_pos (of_decide_eq_true (Text.isAscii_of_isNameChar h))]

theorem isNameChar_camelCase (h : isAndroidName name) : ∀ x ∈ camelCase name.toList, Text.isNameChar x := by
  intro x hx
  have ⟨c, hc, hs, hx⟩ := exists_of_mem_camelCase hx
  have hn := isNameChar_of_isAndroidName h hc hs
  exact isNameChar_of_cased (isWord_of_isNameChar hn) hx (isAscii_of_cased (isAscii_of_isAndroidName h c hc) hx)

-- What is no word character of the module name has become a separator.
theorem exists_of_mem_moduleSuffix (hx : x ∈ moduleSuffix m) :
    x = '_' ∨ ∃ c ∈ m.name.toList, Text.isWord c ∧ Text.Cased c x := by
  unfold moduleSuffix at hx
  split at hx
  case isTrue  => cases hx
  case isFalse =>
    refine (List.mem_cons.mp hx).imp_right fun hx => ?_
    obtain ⟨c, hc, hs, hx⟩ := exists_of_mem_camelCase hx
    obtain ⟨d, hd, rfl⟩ := List.mem_map.mp hc
    by_cases hw : Text.isWord d
    case pos =>
      rw [if_pos hw] at hx
      exact ⟨d, hd, hw, hx⟩
    case neg =>
      rw [if_neg hw] at hs
      contradiction

theorem isNameChar_of_mem_moduleSuffix (hx : x ∈ moduleSuffix m) (ha : Text.isAscii x) : Text.isNameChar x := by
  rcases exists_of_mem_moduleSuffix hx with rfl | ⟨c, -, hw, hx⟩
  case inl => rfl
  case inr => exact isNameChar_of_cased hw hx ha

-- The name of an ASCII dependency never stands in the way.
theorem isAscii_moduleSuffix (h : ∀ c ∈ m.name.toList, Text.isAscii c) :
    ∀ x ∈ moduleSuffix m, Text.isAscii x := by
  intro x hx
  rcases exists_of_mem_moduleSuffix hx with rfl | ⟨c, hc, -, hx⟩
  case inl => rfl
  case inr => exact isAscii_of_cased (h c hc) hx

theorem head?_moduleSuffix : (moduleSuffix m).head?.any Char.isDigit = false := by
  unfold moduleSuffix
  split <;> rfl

theorem functionName_eq_empty_iff (h : isAndroidName name) :
    functionName name m = "" ↔ m.isPrimary ∧ words name.toList = [] := by
  rw [← String.toList_eq_nil_iff, toList_functionName, List.append_eq_nil_iff, moduleSuffix_eq_nil_iff,
    camelCase_eq_nil_iff (isAscii_of_isAndroidName h), and_comm]

theorem head?_functionName (h : isAndroidName name) :
    (functionName name m).toList.head?.any Char.isDigit =
      ((words name.toList).head?.bind List.head?).any Char.isDigit := by
  have hd := head?_camelCase (isAscii_of_isAndroidName h)
  rw [toList_functionName]
  cases hc : camelCase name.toList
  case cons c cs => rw [← hd, hc]; rfl
  case nil       =>
    have hw := (camelCase_eq_nil_iff (isAscii_of_isAndroidName h)).mp hc
    rw [List.nil_append, head?_moduleSuffix, hw]
    rfl

theorem isNameChar_functionName_iff (h : isAndroidName name) :
    (∀ x ∈ (functionName name m).toList, Text.isNameChar x) ↔ ∀ x ∈ moduleSuffix m, Text.isAscii x := by
  rw [toList_functionName, List.forall_mem_append]
  constructor
  case mp  => exact fun hx x hm => Text.isAscii_of_isNameChar (hx.right x hm)
  case mpr => exact fun hx => ⟨isNameChar_camelCase h, fun x hm => isNameChar_of_mem_moduleSuffix hm (hx x hm)⟩

-- The low line before the module is in no keyword.
theorem functionName_notMem_hardKeywords (hm : m.isPrimary = false) : functionName name m ∉ hardKeywords := by
  intro hk
  refine absurd (isLower_of_hardKeyword hk '_' ?_) (by decide)
  simp [toList_functionName, moduleSuffix, hm]

theorem isLegal_iff : isLegal name ↔ name ≠ "" ∧ name.toList.head?.any Char.isDigit = false ∧
    (∀ c ∈ name.toList, Text.isNameChar c) ∧ name ∉ hardKeywords := by
  simp [isLegal, and_assoc]

theorem isLegal_functionName_iff (h : isAndroidName name) : isLegal (functionName name m) ↔ Nameable name m := by
  have hword : functionName name m ≠ "" ↔ (m.isPrimary → words name.toList ≠ []) := by
    rw [ne_eq, functionName_eq_empty_iff h, not_and]
  have hlead : (functionName name m).toList.head?.any Char.isDigit = false ↔
      ∀ w ∈ (words name.toList).head?, ∀ c ∈ w.head?, c.isDigit = false := by
    rw [head?_functionName h]
    rcases words name.toList with - | ⟨- | ⟨c, cs⟩, ws⟩ <;> simp
  have hfree (hw : m.isPrimary → words name.toList ≠ []) : functionName name m ∉ hardKeywords ↔
      (m.isPrimary → ∀ w, words name.toList = [w] →
        String.ofList (if name.toList.any isSeparator then Text.lower w else w) ∉ hardKeywords) := by
    cases hm : m.isPrimary
    case false => simp [functionName_notMem_hardKeywords hm]
    case true  =>
      have hs : functionName name m = String.ofList (camelCase name.toList) := by
        rw [functionName, moduleSuffix_eq_nil_iff.mpr hm, List.append_nil]
      rw [hs, camelCase_notMem_hardKeywords_iff (isAscii_of_isAndroidName h) (hw hm)]
      simp
  rw [isLegal_iff, hword, hlead, isNameChar_functionName_iff h]
  constructor
  case mp =>
    rintro ⟨hw, hl, ha, hk⟩
    exact ⟨hl, hw, (hfree hw).mp hk, ha⟩
  case mpr =>
    rintro ⟨hl, hw, hf, ha⟩
    exact ⟨hw, hl, ha, (hfree hw).mpr hf⟩

end Naming

namespace ClassFile

open Naming

variable {r : Resource} {entries : List Entry} {assets : List Drawable}

-- Every resource has an accessor in the text of the class, whose name is taken as it is if nothing
-- stands in the way.
theorem emitted_name_legal_iff (package : String) (hr : r ∈ resources entries assets) (hn : isAndroidName r.name) :
    (blocks entries assets).outline.Tells package (render package entries assets) ∧
      (blocks entries assets).outline.Has r.block.name r.function ∧
      (isLegal r.function ↔ Nameable r.name r.owner) :=
  ⟨tells_render .., has_outline_iff.mpr ⟨r, hr, rfl, rfl⟩, isLegal_functionName_iff hn⟩

def object : Entry :=
  ⟨⟨"", "com.example"⟩, { name := "object", kind := .string }⟩

def loginObject : Entry :=
  ⟨⟨"feature-login", "com.example.login"⟩, { name := "object", kind := .string }⟩

theorem loginObject_name_legal :
    (Resource.ofEntry loginObject ∈ resources [object, loginObject] [] ∧ isAndroidName "object") ∧
    (blocks [object, loginObject] []).outline.Tells "com.example" (render "com.example" [object, loginObject] []) ∧
    (blocks [object, loginObject] []).outline.Has "Strings" "object_featureLogin" ∧
    isLegal "object_featureLogin" := by
  have hr : Resource.ofEntry loginObject ∈ resources [object, loginObject] [] :=
    List.mem_append_left _ (List.mem_map_of_mem (by simp))
  have hn : isAndroidName "object" := by decide
  have hf : (Resource.ofEntry loginObject).function = "object_featureLogin" := by decide +kernel
  have ⟨ht, he, hi⟩ := emitted_name_legal_iff "com.example" hr hn
  rw [hf] at he hi
  have hl : ∀ w ∈ (words "object".toList).head?, ∀ c ∈ w.head?, c.isDigit = false := by
    rw [show words "object".toList = ["object".toList] by decide]
    rintro _ ⟨⟩ _ ⟨⟩
    rfl
  have ha : ∀ c ∈ "feature-login".toList, Text.isAscii c := List.all_eq_true.mp (by decide)
  exact ⟨⟨hr, hn⟩, ht, he, hi.mpr ⟨hl, nofun, nofun, isAscii_moduleSuffix ha⟩⟩

-- In the primary module the name is left as it is, which is a word of the language.
theorem object_name_not_legal : isAndroidName "object" ∧
    objectsIn (render "com.example" [object] []) = [⟨"Strings", [⟨none, "object", "R.string.object"⟩]⟩] ∧
    ¬isLegal "object" := by
  refine ⟨by decide, ?_, by decide⟩
  rw [(tells_render ..).read (by decide) (by decide +kernel)]
  decide +kernel

end ClassFile

end TypedResources
