import TypedResources.Proofs.Call.Respelling
import TypedResources.Proofs.Migration.Resolution

-- Qualified references and imported ones. A package that belongs to a module is preferred alike in
-- front of a reference and in an import. A package of no module is refused in front of a reference,
-- which means another set of resources then, but in an import it is passed over. Where the pattern of a
-- shape finds a call, it finds the call with the package in front as well (`qualified_call_resolution`).

namespace TypedResources.Migration

variable {k : Knowledge} {imported imported' : Option String} {c c' : Call} {package : String} {n n' : Nat}
  {above above' : List Text.Line} {start rest : List Char}

-- The package of an import consists of names.

theorem exists_import_of_importedBy (h : importedBy above = some package) :
    ∃ line ∈ above, import? line.body = some (.resources package) := by
  obtain ⟨⟨p, i⟩, hlast, rfl⟩ := Option.map_eq_some_iff.mp h
  obtain ⟨⟨line, j⟩, hline, hp⟩ := List.mem_filterMap.mp (List.mem_of_getLast? hlast)
  refine ⟨line, (List.mem_zipIdx' hline).2 ▸ List.getElem_mem _, ?_⟩
  dsimp only at hp
  split at hp
  case h_1 q hq => cases hp; exact hq
  case h_2      => cases hp

theorem names_of_importedName? {body : List Char} {parts : List (List Char)} (h : importedName? body = some parts) :
    ∀ w ∈ parts, w ≠ [] ∧ ∀ c ∈ w, Text.isWord c := by
  unfold importedName? at h
  dsimp only at h
  split at h
  case isFalse    => cases h
  case isTrue hif =>
    have hparts := Option.some.inj h
    have hne : [] ∉ parts := by
      rw [← hparts]
      simpa using (Bool.and_eq_true_iff.mp hif).right
    obtain ⟨path, hpath, rfl⟩ : ∃ path, (∀ c ∈ path, Text.isWord c || c = '.') ∧ parts = Text.splitAll (· = '.') path :=
      ⟨_, fun _ => List.mem_takeWhile_imp (p := fun c => Text.isWord c || c = '.'), hparts.symm⟩
    intro w hw
    refine ⟨fun he => hne (he ▸ hw), fun c hc => ?_⟩
    have hdot : c ∈ (Text.splitAll (· = '.') path).flatten := List.mem_flatten.mpr ⟨w, hw, hc⟩
    rw [Text.flatten_splitAll, List.mem_filter] at hdot
    have hclass := hpath c hdot.left
    simp_all

theorem dotted_of_import? {body : List Char} (h : import? body = some (.resources package)) :
    Call.Dotted (package.toList ++ ['.']) := by
  unfold import? at h
  obtain ⟨parts, hparts, h⟩ := Option.bind_eq_some_iff.mp h
  obtain ⟨last, hlast, h⟩ := Option.bind_eq_some_iff.mp h
  have hnames := names_of_importedName? hparts
  split at h
  case isTrue hif =>
    cases h
    have hlen : 2 ≤ parts.length := by simpa using (Bool.and_eq_true_iff.mp hif).right
    have hne : parts.dropLast ≠ [] := by
      intro he
      have := congrArg List.length he
      simp at this
      omega
    refine ⟨parts.dropLast, ?_, fun w hw => hnames w ((List.dropLast_sublist parts).subset hw)⟩
    rw [String.toList_ofList]
    generalize parts.dropLast = names at hne
    induction names
    case nil => exact absurd rfl hne
    case cons w names ih =>
      cases names
      case nil  => simp
      case cons => rw [List.intercalate_cons_cons, List.flatMap_cons, ← ih (by simp)]; simp
  case isFalse =>
    split at h <;> cases h

theorem candidates_congr (hs : c.shape = c'.shape) (hf : c.field = c'.field) : k.candidates c = k.candidates c' := by
  rw [Knowledge.candidates, Knowledge.candidates, Call.key, Call.key, hs, hf]

theorem resolve_qualified (hs : c.shape = c'.shape) (hf : c.field = c'.field) (hc : c.package = none)
    (hc' : c'.package = some package.toList) (h : (k.moduleOf? package).isSome) :
    resolve k (some package) c = resolve k imported c' := by
  have hp : k.preferred? (some package) c = k.preferred? imported c' := by
    simp [Knowledge.preferred?, hc, hc']
  have hn : k.foreign? c = k.foreign? c' := by
    simp [Knowledge.foreign?, hc, hc', Option.isSome_iff_ne_none.mp h, Option.filter]
  rw [resolve_eq, resolve_eq, candidates_congr hs hf, hn, hp]

theorem resolve_foreign (hc : c.package = some package.toList) (h : k.moduleOf? package = none) :
    ∃ refusal, resolve k imported c = .error refusal := by
  have hn : k.foreign? c = some package := by simp [Knowledge.foreign?, hc, h, Option.filter]
  rw [resolve_eq, hn]
  cases k.candidates c
  case nil  => exact ⟨_, rfl⟩
  case cons => exact ⟨_, rfl⟩

theorem resolve_unknown_import (hc : c.package = none) (h : k.moduleOf? package = none) :
    resolve k (some package) c = resolve k none c := by
  have hp : k.preferred? (some package) c = k.preferred? none c := by simp [Knowledge.preferred?, hc, h]
  rw [resolve_eq, resolve_eq, hp]

-- A call that is found below the import of a resource class, and the same call with the imported package in
-- front of its reference: both are found in the line, whichever of them stands there. If the package is a
-- module's, both are replaced by one accessor or both are kept for one reason. Otherwise the qualified one is
-- kept, and the other one meets the same end as without the import.
theorem qualified_call_resolution (k : Knowledge) (above' : List Text.Line) (n n' : Nat) (hs : c.shape ∈ Call.shapes)
    (hc : c.Found start rest) (hi : importedBy above = some package) :
    let plain := c.spelled none
    let qualified := c.spelled (some package.toList)
    let arguments := String.ofList c.arguments
    c.spelled c.package = c ∧ plain.Found start rest ∧ qualified.Found start rest ∧
    ((k.moduleOf? package).isSome →
      (∃ t : Target, migrateCall k (importedBy above) n plain = ((t.call arguments).toList,
          .replaced n (String.ofList plain.text) (t.call arguments)) ∧
        migrateCall k (importedBy above') n' qualified = ((t.call arguments).toList,
          .replaced n' (String.ofList qualified.text) (t.call arguments))) ∨
      ∃ refusal, migrateCall k (importedBy above) n plain = (plain.text, .skipped n c.key refusal) ∧
        migrateCall k (importedBy above') n' qualified = (qualified.text, .skipped n' c.key refusal)) ∧
    (k.moduleOf? package = none →
      (∃ refusal, migrateCall k (importedBy above') n' qualified = (qualified.text, .skipped n' c.key refusal)) ∧
      migrateCall k (importedBy above) n plain = migrateCall k none n plain) := by
  intro plain qualified arguments
  obtain ⟨line, -, hline⟩ := exists_import_of_importedBy hi
  have hdotted : ∀ p ∈ some package.toList, Call.Dotted (p ++ ['.']) := by
    rintro p ⟨⟩
    exact dotted_of_import? hline
  refine ⟨hc.spelled_self hs, hc.spelled hs nofun, hc.spelled hs hdotted, ?_, ?_⟩
  case refine_1 =>
    intro h
    have hr : resolve k (some package) plain = resolve k (importedBy above') qualified := resolve_qualified rfl rfl rfl rfl h
    unfold migrateCall
    rw [hi, hr]
    cases resolve k (importedBy above') qualified
    case error refusal => exact .inr ⟨refusal, rfl, rfl⟩
    case ok t          => exact .inl ⟨t, rfl, rfl⟩
  case refine_2 =>
    intro h
    obtain ⟨refusal, hr⟩ : ∃ refusal, resolve k (importedBy above') qualified = .error refusal := resolve_foreign rfl h
    unfold migrateCall
    rw [hi, hr, resolve_unknown_import rfl h]
    exact ⟨⟨refusal, rfl⟩, rfl⟩

def okDisk : Disk where
  entries := [(["app.xml"], .file (Text.Utf8.encode "<resources><string name=\"ok\"/></resources>".toList) 0)]

def okGroups : List ResourceGroup :=
  [⟨.values, ⟨"", "com.example"⟩, [⟨.root, ["app.xml"]⟩]⟩]

def okKnowledge : Knowledge where
  package := "com.example"
  owners  := okGroups.map ResourceGroup.owner
  targets := [("R.string.ok", ⟨.values .string, "ok", ""⟩)]

theorem knows_ok : okKnowledge.Knows okDisk okGroups :=
  ⟨rfl, by decide +kernel⟩

def okCall : Call where
  shape     := ⟨"getString", [.values .string], .none⟩
  text      := "getString(R.string.ok)".toList
  package   := none
  field     := "ok".toList
  arguments := []

-- Below the import of the module's package and with that package in front, one accessor is called.
theorem own_package_resolution : ∃ (qualified : Call) (t : Target),
    okCall.Found "val a = ".toList " + b".toList ∧ qualified.Found "val a = ".toList " + b".toList ∧
    qualified.text = "getString(com.example.R.string.ok)".toList ∧
    (migrateCall okKnowledge (some "com.example") 2 okCall).1 = (t.call "").toList ∧
    (migrateCall okKnowledge none 1 qualified).1 = (t.call "").toList := by
  let above : List Text.Line := [⟨"import com.example.R".toList, ['\n']⟩]
  have hi : importedBy above = some "com.example" := by decide +kernel
  have hc : okCall.Found "val a = ".toList " + b".toList := by decide +kernel
  have hr : (migrateCall okKnowledge (some "com.example") 2 okCall).1 ≠ okCall.text := by decide +kernel
  have hm : (okKnowledge.moduleOf? "com.example").isSome := by decide
  obtain ⟨hself, hplain, hqualified, h, -⟩ := qualified_call_resolution okKnowledge [] 2 1 (by decide) hc hi
  rw [hi, show okCall.spelled none = okCall from hself] at h
  rcases h hm with ⟨t, hp, hq⟩ | ⟨refusal, hp, _⟩
  case inl => exact ⟨_, t, hc, hqualified, by decide, congrArg Prod.fst hp, congrArg Prod.fst hq⟩
  case inr => exact absurd (congrArg Prod.fst hp) hr

-- The imported reference takes the module's resource for the one of the foreign package.
theorem foreign_import_resolves : okKnowledge.Knows okDisk okGroups ∧
    (revise okKnowledge false "import android.R\ngetString(R.string.ok)".toList).events =
      [.replaced 2 "getString(R.string.ok)" "ResourceManager.Strings.ok()",
        .imported 1 "import android.R" "import com.example.ResourceManager"] ∧
    (revise okKnowledge false "import android.R\ngetString(android.R.string.ok)".toList).events =
      [.skipped 2 "R.string.ok" (.foreign "android")] :=
  ⟨knows_ok, by decide +kernel, by decide +kernel⟩

end TypedResources.Migration
