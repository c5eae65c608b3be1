import Mathlib.Data.Set.Basic
import TypedResources.Proofs.Call.Parts
import TypedResources.Proofs.Migration.Lines
import TypedResources.Proofs.Migration.Run
import TypedResources.Proofs.Migration.Table

-- When a call is replaced. The candidates of a call are the modules that have a resource with its
-- field, each with the block of that resource. A call is replaced exactly if the package in front of
-- its reference, should there be one, is that of a module, and a single candidate is left in the
-- module that the package or else the import stands for (`call_resolution`).

namespace TypedResources

open ClassFile Migration

namespace Migration

variable {d : Disk} {groups : List ResourceGroup} {k : Knowledge} {c : Call} {imported : Option String}
  {t t' : Target} {r : Resource}

-- The targets that a call may mean, whatever package is preferred.
def Knowledge.candidates (k : Knowledge) (c : Call) : List Target :=
  (k.targetsOf c.key).filter fun t => c.shape.blocks.contains t.block

-- The module that the package in front of the reference belongs to, or else the import.
def Knowledge.preferred? (k : Knowledge) (imported : Option String) (c : Call) : Option String :=
  ((c.package.map String.ofList).or imported).bind k.moduleOf?

-- The package in front of the reference, if it is no module's.
def Knowledge.foreign? (k : Knowledge) (c : Call) : Option String :=
  (c.package.map String.ofList).filter fun p => (k.moduleOf? p).isNone

theorem narrow_nil (module : Option String) : narrow module [] = [] := by
  cases module <;> rfl

theorem resolve_eq : resolve k imported c =
    match k.candidates c, k.foreign? c with
    | [], _      => .error .unknown
    | _,  some p => .error (.foreign p)
    | _,  none   =>
      match narrow (k.preferred? imported c) (k.candidates c) with
      | [t] => .ok t
      | ts  => .error (.ambiguous ts) :=
  rfl

theorem resolve_eq_ok_iff : resolve k imported c = .ok t ↔
    k.foreign? c = none ∧ narrow (k.preferred? imported c) (k.candidates c) = [t] := by
  rw [resolve_eq]
  cases hc : k.candidates c
  case nil => simp [narrow_nil]
  case cons u us =>
    cases k.foreign? c
    case some p => simp
    case none   =>
      dsimp only
      split
      case h_1 ht => simp [ht]
      case h_2 ht => simpa using ht t

theorem mem_narrow_iff {module : Option String} {ts : List Target} : t ∈ narrow module ts ↔
    t ∈ ts ∧ ∀ m, module = some m → (∃ u ∈ ts, u.owner = m) → t.owner = m := by
  unfold narrow
  cases module
  case none   => simp
  case some m =>
    dsimp only
    split
    case isTrue h =>
      have hn : ¬∃ u ∈ ts, u.owner = m := by simpa [List.isEmpty_iff] using h
      refine ⟨fun ht => ⟨ht, ?_⟩, And.left⟩
      rintro _ ⟨⟩ he
      exact absurd he hn
    case isFalse h =>
      have he : ∃ u ∈ ts, u.owner = m := by simpa [List.isEmpty_iff] using h
      rw [List.mem_filter, decide_eq_true_eq]
      exact and_congr_right fun _ => ⟨fun ho _ hm _ => Option.some.inj hm ▸ ho, fun hn => hn m rfl he⟩

theorem nodup_narrow {module : Option String} {ts : List Target} (h : ts.Nodup) : (narrow module ts).Nodup := by
  unfold narrow
  split
  case h_1 => exact h
  case h_2 =>
    dsimp only
    split
    case isTrue  => exact h
    case isFalse => exact h.filter _

-- The modules that have a resource with the field of a call, each with the block of that resource,
-- if it is one that the call may mean.
def candidatesOf (d : Disk) (groups : List ResourceGroup) (c : Call) : Set (String × Block) :=
  {x | ∃ r : Resource, r.Located d groups ∧ r.field = String.ofList c.field ∧ r.block ∈ c.shape.blocks ∧
    x = (r.owner.name, r.block)}

-- The candidates of one module if it has any, and all of them otherwise.
def restricted (module : Option String) (s : Set (String × Block)) : Set (String × Block) :=
  {x ∈ s | ∀ m, module = some m → (∃ y ∈ s, y.1 = m) → x.1 = m}

namespace Knowledge.Knows

variable (hk : k.Knows d groups)

include hk

theorem mem_candidates_iff (hs : c.shape ∈ Call.shapes) : t ∈ k.candidates c ↔ ∃ r : Resource, r.Located d groups ∧
    r.field = String.ofList c.field ∧ r.block ∈ c.shape.blocks ∧ t = r.target.2 := by
  rw [candidates, List.mem_filter, mem_targetsOf_iff, hk.mem_targets_iff]
  constructor
  case mp =>
    rintro ⟨⟨r, hr, ht⟩, hb⟩
    obtain ⟨hkey, rfl⟩ := Prod.mk.inj ht
    have hb : r.block ∈ c.shape.blocks := by simpa using hb
    exact ⟨r, hr, (key_eq_iff hs hb).mp hkey, hb, rfl⟩
  case mpr =>
    rintro ⟨r, hr, hf, hb, rfl⟩
    have hc : c.shape.blocks.contains r.block := by simpa using hb
    exact ⟨⟨r, hr, Prod.ext ((key_eq_iff hs hb).mpr hf) rfl⟩, hc⟩

theorem eq_of_candidate_eq (ht : t ∈ k.candidates c) (ht' : t' ∈ k.candidates c) (h : t.candidate = t'.candidate) :
    t = t' :=
  hk.eq_of_mem_targetsOf (List.mem_filter.mp ht).left (List.mem_filter.mp ht').left h

theorem mem_candidatesOf_iff (hs : c.shape ∈ Call.shapes) {x : String × Block} : x ∈ candidatesOf d groups c ↔
    ∃ t ∈ k.candidates c, t.candidate = x := by
  constructor
  case mp =>
    rintro ⟨r, hr, hf, hb, rfl⟩
    exact ⟨r.target.2, (hk.mem_candidates_iff hs).mpr ⟨r, hr, hf, hb, rfl⟩, rfl⟩
  case mpr =>
    rintro ⟨t, ht, rfl⟩
    obtain ⟨r, hr, hf, hb, rfl⟩ := (hk.mem_candidates_iff hs).mp ht
    exact ⟨r, hr, hf, hb, rfl⟩

theorem mem_restricted_iff (hs : c.shape ∈ Call.shapes) {x : String × Block} {module : Option String} :
    x ∈ restricted module (candidatesOf d groups c) ↔ ∃ t ∈ narrow module (k.candidates c), t.candidate = x := by
  have hm (m : String) : (∃ y ∈ candidatesOf d groups c, y.1 = m) ↔ ∃ u ∈ k.candidates c, u.owner = m := by
    simp only [hk.mem_candidatesOf_iff hs]
    constructor
    case mp  => rintro ⟨_, ⟨u, hu, rfl⟩, ho⟩; exact ⟨u, hu, ho⟩
    case mpr => rintro ⟨u, hu, ho⟩; exact ⟨_, ⟨u, hu, rfl⟩, ho⟩
  constructor
  case mp =>
    rintro ⟨hx, h⟩
    obtain ⟨t, ht, rfl⟩ := (hk.mem_candidatesOf_iff hs).mp hx
    exact ⟨t, mem_narrow_iff.mpr ⟨ht, fun m hmod he => h m hmod ((hm m).mpr he)⟩, rfl⟩
  case mpr =>
    rintro ⟨t, ht, rfl⟩
    have ⟨ht, h⟩ := mem_narrow_iff.mp ht
    exact ⟨(hk.mem_candidatesOf_iff hs).mpr ⟨t, ht, rfl⟩, fun m hmod he => h m hmod ((hm m).mp he)⟩

theorem nodup_candidates : (k.candidates c).Nodup :=
  hk.nodup_targetsOf.filter _

-- A single candidate is left exactly if a single target is.
theorem narrow_eq_singleton_iff (hs : c.shape ∈ Call.shapes) {module : Option String} :
    (∃ t, narrow module (k.candidates c) = [t]) ↔ ∃! x, x ∈ restricted module (candidatesOf d groups c) := by
  have hn : (narrow module (k.candidates c)).Nodup := nodup_narrow hk.nodup_candidates
  constructor
  case mp =>
    rintro ⟨t, ht⟩
    refine ⟨t.candidate, (hk.mem_restricted_iff hs).mpr ⟨t, by simp [ht], rfl⟩, fun x hx => ?_⟩
    obtain ⟨u, hu, rfl⟩ := (hk.mem_restricted_iff hs).mp hx
    rw [ht, List.mem_singleton] at hu
    rw [hu]
  case mpr =>
    rintro ⟨x, hx, hu⟩
    obtain ⟨t, ht, rfl⟩ := (hk.mem_restricted_iff hs).mp hx
    refine ⟨t, List.perm_singleton.mp ((List.perm_ext_iff_of_nodup hn (List.nodup_singleton t)).mpr fun u => ?_)⟩
    rw [List.mem_singleton]
    refine ⟨fun hu' => ?_, fun h => h ▸ ht⟩
    have he := hu _ ((hk.mem_restricted_iff hs).mpr ⟨u, hu', rfl⟩)
    exact hk.eq_of_candidate_eq (narrow_subset hu') (narrow_subset ht) he

theorem isSome_moduleOf?_iff {package : String} (hne : package ≠ "") : (k.moduleOf? package).isSome ↔
    ∃ g ∈ groups, g.owner.package = package := by
  simp [moduleOf?, hne, hk.owners]

theorem foreign?_eq_none_iff (hne : ∀ p, c.package = some p → p ≠ []) : k.foreign? c = none ↔
    ∀ p, c.package = some p → ∃ g ∈ groups, g.owner.package = String.ofList p := by
  unfold foreign?
  cases hp : c.package
  case none   => simp
  case some p =>
    have hs : String.ofList p ≠ "" := by simpa [String.ext_iff] using hne p hp
    have h := hk.isSome_moduleOf?_iff hs
    simp [← h, Option.isSome_iff_ne_none]

end Knowledge.Knows

variable {above below : List Text.Line} {line : Text.Line} {done later : List Call.Shape} {shape : Call.Shape}
  {o : Occurrence Call.Slot} {left right : List (Piece Call.Slot)} {text body : List Char} {isJava : Bool} {n : Nat}
  {events : List Event}

-- What becomes of some of the pieces that the pattern of a shape cuts a body into.
def migratePieces (k : Knowledge) (imported : Option String) (n : Nat) (shape : Call.Shape)
    (pieces : List (Piece Call.Slot)) : List Char × List Event :=
  let done := pieces.map (migratePiece k imported n shape)
  (done.flatMap Prod.fst, done.flatMap Prod.snd)

theorem migrateShape_eq : migrateShape k imported n body shape =
    migratePieces k imported n shape (shape.pattern.cut body) :=
  rfl

theorem migrateShape_of_cut (h : shape.pattern.cut body = left ++ .found o :: right) :
    migrateShape k imported n body shape =
      let call := migrateCall k imported n (Call.ofOccurrence shape o)
      ((migratePieces k imported n shape left).1 ++ call.1 ++ (migratePieces k imported n shape right).1,
        (migratePieces k imported n shape left).2 ++ call.2 :: (migratePieces k imported n shape right).2) := by
  rw [migrateShape_eq, h]
  simp [migratePieces, migratePiece]

-- What a shape tells of a line stands in one stretch, too.
theorem exists_events_of_shape (isJava : Bool) (hl : (Text.splitLines text).map Text.Line.ofList = above ++ line :: below)
    (hi : import? line.body = none) (hs : Call.shapes = done ++ shape :: later) :
    ∃ before after, (revise k isJava text).events = before ++ (migrateShape k (importedBy above) (above.length + 1)
      (migrateShapes k (importedBy above) (above.length + 1) done line.body []).1 shape).2 ++ after := by
  have ⟨earlier, afterwards, h⟩ := exists_events_of_line k isJava hl
  rw [migrateLine_of_not_import hi] at h
  have ⟨before, after, hb⟩ := exists_events_migrateBody k (importedBy above) (above.length + 1) line.body hs
  refine ⟨earlier ++ before, after ++ afterwards, ?_⟩
  rw [h, hb]
  simp only [List.append_assoc]

-- A call is replaced exactly if it has candidates, the package in front of its reference belongs to
-- a module, and one candidate is left in the preferred module. It becomes a call of the accessor of
-- that candidate, which is recorded between what is recorded for the calls on both sides of it.
-- Otherwise it keeps its text, and no change is recorded for it.
theorem call_resolution (isJava : Bool) (hk : k.Knows d groups)
    (hl : (Text.splitLines text).map Text.Line.ofList = above ++ line :: below) (hi : import? line.body = none)
    (hs : Call.shapes = done ++ shape :: later)
    (hc : shape.pattern.cut (migrateShapes k (importedBy above) (above.length + 1) done line.body []).1 =
      left ++ .found o :: right) :
    let imported := importedBy above
    let number := above.length + 1
    let body := (migrateShapes k imported number done line.body []).1
    let front := migratePieces k imported number shape left
    let back := migratePieces k imported number shape right
    let call := Call.ofOccurrence shape o
    let candidates := candidatesOf d groups call
    let remaining := restricted (k.preferred? imported call) candidates
    let resolves := candidates.Nonempty ∧
      (∀ p, call.package = some p → ∃ g ∈ groups, g.owner.package = String.ofList p) ∧ ∃! x, x ∈ remaining
    ∃ made event earlier afterwards,
      migrateShape k imported number body shape = (front.1 ++ made ++ back.1, front.2 ++ event :: back.2) ∧
      (revise k isJava text).events = earlier ++ (front.2 ++ event :: back.2) ++ afterwards ∧
      (resolves ∧ (∃ r : Resource, r.Located d groups ∧ r.field = String.ofList call.field ∧
          (r.owner.name, r.block) ∈ remaining ∧ made = (r.target.2.call (String.ofList call.arguments)).toList) ∧
          event.change? = some ⟨number, String.ofList o.text, String.ofList made⟩ ∨
        ¬resolves ∧ made = o.text ∧ event.change? = none ∧ ∃ refusal, event = .skipped number call.key refusal) := by
  intro imported number body front back call candidates remaining resolves
  have hshape : call.shape ∈ Call.shapes := hs ▸ List.mem_append_right _ List.mem_cons_self
  have ho : o ∈ shape.pattern.occurrences body := Pattern.mem_occurrences_of_cut hc
  have ⟨p, hp⟩ := Call.exists_parts hshape (Pattern.reads_of_mem_occurrences ho)
  have hf := hk.foreign?_eq_none_iff (c := call) fun _ => Call.ne_nil_of_package hp
  have hr : (∃ t, resolve k imported call = .ok t) ↔ resolves := by
    simp only [resolve_eq_ok_iff, exists_and_left, hf, hk.narrow_eq_singleton_iff hshape]
    refine ⟨fun ⟨hp, hu⟩ => ⟨?_, hp, hu⟩, fun ⟨_, hp, hu⟩ => ⟨hp, hu⟩⟩
    have ⟨x, hx, _⟩ := hu
    exact ⟨x, hx.1⟩
  have hm : migrateShape k imported number body shape =
      (front.1 ++ (migrateCall k imported number call).1 ++ back.1,
        front.2 ++ (migrateCall k imported number call).2 :: back.2) := migrateShape_of_cut hc
  obtain ⟨earlier, afterwards, he⟩ := exists_events_of_shape (k := k) isJava hl hi hs
  refine ⟨_, _, earlier, afterwards, hm, by rw [he]; exact congrArg (earlier ++ ·.2 ++ afterwards) hm, ?_⟩
  unfold migrateCall
  cases ht : resolve k imported call
  case error refusal => exact .inr ⟨fun h => by simpa [ht] using hr.mpr h, rfl, rfl, refusal, rfl⟩
  case ok t =>
    have hn : narrow (k.preferred? imported call) (k.candidates call) = [t] := (resolve_eq_ok_iff.mp ht).2
    have hm : t ∈ narrow (k.preferred? imported call) (k.candidates call) := hn ▸ List.mem_singleton_self t
    obtain ⟨r, hloc, hfield, -, rfl⟩ := (hk.mem_candidates_iff hshape).mp (narrow_subset hm)
    refine .inl ⟨hr.mp ⟨_, ht⟩, ⟨r, hloc, hfield, (hk.mem_restricted_iff hshape).mpr ⟨_, hm, rfl⟩, rfl⟩, ?_⟩
    dsimp only
    rw [String.ofList_toList]
    rfl

-- A string that two modules define.
def sharedDisk : Disk where
  entries :=
    [(["app.xml"], .file (Text.Utf8.encode "<resources><string name=\"title\"/></resources>".toList) 0),
     (["lib.xml"], .file (Text.Utf8.encode "<resources><string name=\"title\"/></resources>".toList) 0)]

def sharedGroups : List ResourceGroup :=
  [⟨.values, ⟨"", "com.example"⟩, [⟨.root, ["app.xml"]⟩]⟩, ⟨.values, ⟨"lib", "com.example.lib"⟩, [⟨.root, ["lib.xml"]⟩]⟩]

def sharedKnowledge : Knowledge where
  owners  := sharedGroups.map ResourceGroup.owner
  targets := [("R.string.title", ⟨.values .string, "title", ""⟩), ("R.string.title", ⟨.values .string, "title_lib", "lib"⟩)]

def sharedText : List Char :=
  "import com.example.lib.R\ngetString(R.string.title)".toList

theorem knows_shared : sharedKnowledge.Knows sharedDisk sharedGroups :=
  ⟨rfl, by decide +kernel⟩

-- The import leaves the one of the library.
theorem shared_title_resolution : ∃ call : Call, call.text = "getString(R.string.title)".toList ∧
    (candidatesOf sharedDisk sharedGroups call).Nonempty ∧
    ∃! x, x ∈ restricted (sharedKnowledge.preferred? (some "com.example.lib") call)
      (candidatesOf sharedDisk sharedGroups call) := by
  let above : List Text.Line := [⟨"import com.example.lib.R".toList, ['\n']⟩]
  let body : List Char := "getString(R.string.title)".toList
  let shape : Call.Shape := ⟨"getString", [.values .string], .none⟩
  have hl : (Text.splitLines sharedText).map Text.Line.ofList = above ++ ⟨body, []⟩ :: [] := by decide +kernel
  have hs : Call.shapes = Call.shapes.take 6 ++ shape :: Call.shapes.drop 7 := by decide
  have hi : importedBy above = some "com.example.lib" := by decide +kernel
  have hb : (migrateShapes sharedKnowledge (importedBy above) (above.length + 1) (Call.shapes.take 6) body []).1 = body := by
    decide +kernel
  have ho : (shape.pattern.occurrences body).map Occurrence.text = [body] := by decide +kernel
  have he : (revise sharedKnowledge false sharedText).events =
      [.replaced 2 "getString(R.string.title)" "ResourceManager.Strings.title_lib()",
        .imported 1 "import com.example.lib.R" "import .ResourceManager"] := by
    decide +kernel
  obtain ⟨o, ho, ht⟩ := List.mem_map.mp (ho ▸ List.mem_singleton_self body)
  have ⟨left, right, hc⟩ := Pattern.exists_cut_of_mem_occurrences ho
  have ⟨made, event, _, _, _, hm, h⟩ := call_resolution false knows_shared hl (by decide +kernel) hs (hb.symm ▸ hc)
  have hmem : event ∈ (revise sharedKnowledge false sharedText).events := by
    rw [hm]
    exact List.mem_append_left _ (List.mem_append_right _ (List.mem_append_right _ List.mem_cons_self))
  rcases h with ⟨⟨hne, _, hu⟩, _⟩ | ⟨_, _, _, _, rfl⟩
  case inl => exact ⟨Call.ofOccurrence shape o, ht, hne, hi ▸ hu⟩
  case inr => rw [he] at hmem; simp at hmem

end Migration

end TypedResources
