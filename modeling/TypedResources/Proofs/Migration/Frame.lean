import TypedResources.Proofs.Migration.Lines
import TypedResources.Proofs.Migration.Run

-- What migrating a file leaves alone. Every line keeps its ending, and its body as well unless a
-- change of that line is reported; imports always keep theirs. One line is added at most, behind the
-- last import of a resource class (`migrateFile_keeps_the_rest`).

namespace TypedResources.Migration

variable {k : Knowledge} {above lines kept : List Text.Line} {line before after : Text.Line} {e : Event}
  {r : Revision} {imported : Option String} {isJava : Bool} {text body : List Char} {i n : Nat} {c : Change}
  {package : String}

theorem line_of_migrateCall {call : Call} (h : (migrateCall k imported n call).2.change? = some c) :
    c.line = n := by
  unfold migrateCall at h
  cases hr : resolve k imported call <;> rw [hr] at h <;> cases h
  rfl

theorem line_of_mem_migrateBody (he : e ∈ (migrateBody k imported n body).2) (hc : e.change? = some c) :
    c.line = n := by
  rw [migrateBody_eq] at he
  rcases mem_migrateShapes he with h | ⟨shape, -, body, h⟩
  case inl => exact absurd h List.not_mem_nil
  case inr =>
    rw [events_migrateShape] at h
    obtain ⟨o, -, rfl⟩ := List.mem_map.mp h
    exact line_of_migrateCall hc

-- A body that is not what it was has a change.
theorem exists_change_of_migrateBody_ne (h : (migrateBody k imported n body).1 ≠ body) :
    ∃ e ∈ (migrateBody k imported n body).2, ∃ c, e.change? = some c ∧ c.line = n := by
  have hs : ¬∀ e ∈ (migrateBody k imported n body).2, e.change? = none :=
    fun hs => h (text_migrateBody (migrateBody_settled_iff.mp hs))
  push Not at hs
  have ⟨e, he, hc⟩ := hs
  have ⟨c, hc⟩ := Option.ne_none_iff_exists'.mp hc
  exact ⟨e, he, c, hc, line_of_mem_migrateBody he hc⟩

-- What may have become of a line when these changes were reported.
structure Kept (changes : List Change) (i : Nat) (before after : Text.Line) : Prop where
  ending  : after.ending = before.ending
  imports : import? before.body ≠ none → after.body = before.body
  body    : after.body ≠ before.body → ∃ c ∈ changes, c.line = (i + 1 : Nat)

theorem kept_migrateLine {changes : List Change}
    (h : ∀ e ∈ (migrateLine k above line).2, ∀ c, e.change? = some c → c ∈ changes) :
    Kept changes above.length line (migrateLine k above line).1 := by
  cases hi : import? line.body
  case some =>
    rw [migrateLine_of_import (hi ▸ Option.some_ne_none _)]
    exact ⟨rfl, fun _ => rfl, fun hn => absurd rfl hn⟩
  case none =>
    rw [migrateLine_of_not_import hi] at h ⊢
    refine ⟨rfl, fun hn => absurd hi hn, fun hn => ?_⟩
    dsimp only at hn
    have ⟨e, he, c, hc, hl⟩ := exists_change_of_migrateBody_ne hn
    exact ⟨c, h e he c hc, hl⟩

theorem getElem?_of_lastImport (h : lastImport lines = some (package, i)) :
    ∃ line, lines[i]? = some line ∧ import? line.body = some (.resources package) := by
  have h := List.mem_of_getLast? h
  obtain ⟨⟨line, j⟩, hm, hf⟩ := List.mem_filterMap.mp h
  dsimp only at hf
  split at hf
  case h_2 => cases hf
  case h_1 hi =>
    cases hf
    exact ⟨line, by simpa using (List.mem_zipIdx_iff_getElem?.mp hm), hi⟩

-- The line behind an import is indented like it, and both have one ending, which is a line feed if
-- the import had none. Without an import of a resource class, or with one of the generated class,
-- there is no such line.
inductive WithImport (before kept : List Text.Line) : List Text.Line → Prop
  | unchanged (h : lastImport before = none ∨ importsAccessors before) : WithImport before kept kept
  | added {package i line c rest} (h : lastImport before = some (package, i)) (ha : ¬importsAccessors before)
      (hl : before[i]? = some line) (hc : Text.isBlank c = false) :
      WithImport before kept <|
        let ending := if line.ending = [] then ['\n'] else line.ending
        let indent := line.body.takeWhile Text.isBlank
        kept.take i ++ [⟨line.body, ending⟩, ⟨indent ++ c :: rest, ending⟩] ++ kept.drop (i + 1)

theorem accessorImport_eq (k : Knowledge) (isJava : Bool) (like : List Char) :
    ∃ rest, accessorImport k isJava like = like.takeWhile Text.isBlank ++ 'i' :: rest := by
  simp only [accessorImport, String.toList_append, List.append_assoc]
  exact ⟨_, rfl⟩

theorem withImport_finish (hr : r.changes ≠ []) (hl : r.lines = (migrateLines k [] lines).map Prod.fst)
    (hi : r.imported = lastImport lines) (ha : r.hasAccessors = importsAccessors lines) :
    WithImport lines r.lines (r.finish k isJava).lines := by
  unfold Revision.finish
  rw [hi, ha]
  cases h : lastImport lines
  case none   => exact .unchanged (.inl h)
  case some x =>
    obtain ⟨package, i⟩ := x
    dsimp only
    cases haccessors : importsAccessors lines
    case true  => rw [if_pos (by simp)]; exact .unchanged (.inr haccessors)
    case false =>
      have ⟨line, hline, himport⟩ := getElem?_of_lastImport h
      have hkept : r.lines[i]? = some line := by
        rw [hl, List.getElem?_map, getElem?_migrateLines, hline]
        exact congrArg (some ·.1) (migrateLine_of_import (himport ▸ Option.some_ne_none _))
      have ⟨rest, hadded⟩ := accessorImport_eq k isJava line.body
      rw [if_neg (by simpa using hr), Revision.addImport, hkept]
      dsimp only
      rw [hadded]
      exact .added h (by simp [haccessors]) hline (by decide)

theorem subset_changes_finish (h : c ∈ r.changes) : c ∈ (r.finish k isJava).changes := by
  obtain ⟨e, he, hc⟩ := List.mem_filterMap.mp h
  exact List.mem_filterMap.mpr ⟨e, mem_events_finish_of_mem he, hc⟩

-- The lines of a text that was revised: first each is kept, then an import is added.
theorem lines_revise (h : (revise k isJava text).changes ≠ []) :
    let lines := (Text.splitLines text).map Text.Line.ofList
    ∃ kept : List Text.Line, kept.length = lines.length ∧
      (∀ i before after, lines[i]? = some before → kept[i]? = some after →
        Kept (revise k isJava text).sortedChanges i before after) ∧
      WithImport lines kept (revise k isJava text).lines := by
  intro lines
  have hc : (lines.foldl (Revision.addLine k) {}).changes ≠ [] := mt changes_finish_iff.mpr h
  rw [foldl_addLine] at hc
  have hw : WithImport lines _ (Revision.finish k isJava _).lines := withImport_finish hc rfl rfl rfl
  have hrevise : revise k isJava text = Revision.finish k isJava _ :=
    congrArg (Revision.finish k isJava) (foldl_addLine k lines)
  rw [← hrevise] at hw
  refine ⟨_, by simp, fun i before after hb ha => ?_, hw⟩
  rw [List.getElem?_map, getElem?_migrateLines, hb] at ha
  cases ha
  have hi : (lines.take i).length = i :=
    List.length_take_of_le (Nat.le_of_lt (List.getElem?_eq_some_iff.mp hb).1)
  have hk : Kept (revise k isJava text).sortedChanges (lines.take i).length before
      (migrateLine k (lines.take i) before).1 := kept_migrateLine fun e he c hc => by
      refine mem_sortBy.mpr ?_
      rw [hrevise]
      refine subset_changes_finish (List.mem_filterMap.mpr ⟨e, ?_, hc⟩)
      have hm := List.mem_of_getElem? (l := migrateLines k [] lines) (i := i)
        (by rw [getElem?_migrateLines, hb]; rfl)
      exact List.mem_flatMap.mpr ⟨_, hm, he⟩
  rwa [hi] at hk

-- A source file either keeps its bytes or is written as its old lines, each kept but for what is
-- reported, with the import added. No other file is written.
theorem migrateFile_keeps_the_rest {p : Path} {s : Session} (k : Knowledge) (h : s.disk.readRaw p = .ok text) :
    ∃ result d log, (migrateFile p).outcome k s = (.ok result, k, { s with disk := d, log := log }) ∧
      match result with
      | none         => d = s.disk
      | some changed =>
        let lines := (Text.splitLines text).map Text.Line.ofList
        ∃ kept written : List Text.Line, kept.length = lines.length ∧
          (∀ i before after, lines[i]? = some before → kept[i]? = some after →
            Kept changed.changes i before after) ∧
          WithImport lines kept written ∧
          d.readRaw p = .ok (written.flatMap Text.Line.toList) ∧ Disk.Writes [s.disk.keyOf p] s.disk d := by
  have ⟨log, ho⟩ := outcome_migrateFile p k s
  rw [h] at ho
  dsimp only at ho
  by_cases hc : (revisionOf k p text).changes = []
  case pos =>
    rw [if_pos hc] at ho
    exact ⟨none, s.disk, log, ho, rfl⟩
  case neg =>
    rw [if_neg hc] at ho
    have hf : s.disk.isFile p := by
      unfold Disk.readRaw at h
      cases hb : s.disk.readBytes p
      case error => rw [hb] at h; cases h
      case ok    => exact Disk.isFile_of_readBytes hb
    have ⟨d, hw⟩ := Disk.writeBytes_of_isFile (Text.Utf8.encode (revisionOf k p text).text) s.time hf
    rw [hw] at ho
    have ⟨kept, hn, hk, hi⟩ := lines_revise hc
    refine ⟨_, d, log, ho, kept, _, hn, hk, hi, ?_, (Disk.writeBytes_writes hw).left⟩
    rw [Disk.readRaw, Disk.readBytes_of_writeBytes hw, diskFailure, ok_bind, Text.Utf8.decode_encode]
    rfl

-- A file whose lines end in two characters each.
def crlfFile : Path := ⟨.root, ["A.kt"]⟩

def crlfText : List Char :=
  "import com.example.R\r\nval a = getString(R.string.title)\r\n".toList

def crlfSession : Session where
  disk := { entries := [(["A.kt"], .file (Text.Utf8.encode crlfText) 0)] }

def crlfKnowledge : Knowledge where
  package := "com.example"
  targets := [("R.string.title", ⟨.values .string, "title", ""⟩)]

theorem crlf_file_gets_import : ∃ changed d log kept written,
    (migrateFile crlfFile).outcome crlfKnowledge crlfSession =
      (.ok (some changed), crlfKnowledge, { crlfSession with disk := d, log := log }) ∧
    WithImport ((Text.splitLines crlfText).map Text.Line.ofList) kept written ∧
    d.readRaw crlfFile = .ok (written.flatMap Text.Line.toList) := by
  have hr : crlfSession.disk.readRaw crlfFile = .ok crlfText := by decide +kernel
  have hc : (revisionOf crlfKnowledge crlfFile crlfText).changes ≠ [] := by decide +kernel
  have ⟨result, d, log, ho, h⟩ := migrateFile_keeps_the_rest crlfKnowledge hr
  cases result
  case none =>
    have ⟨log', ho'⟩ := outcome_migrateFile crlfFile crlfKnowledge crlfSession
    rw [hr, ho] at ho'
    dsimp only at ho'
    rw [if_neg hc] at ho'
    split at ho' <;> cases ho'
  case some changed =>
    have ⟨kept, written, _, _, hi, hw, _⟩ := h
    exact ⟨changed, d, log, kept, written, ho, hi, hw⟩

end TypedResources.Migration
