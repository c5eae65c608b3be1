import TypedResources.Proofs.Migration.Frame

-- What the reported changes of a file tell of its text. The changes of a line, made one after the
-- other, lead from what the line was to what was written (`replays_migrateBody`), and the only change
-- beside those of calls is that of the import behind which one was added (`migrateFile_replays`).

namespace TypedResources.Migration

variable {k : Knowledge} {above lines kept written : List Text.Line} {line : Text.Line} {e : Event}
  {events : List Event} {imported : Option String} {isJava : Bool} {text body : List Char} {i n : Nat} {c : Change}
  {cs cs' : List Change} {shape : Call.Shape} {s t u : List Char} {r : Revision}

-- Each change in turn replaces one stretch of the text.
inductive Replays : List Change → List Char → List Char → Prop
  | nil {s : List Char} : Replays [] s s
  | cons {c : Change} {cs : List Change} {u v t : List Char} (h : Replays cs (u ++ c.after.toList ++ v) t) :
    Replays (c :: cs) (u ++ c.before.toList ++ v) t

theorem Replays.append (h : Replays cs s t) (h' : Replays cs' t u) : Replays (cs ++ cs') s u := by
  induction h
  case nil     => exact h'
  case cons ih => exact .cons (ih h')

def changesOf (events : List Event) : List Change :=
  events.filterMap Event.change?

@[simp]
theorem changesOf_append {events' : List Event} :
    changesOf (events ++ events') = changesOf events ++ changesOf events' :=
  List.filterMap_append

theorem replays_migrateCall (call : Call) : Replays (changesOf [(migrateCall k imported n call).2])
    (s ++ call.text ++ t) (s ++ (migrateCall k imported n call).1 ++ t) := by
  unfold migrateCall
  cases resolve k imported call
  case error     => exact .nil
  case ok target =>
    have h : Replays [⟨n, String.ofList call.text, target.call (String.ofList call.arguments)⟩]
        (s ++ (String.ofList call.text).toList ++ t) _ := .cons .nil
    rwa [String.toList_ofList] at h

-- The pieces in front are as they were written, and those to come are as they were.
theorem replays_pieces (k : Knowledge) (imported : Option String) (n : Nat) (shape : Call.Shape)
    (pieces : List (Piece Call.Slot)) (done : List Char) :
    Replays (changesOf (pieces.flatMap fun p => (migratePiece k imported n shape p).2))
      (done ++ pieces.flatMap Piece.text) (done ++ pieces.flatMap fun p => (migratePiece k imported n shape p).1) := by
  induction pieces generalizing done
  case nil                => exact .nil
  case cons piece pieces ih =>
    simp only [List.flatMap_cons, changesOf_append, ← List.append_assoc]
    refine .append ?_ (ih _)
    cases piece
    case plain c => exact .nil
    case found o => exact replays_migrateCall (Call.ofOccurrence shape o)

theorem replays_migrateShape : Replays (changesOf (migrateShape k imported n body shape).2) body
    (migrateShape k imported n body shape).1 := by
  have h := replays_pieces k imported n shape (shape.pattern.cut body) []
  rw [Pattern.flatMap_text_cut, List.nil_append, List.nil_append] at h
  simpa only [migrateShape, List.flatMap_map] using h

-- Each shape goes on where the one before it has ended.
theorem replays_migrateShapes (k : Knowledge) (imported : Option String) (n : Nat) (shapes : List Call.Shape)
    (body : List Char) (events : List Event) :
    ∃ more, (migrateShapes k imported n shapes body events).2 = events ++ more ∧
      Replays (changesOf more) body (migrateShapes k imported n shapes body events).1 := by
  induction shapes generalizing body events
  case nil                  => exact ⟨[], (List.append_nil _).symm, .nil⟩
  case cons shape shapes ih =>
    rw [migrateShapes_cons]
    have ⟨more, he, hr⟩ := ih (migrateShape k imported n body shape).1
      (events ++ (migrateShape k imported n body shape).2)
    refine ⟨(migrateShape k imported n body shape).2 ++ more, by rw [he, List.append_assoc], ?_⟩
    rw [changesOf_append]
    exact replays_migrateShape.append hr

theorem replays_migrateBody :
    Replays (changesOf (migrateBody k imported n body).2) body (migrateBody k imported n body).1 := by
  have ⟨more, he, hr⟩ := replays_migrateShapes k imported n Call.shapes body []
  rw [List.nil_append] at he
  rw [migrateBody_eq, he]
  exact hr

theorem ending_migrateLine : (migrateLine k above line).1.ending = line.ending := by
  unfold migrateLine
  split <;> rfl

theorem replays_migrateLine :
    Replays (changesOf (migrateLine k above line).2) line.body (migrateLine k above line).1.body := by
  cases hi : import? line.body
  case some =>
    rw [migrateLine_of_import (hi ▸ Option.some_ne_none _)]
    exact .nil
  case none =>
    rw [migrateLine_of_not_import hi]
    dsimp only
    exact replays_migrateBody

-- The change puts the call of an accessor in the place of a call that resolves to it.
def SwapsCall (k : Knowledge) (c : Change) : Prop :=
  ∃ imported call target, call.shape ∈ Call.shapes ∧ resolve k imported call = .ok target ∧
    c.before = String.ofList call.text ∧ c.after = target.call (String.ofList call.arguments)

theorem swapsCall_of_migrateCall {call : Call} (hs : call.shape ∈ Call.shapes)
    (hc : (migrateCall k imported n call).2.change? = some c) : SwapsCall k c := by
  unfold migrateCall at hc
  cases hr : resolve k imported call <;> rw [hr] at hc <;> cases hc
  exact ⟨imported, call, _, hs, hr, rfl, rfl⟩

theorem swapsCall_of_mem_migrateBody (he : e ∈ (migrateBody k imported n body).2) (hc : e.change? = some c) :
    SwapsCall k c := by
  rw [migrateBody_eq] at he
  rcases mem_migrateShapes he with h | ⟨shape, hs, body, h⟩
  case inl => exact absurd h List.not_mem_nil
  case inr =>
    rw [events_migrateShape] at h
    obtain ⟨o, -, rfl⟩ := List.mem_map.mp h
    exact swapsCall_of_migrateCall hs hc

theorem mem_changesOf_migrateLine (h : c ∈ changesOf (migrateLine k above line).2) :
    c.line = (above.length + 1 : Nat) ∧ import? line.body = none ∧ SwapsCall k c := by
  obtain ⟨e, he, hc⟩ := List.mem_filterMap.mp h
  cases hi : import? line.body
  case some =>
    rw [migrateLine_of_import (hi ▸ Option.some_ne_none _)] at he
    cases he
  case none =>
    rw [migrateLine_of_not_import hi] at he
    dsimp only at he
    exact ⟨line_of_mem_migrateBody he hc, rfl, swapsCall_of_mem_migrateBody he hc⟩

-- The changes of the calls in all lines.
def callChanges (k : Knowledge) (above lines : List Text.Line) : List Change :=
  changesOf ((migrateLines k above lines).flatMap Prod.snd)

theorem callChanges_cons : callChanges k above (line :: lines) =
    changesOf (migrateLine k above line).2 ++ callChanges k (above ++ [line]) lines := by
  rw [callChanges, migrateLines, List.flatMap_cons, changesOf_append]
  rfl

theorem mem_callChanges (h : c ∈ callChanges k above lines) : SwapsCall k c ∧
    ∃ i line, lines[i]? = some line ∧ import? line.body = none ∧ c.line = (above.length + i + 1 : Nat) := by
  induction lines generalizing above
  case nil                => cases h
  case cons line lines ih =>
    rw [callChanges_cons] at h
    rcases List.mem_append.mp h with h | h
    case inl =>
      have ⟨hl, hi, hs⟩ := mem_changesOf_migrateLine h
      exact ⟨hs, 0, line, rfl, hi, hl⟩
    case inr =>
      have ⟨hs, i, line', hline, hi, hl⟩ := ih h
      refine ⟨hs, i + 1, line', hline, hi, ?_⟩
      rw [hl, List.length_append, List.length_singleton]
      congr 1
      omega

theorem pairwise_callChanges : (callChanges k above lines).Pairwise (·.line ≤ ·.line) := by
  induction lines generalizing above
  case nil                => exact .nil
  case cons line lines ih =>
    rw [callChanges_cons]
    refine List.pairwise_append.mpr ⟨?_, ih, fun c hc c' hc' => ?_⟩
    case refine_1 =>
      refine List.pairwise_of_forall_mem_list fun c hc c' hc' => ?_
      exact Int.le_of_eq ((mem_changesOf_migrateLine hc).left.trans (mem_changesOf_migrateLine hc').left.symm)
    case refine_2 =>
      have ⟨_, _, _, _, _, hl⟩ := mem_callChanges hc'
      rw [(mem_changesOf_migrateLine hc).left, hl, List.length_append, List.length_singleton]
      omega

-- The changes that bear a number.
def changesAt (n : Nat) (cs : List Change) : List Change :=
  cs.filter (·.line = (n : Int))

theorem changesAt_eq_nil (h : ∀ c ∈ cs, c.line ≠ (n : Int)) : changesAt n cs = [] :=
  List.filter_eq_nil_iff.mpr fun c hc => by simpa using h c hc

theorem changesAt_append : changesAt n (cs ++ cs') = changesAt n cs ++ changesAt n cs' :=
  List.filter_append ..

-- Those with the number of a line are those of its calls.
theorem changesAt_callChanges (above : List Text.Line) (h : lines[i]? = some line) :
    changesAt (above.length + i + 1) (callChanges k above lines) =
      changesOf (migrateLine k (above ++ lines.take i) line).2 := by
  induction lines generalizing above i
  case nil                 => cases h
  case cons first lines ih =>
    rw [callChanges_cons, changesAt_append]
    cases i
    case zero =>
      cases h
      have hl : changesAt (above.length + 0 + 1) (callChanges k (above ++ [line]) lines) = [] :=
        changesAt_eq_nil fun c hc => by
          have ⟨_, _, _, _, _, hl⟩ := mem_callChanges hc
          rw [hl, List.length_append, List.length_singleton]
          omega
      rw [hl, List.append_nil, List.take_zero, List.append_nil]
      exact List.filter_eq_self.mpr fun c hc => by simp [(mem_changesOf_migrateLine hc).left]
    case succ i =>
      have hf : changesAt (above.length + (i + 1) + 1) (changesOf (migrateLine k above first).2) = [] :=
        changesAt_eq_nil fun c hc => by
          rw [(mem_changesOf_migrateLine hc).left]
          omega
      have hi := ih (above ++ [first]) h
      rw [List.append_assoc, List.singleton_append, List.length_append, List.length_singleton] at hi
      rw [hf, List.nil_append, List.take_succ_cons, ← hi]
      congr 1
      omega

-- The lines with an import behind one of them. Both have one ending, which is a line feed if the
-- line had none.
def insertBehind (i : Nat) (line : Text.Line) (added : List Char) (kept : List Text.Line) : List Text.Line :=
  let ending := if line.ending = [] then ['\n'] else line.ending
  kept.take i ++ [⟨line.body, ending⟩, ⟨added, ending⟩] ++ kept.drop (i + 1)

-- The change that tells of the import behind a line.
def importChange (k : Knowledge) (isJava : Bool) (i : Nat) (line : Text.Line) : Change :=
  let trimmed := String.ofList (Text.trim line.body)
  ⟨(i + 1 : Nat), trimmed, trimmed ++ "\n" ++ String.ofList (Text.trim (accessorImport k isJava line.body))⟩

-- What is reported of lines whose calls were migrated, and what is written. An import that was
-- added is reported with the import it stands behind, at the place that its number has among the
-- changes of the calls.
inductive Reported (k : Knowledge) (isJava : Bool) (before : List Text.Line) (calls : List Change)
    (kept : List Text.Line) : List Change → List Text.Line → Prop
  | unchanged (h : lastImport before = none ∨ importsAccessors before) :
      Reported k isJava before calls kept calls kept
  | added {package : String} {i : Nat} {line : Text.Line} {l r : List Change}
      (h : lastImport before = some (package, i)) (ha : ¬importsAccessors before) (hl : before[i]? = some line)
      (hc : calls = l ++ r) (hn : ∀ c ∈ calls, c.line ≠ (i + 1 : Nat)) :
      Reported k isJava before calls kept
        (l ++ importChange k isJava i line :: r) (insertBehind i line (accessorImport k isJava line.body) kept)

-- A line that is an import has no calls.
theorem line_ne_of_mem_callChanges (hl : lines[i]? = some line) (hi : import? line.body ≠ none)
    (hc : c ∈ callChanges k [] lines) : c.line ≠ (i + 1 : Nat) := by
  have ⟨_, j, line', hj, hn, hline⟩ := mem_callChanges hc
  intro h
  have hij : j = i := by
    rw [hline, List.length_nil] at h
    omega
  rw [hij, hl] at hj
  cases hj
  exact hi hn

theorem lines_addImport (h : r.lines[i]? = some line) :
    (r.addImport k isJava i).lines = insertBehind i line (accessorImport k isJava line.body) r.lines := by
  rw [Revision.addImport, h]
  rfl

theorem changes_addImport (h : r.lines[i]? = some line) :
    (r.addImport k isJava i).changes = r.changes ++ [importChange k isJava i line] := by
  rw [Revision.addImport, h]
  exact changesOf_append

theorem sortedChanges_of_pairwise (h : r.changes.Pairwise (·.line ≤ ·.line)) : r.sortedChanges = r.changes :=
  sortBy_of_pairwise (h.imp decide_eq_true)

theorem reported_finish (hr : r.changes ≠ []) (hc : r.changes = callChanges k [] lines)
    (hl : r.lines = (migrateLines k [] lines).map Prod.fst) (hi : r.imported = lastImport lines)
    (ha : r.hasAccessors = importsAccessors lines) :
    Reported k isJava lines r.changes r.lines (r.finish k isJava).sortedChanges (r.finish k isJava).lines := by
  have hp : r.changes.Pairwise (·.line ≤ ·.line) := hc ▸ pairwise_callChanges
  unfold Revision.finish
  rw [hi, ha]
  cases h : lastImport lines
  case none   => rw [sortedChanges_of_pairwise hp]; exact .unchanged (.inl h)
  case some x =>
    obtain ⟨package, i⟩ := x
    dsimp only
    cases haccessors : importsAccessors lines
    case true  =>
      rw [if_pos (by simp), sortedChanges_of_pairwise hp]
      exact .unchanged (.inr haccessors)
    case false =>
      have ⟨line, hline, himport⟩ := getElem?_of_lastImport h
      have himport : import? line.body ≠ none := himport ▸ Option.some_ne_none _
      have hkept : r.lines[i]? = some line := by
        rw [hl, List.getElem?_map, getElem?_migrateLines, hline]
        exact congrArg (some ·.1) (migrateLine_of_import himport)
      obtain ⟨u, v, huv, hs⟩ := exists_sortBy_concat (hp.imp decide_eq_true)
      rw [if_neg (by simpa using hr), Revision.sortedChanges, changes_addImport hkept, lines_addImport hkept, hs]
      exact .added h (by simp [haccessors]) hline huv fun c hm => line_ne_of_mem_callChanges hline himport (hc ▸ hm)

theorem reported_revise (h : (revise k isJava text).changes ≠ []) :
    let lines := (Text.splitLines text).map Text.Line.ofList
    Reported k isJava lines (callChanges k [] lines) ((migrateLines k [] lines).map Prod.fst)
      (revise k isJava text).sortedChanges (revise k isJava text).lines := by
  have hc := mt changes_finish_iff.mpr h
  rw [foldl_addLine] at hc
  rw [revise, foldl_addLine]
  exact reported_finish hc rfl rfl rfl rfl

theorem migrateFile_eq_some {p : Path} {k' : Knowledge} {s s' : Session} {changed : FileChanges}
    (h : (migrateFile p).outcome k s = (.ok (some changed), k', s')) :
    ∃ text, s.disk.readRaw p = .ok text ∧ (revisionOf k p text).changes ≠ [] ∧
      changed.changes = (revisionOf k p text).sortedChanges ∧ s'.disk.readRaw p = .ok (revisionOf k p text).text := by
  have ⟨log, ho⟩ := outcome_migrateFile p k s
  rw [h] at ho
  cases ht : s.disk.readRaw p
  case error   => rw [ht] at ho; cases ho
  case ok text =>
    rw [ht] at ho
    dsimp only at ho
    by_cases hc : (revisionOf k p text).changes = []
    case pos => rw [if_pos hc] at ho; cases ho
    case neg =>
      rw [if_neg hc] at ho
      cases hw : s.disk.writeBytes p (Text.Utf8.encode (revisionOf k p text).text) s.time
      case error => rw [hw] at ho; cases ho
      case ok d  =>
        rw [hw] at ho
        cases ho
        exact ⟨text, rfl, hc, rfl, Disk.readRaw_of_readBytes (Disk.readBytes_of_writeBytes hw)⟩

theorem bounds_of_mem_callChanges (h : c ∈ callChanges k [] lines) : 1 ≤ c.line ∧ c.line ≤ lines.length := by
  have ⟨_, i, _, hi, _, hl⟩ := mem_callChanges h
  have hi := (List.getElem?_eq_some_iff.mp hi).1
  rw [hl, List.length_nil]
  omega

theorem Reported.bounds (h : Reported k isJava lines cs kept cs' written)
    (hc : ∀ c ∈ cs, 1 ≤ c.line ∧ c.line ≤ lines.length) : ∀ c ∈ cs', 1 ≤ c.line ∧ c.line ≤ lines.length := by
  cases h
  case unchanged             => exact hc
  case added i line l r _ _ hl hlr _ =>
    subst hlr
    have hi := (List.getElem?_eq_some_iff.mp hl).1
    refine fun c hm => ?_
    rcases List.mem_append.mp hm with hm | hm
    case inl => exact hc c (List.mem_append_left _ hm)
    case inr =>
      rcases List.mem_cons.mp hm with rfl | hm
      case inl => exact ⟨by simp only [importChange]; omega, by simp only [importChange]; omega⟩
      case inr => exact hc c (List.mem_append_right _ hm)

theorem pairwise_sortedChanges (r : Revision) : r.sortedChanges.Pairwise (·.line ≤ ·.line) := by
  refine (pairwise_sortBy (fun a b c hab hbc => ?_) (fun a b => ?_) r.changes).imp of_decide_eq_true
  case refine_1 => simpa using Int.le_trans (of_decide_eq_true hab) (of_decide_eq_true hbc)
  case refine_2 => simpa using Int.le_total a.line b.line

-- The changes of a file, in the order of the report, lead from its old lines to the written ones.
theorem migrateFile_replays {p : Path} {k' : Knowledge} {s s' : Session} {changed : FileChanges}
    (h : (migrateFile p).outcome k s = (.ok (some changed), k', s')) :
    ∃ text, s.disk.readRaw p = .ok text ∧
      let lines := (Text.splitLines text).map Text.Line.ofList
      ∃ (calls : List Change) (kept written : List Text.Line),
        Reported k (p.suffix = ".java".toList) lines calls kept changed.changes written ∧
        s'.disk.readRaw p = .ok (written.flatMap Text.Line.toList) ∧
        changed.changes.Pairwise (·.line ≤ ·.line) ∧
        (∀ c ∈ changed.changes, 1 ≤ c.line ∧ c.line ≤ lines.length) ∧
        (∀ c ∈ calls, SwapsCall k c) ∧ kept.length = lines.length ∧
        ∀ i before after, lines[i]? = some before → kept[i]? = some after →
          after.ending = before.ending ∧ Replays (changesAt (i + 1) calls) before.body after.body := by
  have ⟨text, ht, hc, hs, hw⟩ := migrateFile_eq_some h
  have hr := reported_revise hc
  rw [hs]
  refine ⟨text, ht, _, _, _, hr, hw, pairwise_sortedChanges _, hr.bounds fun c => bounds_of_mem_callChanges,
    fun c hc => (mem_callChanges hc).left, by simp, fun i before after hb ha => ?_⟩
  -- The changes with the number of a line are those that its own migration made.
  rw [List.getElem?_map, getElem?_migrateLines, hb] at ha
  cases ha
  have hi := changesAt_callChanges (k := k) [] hb
  rw [List.length_nil, Nat.zero_add] at hi
  rw [hi]
  exact ⟨ending_migrateLine, replays_migrateLine⟩

-- A line in which a call is an argument of another one, and is replaced before it.
def argumentLine : List Char :=
  "getColor(R.color.a,getColor(R.color.b))".toList

def argumentFile : Path := ⟨.root, ["A.kt"]⟩

def argumentSession : Session where
  disk :=
    { entries := [(["A.kt"], .file (Text.Utf8.encode ("import com.example.R\n".toList ++ argumentLine)) 0)] }

def argumentKnowledge : Knowledge where
  package := "com.example"
  targets := [("R.color.a", ⟨.values .color, "a", ""⟩), ("R.color.b", ⟨.values .color, "b", ""⟩)]

def argumentChanges : List Change :=
  [⟨1, "import com.example.R", "import com.example.R\nimport com.example.ResourceManager"⟩,
   ⟨2, "getColor(R.color.b)", "ResourceManager.Colors.b()"⟩,
   ⟨2, "getColor(R.color.a,ResourceManager.Colors.b())", "ResourceManager.Colors.a(ResourceManager.Colors.b())"⟩]

theorem argument_file_replays : ∃ changed k' s' calls kept written,
    (migrateFile argumentFile).outcome argumentKnowledge argumentSession = (.ok (some changed), k', s') ∧
    changed.changes = argumentChanges ∧
    Reported argumentKnowledge false [⟨"import com.example.R".toList, ['\n']⟩, ⟨argumentLine, []⟩] calls kept
      argumentChanges written ∧
    s'.disk.readRaw argumentFile = .ok (written.flatMap Text.Line.toList) ∧
    ∃ after, kept[1]? = some after ∧ Replays (changesAt 2 calls) argumentLine after.body := by
  have hc : ((migrateFile argumentFile).outcome argumentKnowledge argumentSession).1.toOption.join.map
      FileChanges.changes = some argumentChanges := by decide +kernel
  have hr : argumentSession.disk.readRaw argumentFile = .ok ("import com.example.R\n".toList ++ argumentLine) := by
    decide +kernel
  have hl : (Text.splitLines ("import com.example.R\n".toList ++ argumentLine)).map Text.Line.ofList =
      [⟨"import com.example.R".toList, ['\n']⟩, ⟨argumentLine, []⟩] := by decide +kernel
  rcases ho : (migrateFile argumentFile).outcome argumentKnowledge argumentSession with ⟨_ | _ | changed, k', s'⟩
  all_goals rw [ho] at hc
  case error   => cases hc
  case ok.none => cases hc
  case ok.some =>
    have hc : changed.changes = argumentChanges := Option.some.inj hc
    have ⟨text, ht, calls, kept, written, hrep, hw, _, _, _, hn, hb⟩ := migrateFile_replays ho
    cases hr.symm.trans ht
    rw [hl] at hrep hn hb
    obtain ⟨after, ha⟩ : ∃ after, kept[1]? = some after := ⟨_, List.getElem?_eq_getElem (by rw [hn]; decide)⟩
    exact ⟨changed, k', s', calls, kept, written, rfl, hc, hc ▸ hrep, hw, after, ha,
      (hb 1 ⟨argumentLine, []⟩ after rfl ha).right⟩

end TypedResources.Migration
