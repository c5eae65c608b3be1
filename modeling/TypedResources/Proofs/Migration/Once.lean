import TypedResources.Proofs.Migration.AddedLine
import TypedResources.Proofs.Migration.Frame
import TypedResources.Proofs.Migration.Swaps
import TypedResources.Proofs.Text.Lines

-- A line that stays. A revision adds an import exactly if it changes a text that imports a resource
-- class and not the generated one (`imported_mem_iff`), and the import gets a line of its own
-- (`GetsImport.hasLine`). Imports that have lines of their own keep them, so that a line that is read as
-- an import of the generated class keeps all later runs from adding one (`noneAdded_of_lives`).

namespace TypedResources.Migration

open Text

variable {k : Knowledge} {isJava : Bool} {text body : List Char} {lines above : List Line} {line : Line}
  {imported : Option String} {i n : Nat} {x : Char} {shape : Call.Shape} {e : Event}

-- A call ends with a parenthesis, so that any other last character is kept.
theorem getLast?_migrateShape (hs : shape ∈ Call.shapes) (hx : x ≠ ')') (h : x ∈ body.getLast?) :
    x ∈ (migrateShape k imported n body shape).1.getLast? := by
  have ho : olds (edits k imported shape body) = body := olds_edits
  rw [← news_edits]
  rcases List.eq_nil_or_concat (edits k imported shape body) with he | ⟨l, e, he⟩ <;> rw [he] at ho ⊢
  case inl => rw [← ho] at h; cases h
  case inr =>
    rw [← ho, List.concat_eq_append, olds_append] at h
    rw [List.concat_eq_append, news_append]
    cases e
    case keep c   => simpa [olds, news, Edit.old, Edit.new] using h
    case swap c t =>
      have hl : edits k imported shape body = l ++ [.swap c t] := by rw [he, List.concat_eq_append]
      obtain ⟨p, o, hswap⟩ := exists_swapped_of_edits hs hl
      have ht : olds [.swap c t] = p.lead shape ++ p.arguments ++ p.trail ++ [')'] := by
        simp [olds, Edit.old, hswap.text, Call.Parts.text]
      rw [ht] at h
      exact absurd (by simpa using h) hx.symm

theorem getLast?_migrateShapes {shapes : List Call.Shape} {events : List Event}
    (hs : ∀ shape ∈ shapes, shape ∈ Call.shapes) (hx : x ≠ ')') (h : x ∈ body.getLast?) :
    x ∈ (migrateShapes k imported n shapes body events).1.getLast? := by
  induction shapes generalizing body events
  case nil                  => exact h
  case cons shape shapes ih =>
    have ⟨hshape, hs⟩ := List.forall_mem_cons.mp hs
    rw [migrateShapes_cons]
    exact ih hs (getLast?_migrateShape hshape hx h)

theorem getLast?_migrateBody (hx : x ≠ ')') (h : x ∈ body.getLast?) :
    x ∈ (migrateBody k imported n body).1.getLast? := by
  rw [migrateBody_eq]
  exact getLast?_migrateShapes (fun _ hs => hs) hx h

-- A line behind which another one can begin.
def IsEnded (line : Line) : Prop :=
  ∃ c ∈ line.toList.getLast?, isLineEnd c

theorem isEnded_iff : IsEnded line ↔
    ∃ c, isLineEnd c ∧ if line.ending = [] then c ∈ line.body.getLast? else c ∈ line.ending.getLast? := by
  unfold IsEnded Line.toList
  cases h : line.ending <;> simp [and_comm]

theorem isEnded_migrateLine (h : IsEnded line) : IsEnded (migrateLine k above line).1 := by
  cases hi : import? line.body
  case some => rwa [migrateLine_of_import (hi ▸ Option.some_ne_none _)]
  case none =>
    rw [migrateLine_of_not_import hi, isEnded_iff]
    have ⟨c, he, hc⟩ := isEnded_iff.mp h
    refine ⟨c, he, ?_⟩
    dsimp only
    split at hc
    case isTrue hn  =>
      rw [if_pos hn]
      exact getLast?_migrateBody (by rintro rfl; contradiction) hc
    case isFalse hn => rwa [if_neg hn]

-- A line among others that are written out one after another.
theorem hasLine_lines {ending : List Char} (below : List Line) (ha : ∀ line ∈ above.getLast?, IsEnded line)
    (hb : OneLine body) (hne : body ≠ []) (he : ∀ c ∈ ending, IsBreak c) (hl : ending = [] → below = []) :
    HasLine body ((above ++ ⟨body, ending⟩ :: below).flatMap Line.toList) := by
  have hended : Ended (above.flatMap Line.toList) := by
    rcases List.eq_nil_or_concat above with rfl | ⟨l, line, rfl⟩
    case inl => simp [Ended]
    case inr =>
      have ⟨c, hc, he⟩ := ha line (by simp)
      intro x hx
      rw [List.concat_eq_append, List.flatMap_append, List.flatMap_singleton, List.getLast?_append,
        Option.mem_def.mp hc] at hx
      cases hx
      exact he
  have hbreak : ∀ c ∈ (ending ++ below.flatMap Line.toList).head?, IsBreak c := by
    cases ending
    case nil         => rw [hl rfl]; simp
    case cons c rest => intro x hx; cases hx; exact he c List.mem_cons_self
  have h := hasLine_append hended hb hne hbreak
  simpa [Line.toList] using h

theorem ne_nil_of_import? (h : import? body ≠ none) : body ≠ [] := by
  rintro rfl
  exact h (by decide)

-- An import that stands in a line of its own stays there.
theorem hasLine_migrateLines (h : HasLine body text) (hi : import? body ≠ none) (hb : OneLine body) :
    HasLine body (((migrateLines k [] ((splitLines text).map Line.ofList)).map Prod.fst).flatMap Line.toList) := by
  obtain ⟨line, hm, rfl⟩ := h
  obtain ⟨l, r, hs⟩ := List.append_of_mem hm
  rw [hs, List.map_append, List.map_cons, migrateLines_append, migrateLines, migrateLine_of_import hi, List.map_append,
    List.map_cons]
  refine hasLine_lines _ ?above hb (ne_nil_of_import? hi) (fun c => isBreak_of_mem_ending) ?below
  case above =>
    intro z hz
    rcases List.eq_nil_or_concat l with rfl | ⟨l, last, rfl⟩
    case inl => cases hz
    case inr =>
      have hs : splitLines text = l ++ last :: line :: r := by simp [hs]
      obtain ⟨c, hc, he⟩ := ended_of_splitLines hs (List.cons_ne_nil _ _)
      rw [List.concat_eq_append, List.map_append, List.map_singleton, migrateLines_append, migrateLines, migrateLines,
        List.map_append, List.map_singleton, List.getLast?_concat] at hz
      cases hz
      exact isEnded_migrateLine ⟨c, by rwa [Line.toList_ofList], he⟩
  case below =>
    intro hn
    by_contra hr
    have hr : r ≠ [] := fun h => hr (by rw [h]; rfl)
    obtain ⟨c, hc, he⟩ := ended_of_splitLines hs hr
    have hn : (Line.ofList line).ending = [] := hn
    have ht := Line.toList_ofList line
    rw [Line.toList, hn, List.append_nil] at ht
    have hm : c ∈ (Line.ofList line).body := by rw [ht]; exact List.mem_of_getLast? hc
    rw [hb c hm] at he
    contradiction

def linesOf (text : List Char) : List Line :=
  (splitLines text).map Line.ofList

-- What becomes of the lines of a text before an import is added.
def kept (k : Knowledge) (text : List Char) : List Line :=
  (migrateLines k [] (linesOf text)).map Prod.fst

theorem not_imported_of_mem_migrateBody (h : e ∈ (migrateBody k imported n body).2) {m : Nat} {before added : String} :
    e ≠ .imported m before added := by
  rw [migrateBody_eq] at h
  rcases mem_migrateShapes h with h | ⟨shape, -, body, h⟩
  case inl => exact absurd h List.not_mem_nil
  case inr =>
    rw [events_migrateShape] at h
    obtain ⟨o, -, rfl⟩ := List.mem_map.mp h
    unfold migrateCall
    split <;> exact nofun

theorem not_imported_of_mem_addLines (h : e ∈ (lines.foldl (Revision.addLine k) {}).events) {m : Nat}
    {before added : String} : e ≠ .imported m before added := by
  rcases mem_events_addLines h with h | ⟨imported, n, line, -, h⟩
  case inl => exact absurd h List.not_mem_nil
  case inr => exact not_imported_of_mem_migrateBody h

-- The revision of a text before an import is added.
def read (k : Knowledge) (text : List Char) : Revision :=
  (linesOf text).foldl (Revision.addLine k) {}

theorem lines_read : (read k text).lines = kept k text := by
  rw [read, foldl_addLine]
  rfl

-- The text gets an import behind this line with its number: the line is the last import of a resource
-- class, nothing imports the generated one, and the text is changed.
structure GetsImport (k : Knowledge) (text : List Char) (i : Nat) (line : Line) : Prop where
  last      : ∃ package, lastImport (linesOf text) = some (package, i)
  line      : (linesOf text)[i]? = some line
  accessors : importsAccessors (linesOf text) = false
  unsettled : ¬SettledText k text

theorem finish_read {package : String} (hl : lastImport (linesOf text) = some (package, i)) :
    revise k isJava text =
      if (read k text).changes.isEmpty || importsAccessors (linesOf text) then read k text
      else (read k text).addImport k isJava i := by
  have hr : (read k text).imported = some (package, i) ∧
      (read k text).hasAccessors = importsAccessors (linesOf text) := by
    rw [read, foldl_addLine]
    exact ⟨hl, rfl⟩
  show (read k text).finish k isJava = _
  rw [Revision.finish, hr.left, hr.right]

theorem changes_read_iff : (read k text).changes = [] ↔ SettledText k text := by
  rw [read, changes_addLines_iff]
  exact and_iff_right rfl

theorem GetsImport.revise_eq (h : GetsImport k text i line) :
    revise k isJava text = (read k text).addImport k isJava i := by
  have ⟨package, hl⟩ := h.last
  have hc : (read k text).changes ≠ [] := mt changes_read_iff.mp h.unsettled
  rw [finish_read hl, if_neg (by simp [hc, h.accessors])]

theorem exists_getsImport (hl : lastImport (linesOf text) ≠ none) (ha : importsAccessors (linesOf text) = false)
    (hs : ¬SettledText k text) : ∃ i line, GetsImport k text i line := by
  have ⟨⟨package, i⟩, hl⟩ := Option.ne_none_iff_exists'.mp hl
  have ⟨line, hline, _⟩ := getElem?_of_lastImport hl
  exact ⟨i, line, ⟨package, hl⟩, hline, ha, hs⟩

theorem revise_eq_of_not_getsImport (h : ∀ i line, ¬GetsImport k text i line) :
    revise k isJava text = read k text := by
  cases hl : lastImport (linesOf text)
  case none   =>
    have hr : (read k text).imported = none := by rw [read, foldl_addLine]; exact hl
    show (read k text).finish k isJava = _
    rw [Revision.finish, hr]
  case some x =>
    rw [finish_read hl]
    refine if_pos ?_
    by_contra hn
    simp only [Bool.or_eq_true, List.isEmpty_iff, not_or, Bool.not_eq_true] at hn
    have hl : lastImport (linesOf text) ≠ none := hl ▸ Option.some_ne_none _
    have ⟨i, line, hg⟩ := exists_getsImport hl hn.right (mt changes_read_iff.mpr hn.left)
    exact h i line hg

theorem GetsImport.import?_ne_none (h : GetsImport k text i line) : import? line.body ≠ none := by
  have ⟨package, hl⟩ := h.last
  have ⟨line', hline, hi⟩ := getElem?_of_lastImport hl
  cases h.line.symm.trans hline
  exact hi ▸ Option.some_ne_none _

theorem GetsImport.mem (h : GetsImport k text i line) : line ∈ linesOf text :=
  List.mem_of_getElem? h.line

theorem GetsImport.getElem?_read (h : GetsImport k text i line) : (read k text).lines[i]? = some line := by
  rw [lines_read, kept, List.getElem?_map, getElem?_migrateLines, h.line, Option.map_some, Option.map_some,
    migrateLine_of_import h.import?_ne_none]

theorem GetsImport.imported_iff {before added : String} (h : GetsImport k text i line) :
    .imported n before added ∈ (revise k isJava text).events ↔ n = i + 1 ∧
      before = String.ofList (trim line.body) ∧ added = String.ofList (trim (accessorImport k isJava line.body)) := by
  rw [h.revise_eq, Revision.addImport, h.getElem?_read]
  constructor
  case mp  =>
    intro he
    rcases List.mem_append.mp he with he | he
    case inl => exact absurd rfl (not_imported_of_mem_addLines he)
    case inr =>
      cases List.mem_singleton.mp he
      exact ⟨rfl, rfl, rfl⟩
  case mpr =>
    rintro ⟨rfl, rfl, rfl⟩
    exact List.mem_append_right _ (List.mem_singleton_self _)

-- An import is added exactly to such a text.
theorem imported_mem_iff : (∃ n before added, .imported n before added ∈ (revise k isJava text).events) ↔
    ∃ i line, GetsImport k text i line := by
  constructor
  case mp  =>
    intro ⟨n, before, added, he⟩
    by_contra h
    rw [revise_eq_of_not_getsImport fun i line hg => h ⟨i, line, hg⟩] at he
    exact not_imported_of_mem_addLines he rfl
  case mpr =>
    intro ⟨i, line, h⟩
    exact ⟨_, _, _, h.imported_iff.mpr ⟨rfl, rfl, rfl⟩⟩

theorem GetsImport.lines_revise (h : GetsImport k text i line) : (revise k isJava text).lines =
    let ending := if line.ending = [] then ['\n'] else line.ending
    (kept k text).take i ++ [⟨line.body, ending⟩, ⟨accessorImport k isJava line.body, ending⟩] ++
      (kept k text).drop (i + 1) := by
  rw [h.revise_eq, Revision.addImport, h.getElem?_read, lines_read]

theorem oneLine_indent (hm : line ∈ linesOf text) (hi : import? line.body ≠ none) :
    OneLine (line.body.takeWhile isBlank) := by
  obtain ⟨l, hl, rfl⟩ := List.mem_map.mp hm
  have hne : (Line.ofList l).body.dropWhile isBlank ≠ [] := by
    intro hn
    have hn : trimStart (Line.ofList l).body = [] := hn
    exact hi (by rw [import?, importedName?, hn]; rfl)
  have h := oneLine_dropLast_body hl
  rw [← List.takeWhile_append_dropWhile (p := isBlank) (l := (Line.ofList l).body),
    List.dropLast_append_of_ne_nil hne] at h
  exact fun c hc => h c (List.mem_append_left _ hc)

theorem oneLine_accessorImport (hp : OneLine k.package.toList) (hm : line ∈ linesOf text)
    (hi : import? line.body ≠ none) : OneLine (accessorImport k isJava line.body) := by
  have ⟨tail, ht, hl⟩ := accessorImport_toList k isJava line.body
  have hname : OneLine ('.' :: (accessorClass.toList ++ tail)) := by
    rcases ht with rfl | rfl <;> decide
  have himport : OneLine "import ".toList := by decide
  rw [hl]
  exact List.forall_mem_append.mpr ⟨List.forall_mem_append.mpr ⟨oneLine_indent hm hi, himport⟩,
    List.forall_mem_append.mpr ⟨hp, hname⟩⟩

theorem isBreak_ending (hm : line ∈ linesOf text) :
    (∀ c ∈ if line.ending = [] then ['\n'] else line.ending, IsBreak c) ∧
      (if line.ending = [] then ['\n'] else line.ending) ≠ [] := by
  obtain ⟨l, -, rfl⟩ := List.mem_map.mp hm
  split
  case isTrue     => simp [IsBreak]
  case isFalse hn => exact ⟨fun c => isBreak_of_mem_ending, hn⟩

theorem isEnded_of_isBreak {ending : List Char} (hb : ∀ c ∈ ending, IsBreak c) (hne : ending ≠ []) :
    IsEnded ⟨body, ending⟩ := by
  obtain ⟨u, c, rfl⟩ := (List.eq_nil_or_concat ending).resolve_left hne
  exact ⟨c, by simp [Line.toList], isLineEnd_of_isBreak (hb c (by simp))⟩

theorem accessorImport_ne_nil {like : List Char} : accessorImport k isJava like ≠ [] := by
  have ⟨rest, ha⟩ := accessorImport_eq k isJava like
  simp [ha]

-- The added import stands in a line of its own.
theorem GetsImport.hasLine (h : GetsImport k text i line) (hp : OneLine k.package.toList) :
    HasLine (accessorImport k isJava line.body) (revise k isJava text).text := by
  have hb : OneLine (accessorImport k isJava line.body) := oneLine_accessorImport hp h.mem h.import?_ne_none
  have ⟨hbreak, hended⟩ := isBreak_ending h.mem
  let before := (kept k text).take i ++ [⟨line.body, if line.ending = [] then ['\n'] else line.ending⟩]
  have hbefore : ∀ line ∈ before.getLast?, IsEnded line := by simpa [before] using isEnded_of_isBreak hbreak hended
  have ht := hasLine_lines ((kept k text).drop (i + 1)) hbefore hb accessorImport_ne_nil hbreak
    fun hn => absurd hn hended
  rw [Revision.text, h.lines_revise]
  simpa [before] using ht

-- What becomes of a text by runs, which may know of other resources each time, and by edits that keep
-- a line, with all that the runs do.
inductive Lives (isJava : Bool) (body text : List Char) : List Char → List Event → Prop
  | refl : Lives isJava body text text []
  | run {t : List Char} {events : List Event} (k : Knowledge) (h : Lives isJava body text t events) :
      Lives isJava body text (revise k isJava t).text (events ++ (revise k isJava t).events)
  | edit {t t' : List Char} {events : List Event} (h : Lives isJava body text t events) (hb : HasLine body t') :
      Lives isJava body text t' events

def NoneAdded (events : List Event) : Prop :=
  ∀ n before added, .imported n before added ∉ events

theorem hasLine_revise (h : HasLine body text) (hi : import? body = some .accessors) (hb : OneLine body) :
    HasLine body (revise k isJava text).text ∧ NoneAdded (revise k isJava text).events := by
  obtain ⟨line, hm, rfl⟩ := h
  have ha : importsAccessors (linesOf text) :=
    List.any_eq_true.mpr ⟨Line.ofList line, List.mem_map_of_mem hm, by simpa using hi⟩
  have hn (i : Nat) (line : Line) : ¬GetsImport k text i line := fun h => by
    rw [h.accessors] at ha
    contradiction
  refine ⟨?_, fun n before added he => ?_⟩
  case refine_1 =>
    rw [revise_eq_of_not_getsImport hn, Revision.text, lines_read]
    exact hasLine_migrateLines ⟨line, hm, rfl⟩ (hi ▸ Option.some_ne_none _) hb
  case refine_2 =>
    obtain ⟨i, line, h⟩ := imported_mem_iff.mp ⟨n, before, added, he⟩
    exact hn i line h

-- An import of the generated class keeps all later runs from adding one.
theorem noneAdded_of_lives {t : List Char} {events : List Event} (h₀ : HasLine body text)
    (hi : import? body = some .accessors) (hb : OneLine body) (h : Lives isJava body text t events) :
    HasLine body t ∧ NoneAdded events := by
  induction h with
  | refl            => exact ⟨h₀, fun _ _ _ he => absurd he List.not_mem_nil⟩
  | run k _ ih      =>
    have ⟨hl, hn⟩ : HasLine body (revise k isJava _).text ∧ NoneAdded (revise k isJava _).events :=
      hasLine_revise ih.left hi hb
    exact ⟨hl, fun n before added he => (List.mem_append.mp he).elim (ih.right n before added) (hn n before added)⟩
  | edit _ hl ih => exact ⟨hl, ih.right⟩

theorem lastImport_eq_none_iff : lastImport lines = none ↔
    ∀ line ∈ lines, ∀ package, import? line.body ≠ some (.resources package) := by
  induction lines using List.reverseRecOn
  case nil                  => simp [lastImport]
  case append_singleton lines line ih =>
    rw [lastImport_concat]
    split
    case h_1 package hi => simp [hi]
    case h_2 hi =>
      rw [ih, List.forall_mem_append, List.forall_mem_singleton]
      exact (and_iff_left fun package h => hi package h).symm

theorem linesOf_cons (text : List Char) (hb : OneLine body) (hne : body ≠ []) :
    linesOf (body ++ '\n' :: text) = ⟨body, ['\n']⟩ :: linesOf text := by
  have hs : splitLines ('\n' :: text) = ['\n'] :: splitLines text :=
    splitLines_cons_of_end rfl fun h => absurd h (by decide)
  rw [linesOf, splitLines_oneLine_append hb hne, hs]
  show Line.ofList (body ++ ['\n']) :: _ = _
  rw [hb.ofList_append (by simp [IsBreak])]
  rfl

-- A line in front that is not read as an import makes no difference.
theorem GetsImport.cons (h : GetsImport k text i line) (hi : import? body = none) (hb : OneLine body)
    (hne : body ≠ []) : ∃ j line, GetsImport k (body ++ '\n' :: text) j line := by
  have hl := linesOf_cons text hb hne
  refine exists_getsImport (fun hn => ?last) ?accessors fun hs => h.unsettled ?unsettled
  case last =>
    have ⟨package, hlast⟩ := h.last
    have hn := lastImport_eq_none_iff.mp hn
    rw [hl] at hn
    have hn := lastImport_eq_none_iff.mpr (List.forall_mem_cons.mp hn).right
    rw [hlast] at hn
    contradiction
  case accessors =>
    have ha := h.accessors
    rw [importsAccessors] at ha ⊢
    rw [hl, List.any_cons, ha, hi]
    rfl
  case unsettled =>
    have hs : SettledLines k none (linesOf (body ++ '\n' :: text)) := hs
    rw [hl, SettledLines, hi] at hs
    exact hs.right

end TypedResources.Migration
