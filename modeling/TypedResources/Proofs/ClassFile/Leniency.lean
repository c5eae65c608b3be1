import TypedResources.Proofs.ClassFile.Blocks

-- Malformed documents. A class that is made leniently has the text of the class that is made strictly
-- from the same groups without their malformed documents, and lists these documents as skipped in the
-- order in which they are met (`lenient_generate_eq_strict`).

namespace TypedResources.ClassFile

variable {d : Disk} {groups : List ResourceGroup} {docs : List (ModuleId × Path)} {p q : Path} {fault : Xml.Fault}
  {g : ResourceGroup} {options : Options} {package : String}

-- A group of value documents without those that are malformed; other groups stay as they are.
def wellFormed (d : Disk) (g : ResourceGroup) : ResourceGroup :=
  if g.category = .values then { g with files := g.files.filter fun p => (malformation? d p).isNone } else g

-- The malformed documents, group by group and each group in the order of its paths.
def malformedIn (d : Disk) (groups : List ResourceGroup) : List SkippedDocument :=
  (groups.filter (·.category = .values)).flatMap fun g => (sortPaths g.files).filterMap (skippedAt? d)

-- Passing over the malformed documents is reading the others.
theorem result_readEntries_lenient : (readEntries false docs).result d =
    ((readEntries true (docs.filter fun doc => (malformation? d doc.2).isNone)).result d).map fun (entries, _) =>
      (entries, docs.filterMap fun doc => skippedAt? d doc.2) := by
  induction docs
  case nil            => rfl
  case cons doc docs ih =>
    obtain ⟨owner, p⟩ := doc
    rw [result_readEntries_cons, ih]
    rcases hr : Definition.read d p with f | values
    case ok =>
      have hm : malformation? d p = none := by rw [malformation?, hr]
      rw [List.filter_cons_of_pos (by rw [hm]; rfl), List.filterMap_cons_none (by rw [skippedAt?, hm]; rfl),
        result_readEntries_cons, hr]
      cases (readEntries true _).result d <;> rfl
    case error =>
      cases f
      case badDocument q fault =>
        have hm : malformation? d p = some fault := by rw [malformation?, hr]
        rw [List.filter_cons_of_neg (by rw [hm]; exact Bool.false_ne_true),
          List.filterMap_cons_some (by rw [skippedAt?, hm]; rfl), path_of_badDocument hr]
        cases (readEntries true _).result d <;> rfl
      -- With any other failure both readings end.
      all_goals
        have hm : malformation? d p = none := by rw [malformation?, hr]
        rw [List.filter_cons_of_pos (by rw [hm]; rfl), result_readEntries_cons, hr]
        rfl

theorem map_eq_error_iff {ε α β : Type} {r : Except ε α} {f : α → β} {e : ε} : r.map f = .error e ↔ r = .error e := by
  cases r <;> simp [Except.map]

theorem failureAt?_lenient_ne : failureAt? false d p ≠ some (.badDocument q fault) := by
  unfold failureAt?
  split <;> simp_all

-- Reading leniently never fails for a malformed document.
theorem result_readEntries_lenient_ne : (readEntries false docs).result d ≠ .error (.badDocument q fault) := by
  rw [result_readEntries_eq]
  split
  case h_2     => exact nofun
  case h_1 f h =>
    obtain ⟨doc, -, hf⟩ := List.exists_of_findSome?_eq_some h
    rintro ⟨⟩
    exact failureAt?_lenient_ne hf

-- Reading strictly passes over nothing.
theorem skipped_readEntries_strict {entries : List Entry} {skipped : List SkippedDocument}
    (h : (readEntries true docs).result d = .ok (entries, skipped)) : skipped = [] := by
  rw [result_readEntries_eq] at h
  split at h
  case h_1    => cases h
  case h_2 hn =>
    cases h
    refine List.filterMap_eq_nil_iff.mpr fun doc hd => ?_
    have hf := List.findSome?_eq_none_iff.mp hn doc hd
    unfold failureAt? at hf
    unfold skippedAt? malformation?
    split at hf <;> simp_all

@[simp]
theorem category_wellFormed : (wellFormed d g).category = g.category := by
  unfold wellFormed; split <;> rfl

@[simp]
theorem owner_wellFormed : (wellFormed d g).owner = g.owner := by
  unfold wellFormed; split <;> rfl

theorem filter_category_wellFormed (c : Category) :
    (groups.map (wellFormed d)).filter (·.category = c) = (groups.filter (·.category = c)).map (wellFormed d) := by
  rw [List.filter_map]
  congr 2
  funext g
  exact congrArg (fun c' => decide (c' = c)) category_wellFormed

-- Leaving documents out of a group leaves the order of the others.
theorem sortPaths_filter (f : Path → Bool) (files : List Path) :
    sortPaths (files.filter f) = (sortPaths files).filter f :=
  sortBy_filter pathLe_trans pathLe_total f files

theorem documents_wellFormed : documents (groups.map (wellFormed d)) =
    (documents groups).filter fun doc => (malformation? d doc.2).isNone := by
  unfold documents
  rw [filter_category_wellFormed, List.flatMap_map, List.filter_flatMap]
  refine List.flatMap_congr fun g hg => ?_
  have hc : g.category = .values := of_decide_eq_true (List.mem_filter.mp hg).right
  rw [List.filter_map, owner_wellFormed, wellFormed, if_pos hc, sortPaths_filter]
  rfl

theorem drawables_wellFormed : drawables (groups.map (wellFormed d)) = drawables groups := by
  unfold drawables
  rw [filter_category_wellFormed, List.flatMap_map]
  refine List.flatMap_congr fun g hg => ?_
  have hc : g.category = .drawables := of_decide_eq_true (List.mem_filter.mp hg).right
  rw [wellFormed, if_neg (by rw [hc]; exact nofun)]

theorem filterMap_documents : (documents groups).filterMap (fun doc => skippedAt? d doc.2) = malformedIn d groups := by
  simp only [documents, malformedIn, List.filterMap_flatMap, List.filterMap_map]
  rfl

theorem malformedIn_eq_nil_iff : malformedIn d groups = [] ↔
    ∀ g ∈ groups, g.category = .values → ∀ p ∈ g.files, malformation? d p = none := by
  simp [malformedIn, skippedAt?, sortPaths]

theorem map_wellFormed (h : malformedIn d groups = []) : groups.map (wellFormed d) = groups := by
  refine (List.map_congr_left fun g hg => ?_).trans (List.map_id groups)
  unfold wellFormed
  split
  case isFalse   => rfl
  case isTrue hc =>
    rw [List.filter_eq_self.mpr fun p hp => by rw [malformedIn_eq_nil_iff.mp h g hg hc p hp]; rfl]
    rfl

theorem result_generate_lenient (language package : String) (groups : List ResourceGroup) :
    (generate ⟨false, language⟩ package groups).result d =
      ((generate ⟨true, language⟩ package (groups.map (wellFormed d))).result d).map
        ({ · with skipped := malformedIn d groups }) := by
  rw [result_generate, result_generate, result_readEntries_lenient, documents_wellFormed, drawables_wellFormed,
    filterMap_documents]
  cases (readEntries true _).result d <;> rfl

theorem skipped_of_strict {language : String} {c : ClassFile}
    (h : (generate ⟨true, language⟩ package groups).result d = .ok c) : c.skipped = [] := by
  rw [result_generate] at h
  rcases hr : (readEntries true (documents groups)).result d with f | ⟨entries, skipped⟩
  case error => rw [hr] at h; cases h
  case ok    =>
    rw [hr] at h
    exact congrArg ClassFile.skipped (Except.ok.inj h) ▸ skipped_readEntries_strict hr

-- The class that is made leniently has the text that is made strictly from the well-formed
-- documents, and it lists the malformed ones. Any other failure is that of the strict class, and
-- where nothing is malformed there is no difference.
theorem lenient_generate_eq_strict (d : Disk) (language package : String) (groups : List ResourceGroup) :
    (generate ⟨false, language⟩ package groups).result d =
        ((generate ⟨true, language⟩ package (groups.map (wellFormed d))).result d).map
          ({ · with skipped := malformedIn d groups }) ∧
      (∀ q fault, (generate ⟨false, language⟩ package groups).result d ≠ .error (.badDocument q fault)) ∧
      (malformedIn d groups = [] →
        (generate ⟨false, language⟩ package groups).result d = (generate ⟨true, language⟩ package groups).result d ∧
        ∀ c, (generate ⟨false, language⟩ package groups).result d = .ok c → c.skipped = []) := by
  refine ⟨result_generate_lenient language package groups, fun q fault => ?_, fun h => ?_⟩
  case refine_1 =>
    rw [result_generate]
    exact map_eq_error_iff.not.mpr result_readEntries_lenient_ne
  case refine_2 =>
    have hm := result_generate_lenient (d := d) language package groups
    rw [map_wellFormed h, h] at hm
    rcases hr : (generate ⟨true, language⟩ package groups).result d with f | c
    case error => rw [hm, hr]; exact ⟨rfl, nofun⟩
    case ok    =>
      have hs := skipped_of_strict hr
      rw [hm, hr, Except.map]
      exact ⟨by rw [← hs], fun c' hc => by cases hc; rfl⟩

-- One document of a module lacks its end, and the only one of another module is malformed too.
def flawedDisk : Disk where
  entries :=
    [(["a.xml"], .file (Text.Utf8.encode "<r><string name=\"a\"/>".toList) 0),
     (["b.xml"], .file (Text.Utf8.encode "<r><string name=\"b\"/></r>".toList) 0),
     (["c.xml"], .file (Text.Utf8.encode "<r></s>".toList) 0)]

def flawedGroups : List ResourceGroup :=
  [⟨.values, ⟨"lib", "com.lib"⟩, [⟨.root, ["c.xml"]⟩]⟩,
   ⟨.values, ⟨"", "com.example"⟩, [⟨.root, ["b.xml"]⟩, ⟨.root, ["a.xml"]⟩]⟩]

def soundGroups : List ResourceGroup :=
  [⟨.values, ⟨"lib", "com.lib"⟩, []⟩, ⟨.values, ⟨"", "com.example"⟩, [⟨.root, ["b.xml"]⟩]⟩]

theorem flawed_generate_eq_sound :
    malformedIn flawedDisk flawedGroups = [⟨⟨.root, ["c.xml"]⟩, .mismatchedTag⟩, ⟨⟨.root, ["a.xml"]⟩, .noElement⟩] ∧
      flawedGroups.map (wellFormed flawedDisk) = soundGroups ∧
      (generate ⟨false, "en"⟩ "com.example" flawedGroups).result flawedDisk =
        ((generate ⟨true, "en"⟩ "com.example" soundGroups).result flawedDisk).map
          ({ · with skipped := malformedIn flawedDisk flawedGroups }) ∧
      (generate ⟨false, "en"⟩ "com.example" soundGroups).result flawedDisk =
        (generate ⟨true, "en"⟩ "com.example" soundGroups).result flawedDisk := by
  have hm : flawedGroups.map (wellFormed flawedDisk) = soundGroups := by decide +kernel
  refine ⟨by decide +kernel, hm, ?_, ?_⟩
  case refine_1 => exact hm ▸ (lenient_generate_eq_strict flawedDisk "en" "com.example" flawedGroups).left
  case refine_2 =>
    exact ((lenient_generate_eq_strict flawedDisk "en" "com.example" soundGroups).right.right (by decide +kernel)).left

end TypedResources.ClassFile
