import TypedResources.Proofs.Migration.Lines
import TypedResources.Proofs.Naming
import TypedResources.Proofs.Text.Trim

-- When the import that a revision adds is read as an import of the generated class: if the package
-- is a name that can be imported, and otherwise it is read as no import at all
-- (`import?_of_importable`, `import?_of_not_importable`).

namespace TypedResources.Migration

open Text

variable {k : Knowledge} {isJava : Bool} {indent like w : List Char}

def isNameChar (c : Char) : Bool :=
  isWord c || c = '.'

-- A name that can be imported: words with dots between them, and perhaps blanks in front.
structure Importable (package : String) : Prop where
  chars : ∀ c ∈ trimStart package.toList, isNameChar c
  parts : [] ∉ splitAll (· = '.') (trimStart package.toList)

theorem not_importable_empty : ¬Importable "" :=
  fun h => h.parts (by decide)

theorem importedName?_import (hi : ∀ c ∈ indent, isBlank c) (w : List Char) :
    importedName? (indent ++ "import ".toList ++ w) =
      let path := (trimStart w).takeWhile isNameChar
      let tail := trim ((trimStart w).drop path.length)
      let parts := splitAll (· = '.') path
      if (tail = [] || tail = [';']) && !parts.contains [] then some parts else none := by
  have ht : trimStart (indent ++ "import ".toList ++ w) = "import ".toList ++ w := by
    rw [List.append_assoc, trimStart_append (t := "import ".toList ++ w) (by simp; decide), trimStart_of_blanks hi]
    rfl
  have hw : trimStart (' ' :: w) = trimStart w := List.dropWhile_cons_of_pos (by decide)
  have hp : "import".toList.isPrefixOf ("import ".toList ++ w) = true :=
    List.isPrefixOf_iff_prefix.mpr ⟨' ' :: w, by rfl⟩
  have hr : ("import ".toList ++ w).drop "import".length = ' ' :: w := rfl
  unfold importedName?
  dsimp only
  rw [ht, hp, hr, hw]
  simp only [List.head?_cons, Option.map_some, Option.getD_some, Bool.true_and]
  rfl

-- The line of the added import, from the package on.
theorem accessorImport_toList (k : Knowledge) (isJava : Bool) (like : List Char) : ∃ tail, (tail = [] ∨ tail = [';']) ∧
    accessorImport k isJava like = like.takeWhile isBlank ++ "import ".toList ++
      (k.package.toList ++ '.' :: (accessorClass.toList ++ tail)) := by
  refine ⟨if isJava then [';'] else [], by cases isJava <;> simp, ?_⟩
  unfold accessorImport
  cases isJava <;> simp

-- What the added import imports, if the name has no other characters than words and dots.
theorem importedName?_accessorImport (h : ∀ c ∈ trimStart k.package.toList, isNameChar c) :
    importedName? (accessorImport k isJava like) =
      let parts := splitAll (· = '.') (trimStart k.package.toList)
      if [] ∈ parts then none else some (parts ++ [accessorClass.toList]) := by
  have ⟨tail, ht, hl⟩ := accessorImport_toList k isJava like
  have hchars : ∀ c ∈ trimStart k.package.toList ++ '.' :: accessorClass.toList, isNameChar c :=
    List.forall_mem_append.mpr ⟨h, List.all_eq_true.mp (by decide)⟩
  have hname : trimStart (k.package.toList ++ '.' :: (accessorClass.toList ++ tail)) =
      (trimStart k.package.toList ++ '.' :: accessorClass.toList) ++ tail := by
    rw [trimStart_append fun c hc => by cases hc; decide, List.append_assoc]
    rfl
  have hpath : ((trimStart k.package.toList ++ '.' :: accessorClass.toList) ++ tail).takeWhile isNameChar =
      trimStart k.package.toList ++ '.' :: accessorClass.toList := by
    have htail : tail.takeWhile isNameChar = [] := by rcases ht with rfl | rfl <;> decide
    rw [List.takeWhile_append_of_pos hchars, htail, List.append_nil]
  have hparts : splitAll (· = '.') (trimStart k.package.toList ++ '.' :: accessorClass.toList) =
      splitAll (· = '.') (trimStart k.package.toList) ++ [accessorClass.toList] := by
    have hclass : splitAll (· = '.') accessorClass.toList = [accessorClass.toList] :=
      splitAll_of_none (by simp [accessorClass])
    rw [splitAll_append_cons (by rfl), hclass]
  have htrim : (trim tail = [] || trim tail = [';']) = true := by
    rcases ht with rfl | rfl <;> decide
  have hne : accessorClass ≠ "" := by decide
  rw [hl, importedName?_import fun c hc => List.mem_takeWhile_imp hc, hname]
  dsimp only
  rw [hpath, List.drop_left, hparts, htrim]
  by_cases hn : [] ∈ splitAll (· = '.') (trimStart k.package.toList) <;> simp [hn, hne]

-- Behind any other character the line does not end.
theorem importedName?_of_not_name (h : ¬∀ c ∈ trimStart k.package.toList, isNameChar c) :
    importedName? (accessorImport k isJava like) = none := by
  have ⟨tail, ht, hl⟩ := accessorImport_toList k isJava like
  have hname : trimStart (k.package.toList ++ '.' :: (accessorClass.toList ++ tail)) =
      trimStart k.package.toList ++ '.' :: (accessorClass.toList ++ tail) :=
    trimStart_append fun c hc => by cases hc; decide
  have hpath (r : List Char) : (trimStart k.package.toList ++ r).takeWhile isNameChar =
      (trimStart k.package.toList).takeWhile isNameChar := by
    rw [List.takeWhile_append, if_neg]
    exact fun hlen => h (List.takeWhile_eq_self_iff.mp (List.takeWhile_prefix _ |>.eq_of_length hlen))
  rw [hl, importedName?_import fun c hc => List.mem_takeWhile_imp hc, hname]
  dsimp only
  rw [hpath, List.drop_append_of_le_length (List.takeWhile_prefix _).length_le]
  have hm : 'R' ∈ trim (((trimStart k.package.toList).drop
      ((trimStart k.package.toList).takeWhile isNameChar).length) ++ '.' :: (accessorClass.toList ++ tail)) :=
    mem_trim (by simp [accessorClass]) (by decide)
  rw [if_neg]
  intro htail
  rcases Bool.or_eq_true_iff.mp (Bool.and_eq_true_iff.mp htail).left with he | he
  all_goals
    rw [of_decide_eq_true he] at hm
    contradiction

theorem import?_of_importable (h : Importable k.package) : import? (accessorImport k isJava like) =
    some .accessors := by
  rw [import?, importedName?_accessorImport h.chars]
  dsimp only
  rw [if_neg h.parts]
  simp [show accessorClass.toList ≠ ['R'] by decide]

theorem import?_of_not_importable (h : ¬Importable k.package) : import? (accessorImport k isJava like) = none := by
  rw [import?]
  by_cases hc : ∀ c ∈ trimStart k.package.toList, isNameChar c
  case neg => rw [importedName?_of_not_name hc]; rfl
  case pos =>
    have hp : [] ∈ splitAll (· = '.') (trimStart k.package.toList) := by
      by_contra hp
      exact h ⟨hc, hp⟩
    rw [importedName?_accessorImport hc]
    dsimp only
    rw [if_pos hp]
    rfl

end TypedResources.Migration
