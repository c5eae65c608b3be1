import TypedResources.Proofs.Call.Layout

-- Which arguments are found. A single argument is any text in which parentheses are nested one deep
-- and no comma stands outside of them; one that begins with a group in parentheses has no other group
-- in it (`reads_argument_iff`). A call with an argument before its reference, or with two behind it, is
-- found whole iff its arguments are such ones (`argument_calls_found_iff`).

namespace TypedResources.Call

open Text (Balanced Shallow isBlank isWord outer)
open TypedResources.Pattern (Reads reads_cons reads_all_cons reads_all_nil reads_blanks_iff reads_char_iff reads_many_one_iff
  reads_word_iff)

variable {shape : Shape} {u v w x : List Char} {kept : List (Slot × List Char)} {c : Char} {s t : List Char}

-- One argument as it stands between commas.
structure Single (w : List Char) : Prop where
  level  : Level (· ≠ ',') w
  ne_nil : w ≠ []
  first  : ∀ c ∈ w.head?, isBlank c = false
  last   : ∀ c ∈ w.getLast?, isBlank c = false

instance (w : List Char) : Decidable (Single w) :=
  decidable_of_iff (Shallow w ∧ (outer 0 w).all (· ≠ ',') ∧ w ≠ [] ∧ w.head?.all (!isBlank ·) ∧
      w.getLast?.all (!isBlank ·)) <| by
    rw [List.all_eq_true, Option.all_eq_true, Option.all_eq_true]
    simp only [Bool.not_eq_true']
    exact ⟨fun ⟨hs, ho, hne, hf, hl⟩ => ⟨⟨hs, ho⟩, hne, hf, hl⟩, fun ⟨⟨hs, ho⟩, hne, hf, hl⟩ => ⟨hs, ho, hne, hf, hl⟩⟩

theorem Single.begins (h : Single w) : ∃ c t, w = c :: t ∧ isBlank c = false := by
  obtain ⟨c, t, rfl⟩ := List.exists_cons_of_ne_nil h.ne_nil
  exact ⟨c, t, rfl, h.first c rfl⟩

-- It is found behind blanks unless it begins with a group and has another one.
theorem Single.sole_iff (h : Single w) (hu : Blanks u) : Sole (u ++ w) ↔ LoneGroup w := by
  have hd : (u ++ w).dropWhile isBlank = w := by simpa using dropWhile_blanks hu h.begins []
  constructor
  case mp  => exact fun hs => hd ▸ hs.group
  case mpr => exact fun hg => ⟨additive_level.append hu.level h.level, by simpa using not_blanks h.begins u [], hd.symm ▸ hg⟩

-- The method with one argument and the reference behind it.
def contextCall (w field : List Char) : Layout :=
  ⟨[], w ++ [',', ' '], [], field, []⟩

-- The method with the reference and two arguments behind it.
def twoCall (v w field : List Char) : Layout :=
  ⟨[], [], [], field, ',' :: ' ' :: v ++ ',' :: ' ' :: w⟩

-- The text is found as a call where it stands at the beginning of another one.
def FoundWhole (shape : Shape) (k : Layout) (rest : List Char) : Prop :=
  ∃ o, (shape.pattern.occurrences (k.text shape ++ rest)).head? = some o ∧ o.start = 0 ∧ o.text = k.text shape

def IsName (w : List Char) : Prop :=
  w ≠ [] ∧ ∀ c ∈ w, isWord c

instance (w : List Char) : Decidable (IsName w) :=
  decidable_of_iff (w ≠ [] ∧ w.all isWord) (and_congr_right fun _ => List.all_eq_true)

theorem foundWhole_iff {k : Layout} {given : List Char} (hs : shape ∈ shapes) (hk : k.receiver = []) (h : k.Fit shape given)
    (rest : List Char) : FoundWhole shape k rest ↔ k.Spelled shape := by
  constructor
  case mp =>
    rintro ⟨o, ho, -, ht⟩
    obtain ⟨k', hk'⟩ := exists_layout hs (TypedResources.Pattern.reads_of_mem_occurrences (List.mem_of_mem_head? ho))
    have htext : k'.text shape ++ [] = k.text shape ++ [] := by rw [← hk'.text, ht]
    obtain ⟨rfl, -⟩ := Layout.eq_of_text hs hk'.spelled.fit h hk'.spelled.receiver (hk ▸ .nil) htext
    exact hk'.spelled
  case mpr => exact fun h => exists_whole hs h rest

theorem context_found_iff (hs : shape ∈ shapes) (ha : shape.arguments = .context) (hw : Single w) (hx : IsName x)
    (rest : List Char) : FoundWhole shape (contextCall w x) rest ↔ LoneGroup w := by
  have hfit : (contextCall w x).Fit shape [] := by
    refine ⟨.inl rfl, ⟨[], rfl, nofun⟩, hx, ?_⟩
    rw [ha]
    exact ⟨⟨[], w, [], [' '], by simp [contextCall], nofun, nofun, by decide, hw.level.shallow, commas_of_level hw.level,
      by simpa using not_blanks hw.begins [] []⟩, nofun, rfl⟩
  rw [foundWhole_iff hs rfl hfit, ← hw.sole_iff (u := []) nofun]
  constructor
  case mp =>
    intro h
    have ht := h.arguments
    rw [ha] at ht
    obtain ⟨⟨y, gap, hy, hsole, -⟩, -⟩ := ht
    exact (eq_of_comma hw.level hsole.level hy).left ▸ hsole
  case mpr =>
    intro h
    refine ⟨.nil, hfit.package, hx, ?_⟩
    rw [ha]
    exact ⟨⟨w, [' '], rfl, h, by decide⟩, nofun⟩

theorem two_found_iff (hs : shape ∈ shapes) (ha : shape.arguments = .two) (hv : Single v) (hw : Single w) (hx : IsName x)
    (rest : List Char) : FoundWhole shape (twoCall v w x) rest ↔ LoneGroup v ∧ LoneGroup w := by
  have hblank : Blanks [' '] := by decide
  have hl {w : List Char} (hw : Single w) := additive_level.append hblank.level hw.level
  have hfit : (twoCall v w x).Fit shape (Text.trim ((' ' :: v) ++ ',' :: (' ' :: w))) := by
    refine ⟨.inl rfl, ⟨[], rfl, nofun⟩, hx, ?_⟩
    rw [ha]
    have hshallow := (hl hv).shallow.append (shallow_comma.append (hl hw).shallow)
    refine ⟨nofun, [], (' ' :: v) ++ ',' :: (' ' :: w), rfl, nofun, hshallow,
      fun hb => absurd (hb ',' (by simp)) (by decide), ?_, rfl⟩
    show commas ([' '] ++ v ++ ([','] ++ ([' '] ++ w))) = 1
    rw [commas_append (hl hv).shallow.balanced, commas_append shallow_comma.balanced, commas_of_level (hl hv),
      commas_of_level (hl hw)]
    rfl
  rw [foundWhole_iff hs rfl hfit, ← hv.sole_iff hblank, ← hw.sole_iff hblank]
  constructor
  case mp =>
    intro h
    have ht := h.arguments
    rw [ha] at ht
    obtain ⟨-, gap, y, z, hy, hg, hys, hzs⟩ := ht
    obtain ⟨rfl, hcut⟩ := eq_of_comma (additive_level.nil) hg.level (show [] ++ ',' :: _ = _ from hy)
    obtain ⟨hvy, hwz⟩ := eq_of_comma (hl hv) hys.level hcut
    exact ⟨hvy ▸ hys, (show [' '] ++ w = z from hwz) ▸ hzs⟩
  case mpr =>
    rintro ⟨hvs, hws⟩
    refine ⟨.nil, hfit.package, hx, ?_⟩
    rw [ha]
    exact ⟨nofun, [], _, _, rfl, nofun, hvs, hws⟩

-- A call with an argument before its reference, or with two behind it, is found whole iff none of
-- them begins with a group in parentheses that has another group behind it.
theorem argument_calls_found_iff (hs : shape ∈ shapes) (hx : IsName x) (rest : List Char) :
    (shape.arguments = .context → ∀ w, Single w → (FoundWhole shape (contextCall w x) rest ↔ LoneGroup w)) ∧
    (shape.arguments = .two → ∀ v w, Single v → Single w →
      (FoundWhole shape (twoCall v w x) rest ↔ LoneGroup v ∧ LoneGroup w)) :=
  ⟨fun ha _ hw => context_found_iff hs ha hw hx rest, fun ha _ _ hv hw => two_found_iff hs ha hv hw hx rest⟩

def colorInContext : Shape :=
  ⟨"getColor", [.values .color], .context⟩

def fractionOfTwo : Shape :=
  ⟨"getFraction", [.values .fraction], .two⟩

theorem accessed_argument_found :
    (contextCall "(a as B).c".toList "x".toList).text colorInContext = "getColor((a as B).c, R.color.x)".toList ∧
    FoundWhole colorInContext (contextCall "(a as B).c".toList "x".toList) ";".toList ∧
    (twoCall "f(1, 2)".toList "g()(h)".toList "x".toList).text fractionOfTwo =
      "getFraction(R.fraction.x, f(1, 2), g()(h))".toList ∧
    FoundWhole fractionOfTwo (twoCall "f(1, 2)".toList "g()(h)".toList "x".toList) ";".toList := by
  have hx : IsName "x".toList := by decide
  have hc := (argument_calls_found_iff (show colorInContext ∈ shapes by decide) hx ";".toList).1
  have ht := (argument_calls_found_iff (show fractionOfTwo ∈ shapes by decide) hx ";".toList).2
  exact ⟨by decide, (hc rfl _ (by decide)).mpr (by decide), by decide,
    (ht rfl _ _ (by decide) (by decide)).mpr (by decide)⟩

-- A single argument that begins with a group and has another one is missed.
theorem called_argument_missed :
    Single "(a as B).c()".toList ∧
    (contextCall "(a as B).c()".toList "x".toList).text colorInContext = "getColor((a as B).c(), R.color.x)".toList ∧
    ¬FoundWhole colorInContext (contextCall "(a as B).c()".toList "x".toList) [] :=
  have hs : Single "(a as B).c()".toList := by decide
  ⟨hs, by decide, fun h => absurd ((context_found_iff (by decide) rfl hs (by decide) []).mp h) (by decide)⟩

end TypedResources.Call
